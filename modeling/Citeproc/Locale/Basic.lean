import Citeproc.Style.Basic
import Citeproc.Table
import Citeproc.Text.Numeral

namespace Citeproc

inductive TermValue
  | simple (text : String)
  | plural (single multiple : String)
  deriving Repr, DecidableEq, Inhabited

def TermValue.get : TermValue → Bool → String
  | .simple text, _ => text
  | .plural single multiple, many => if many then multiple else single

structure TermForms where
  long : Option TermValue := none
  short : Option TermValue := none
  verb : Option TermValue := none
  verbShort : Option TermValue := none
  symbol : Option TermValue := none
  deriving Repr, DecidableEq, Inhabited

namespace TermForms

def get? (forms : TermForms) : TermForm → Option TermValue
  | .long => forms.long
  | .short => forms.short
  | .verb => forms.verb
  | .verbShort => forms.verbShort
  | .symbol => forms.symbol

def set (forms : TermForms) (form : TermForm) (value : TermValue) : TermForms :=
  match form with
  | .long => { forms with long := some value }
  | .short => { forms with short := some value }
  | .verb => { forms with verb := some value }
  | .verbShort => { forms with verbShort := some value }
  | .symbol => { forms with symbol := some value }

def overlay (forms upper : TermForms) : TermForms where
  long := upper.long <|> forms.long
  short := upper.short <|> forms.short
  verb := upper.verb <|> forms.verb
  verbShort := upper.verbShort <|> forms.verbShort
  symbol := upper.symbol <|> forms.symbol

theorem get?_set (forms : TermForms) (form form' : TermForm) (value : TermValue) :
    (forms.set form value).get? form' = if form' = form then some value else forms.get? form' := by
  cases form <;> cases form' <;> rfl

theorem get?_overlay (forms upper : TermForms) (form : TermForm) :
    (forms.overlay upper).get? form = (upper.get? form <|> forms.get? form) := by
  cases form <;> rfl

end TermForms

def TermForm.fallbacks : TermForm → List TermForm
  | .long => [.long]
  | .short => [.short, .long]
  | .verb => [.verb, .long]
  | .verbShort => [.verbShort, .verb, .long]
  | .symbol => [.symbol, .short, .long]

structure DateFormats where
  text : Option DateElement := none
  numeric : Option DateElement := none
  deriving Repr, DecidableEq, Inhabited

def DateFormats.get? (formats : DateFormats) : DateForm → Option DateElement
  | .text => formats.text
  | .numeric => formats.numeric

structure Locale where
  lang : String := ""
  terms : Table TermForms := []
  dateFormats : DateFormats := {}
  punctuationInQuote? : Option Bool := none
  limitDayOrdinalsToDay1? : Option Bool := none
  deriving Repr, DecidableEq, Inhabited

namespace Locale

def setTerm (l : Locale) (name : String) (form : TermForm) (value : TermValue) : Locale :=
  { l with terms := l.terms.modify name fun forms => (forms.getD {}).set form value }

def merge (l upper : Locale) : Locale where
  lang := l.lang
  terms := upper.terms.foldl (fun terms (name, forms) =>
    terms.modify name fun own => (own.getD {}).overlay forms) l.terms
  dateFormats := {
    text := upper.dateFormats.text <|> l.dateFormats.text
    numeric := upper.dateFormats.numeric <|> l.dateFormats.numeric
  }
  punctuationInQuote? := upper.punctuationInQuote? <|> l.punctuationInQuote?
  limitDayOrdinalsToDay1? := upper.limitDayOrdinalsToDay1? <|> l.limitDayOrdinalsToDay1?

def addDateFormat (formats : DateFormats) (date : DateElement) : DateFormats :=
  match date.form with
  | some .text => { formats with text := some date }
  | some .numeric => { formats with numeric := some date }
  | none => formats

def ofBlock (block : LocaleBlock) : Locale :=
  let start : Locale := {
    lang := block.lang.getD ""
    punctuationInQuote? := block.punctuationInQuote
    limitDayOrdinalsToDay1? := block.limitDayOrdinalsToDay1
    dateFormats := block.dateFormats.foldl addDateFormat {}
  }
  block.terms.foldl (fun l term =>
    l.setTerm term.name term.form
      (term.multiple.elim (.simple term.single) (.plural term.single))) start

def term? (l : Locale) (name : String) (form : TermForm) (plural : Bool) : Option String := do
  let forms ← l.terms.get? name
  let value ← form.fallbacks.findSome? forms.get?
  pure (value.get plural)

def longTerm? (l : Locale) (name : String) : Option String := l.term? name .long false

def andTerm (l : Locale) (symbol : Bool) : String :=
  if symbol then (l.term? "and" .symbol false).getD "&" else (l.longTerm? "and").getD "and"

def punctuationInQuote (l : Locale) : Bool := l.punctuationInQuote?.getD false

def limitDayOrdinalsToDay1 (l : Locale) : Bool := l.limitDayOrdinalsToDay1?.getD false

def quotes (l : Locale) (inner : Bool) : String × String :=
  if inner then
    ((l.longTerm? "open-inner-quote").getD "‘", (l.longTerm? "close-inner-quote").getD "’")
  else ((l.longTerm? "open-quote").getD "“", (l.longTerm? "close-quote").getD "”")

def monthName? (l : Locale) (month : Nat) (short : Bool) : Option String :=
  if 1 ≤ month && month ≤ 12 then
    l.term? ("month-" ++ Text.padded 2 month) (if short then .short else .long) false
  else if 13 ≤ month && month ≤ 16 then l.longTerm? ("season-" ++ Text.padded 2 (month - 12))
  else if 21 ≤ month && month ≤ 24 then l.longTerm? ("season-" ++ Text.padded 2 (month - 20))
  else none

/-- The suffix that makes a number an ordinal: the term for its last two digits, else the one for its
last digit, else the general one. -/
def ordinalSuffix (l : Locale) (number : Int) : String :=
  let n := number.natAbs
  let lastTwo :=
    if 10 ≤ n % 100 then l.longTerm? ("ordinal-" ++ Text.padded 2 (n % 100)) else none
  (lastTwo <|> l.longTerm? ("ordinal-" ++ Text.padded 2 (n % 10)) <|>
    l.longTerm? "ordinal").getD ""

def ordinal (l : Locale) (number : Int) : String := toString number ++ l.ordinalSuffix number

def longOrdinal (l : Locale) (number : Int) : String :=
  let word :=
    if 1 ≤ number && number ≤ 10 then
      l.longTerm? ("long-ordinal-" ++ Text.padded 2 number.toNat)
    else none
  word.getD (l.ordinal number)

end Locale

end Citeproc
