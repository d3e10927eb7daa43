import Citeproc.Markup.Element
import Citeproc.Style.Basic
import Citeproc.Style.Error
import Citeproc.Text.Blank
import Citeproc.Text.Numeral

namespace Citeproc

open Markup (Attribute)

namespace Markup.Element

def invalid {α : Type} (e : Markup.Element) (key value : String) : Except StyleError α :=
  .error (.invalidAttribute e.name key value)

def required (e : Markup.Element) (key : String) : Except StyleError String :=
  match e.attribute? key with
  | some value => .ok value
  | none => .error (.missingAttribute e.name key)

def readWith {α : Type} (read? : String → Option α) (e : Markup.Element) (key : String) :
    Except StyleError (Option α) :=
  match e.attribute? key with
  | none => .ok none
  | some value =>
    match read? value with
    | some a => .ok (some a)
    | none => e.invalid key value

def keyword? {α : Type} [Keyword α] (e : Markup.Element) (key : String) :
    Except StyleError (Option α) :=
  e.readWith Keyword.read? key

def flag? (e : Markup.Element) (key : String) : Except StyleError (Option Bool) :=
  e.readWith (fun s => if s == "true" then some true else if s == "false" then some false else none)
    key

def count? (e : Markup.Element) (key : String) : Except StyleError (Option Nat) :=
  e.readWith (Text.natural? Text.maxWord ·.toList) key

def smallCount? (e : Markup.Element) (key : String) : Except StyleError (Option Nat) :=
  e.readWith (Text.natural? Text.maxHalfWord ·.toList) key

end Markup.Element

def readRendering (e : Markup.Element) : Except StyleError Rendering := do
  let fontStyle ← e.keyword? "font-style"
  let fontVariant ← e.keyword? "font-variant"
  let fontWeight ← e.keyword? "font-weight"
  let textDecoration ← e.keyword? "text-decoration"
  let verticalAlign ← e.keyword? "vertical-align"
  let textCase ← e.keyword? "text-case"
  let stripPeriods ← e.flag? "strip-periods"
  let quotes ← e.flag? "quotes"
  let display ← e.keyword? "display"
  pure {
    before := e.attribute? "prefix"
    after := e.attribute? "suffix"
    formatting := { fontStyle, fontVariant, fontWeight, textDecoration, verticalAlign }
    textCase, display
    stripPeriods := stripPeriods.getD false
    quotes := quotes.getD false
  }

def readNameOptions (e : Markup.Element) (inheritable : Bool) : Except StyleError NameOptions := do
  let and ← e.keyword? "and"
  let delimiterPrecedesEtAl ← e.keyword? "delimiter-precedes-et-al"
  let delimiterPrecedesLast ← e.keyword? "delimiter-precedes-last"
  let etAlMin ← e.count? "et-al-min"
  let etAlUseFirst ← e.count? "et-al-use-first"
  let etAlUseLast ← e.flag? "et-al-use-last"
  let etAlSubsequentMin ← e.count? "et-al-subsequent-min"
  let etAlSubsequentUseFirst ← e.count? "et-al-subsequent-use-first"
  let initials ← e.flag? "initialize"
  let nameAsSortOrder ← e.keyword? "name-as-sort-order"
  let form ← e.keyword? (if inheritable then "name-form" else "form")
  pure {
    and, delimiterPrecedesEtAl, delimiterPrecedesLast, etAlMin, etAlUseFirst, etAlUseLast
    etAlSubsequentMin, etAlSubsequentUseFirst, initials, nameAsSortOrder, form
    delimiter := e.attribute? (if inheritable then "name-delimiter" else "delimiter")
    initialsWith := e.attribute? "initialize-with"
    sortSeparator := e.attribute? "sort-separator"
    namesDelimiter := if inheritable then e.attribute? "names-delimiter" else none
  }

def readWords {α : Type} [Keyword α] (e : Markup.Element) (key : String) (make : α → Test) :
    List String → Except StyleError (List Test)
  | [] => .ok []
  | word :: rest =>
    match Keyword.read? word with
    | some a => (make a :: ·) <$> readWords e key make rest
    | none => e.invalid key word

def readTests (e : Markup.Element) (a : Attribute) : Except StyleError (List Test) :=
  let each (make : String → Test) : Except StyleError (List Test) :=
    .ok ((Text.words a.value).map make)
  match a.name with
  | "type" => each .type
  | "variable" => each .present
  | "is-numeric" => each .isNumeric
  | "is-uncertain-date" => each .isUncertainDate
  | "locator" => each .locator
  | "genre" => each .genre
  | "has-day" => each .hasDay
  | "has-year-only" => each .hasYearOnly
  | "has-to-month-or-season" => each .hasMonthOrSeason
  | "is-multiple" => each .isMultiple
  | "position" => readWords e a.name .position (Text.words a.value)
  | "context" => readWords e a.name .context (Text.words a.value)
  | "disambiguate" =>
    match a.value with
    | "true" => .ok [.disambiguate true]
    | "false" => .ok [.disambiguate false]
    | value => e.invalid a.name value
  | _ => .ok []

def readCondition (e : Markup.Element) : Except StyleError Condition := do
  let tests ← e.attributes.mapM (readTests e)
  let mode ← e.keyword? "match"
  pure { mode := mode.getD .all, tests := tests.flatten }

def readConditions (e : Markup.Element) : Except StyleError BranchCondition := do
  let conditions ← (e.elements.filter (·.name == "condition")).mapM readCondition
  let mode ← e.keyword? "match"
  pure (.nested (mode.getD .all) conditions)

end Citeproc
