import Citeproc.Citation
import Citeproc.Entry.Variable
import Citeproc.Style.Basic
import Citeproc.Text.Letter

namespace Citeproc

structure DisambiguationState where
  yearSuffix : Option Char := none
  namesExpanded : Nat := 0
  givenNameLevel : Nat := 0
  condition : Bool := false
  deriving Repr, DecidableEq, Inhabited

structure RenderContext where
  entry : Entry
  target : Target
  item : Option CitationItem := none
  position : Option Position := none
  nearNote : Bool := false
  firstNoteNumber : Option Nat := none
  citationNumber : Option Nat := none
  state : DisambiguationState := {}
  sortKey : Option SortKey := none
  suppressAuthor : Bool := false
  authorSubstitute : Option String := none
  deriving Repr, DecidableEq, Inhabited

namespace CitationLabel

def letters (text : String) (count : Nat) : String :=
  String.ofList ((text.toList.filter Text.isLetter).take count)

def namePart (e : Entry) : String :=
  match e.primaryNames? with
  | none => ((e.lookup? "title").map (letters · 4)).getD ""
  | some [name] => letters name.familyOrLiteral 4
  | some names =>
    if names.length < 4 then String.join (names.map (letters ·.familyOrLiteral 2))
    else String.join ((names.take 3).map (letters ·.familyOrLiteral 1)) ++ "+"

def yearPart (e : Entry) : String :=
  (e.year?.map fun year => Text.padded 2 (year % 100).toNat).getD ""

def generate (e : Entry) (yearSuffix : Option Char) : String :=
  namePart e ++ yearPart e ++ (yearSuffix.map String.singleton).getD ""

end CitationLabel

namespace RenderContext

def citation (entry : Entry) (item : Option CitationItem) : RenderContext :=
  { entry, target := .citation, item, position := some .first }

def bibliography (entry : Entry) : RenderContext := { entry, target := .bibliography }

def value? (ctx : RenderContext) (var : String) : Option String :=
  match var with
  | "locator" => (ctx.item.bind (·.locator)).filter (!·.isEmpty)
  | "citation-number" => ctx.citationNumber.map toString
  | "year-suffix" => ctx.state.yearSuffix.map String.singleton
  | "first-reference-note-number" => ctx.firstNoteNumber.map toString
  | "citation-label" => some (CitationLabel.generate ctx.entry ctx.state.yearSuffix)
  | var => ctx.entry.lookup? var

def locatorLabel? (ctx : RenderContext) : Option String := ctx.item.bind (·.locatorLabel)

end RenderContext

end Citeproc
