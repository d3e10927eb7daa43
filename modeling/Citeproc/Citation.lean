import Citeproc.Data.Json
import Citeproc.Data.Record

namespace Citeproc

open Data

inductive CiteForm
  | normal | suppressAuthor | authorOnly
  deriving Repr, DecidableEq, Inhabited

instance : Keyword CiteForm where
  all := [.normal, .suppressAuthor, .authorOnly]
  keyword
    | .normal => "normal"
    | .suppressAuthor => "suppress-author"
    | .authorOnly => "author-only"

inductive Position
  | first | subsequent | ibid | ibidWithLocator
  deriving Repr, DecidableEq, Inhabited

instance : Keyword Position where
  all := [.first, .subsequent, .ibid, .ibidWithLocator]
  keyword
    | .first => "first"
    | .subsequent => "subsequent"
    | .ibid => "ibid"
    | .ibidWithLocator => "ibid-with-locator"

structure CitationItem where
  id : String
  locator : Option String := none
  label : Option String := none
  before : Option String := none
  after : Option String := none
  form : CiteForm := .normal
  position : Option Position := none
  deriving Repr, DecidableEq, Inhabited

namespace CitationItem

def withLocator (item : CitationItem) (locator : String) (label : Option String) : CitationItem :=
  { item with locator := some locator, label := some (label.getD "page") }

def locatorLabel (item : CitationItem) : Option String :=
  item.locator.map fun _ => item.label.getD "page"

end CitationItem

structure Citation where
  id : Option String := none
  items : List CitationItem
  noteNumber : Option Nat := none
  deriving Repr, DecidableEq, Inhabited

def Citation.of (ids : List String) : Citation := { items := ids.map fun id => { id } }

def CitationItem.ofValue? (v : Value) : Option CitationItem := do
  let r ← v.record? ["id", "locator", "label", "prefix", "suffix", "form", "position"]
  pure {
    id := ← r.required "id" (·.text?)
    locator := ← r.optional "locator" (·.text?)
    label := ← r.optional "label" (·.text?)
    before := ← r.optional "prefix" (·.text?)
    after := ← r.optional "suffix" (·.text?)
    form := ← r.withDefault "form" (·.keyword?) .normal
    position := ← r.optional "position" (·.keyword?)
  }

def Citation.ofValue? (v : Value) : Option Citation := do
  let r ← v.record? ["id", "items", "note-number"]
  pure {
    id := ← r.optional "id" (·.text?)
    items := ← r.required "items" (·.listOf? CitationItem.ofValue?)
    noteNumber := ← r.optional "note-number" (·.natural? Text.maxHalfWord)
  }

def Citation.parse? (json : String) : Option Citation := (Json.parse? json).bind Citation.ofValue?

def CitationItem.toValue (item : CitationItem) : Value :=
  present [
    ("id", some (.text item.id)), ("locator", item.locator.map .text),
    ("label", item.label.map .text), ("prefix", item.before.map .text),
    ("suffix", item.after.map .text), ("form", some (.text (keyword item.form))),
    ("position", item.position.map fun p => .text (keyword p))]

def Citation.toValue (c : Citation) : Value :=
  present [
    ("id", c.id.map .text), ("items", some (.list (c.items.map CitationItem.toValue))),
    ("note-number", c.noteNumber.map fun n => .number (.int n))]

end Citeproc
