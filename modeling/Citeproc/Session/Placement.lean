import Citeproc.Citation
import Citeproc.Table

namespace Citeproc

structure Placement where
  position : Position
  nearNote : Bool := false
  firstNote : Option Nat := none
  deriving Repr, DecidableEq, Inhabited

structure CitedNotes where
  first : Nat
  last : Nat
  deriving Repr, DecidableEq, Inhabited

abbrev CiteHistory := Table CitedNotes

namespace Placement

def repeated (preceding item : CitationItem) : Position :=
  match preceding.locator, item.locator with
  | none, none => .ibid
  | some _, none => .subsequent
  | none, some _ => .ibidWithLocator
  | some a, some b => if a == b && preceding.label == item.label then .ibid else .ibidWithLocator

def derived (seen : Bool) (preceding : Option CitationItem) (item : CitationItem) : Position :=
  if !seen then .first
  else
    match preceding.filter (·.id == item.id) with
    | some preceding => repeated preceding item
    | none => .subsequent

def ofItem (distance note : Nat) (history : CiteHistory) (preceding : Option CitationItem)
    (item : CitationItem) : Placement :=
  let cited := history.get? item.id
  { position := item.position.getD (derived cited.isSome preceding item)
    nearNote := cited.any fun notes => note - notes.last ≤ distance
    firstNote := some ((cited.map (·.first)).getD note) }

def record (note : Nat) (history : CiteHistory) (item : CitationItem) : CiteHistory :=
  history.modify item.id fun cited => { first := (cited.map (·.first)).getD note, last := note }

def ofItems (distance note : Nat) (history : CiteHistory) (preceding : Option CitationItem) :
    List CitationItem → List Placement × CiteHistory
  | [] => ([], history)
  | item :: items =>
    let (placements, after) :=
      ofItems distance note (record note history item) (some item) items
    (ofItem distance note history preceding item :: placements, after)

def onlyItem? (c : Citation) : Option CitationItem :=
  match c.items with
  | [item] => some item
  | _ => none

def noteOf (index : Nat) (c : Citation) : Nat :=
  c.noteNumber.getD (min (index + 1) Text.maxHalfWord)

def ofCitationsFrom (distance index : Nat) (history : CiteHistory)
    (preceding : Option CitationItem) : List Citation → List (List Placement)
  | [] => []
  | c :: cs =>
    let (placements, after) := ofItems distance (noteOf index c) history preceding c.items
    placements :: ofCitationsFrom distance (index + 1) after (onlyItem? c) cs

def ofCitations (distance : Nat) (citations : List Citation) : List (List Placement) :=
  ofCitationsFrom distance 0 [] none citations

def alone (item : CitationItem) : Placement := { position := item.position.getD .first }

end Placement

end Citeproc
