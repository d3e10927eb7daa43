import Citeproc.Citation
import Citeproc.Disambiguation.Run
import Citeproc.Sort

namespace Citeproc

structure Listing where
  order : List String := []
  numbers : Table Nat := []
  states : States := []
  convergence : Convergence := .converged
  deriving Repr, DecidableEq, Inhabited

def SortKey.isCitationNumber (key : SortKey) : Bool := key.source == .var "citation-number"

namespace Style

def isNumbered (style : Style) : Bool := style.usesVariable "citation-number"

def bibliographySort? (style : Style) : Option SortSpec := style.bibliography.bind (·.sort)

/-- The sort that orders the bibliography. A style that shows numbers keeps the order of citation,
unless it sorts by number only. -/
def effectiveSort? (style : Style) : Option SortSpec :=
  style.bibliographySort?.filter fun keys => !style.isNumbered || keys.all (·.isCitationNumber)

def numbersByCitation (style : Style) : Bool :=
  style.isNumbered || style.bibliographySort?.any (·.any (·.isCitationNumber))

end Style

namespace Listing

def registered (bibliography : Bibliography) (citations : List Citation) (includeUncited : Bool) :
    List String :=
  let ids := (citations.flatMap (·.items)).map (·.id)
  let cited := (ids.filter bibliography.keys.contains).eraseDups
  if includeUncited || citations.isEmpty then
    cited ++ bibliography.keys.filter (!cited.contains ·)
  else cited

def itemContext (registered : List String) (e : Entry) : RenderContext :=
  { RenderContext.bibliography e with citationNumber := Table.get? (registered.zipIdx 1) e.id }

def sorted (r : Renderer) (bibliography : Bibliography) (registered : List String) : List Entry :=
  let entries := registered.filterMap bibliography.get?
  r.style.effectiveSort?.elim entries fun keys => r.sortItems keys (itemContext registered) entries

theorem sorted_perm (r : Renderer) (bibliography : Bibliography) (registered : List String) :
    (sorted r bibliography registered).Perm (registered.filterMap bibliography.get?) := by
  rw [sorted]
  cases r.style.effectiveSort? with
  | none => exact .refl _
  | some keys => exact r.sortItems_perm keys _ _

def of (r : Renderer) (bibliography : Bibliography) (citations : List Citation)
    (includeUncited : Bool) : Listing :=
  let registered := registered bibliography citations includeUncited
  let places : Table Nat := registered.zipIdx 1
  let sorted := sorted r bibliography registered
  let (convergence, states) := r.disambiguate sorted []
  let order := sorted.map (·.id)
  let number (id : String) (place : Nat) : Nat :=
    if r.style.numbersByCitation then (places.get? id).getD place else place
  { order, states, convergence
    numbers := (order.zipIdx 1).map fun (id, place) => (id, number id place) }

end Listing

end Citeproc
