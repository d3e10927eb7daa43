import Citeproc.Disambiguation.Names
import Citeproc.Disambiguation.YearSuffix

/-!
Telling entries apart: year suffixes first, then more names, and a mark on the entries whose cites are
still the same.
-/

namespace Citeproc

namespace Disambiguation

def markRemaining (r : Renderer) (entries : List Entry) (states : States) : States :=
  let shown (e : Entry) : String × Option Int × Option Char :=
    let state := states.of e.id
    (r.citeText e state, e.year?, state.yearSuffix)
  (collisions shown entries).flatten.foldl (fun states e =>
    states.put e.id { states.of e.id with condition := true }) states

end Disambiguation

open Disambiguation

/-- The states of entries, which stand in the order of the bibliography. States that are there already
are what it begins with. -/
def Renderer.disambiguate (r : Renderer) (entries : List Entry) (states : States) :
    Convergence × States :=
  let options := r.style.citation.options
  let states := entries.foldl (fun states e => states.put e.id (states.of e.id)) states
  let states :=
    if options.disambiguateAddYearSuffix then assignYearSuffixes entries states else states
  let (convergence, states) :=
    if options.disambiguateAddGivenName || options.disambiguateAddNames then
      expandNames r entries maxPasses states
    else (.converged, states)
  (convergence, markRemaining r entries states)

end Citeproc
