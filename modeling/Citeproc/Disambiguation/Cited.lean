import Citeproc.Disambiguation.Run

/-!
The first cites that are rendered to tell entries apart, each with the state it is rendered in.
-/

namespace Citeproc

namespace Disambiguation

/-- The cite as it is and those of the next states, up to the first that differs from it. -/
def expandCites (r : Renderer) (e : Entry) (state : DisambiguationState) :
    List DisambiguationState :=
  let shown := r.citeNames e state
  let next := candidates r.style.citation.options ((e.primaryNames?.map (·.length)).getD 0) state
  state :: next.take ((next.findIdx fun next => r.citeNames e next != shown) + 1)

def memberCites (r : Renderer) : Pass → List (List Entry × Entry) →
    List (Entry × DisambiguationState)
  | _, [] => []
  | pass, (group, e) :: members =>
    let cites := if distinguishable group e then expandCites r e (pass.states.of e.id) else []
    cites.map (e, ·) ++ memberCites r (expandMember r group pass e) members

def currentCites (entries : List Entry) (states : States) : List (Entry × DisambiguationState) :=
  entries.map fun e => (e, states.of e.id)

def passCites (r : Renderer) (entries : List Entry) (states : States) :
    List (Entry × DisambiguationState) :=
  let shown (e : Entry) : String × Option Int := (r.citeNames e (states.of e.id), e.year?)
  let members := (collisions shown entries).flatMap fun group => group.map (group, ·)
  currentCites entries states ++ memberCites r { states } members

def namesCites (r : Renderer) (entries : List Entry) :
    Nat → States → List (Entry × DisambiguationState)
  | 0, _ => []
  | left + 1, states =>
    let pass := expandPass r entries states
    passCites r entries states ++
      if pass.changed then namesCites r entries left pass.states else []

end Disambiguation

open Disambiguation

def Renderer.disambiguationCites (r : Renderer) (entries : List Entry) (states : States) :
    List (Entry × DisambiguationState) :=
  let options := r.style.citation.options
  let states := entries.foldl (fun states e => states.put e.id (states.of e.id)) states
  let states :=
    if options.disambiguateAddYearSuffix then assignYearSuffixes entries states else states
  if options.disambiguateAddGivenName || options.disambiguateAddNames then
    namesCites r entries maxPasses states ++
      currentCites entries (expandNames r entries maxPasses states).2
  else currentCites entries states

end Citeproc
