import Citeproc.Disambiguation.Cite
import Citeproc.Grouping

namespace Citeproc.Disambiguation

def maxGivenNameLevel : GivenNameRule → Nat
  | .allNamesWithInitials | .primaryNameWithInitials => 1
  | .allNames | .primaryName | .byCite => 2

def candidates (options : CitationOptions) (total : Nat) (state : DisambiguationState) :
    List DisambiguationState :=
  let levels :=
    if options.disambiguateAddGivenName then
      List.range' (state.givenNameLevel + 1)
        (maxGivenNameLevel options.givenNameRule - state.givenNameLevel)
    else []
  let more := options.disambiguateAddNames && state.namesExpanded < total
  (levels.map fun level => { state with givenNameLevel := level }) ++
    if more then [{ state with namesExpanded := state.namesExpanded + 1 }] else []

def expand? (r : Renderer) (e : Entry) (state : DisambiguationState) :
    Option DisambiguationState :=
  let shown := r.citeNames e state
  (candidates r.style.citation.options ((e.primaryNames?.map (·.length)).getD 0) state).find?
    fun next => r.citeNames e next != shown

def distinguishable (group : List Entry) (e : Entry) : Bool :=
  group.any fun other => other.primaryNames? != e.primaryNames?

def collisions {κ : Type} [DecidableEq κ] (key : Entry → κ) (entries : List Entry) :
    List (List Entry) :=
  (Grouping.byKey key entries).filter (1 < ·.length)

structure Pass where
  states : States
  changed : Bool := false
  deriving Repr, DecidableEq, Inhabited

def expandMember (r : Renderer) (group : List Entry) (pass : Pass) (e : Entry) : Pass :=
  if distinguishable group e then
    match expand? r e (pass.states.of e.id) with
    | some next => { states := pass.states.put e.id next, changed := true }
    | none => pass
  else pass

def expandGroup (r : Renderer) (pass : Pass) (group : List Entry) : Pass :=
  group.foldl (expandMember r group) pass

/-- One pass. The groups are those of the states it begins with. -/
def expandPass (r : Renderer) (entries : List Entry) (states : States) : Pass :=
  let shown (e : Entry) : String × Option Int := (r.citeNames e (states.of e.id), e.year?)
  (collisions shown entries).foldl (expandGroup r) { states }

def maxPasses : Nat := 10

def expandNames (r : Renderer) (entries : List Entry) : Nat → States → Convergence × States
  | 0, states => (.cappedAt maxPasses, states)
  | left + 1, states =>
    let pass := expandPass r entries states
    if pass.changed then expandNames r entries left pass.states else (.converged, states)

end Citeproc.Disambiguation
