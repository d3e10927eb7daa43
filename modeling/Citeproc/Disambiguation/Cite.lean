import Citeproc.Render.Interpreter
import Citeproc.Table

namespace Citeproc

abbrev States := Table DisambiguationState

def States.of (states : States) (id : String) : DisambiguationState := (states.get? id).getD {}

inductive Convergence
  | converged
  | cappedAt (passes : Nat)
  deriving Repr, DecidableEq, Inhabited

namespace Renderer

def firstCite (r : Renderer) (e : Entry) (state : DisambiguationState) : Output :=
  (r.citationLayout? e).elim .null fun layout =>
    r.renderLayout layout { RenderContext.citation e none with state }

def citeText (r : Renderer) (e : Entry) (state : DisambiguationState) : String :=
  (r.firstCite e state).plain

def citeNames (r : Renderer) (e : Entry) (state : DisambiguationState) : String :=
  let cite := r.firstCite e state
  (cite.firstNames?.getD cite).plain

end Renderer

end Citeproc
