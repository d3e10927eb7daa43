import Citeproc.Render.Interpreter

/-!
The elements that a render visits, each with the state in front of it. The macros among them are
expanded by `expand`; `inside` lists what an expansion visits.
-/

namespace Citeproc

structure Visit where
  state : RenderState
  element : Element

def TextElement.macro? (e : TextElement) : Option String :=
  match e.source with
  | .macroCall name => some name
  | _ => none

def Visit.macro? (v : Visit) : Option String :=
  match v.element with
  | .text e => e.macro?
  | _ => none

namespace RenderState

def push (st : RenderState) (e : NamesElement) : RenderState :=
  { st with inherited := st.inherited ++ [e] }

def pop (st : RenderState) : RenderState := { st with inherited := st.inherited.dropLast }

def enter (st : RenderState) : RenderState :=
  { st with depth := st.depth + 1, macroExpansions := st.macroExpansions + 1 }

def leave (st : RenderState) : RenderState := { st with depth := st.depth - 1 }

end RenderState

namespace Renderer

variable (r : Renderer)

mutual

def within (expand : RenderState → String → Rendered) (inside : RenderState → String → List Visit)
    (ctx : RenderContext) (st : RenderState) : Element → List Visit
  | .text e => e.macro?.elim [] (inside st)
  | .date _ => []
  | .number _ => []
  | .label _ => []
  | .group _ children => visits expand inside ctx st children
  | .names e substitute =>
    if (nameLists ctx st e).isEmpty then
      withinSubstitute expand inside ctx (st.push e) substitute
    else []
  | .choose branches otherwise =>
    (withinBranch expand inside ctx st branches).getD (withinOption expand inside ctx st otherwise)

def visits (expand : RenderState → String → Rendered) (inside : RenderState → String → List Visit)
    (ctx : RenderContext) (st : RenderState) : List Element → List Visit
  | [] => []
  | e :: es =>
    ⟨st, e⟩ :: within expand inside ctx st e ++
      visits expand inside ctx (r.collect expand ctx st [e]).state es

def withinOption (expand : RenderState → String → Rendered)
    (inside : RenderState → String → List Visit) (ctx : RenderContext) (st : RenderState) :
    Option (List Element) → List Visit
  | none => []
  | some es => visits expand inside ctx st es

def withinBranch (expand : RenderState → String → Rendered)
    (inside : RenderState → String → List Visit) (ctx : RenderContext) (st : RenderState) :
    List Branch → Option (List Visit)
  | [] => none
  | ⟨condition, children⟩ :: rest =>
    if condition.holds ctx then some (visits expand inside ctx st children)
    else withinBranch expand inside ctx st rest

def withinSubstitute (expand : RenderState → String → Rendered)
    (inside : RenderState → String → List Visit) (ctx : RenderContext) (st : RenderState) :
    Option (List Element) → List Visit
  | none => []
  | some es => visitsUntilShown expand inside ctx st es

def visitsUntilShown (expand : RenderState → String → Rendered)
    (inside : RenderState → String → List Visit) (ctx : RenderContext) (st : RenderState) :
    List Element → List Visit
  | [] => []
  | e :: es =>
    let found := (r.renderParts expand ctx st e).joined ""
    ⟨st, e⟩ :: within expand inside ctx st e ++
      if found.output.isEmpty then visitsUntilShown expand inside ctx found.state es else []

end

def macroVisits (ctx : RenderContext) : Nat → RenderState → String → List Visit
  | 0, _, _ => []
  | levels + 1, st, name =>
    match r.style.macroBody? name with
    | none => []
    | some body =>
      if maxMacroDepth ≤ st.depth then []
      else
        match if r.memoize then st.memo.lookup (st.memoKey name) else none with
        | some _ => []
        | none => r.visits (r.expandMacro ctx levels) (macroVisits ctx levels) ctx st.enter body

def layoutVisits (layout : Layout) (ctx : RenderContext) : List Visit :=
  r.visits (r.expandMacro ctx maxMacroDepth) (r.macroVisits ctx maxMacroDepth) ctx {} layout.children

def expansion (ctx : RenderContext) (st : RenderState) (name : String) : Rendered :=
  r.expandMacro ctx (maxMacroDepth - st.depth) st name

def expansionVisits (ctx : RenderContext) (st : RenderState) (name : String) : List Visit :=
  r.macroVisits ctx (maxMacroDepth - st.depth) st name

end Renderer

end Citeproc
