import Citeproc.Render.Leaf

/-!
Rendering layouts: the recursion over rendering elements and the expansion of macros.
-/

namespace Citeproc

namespace Renderer

variable (r : Renderer)

mutual

def renderParts (expand : RenderState → String → Rendered) (ctx : RenderContext)
    (st : RenderState) : Element → Collected
  | .text e => .one (r.renderText expand ctx st e)
  | .date e => .one (r.renderDate ctx st e)
  | .number e => .one (r.renderNumber ctx st e)
  | .label e => .one { output := r.renderLabel ctx st e, state := st }
  | .group e children =>
    .one (closeGroup st e ((collect expand ctx st children).joined (e.delimiter.getD "")))
  | .names e substitute =>
    let first := !st.firstNamesDone && st.inherited.isEmpty
    let lists := nameLists ctx st e
    if lists.isEmpty then
      let inner := { st with inherited := st.inherited ++ [e] }
      let found := renderSubstitute expand ctx inner substitute
      let st := { found.state with inherited := found.state.inherited.dropLast }
      let (output, st) := finishNames ctx st e first found.output
      .one { output, state := st, stats := .one (!found.output.isEmpty) }
    else
      let full := inheritFrom e st.inherited.getLast?
      let f := r.nameFormatter ctx (some full) (ctx.target == .citation && !st.firstNamesDone)
      let st := st.noteShown (lists.flatMap fun (role, _) => shownRoles role)
      let (output, st) := finishNames ctx st e first (r.renderLists f full lists)
      .one { output, state := st, stats := .one true }
  | .choose branches otherwise =>
    match collectBranch expand ctx st branches with
    | some collected => collected
    | none => collectOption expand ctx st otherwise

def collect (expand : RenderState → String → Rendered) (ctx : RenderContext)
    (st : RenderState) : List Element → Collected
  | [] => { state := st }
  | e :: es =>
    let parts := renderParts expand ctx st e
    let parts :=
      match e with
      | .choose _ _ => parts
      | _ => parts.settle
    let rest := collect expand ctx parts.state es
    { outputs := parts.outputs ++ rest.outputs, state := rest.state
      stats := parts.stats.add rest.stats }

def collectOption (expand : RenderState → String → Rendered) (ctx : RenderContext)
    (st : RenderState) : Option (List Element) → Collected
  | none => { state := st }
  | some es => collect expand ctx st es

def collectBranch (expand : RenderState → String → Rendered) (ctx : RenderContext)
    (st : RenderState) : List Branch → Option Collected
  | [] => none
  | ⟨condition, children⟩ :: rest =>
    if condition.holds ctx then some (collect expand ctx st children)
    else collectBranch expand ctx st rest

def renderSubstitute (expand : RenderState → String → Rendered) (ctx : RenderContext)
    (st : RenderState) : Option (List Element) → Rendered
  | none => { output := .null, state := st }
  | some es => firstShown expand ctx st es

/-- The first element that shows anything. The variables it shows are used up for the rest of the
render. -/
def firstShown (expand : RenderState → String → Rendered) (ctx : RenderContext)
    (st : RenderState) : List Element → Rendered
  | [] => { output := .null, state := st }
  | e :: es =>
    let found := (renderParts expand ctx st e).joined ""
    if found.output.isEmpty then firstShown expand ctx found.state es
    else
      let used := found.state.rendered.drop st.rendered.length
      { output := found.output
        state := { found.state with suppressed := found.state.suppressed ++ used } }

end

/-- Macros nested deeper than this show nothing, which ends those that call themselves. -/
def maxMacroDepth : Nat := 64

/-- Expands a macro inside at most `levels` more. Within one render an expansion is kept for calls in
a state that does not differ in what the macro depends on. -/
def expandMacro (ctx : RenderContext) : Nat → RenderState → String → Rendered
  | 0, st, _ => { output := .null, state := st }
  | levels + 1, st, name =>
    match r.style.macroBody? name with
    | none => { output := .null, state := st }
    | some body =>
      if maxMacroDepth ≤ st.depth then { output := .null, state := st }
      else
        let key := st.memoKey name
        match if r.memoize then st.memo.lookup key else none with
        | some hit => { output := hit.output, state := st.replay hit, stats := hit.stats }
        | none =>
          let inner :=
            { st with depth := st.depth + 1, macroExpansions := st.macroExpansions + 1 }
          let content := (r.collect (expandMacro ctx levels) ctx inner body).joined ""
          let after := { content.state with depth := content.state.depth - 1 }
          let result : MacroResult :=
            { output := content.output, stats := content.stats
              firstNamesDone := after.firstNamesDone, yearSuffixDone := after.yearSuffixDone
              suppressed := after.suppressed.drop st.suppressed.length
              rendered := after.rendered.drop st.rendered.length }
          { content with
            state := if r.memoize then { after with memo := (key, result) :: after.memo } else after }

def collectLayout (layout : Layout) (ctx : RenderContext) : Collected :=
  r.collect (r.expandMacro ctx maxMacroDepth) ctx {} layout.children

def renderLayoutFields (layout : Layout) (ctx : RenderContext) : List Output :=
  (r.collectLayout layout ctx).outputs

def renderLayout (layout : Layout) (ctx : RenderContext) : Output :=
  .ofList (r.renderLayoutFields layout ctx)

def macroExpansions (layout : Layout) (ctx : RenderContext) : Nat :=
  (r.collectLayout layout ctx).state.macroExpansions

def citationLayout? (e : Entry) : Option Layout :=
  selectLayout? r.style.citation.layouts (e.field? "language")

def bibliographyLayout? (e : Entry) : Option Layout :=
  r.style.bibliography.bind fun b => selectLayout? b.layouts (e.field? "language")

def sortVariable (ctx : RenderContext) (var : String) : String :=
  match ctx.entry.names? var with
  | some names => ((r.nameFormatter ctx none false).format names).plain
  | none =>
    match ctx.value? var with
    | none => ""
    | some value =>
      if dateVariables.contains var then
        ((DateRange.parse? value).map (·.sortKey)).getD value
      else if numberVariables.contains var then (Number.sortText? value).getD value
      else value

def renderSortKey (key : SortKey) (ctx : RenderContext) : String :=
  let ctx := { ctx with sortKey := some key }
  match key.source with
  | .macroCall name => (r.expandMacro ctx maxMacroDepth {} name).output.plain
  | .var name => r.sortVariable ctx name

end Renderer

end Citeproc
