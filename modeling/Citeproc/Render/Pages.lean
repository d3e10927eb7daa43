import Citeproc.Render.Visits

/-!
The pages that a render formats. It comes to an end just when all of them can be cut.
-/

namespace Citeproc

/-- The pages that a variable stands for: a locator only when it is labelled so. -/
def RenderContext.pages? (ctx : RenderContext) (var : String) : Option String :=
  match var with
  | "page" => ctx.value? var
  | "locator" => if ctx.locatorLabel? == some "page" then ctx.value? var else none
  | _ => none

def Visit.pages? (ctx : RenderContext) (v : Visit) : Option String :=
  match v.element with
  | .text e =>
    match e.source with
    | .var name _ => if v.state.isSuppressed name then none else ctx.pages? name
    | _ => none
  | _ => none

namespace Renderer

variable (r : Renderer)

def layoutPages (layout : Layout) (ctx : RenderContext) : List String :=
  (r.layoutVisits layout ctx).filterMap (Visit.pages? ctx)

def sortKeyPages (key : SortKey) (ctx : RenderContext) : List String :=
  let ctx := { ctx with sortKey := some key }
  match key.source with
  | .macroCall name => (r.macroVisits ctx maxMacroDepth {} name).filterMap (Visit.pages? ctx)
  | .var _ => []

def sortPages (keys : SortSpec) (ctx : RenderContext) : List String :=
  keys.flatMap (r.sortKeyPages · ctx)

def formatsAll (pages : List String) : Bool := pages.all fun text => (r.formatPages? text).isSome

end Renderer

end Citeproc
