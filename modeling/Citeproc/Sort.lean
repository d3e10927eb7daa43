import Citeproc.Render.Interpreter
import Citeproc.Text.SortKey

namespace Citeproc

def SortKey.compareTexts (key : SortKey) (a b : String) : Ordering :=
  match a.isEmpty, b.isEmpty with
  | true, true => .eq
  | true, false => .gt
  | false, true => .lt
  | false, false => if key.descending then compare b a else compare a b

def SortSpec.compareTexts : SortSpec → List String → List String → Ordering
  | key :: keys, a :: as, b :: bs => (key.compareTexts a b).then (SortSpec.compareTexts keys as bs)
  | _, _, _ => .eq

namespace Renderer

def sortTexts (r : Renderer) (keys : SortSpec) (ctx : RenderContext) : List String :=
  keys.map fun key => Text.folded (r.renderSortKey key ctx)

def sortItems {α : Type} (r : Renderer) (keys : SortSpec) (context : α → RenderContext)
    (items : List α) : List α :=
  ((items.map fun item => (r.sortTexts keys (context item), item)).mergeSort fun a b =>
    (keys.compareTexts a.1 b.1).isLE).map (·.2)

theorem sortItems_perm {α : Type} (r : Renderer) (keys : SortSpec) (context : α → RenderContext)
    (items : List α) : (r.sortItems keys context items).Perm items := by
  simpa [sortItems, Function.comp_def] using
    (List.mergeSort_perm (items.map fun item => (r.sortTexts keys (context item), item)) _).map
      (·.2)

end Renderer

end Citeproc
