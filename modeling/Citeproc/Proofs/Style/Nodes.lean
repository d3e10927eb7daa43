import Citeproc.Style.Basic

namespace Citeproc

namespace Element

mutual

def nodes : Element → List Element
  | text e => [text e]
  | date e => [date e]
  | number e => [number e]
  | label e => [label e]
  | names e substitute => names e substitute :: nodesOption substitute
  | group e children => group e children :: nodesAll children
  | choose branches otherwise =>
    choose branches otherwise :: (nodesBranch branches ++ nodesOption otherwise)

def nodesAll : List Element → List Element
  | [] => []
  | e :: es => nodes e ++ nodesAll es

def nodesOption : Option (List Element) → List Element
  | none => []
  | some es => nodesAll es

def nodesBranch : List Branch → List Element
  | [] => []
  | ⟨_, children⟩ :: rest => nodesAll children ++ nodesBranch rest

end

def shows (var : String) : Element → Bool
  | text ⟨.var name _, _⟩ => name == var
  | number e => e.var == var
  | _ => false

variable (var : String)

mutual

theorem uses_eq_any (e : Element) : uses var e = (nodes e).any (shows var) := by
  match e with
  | text ⟨.var name form, rendering⟩ => simp [uses, nodes, shows]
  | text ⟨.macroCall name, rendering⟩ => rfl
  | text ⟨.term name form plural, rendering⟩ => rfl
  | text ⟨.value s, rendering⟩ => rfl
  | date e => rfl
  | number e => simp [uses, nodes, shows]
  | label e => rfl
  | names e substitute => simp [uses, nodes, shows, usesOption_eq_any substitute]
  | group e children => simp [uses, nodes, shows, usesAny_eq_any children]
  | choose branches otherwise =>
    simp [uses, nodes, shows, usesBranch_eq_any branches, usesOption_eq_any otherwise]

theorem usesAny_eq_any (es : List Element) : usesAny var es = (nodesAll es).any (shows var) := by
  match es with
  | [] => rfl
  | e :: es => rw [usesAny, nodesAll, List.any_append, uses_eq_any e, usesAny_eq_any es]

theorem usesOption_eq_any (es : Option (List Element)) :
    usesOption var es = (nodesOption es).any (shows var) := by
  match es with
  | none => rfl
  | some es => exact usesAny_eq_any es

theorem usesBranch_eq_any (branches : List Branch) :
    usesBranch var branches = (nodesBranch branches).any (shows var) := by
  match branches with
  | [] => rfl
  | ⟨condition, children⟩ :: rest =>
    rw [usesBranch, nodesBranch, List.any_append, usesAny_eq_any children, usesBranch_eq_any rest]

end

end Element

namespace Style

def nodes (style : Style) : List Element :=
  style.layouts.flatMap (fun layout => Element.nodesAll layout.children) ++
    style.macros.flatMap fun entry => Element.nodesAll entry.2

theorem usesVariable_eq_any (style : Style) (var : String) :
    style.usesVariable var = style.nodes.any (Element.shows var) := by
  simp only [usesVariable, nodes, List.any_append, List.any_flatMap, Element.usesAny_eq_any]

theorem mem_nodes_of_layout {style : Style} {layout : Layout} (h : layout ∈ style.layouts) {e : Element}
    (he : e ∈ Element.nodesAll layout.children) : e ∈ style.nodes :=
  List.mem_append_left _ (List.mem_flatMap.mpr ⟨layout, h, he⟩)

theorem mem_nodes_of_macro {style : Style} {entry : String × List Element} (h : entry ∈ style.macros)
    {e : Element} (he : e ∈ Element.nodesAll entry.2) : e ∈ style.nodes :=
  List.mem_append_right _ (List.mem_flatMap.mpr ⟨entry, h, he⟩)

end Style

end Citeproc
