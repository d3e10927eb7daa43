import Citeproc.Style.Reader
import Mathlib.Data.List.Flatten

/-!
The outline of rendering content, of a tree that has been read and of the markup it is read from: which
rendering elements and branches there are, in which order, and what each says itself.
-/

namespace Citeproc

inductive Head
  | text (e : TextElement)
  | date (e : DateElement)
  | number (e : NumberElement)
  | label (e : LabelElement)
  | names (e : NamesElement)
  | group (e : GroupElement)
  | choose
  | branch (condition : BranchCondition)
  | otherwise

inductive Outline
  | mk (name : String) (head : Except StyleError Head) (inside : List Outline)

def Outline.name : Outline → String
  | mk name _ _ => name

def Outline.inside : Outline → List Outline
  | mk _ _ inside => inside

def NamesElement.bare (e : NamesElement) : NamesElement :=
  { e with name := none, etAl := none, label := none, labelBeforeName := false, institution := none }

def LabelElement.outline (e : LabelElement) : Outline := ⟨"label", .ok (.label e), []⟩

namespace Element

mutual

def outline : Element → Outline
  | text e => ⟨"text", .ok (.text e), []⟩
  | date e => ⟨"date", .ok (.date e), []⟩
  | number e => ⟨"number", .ok (.number e), []⟩
  | label e => e.outline
  | names e substitute =>
    ⟨"names", .ok (.names e.bare), (e.label.map (·.outline)).toList ++ outlineOption substitute⟩
  | group e children => ⟨"group", .ok (.group e), outlines children⟩
  | choose branches otherwise =>
    ⟨"choose", .ok .choose, outlineBranches "if" branches ++ outlineElse otherwise⟩

def outlines : List Element → List Outline
  | [] => []
  | e :: es => outline e :: outlines es

def outlineOption : Option (List Element) → List Outline
  | none => []
  | some es => outlines es

def outlineBranches (name : String) : List Branch → List Outline
  | [] => []
  | ⟨condition, children⟩ :: rest =>
    ⟨name, .ok (.branch condition), outlines children⟩ :: outlineBranches "else-if" rest

def outlineElse : Option (List Element) → List Outline
  | none => []
  | some es => [⟨"else", .ok .otherwise, outlines es⟩]

end

theorem outlines_eq_map (es : List Element) : outlines es = es.map outline := by
  induction es with
  | nil => rfl
  | cons e es ih => rw [outlines, ih, List.map_cons]

end Element

def Branch.outline (name : String) : Branch → Outline
  | ⟨condition, children⟩ => ⟨name, .ok (.branch condition), Element.outlines children⟩

theorem Element.outlineElse_eq (otherwise : Option (List Element)) :
    outlineElse otherwise = otherwise.toList.map fun es => ⟨"else", .ok .otherwise, outlines es⟩ := by
  cases otherwise <;> rfl

theorem Element.outlineBranches_eq_map (branches : List Branch) :
    outlineBranches "else-if" branches = branches.map (Branch.outline "else-if") := by
  induction branches with
  | nil => rfl
  | cons branch branches ih =>
    obtain ⟨condition, children⟩ := branch
    rw [outlineBranches, ih, List.map_cons, Branch.outline]

namespace Markup

def Node.isNamed (p : String → Bool) : Node → Bool
  | .element name _ _ => p name
  | _ => false

namespace Element

def node (e : Element) : Node := .element e.name e.attributes e.children

def named (e : Element) (name : String) : List Element := e.elements.filter (·.name == name)

def otherThan (e : Element) (name : String) : List Element := e.elements.filter (·.name != name)

def condition (e : Element) : Except StyleError BranchCondition :=
  match (e.named "conditions").getLast? with
  | some conditions => readConditions conditions
  | none => .simple <$> readCondition e

def head? (e : Element) : Option (Except StyleError Head) :=
  match e.name with
  | "text" => some (.text <$> readText e)
  | "date" => some (.date <$> readDate e true)
  | "number" => some (.number <$> readNumber e)
  | "label" => some (.label <$> readLabel e)
  | "names" => some (.names <$> readNamesHead e)
  | "group" => some (.group <$> readGroupHead e)
  | "choose" => some (.ok .choose)
  | "if" | "else-if" => some (.branch <$> e.condition)
  | "else" => some (.ok .otherwise)
  | _ => none

end Element

mutual

def Node.outlines : Node → List Outline
  | .element name attributes children =>
    let inside :=
      if name == "names" then
        outlinesOf (· == "label") children ++ outlinesOf (· != "label") children
      else outlinesOf (fun _ => true) children
    match Element.head? ⟨name, attributes, children⟩ with
    | some head => [⟨name, head, inside⟩]
    | none => inside
  | _ => []

def Node.outlinesOf (p : String → Bool) : List Node → List Outline
  | [] => []
  | node :: rest => (if node.isNamed p then node.outlines else []) ++ outlinesOf p rest

end

mutual

def Node.within : Node → List Element
  | .element name attributes children => ⟨name, attributes, children⟩ :: withinAll children
  | _ => []

def Node.withinAll : List Node → List Element
  | [] => []
  | node :: rest => node.within ++ withinAll rest

end

theorem Node.outlinesOf_eq (p : String → Bool) (nodes : List Node) :
    outlinesOf p nodes =
      ((nodes.filterMap element?).filter fun e => p e.name).flatMap (·.node.outlines) := by
  induction nodes with
  | nil => rfl
  | cons node nodes ih =>
    rw [outlinesOf, ih]
    cases node with
    | element name attributes children =>
      cases h : p name <;> simp [isNamed, element?, h, Element.node]
    | text => rfl
    | comment => rfl
    | instruction => rfl

theorem Node.withinAll_eq (nodes : List Node) :
    withinAll nodes = (nodes.filterMap element?).flatMap (·.node.within) := by
  induction nodes with
  | nil => rfl
  | cons node nodes ih =>
    rw [withinAll, ih]
    cases node <;> rfl

namespace Element

def outlines (e : Element) : List Outline := e.node.outlines

def within (e : Element) : List Element := e.node.within

def inside (e : Element) : List Outline :=
  if e.name == "names" then
    (e.named "label").flatMap outlines ++ (e.otherThan "label").flatMap outlines
  else e.elements.flatMap outlines

theorem outlines_eq (e : Element) :
    e.outlines = e.head?.elim e.inside fun head => [⟨e.name, head, e.inside⟩] := by
  have hinside : (if e.name == "names" then
      Node.outlinesOf (· == "label") e.children ++ Node.outlinesOf (· != "label") e.children
      else Node.outlinesOf (fun _ => true) e.children) = e.inside := by
    simp only [Node.outlinesOf_eq, List.filter_eq_self.mpr fun _ _ => rfl]
    rfl
  rw [outlines, node, Node.outlines, hinside]
  cases e.head? <;> rfl

theorem within_eq (e : Element) : e.within = e :: e.elements.flatMap within := by
  rw [within, node, Node.within, Node.withinAll_eq]
  rfl

theorem mem_within_self (e : Element) : e ∈ e.within := by
  rw [within_eq]
  exact List.mem_cons_self

theorem mem_within_of_mem_elements {e x : Element} (h : x ∈ e.elements) : x ∈ e.within := by
  rw [within_eq]
  exact List.mem_cons_of_mem _ (List.mem_flatMap.mpr ⟨x, h, x.mem_within_self⟩)

theorem forall_within_iff {motive : Element → Prop} {e : Element} :
    (∀ x ∈ e.within, motive x) ↔ motive e ∧ ∀ x ∈ e.elements, ∀ y ∈ x.within, motive y := by
  rw [within_eq, List.forall_mem_cons, List.forall_mem_flatMap]

section Induction

variable {motive : Element → Prop}

mutual

theorem forall_within (h : ∀ e : Element, (∀ x ∈ e.elements, ∀ y ∈ x.within, motive y) → motive e)
    (node : Node) : ∀ x ∈ node.within, motive x := by
  match node with
  | .element name attributes children =>
    have hchildren := forall_withinAll h children
    rw [Node.within, List.forall_mem_cons]
    refine ⟨h _ ?_, hchildren⟩
    rwa [Node.withinAll_eq, List.forall_mem_flatMap] at hchildren
  | .text _ => simp [Node.within]
  | .comment => simp [Node.within]
  | .instruction => simp [Node.within]

theorem forall_withinAll (h : ∀ e : Element, (∀ x ∈ e.elements, ∀ y ∈ x.within, motive y) → motive e)
    (nodes : List Node) : ∀ x ∈ Node.withinAll nodes, motive x := by
  match nodes with
  | [] => simp [Node.withinAll]
  | node :: rest =>
    rw [Node.withinAll, List.forall_mem_append]
    exact ⟨forall_within h node, forall_withinAll h rest⟩

end

theorem induction (h : ∀ e : Element, (∀ x ∈ e.elements, ∀ y ∈ x.within, motive y) → motive e)
    (e : Element) : motive e :=
  forall_within h e.node e e.mem_within_self

end Induction

def Plain (e : Element) : Prop := ∀ x ∈ e.within, x.head? = none

def passedOver (e : Element) : List Element :=
  match e.name with
  | "text" | "date" | "number" | "label" => e.elements
  | "names" =>
    (e.named "label").dropLast ++ (e.named "substitute").dropLast ++
      (e.otherThan "label").filter (·.name != "substitute")
  | "if" | "else-if" => e.named "conditions"
  | _ => []

def branches (e : Element) : List Element :=
  (e.named "if").getLast?.toList ++ e.named "else-if" ++ (e.named "else").getLast?.toList

/-- There is no content in what is passed over of an element, and branches stand as they are read. -/
def Regular (e : Element) : Prop :=
  (∀ x ∈ e.passedOver, x.Plain) ∧ (e.name = "choose" → e.elements = e.branches)

def Lossless (e : Element) : Prop := ∀ x ∈ e.within, x.Regular

theorem lossless_iff {e : Element} : e.Lossless ↔ e.Regular ∧ ∀ x ∈ e.elements, x.Lossless :=
  forall_within_iff

theorem inside_eq_nil_iff {e : Element} : e.inside = [] ↔ ∀ x ∈ e.elements, x.outlines = [] := by
  unfold inside
  split
  · rw [List.append_eq_nil_iff, List.flatMap_eq_nil_iff, List.flatMap_eq_nil_iff]
    constructor
    · intro ⟨hlabels, hothers⟩ x hx
      by_cases hname : x.name = "label"
      · exact hlabels x (List.mem_filter.mpr ⟨hx, by simpa using hname⟩)
      · exact hothers x (List.mem_filter.mpr ⟨hx, by simpa using hname⟩)
    · intro h
      exact ⟨fun x hx => h x (List.mem_filter.mp hx).1, fun x hx => h x (List.mem_filter.mp hx).1⟩
  · exact List.flatMap_eq_nil_iff

theorem outlines_eq_nil_iff (e : Element) : e.outlines = [] ↔ e.Plain := by
  induction e using induction with
  | h e ih =>
    rw [outlines_eq, Plain, forall_within_iff]
    cases hhead : e.head? with
    | some head => simp
    | none =>
      simp only [Option.elim_none, true_and, inside_eq_nil_iff]
      exact forall₂_congr fun x hx => ih x hx x x.mem_within_self

theorem regular_of_head? {e : Element} (h : e.head? = none) : e.Regular := by
  unfold head? at h
  split at h <;> simp_all [Regular, passedOver]

theorem Plain.lossless {e : Element} (h : e.Plain) : e.Lossless :=
  fun x hx => regular_of_head? (h x hx)

end Element

end Markup

end Citeproc
