import Citeproc.Proofs.Style.Outline
import Mathlib.Data.List.Forall2

namespace Citeproc

open Markup (Node)

theorem bind_ok {α β : Type} {r : Except StyleError α} {f : α → Except StyleError β} {b : β}
    (h : r >>= f = .ok b) : ∃ a, r = .ok a ∧ f a = .ok b := by
  cases r with
  | error cause => cases h
  | ok a => exact ⟨a, rfl, h⟩

inductive ReadAs (x : Markup.Element) : Element → Prop
  | text {e : TextElement} (hname : x.name = "text") (h : readText x = .ok e) : ReadAs x (.text e)
  | date {e : DateElement} (hname : x.name = "date") (h : readDate x true = .ok e) : ReadAs x (.date e)
  | number {e : NumberElement} (hname : x.name = "number") (h : readNumber x = .ok e) :
    ReadAs x (.number e)
  | label {e : LabelElement} (hname : x.name = "label") (h : readLabel x = .ok e) : ReadAs x (.label e)
  | names {head names : NamesElement} {substitute : Option (List Element)} (hname : x.name = "names")
    (hhead : readNamesHead x = .ok head)
    (h : readNamesChildren head none x.children = .ok (names, substitute)) :
    ReadAs x (.names names substitute)
  | group {head : GroupElement} {es : List Element} (hname : x.name = "group")
    (hhead : readGroupHead x = .ok head) (h : readNodes x.name x.children = .ok es) :
    ReadAs x (.group head es)
  | choose {parts : ChooseParts} {first : Branch} (hname : x.name = "choose")
    (h : readChooseChildren {} x.children = .ok parts) (hfirst : parts.first = some first) :
    ReadAs x (.choose (first :: parts.others) parts.otherwise)

theorem readAs_of_readNode {parent : String} {x : Markup.Element} {read : Option Element}
    (h : readNode parent x.node = .ok read) : ∃ e, read = some e ∧ ReadAs x e := by
  unfold Markup.Element.node readNode at h
  split at h
  case h_1 hname =>
    obtain ⟨e, he, h⟩ := bind_ok h
    cases h
    exact ⟨_, rfl, .text hname he⟩
  case h_2 hname =>
    obtain ⟨e, he, h⟩ := bind_ok h
    cases h
    exact ⟨_, rfl, .date hname he⟩
  case h_3 hname =>
    obtain ⟨e, he, h⟩ := bind_ok h
    cases h
    exact ⟨_, rfl, .number hname he⟩
  case h_4 hname =>
    obtain ⟨e, he, h⟩ := bind_ok h
    cases h
    exact ⟨_, rfl, .label hname he⟩
  case h_5 hname =>
    obtain ⟨head, hhead, h⟩ := bind_ok h
    obtain ⟨⟨names, substitute⟩, hchildren, h⟩ := bind_ok h
    cases h
    exact ⟨_, rfl, .names hname hhead hchildren⟩
  case h_6 hname =>
    obtain ⟨head, hhead, h⟩ := bind_ok h
    obtain ⟨es, hchildren, h⟩ := bind_ok h
    cases h
    exact ⟨_, rfl, .group hname hhead hchildren⟩
  case h_7 hname =>
    obtain ⟨parts, hparts, h⟩ := bind_ok h
    split at h
    next first hfirst =>
      cases h
      exact ⟨_, rfl, .choose hname hparts hfirst⟩
    next => cases h
  case h_8 => cases h

theorem readAs_of_readNodes {parent : String} {nodes : List Node} {es : List Element}
    (h : readNodes parent nodes = .ok es) :
    List.Forall₂ ReadAs (nodes.filterMap Node.element?) es := by
  induction nodes generalizing es with
  | nil =>
    cases h
    exact .nil
  | cons node nodes ih =>
    unfold readNodes at h
    obtain ⟨read, hread, h⟩ := bind_ok h
    obtain ⟨rest, hrest, h⟩ := bind_ok h
    cases h
    cases node with
    | element name attributes children =>
      obtain ⟨e, rfl, he⟩ := readAs_of_readNode (x := ⟨name, attributes, children⟩) hread
      exact .cons he (ih hrest)
    | text content =>
      cases hread
      exact ih hrest
    | comment =>
      cases hread
      exact ih hrest
    | instruction =>
      cases hread
      exact ih hrest

def LastRead {β : Type} (R : Markup.Element → β → Prop) (xs : List Markup.Element)
    (before after : Option β) : Prop :=
  match xs.getLast? with
  | some x => ∃ b, after = some b ∧ R x b
  | none => after = before

namespace LastRead

variable {β : Type} {R : Markup.Element → β → Prop} {x : Markup.Element} {xs : List Markup.Element}
  {before after : Option β} {b : β}

theorem of_some (h : LastRead R xs before after) (hlast : xs.getLast? = some x) :
    ∃ b, after = some b ∧ R x b := by
  rwa [LastRead, hlast] at h

theorem of_none (h : LastRead R xs before after) (hlast : xs.getLast? = none) : after = before := by
  rwa [LastRead, hlast] at h

theorem cons (hx : R x b) (h : LastRead R xs (some b) after) : LastRead R (x :: xs) before after := by
  rw [LastRead, List.getLast?_cons]
  cases hlast : xs.getLast? with
  | none => exact ⟨b, h.of_none hlast, hx⟩
  | some y => exact h.of_some hlast

theorem rel {S : Markup.Element → β → Prop} (h : LastRead R xs none after)
    (hS : ∀ x ∈ xs, ∀ b, R x b → S x b) : Option.Rel S xs.getLast? after := by
  cases hlast : xs.getLast? with
  | none =>
    rw [h.of_none hlast]
    exact .none
  | some y =>
    obtain ⟨b, rfl, hb⟩ := h.of_some hlast
    exact .some (hS y (List.mem_of_getLast? hlast) b hb)

theorem forall₂ (h : LastRead R xs none after) : List.Forall₂ R xs.getLast?.toList after.toList := by
  have hrel : Option.Rel R xs.getLast? after := h.rel fun _ _ _ hb => hb
  generalize xs.getLast? = last at hrel ⊢
  cases hrel with
  | some hb => exact .cons hb .nil
  | none => exact .nil

end LastRead

section Children

variable {nodes : List Node}

def namedIn (nodes : List Node) (name : String) : List Markup.Element :=
  (nodes.filterMap Node.element?).filter (·.name == name)

theorem namedIn_element_of_ne {x : Markup.Element} {name : String} (h : x.name ≠ name) :
    namedIn (x.node :: nodes) name = namedIn nodes name :=
  List.filter_cons_of_neg (by simpa using h)

theorem namedIn_of_none {node : Node} {name : String} (h : node.element? = none) :
    namedIn (node :: nodes) name = namedIn nodes name := by
  rw [namedIn, List.filterMap_cons_none h, namedIn]

theorem element?_eq_none {node : Node}
    (h : ∀ name attributes children, node = .element name attributes children → False) :
    node.element? = none := by
  cases node with
  | element name attributes children => exact (h _ _ _ rfl).elim
  | text => rfl
  | comment => rfl
  | instruction => rfl

theorem bare_of_readNamesHead {x : Markup.Element} {head : NamesElement}
    (h : readNamesHead x = .ok head) : head.bare = head := by
  obtain ⟨roles, -, h⟩ := bind_ok h
  obtain ⟨rendering, -, h⟩ := bind_ok h
  cases h
  rfl

theorem readNamesPart_ok {x : Markup.Element} {names names' : NamesElement}
    (h : readNamesPart names x = .ok names') :
    names'.bare = names.bare ∧
      ((x.name = "label" ∧ ∃ e, readLabel x = .ok e ∧ names'.label = some e) ∨
        x.name ≠ "label" ∧ names'.label = names.label) := by
  unfold readNamesPart at h
  split at h
  case h_1 hname =>
    obtain ⟨e, -, h⟩ := bind_ok h
    cases h
    exact ⟨rfl, .inr ⟨by simp [hname], rfl⟩⟩
  case h_2 hname =>
    obtain ⟨e, -, h⟩ := bind_ok h
    cases h
    exact ⟨rfl, .inr ⟨by simp [hname], rfl⟩⟩
  case h_3 hname =>
    obtain ⟨e, he, h⟩ := bind_ok h
    cases h
    exact ⟨rfl, .inl ⟨hname, e, he, rfl⟩⟩
  case h_4 hname =>
    obtain ⟨e, -, h⟩ := bind_ok h
    cases h
    exact ⟨rfl, .inr ⟨by simp [hname], rfl⟩⟩
  case h_5 => cases h

theorem readNamesChildren_ok {names names' : NamesElement}
    {substitute substitute' : Option (List Element)}
    (h : readNamesChildren names substitute nodes = .ok (names', substitute')) :
    names'.bare = names.bare ∧
      LastRead (readLabel · = .ok ·) (namedIn nodes "label") names.label names'.label ∧
      LastRead (readChildren · = .ok ·) (namedIn nodes "substitute") substitute substitute' := by
  induction nodes generalizing names substitute with
  | nil =>
    cases h
    exact ⟨rfl, rfl, rfl⟩
  | cons node nodes ih =>
    unfold readNamesChildren at h
    split at h
    case h_1 hnil => cases hnil
    case h_2 hcons =>
      cases hcons
      obtain ⟨es, hes, h⟩ := bind_ok h
      obtain ⟨hbare, hlabel, hsubstitute⟩ := ih h
      refine ⟨hbare, hlabel, .cons hes hsubstitute⟩
    case h_3 name attributes children _ hname hcons =>
      cases hcons
      obtain ⟨read, hread, h⟩ := bind_ok h
      obtain ⟨hbare, hlabel, hsubstitute⟩ := ih h
      rw [← namedIn_element_of_ne (x := ⟨name, attributes, children⟩) hname] at hsubstitute
      obtain ⟨hhead, ⟨rfl, e, he, hlast⟩ | ⟨hne, hlast⟩⟩ := readNamesPart_ok hread
      · rw [hlast] at hlabel
        exact ⟨hbare.trans hhead, .cons he hlabel, hsubstitute⟩
      · rw [hlast, ← namedIn_element_of_ne hne] at hlabel
        exact ⟨hbare.trans hhead, hlabel, hsubstitute⟩
    case h_4 hother hcons =>
      cases hcons
      have hnone := element?_eq_none hother
      rw [namedIn_of_none hnone, namedIn_of_none hnone]
      exact ih h

theorem readBranchChildren_ok {parent : String} {nested nested' : Option BranchCondition}
    {es : List Element} (h : readBranchChildren parent nested nodes = .ok (nested', es)) :
    LastRead (readConditions · = .ok ·) (namedIn nodes "conditions") nested nested' ∧
      List.Forall₂ ReadAs ((nodes.filterMap Node.element?).filter (·.name != "conditions")) es := by
  induction nodes generalizing nested es with
  | nil =>
    cases h
    exact ⟨rfl, .nil⟩
  | cons node nodes ih =>
    unfold readBranchChildren at h
    split at h
    case h_1 hnil => cases hnil
    case h_2 hcons =>
      cases hcons
      obtain ⟨condition, hcondition, h⟩ := bind_ok h
      obtain ⟨hlast, hes⟩ := ih h
      exact ⟨.cons hcondition hlast, hes⟩
    case h_3 hname hcons =>
      cases hcons
      obtain ⟨read, hread, h⟩ := bind_ok h
      obtain ⟨⟨nested', rest⟩, hrest, h⟩ := bind_ok h
      cases h
      obtain ⟨hlast, hes⟩ := ih hrest
      cases node with
      | element name attributes children =>
        have hne : name ≠ "conditions" := fun heq => hname attributes children (heq ▸ rfl)
        obtain ⟨e, rfl, he⟩ := readAs_of_readNode (x := ⟨name, attributes, children⟩) hread
        rw [← namedIn_element_of_ne (x := ⟨name, attributes, children⟩) hne] at hlast
        have hkept : (((Node.element name attributes children :: nodes).filterMap Node.element?).filter
            (·.name != "conditions")) = ⟨name, attributes, children⟩ ::
              (nodes.filterMap Node.element?).filter (·.name != "conditions") :=
          List.filter_cons_of_pos (by simpa using hne)
        rw [hkept]
        exact ⟨hlast, .cons he hes⟩
      | text content =>
        cases hread
        exact ⟨hlast, hes⟩
      | comment =>
        cases hread
        exact ⟨hlast, hes⟩
      | instruction =>
        cases hread
        exact ⟨hlast, hes⟩

def ReadAsBranch (x : Markup.Element) (b : Branch) : Prop :=
  ∃ nested es, readBranchChildren x.name none x.children = .ok (nested, es) ∧
    branchOf x nested es = .ok b

theorem readChooseChildren_ok {parts parts' : ChooseParts}
    (h : readChooseChildren parts nodes = .ok parts') :
    (∀ x ∈ nodes.filterMap Node.element?, x.name = "if" ∨ x.name = "else-if" ∨ x.name = "else") ∧
      LastRead ReadAsBranch (namedIn nodes "if") parts.first parts'.first ∧
      (∃ others, parts'.others = parts.others ++ others ∧
        List.Forall₂ ReadAsBranch (namedIn nodes "else-if") others) ∧
      LastRead (readChildren · = .ok ·) (namedIn nodes "else") parts.otherwise parts'.otherwise := by
  induction nodes generalizing parts with
  | nil =>
    cases h
    exact ⟨by simp, rfl, ⟨[], (List.append_nil _).symm, .nil⟩, rfl⟩
  | cons node nodes ih =>
    unfold readChooseChildren at h
    split at h
    case h_1 hnil => cases hnil
    case h_2 hcons =>
      cases hcons
      obtain ⟨⟨nested, es⟩, hes, h⟩ := bind_ok h
      obtain ⟨branch, hbranch, h⟩ := bind_ok h
      obtain ⟨hnames, hfirst, hothers, hotherwise⟩ := ih h
      exact ⟨List.forall_mem_cons.mpr ⟨.inl rfl, hnames⟩, .cons ⟨nested, es, hes, hbranch⟩ hfirst,
        hothers, hotherwise⟩
    case h_3 hcons =>
      cases hcons
      obtain ⟨⟨nested, es⟩, hes, h⟩ := bind_ok h
      obtain ⟨branch, hbranch, h⟩ := bind_ok h
      obtain ⟨hnames, hfirst, ⟨others, heq, hothers⟩, hotherwise⟩ := ih h
      refine ⟨List.forall_mem_cons.mpr ⟨.inr (.inl rfl), hnames⟩, hfirst, ⟨branch :: others, ?_, ?_⟩,
        hotherwise⟩
      · rw [heq, List.append_assoc, List.singleton_append]
      · exact .cons ⟨nested, es, hes, hbranch⟩ hothers
    case h_4 hcons =>
      cases hcons
      obtain ⟨es, hes, h⟩ := bind_ok h
      obtain ⟨hnames, hfirst, hothers, hotherwise⟩ := ih h
      exact ⟨List.forall_mem_cons.mpr ⟨.inr (.inr rfl), hnames⟩, hfirst, hothers, .cons hes hotherwise⟩
    case h_5 => cases h
    case h_6 hother hcons =>
      cases hcons
      have hnone := element?_eq_none hother
      rw [namedIn_of_none hnone, namedIn_of_none hnone, namedIn_of_none hnone,
        List.filterMap_cons_none hnone]
      exact ih h

theorem readAsBranch_ok {x : Markup.Element} {condition : BranchCondition} {es : List Element}
    (h : ReadAsBranch x ⟨condition, es⟩) :
    x.condition = .ok condition ∧
      List.Forall₂ ReadAs (x.elements.filter (·.name != "conditions")) es := by
  obtain ⟨nested, es', hes, hb⟩ := h
  obtain ⟨hlast, hchildren⟩ := readBranchChildren_ok hes
  cases hconditions : (x.named "conditions").getLast? with
  | some y =>
    obtain ⟨nested, rfl, hnested⟩ := hlast.of_some hconditions
    cases hb
    rw [Markup.Element.condition, hconditions]
    exact ⟨hnested, hchildren⟩
  | none =>
    obtain rfl := hlast.of_none hconditions
    obtain ⟨own, hown, hb⟩ := bind_ok hb
    cases hb
    rw [Markup.Element.condition, hconditions]
    exact ⟨by rw [hown]; rfl, hchildren⟩

end Children

end Citeproc
