import Citeproc.Proofs.Style.Children
import Citeproc.Proofs.Style.Lossless

namespace Citeproc

section Outlines

open Markup.Element

variable {x : Markup.Element} {xs : List Markup.Element}

theorem forall₂_outlined {β : Type} {R : Markup.Element → β → Prop} {f : β → Outline} {bs : List β}
    (h : List.Forall₂ R xs bs) (hmap : ∀ x ∈ xs, ∀ b, R x b → Outlined x (f b)) :
    List.Forall₂ Outlined xs (bs.map f) := by
  rw [List.forall₂_map_right_iff]
  exact ((List.forall₂_and_left xs bs).mpr ⟨hmap, h⟩).imp fun x b hb => hb.1 b hb.2

theorem forall₂_outlines {es : List Element} (h : List.Forall₂ ReadAs xs es)
    (ih : ∀ x ∈ xs, ∀ e, ReadAs x e → Outlined x e.outline) :
    List.Forall₂ Outlined xs (Element.outlines es) := by
  rw [Element.outlines_eq_map]
  exact forall₂_outlined h ih

theorem outlined_of_leaf {name : String} {head : Head} (hname : x.name = name)
    (hleaf : name = "text" ∨ name = "date" ∨ name = "number" ∨ name = "label")
    (hhead : x.head? = some (.ok head)) : Outlined x ⟨name, .ok head, []⟩ := by
  subst hname
  have hpassed : x.passedOver = x.elements.filter fun y => !(fun _ => false) y := by
    obtain hname | hname | hname | hname := hleaf <;> simp [passedOver, hname]
  apply Outlined.of_inside hhead
  apply eq_inside_of_filter hpassed
  · intro heq
    simp [heq] at hleaf
  · intro heq
    simp [heq] at hleaf
  · simp

theorem outlined_of_label {e : LabelElement} (hname : x.name = "label") (h : readLabel x = .ok e) :
    Outlined x e.outline := by
  have hhead : x.head? = some (.ok (.label e)) := by simp [head?, hname, h]
  exact outlined_of_leaf hname (.inr (.inr (.inr rfl))) hhead

theorem outlined_of_nodes {name : String} {head : Head} {es : List Element} (hname : x.name = name)
    (hall : name = "group" ∨ name = "else") (hhead : x.head? = some (.ok head))
    (h : readChildren x = .ok es)
    (ih : ∀ y ∈ x.elements, ∀ e, ReadAs y e → Outlined y e.outline) :
    Outlined x ⟨name, .ok head, Element.outlines es⟩ := by
  subst hname
  have hpassed : x.passedOver = x.elements.filter fun y => !(fun _ => true) y := by
    obtain hname | hname := hall <;> simp [passedOver, hname]
  apply Outlined.of_inside hhead
  apply eq_inside_of_filter hpassed
  · intro heq
    simp [heq] at hall
  · intro heq
    simp [heq] at hall
  · rw [List.filter_eq_self.mpr fun _ _ => rfl]
    exact forall₂_outlines (readAs_of_readNodes h) ih

theorem outlined_of_branch {name : String} {branch : Branch} (hname : x.name = name)
    (hbranch : name = "if" ∨ name = "else-if") (h : ReadAsBranch x branch)
    (ih : ∀ y ∈ x.elements, ∀ e, ReadAs y e → Outlined y e.outline) :
    Outlined x (branch.outline name) := by
  subst hname
  obtain ⟨condition, es⟩ := branch
  obtain ⟨hcondition, hchildren⟩ := readAsBranch_ok h
  have hhead : x.head? = some (.ok (.branch condition)) := by
    obtain hname | hname := hbranch <;> simp [head?, hname, hcondition]
  have hpassed : x.passedOver = x.elements.filter fun y => !(y.name != "conditions") := by
    obtain hname | hname := hbranch <;> simp [passedOver, hname, named, bne]
  apply Outlined.of_inside hhead
  apply eq_inside_of_filter hpassed
  · intro heq
    simp [heq] at hbranch
  · intro heq
    simp [heq] at hbranch
  · exact forall₂_outlines hchildren fun y hy => ih y (List.mem_filter.mp hy).1

theorem forall₂_outlineOption {es : Option (List Element)}
    (h : List.Forall₂ (readChildren · = .ok ·) xs es.toList)
    (ih : ∀ y ∈ xs, ∀ z ∈ y.elements, ∀ e, ReadAs z e → Outlined z e.outline) :
    List.Forall₂ Outlined (xs.flatMap elements) (Element.outlineOption es) := by
  cases es with
  | none =>
    cases h
    exact .nil
  | some es =>
    obtain _ | ⟨hes, hnil⟩ := h
    cases hnil
    rw [List.flatMap_singleton]
    exact forall₂_outlines (readAs_of_readNodes hes) (ih _ List.mem_cons_self)

theorem outlined_of_names {head names : NamesElement} {substitute : Option (List Element)}
    (hname : x.name = "names") (hread : readNamesHead x = .ok head)
    (h : readNamesChildren head none x.children = .ok (names, substitute))
    (ih : ∀ y ∈ x.elements, ∀ z ∈ y.elements, ∀ e, ReadAs z e → Outlined z e.outline) :
    Outlined x (Element.names names substitute).outline := by
  obtain ⟨hbare, hlabel, hsubstitute⟩ := readNamesChildren_ok h
  rw [bare_of_readNamesHead hread] at hbare
  have hnone : head.label = none := by rw [← bare_of_readNamesHead hread]; rfl
  rw [hnone] at hlabel
  have hhead : x.head? = some (.ok (.names names.bare)) := by simp [head?, hname, hread, hbare]
  have hlabels : List.Forall₂ Outlined (x.named "label").getLast?.toList
      (names.label.map (·.outline)).toList := by
    rw [Option.toList_map]
    exact forall₂_outlined hlabel.forall₂ fun y hy e he => outlined_of_label (mem_last_named hy).2 he
  have hsubstitutes : List.Forall₂ Outlined ((x.named "substitute").getLast?.toList.flatMap elements)
      (Element.outlineOption substitute) :=
    forall₂_outlineOption hsubstitute.forall₂ fun y hy => ih y (mem_last_named hy).1
  have houtlined := Outlined.of_inside hhead (eq_inside_of_names hname hlabels hsubstitutes)
  rwa [hname] at houtlined

theorem outlined_of_choose {parts : ChooseParts} {first : Branch} (hname : x.name = "choose")
    (h : readChooseChildren {} x.children = .ok parts) (hfirst : parts.first = some first)
    (ih : ∀ y ∈ x.elements, ∀ z ∈ y.elements, ∀ e, ReadAs z e → Outlined z e.outline) :
    Outlined x (Element.choose (first :: parts.others) parts.otherwise).outline := by
  obtain ⟨hnames, hif, ⟨others, heq, helseIf⟩, helse⟩ := readChooseChildren_ok h
  have hread := hif.forall₂
  rw [hfirst] at hread
  have hfirst : List.Forall₂ Outlined (x.named "if").getLast?.toList [first.outline "if"] :=
    forall₂_outlined hread fun y hy b hb =>
      outlined_of_branch (mem_last_named hy).2 (.inl rfl) hb (ih y (mem_last_named hy).1)
  have hothers : List.Forall₂ Outlined (x.named "else-if")
      (Element.outlineBranches "else-if" others) := by
    rw [Element.outlineBranches_eq_map]
    exact forall₂_outlined helseIf fun y hy b hb =>
      outlined_of_branch (mem_named.mp hy).2 (.inr rfl) hb (ih y (mem_named.mp hy).1)
  have hotherwise : List.Forall₂ Outlined (x.named "else").getLast?.toList
      (Element.outlineElse parts.otherwise) := by
    rw [Element.outlineElse_eq]
    refine forall₂_outlined helse.forall₂ fun y hy es hes => ?_
    have hhead : y.head? = some (.ok .otherwise) := by simp [head?, (mem_last_named hy).2]
    exact outlined_of_nodes (mem_last_named hy).2 (.inr rfl) hhead hes (ih y (mem_last_named hy).1)
  have hhead : x.head? = some (.ok .choose) := by simp [head?, hname]
  have houtlined := Outlined.of_inside hhead (eq_inside_of_choose hname hnames
    (List.rel_append (List.rel_append hfirst hothers) hotherwise))
  rw [hname] at houtlined
  obtain ⟨condition, es⟩ := first
  rw [heq]
  exact houtlined

theorem outlined_of_readAs (x : Markup.Element) : ∀ e, ReadAs x e → Outlined x e.outline := by
  induction x using Markup.Element.induction with
  | h x ih =>
    have hchildren : ∀ y ∈ x.elements, ∀ e, ReadAs y e → Outlined y e.outline :=
      fun y hy => ih y hy y y.mem_within_self
    have hgrandchildren : ∀ y ∈ x.elements, ∀ z ∈ y.elements, ∀ e, ReadAs z e → Outlined z e.outline :=
      fun y hy z hz => ih y hy z (mem_within_of_mem_elements hz)
    intro e he
    cases he with
    | @text e hname h =>
      have hhead : x.head? = some (.ok (.text e)) := by simp [head?, hname, h]
      exact outlined_of_leaf hname (.inl rfl) hhead
    | @date e hname h =>
      have hhead : x.head? = some (.ok (.date e)) := by simp [head?, hname, h]
      exact outlined_of_leaf hname (.inr (.inl rfl)) hhead
    | @number e hname h =>
      have hhead : x.head? = some (.ok (.number e)) := by simp [head?, hname, h]
      exact outlined_of_leaf hname (.inr (.inr (.inl rfl))) hhead
    | label hname h => exact outlined_of_label hname h
    | names hname hhead h => exact outlined_of_names hname hhead h hgrandchildren
    | @group head es hname hread h =>
      have hhead : x.head? = some (.ok (.group head)) := by simp [head?, hname, hread]
      exact outlined_of_nodes hname (.inl rfl) hhead h hchildren
    | choose hname h hfirst => exact outlined_of_choose hname h hfirst hgrandchildren

/-- Rendering elements that stand for the content of an element: one for each element and one branch
for each branch in it, in the order and as deep as there, which says the same. -/
def Represents (e : Markup.Element) (es : List Element) : Prop :=
  Element.outlines es = e.elements.flatMap outlines

theorem represents_iff_of_readChildren {e : Markup.Element} {es : List Element}
    (hname : e.name = "layout" ∨ e.name = "macro") (h : readChildren e = .ok es) :
    Represents e es ↔ e.Lossless := by
  have houtlined : List.Forall₂ Outlined e.elements (Element.outlines es) :=
    forall₂_outlines (readAs_of_readNodes h) fun x _ => outlined_of_readAs x
  rw [lossless_iff_of_name (.inr hname)]
  exact (OutlinedAll.of_forall₂ houtlined).eq_iff

end Outlines

section Parts

def ReadAsLayout (e : Markup.Element) (layout : Layout) : Prop := readChildren e = .ok layout.children

theorem readSection_ok {xs : List Markup.Element} {sort sort' : Option SortSpec} {layouts : List Layout}
    (h : readSection sort xs = .ok (sort', layouts)) :
    List.Forall₂ ReadAsLayout (xs.filter (·.name == "layout")) layouts := by
  induction xs generalizing sort layouts with
  | nil =>
    cases h
    exact .nil
  | cons x xs ih =>
    unfold readSection at h
    split at h
    case h_1 hname =>
      obtain ⟨layout, hlayout, h⟩ := bind_ok h
      obtain ⟨⟨sort', rest⟩, hrest, h⟩ := bind_ok h
      cases h
      obtain ⟨rendering, -, hlayout⟩ := bind_ok hlayout
      obtain ⟨children, hchildren, hlayout⟩ := bind_ok hlayout
      cases hlayout
      rw [List.filter_cons_of_pos (by simp [hname])]
      exact .cons hchildren (ih hrest)
    case h_2 hname =>
      obtain ⟨keys, -, h⟩ := bind_ok h
      rw [List.filter_cons_of_neg (by simp [hname])]
      exact ih h
    case h_3 hlayout hsort =>
      rw [List.filter_cons_of_neg (by simpa using hlayout)]
      exact ih h

theorem readCitation_ok {e : Markup.Element} {citation : CitationSection}
    (h : readCitation e = .ok citation) :
    List.Forall₂ ReadAsLayout (e.named "layout") citation.layouts ∧ citation.layouts ≠ [] := by
  obtain ⟨options, -, h⟩ := bind_ok h
  obtain ⟨⟨sort, layouts⟩, hlayouts, h⟩ := bind_ok h
  dsimp only at h
  split at h
  · cases h
  · next hsome =>
    obtain ⟨names, -, h⟩ := bind_ok h
    cases h
    exact ⟨readSection_ok hlayouts, by simpa using hsome⟩

theorem readBibliography_ok {e : Markup.Element} {bibliography : BibliographySection}
    (h : readBibliography e = .ok bibliography) :
    List.Forall₂ ReadAsLayout (e.named "layout") bibliography.layouts ∧ bibliography.layouts ≠ [] := by
  obtain ⟨options, -, h⟩ := bind_ok h
  obtain ⟨⟨sort, layouts⟩, hlayouts, h⟩ := bind_ok h
  dsimp only at h
  split at h
  · cases h
  · next hsome =>
    obtain ⟨names, -, h⟩ := bind_ok h
    cases h
    exact ⟨readSection_ok hlayouts, by simpa using hsome⟩

theorem attribute?_of_required {e : Markup.Element} {key value : String}
    (h : e.required key = .ok value) : e.attribute? key = some value := by
  unfold Markup.Element.required at h
  split at h
  next hvalue =>
    cases h
    exact hvalue
  next => cases h

structure ReadParts (xs : List Markup.Element) (before after : StyleParts) : Prop where
  citation : LastRead (readCitation · = .ok ·) (xs.filter (·.name == "citation")) before.citation
    after.citation
  bibliography : LastRead (readBibliography · = .ok ·) (xs.filter (·.name == "bibliography"))
    before.bibliography after.bibliography
  macros : ∀ name, LastRead (readChildren · = .ok ·)
    (xs.filter fun e => e.name == "macro" && e.attribute? "name" == some name)
    (before.macros.get? name) (after.macros.get? name)

theorem ReadParts.cons {x : Markup.Element} {xs : List Markup.Element} {before read after : StyleParts}
    (hread : readStylePart before x = .ok read) (h : ReadParts xs read after) :
    ReadParts (x :: xs) before after := by
  obtain ⟨hcitation, hbibliography, hmacros⟩ := h
  unfold readStylePart at hread
  split at hread
  case h_1 hname =>
    cases hread
    constructor <;> simpa [List.filter_cons, hname]
  case h_2 hname =>
    obtain ⟨block, -, hread⟩ := bind_ok hread
    cases hread
    constructor <;> simpa [List.filter_cons, hname]
  case h_3 hname =>
    obtain ⟨own, hown, hread⟩ := bind_ok hread
    obtain ⟨body, hbody, hread⟩ := bind_ok hread
    cases hread
    have hattribute := attribute?_of_required hown
    refine ⟨by simpa [List.filter_cons, hname], by simpa [List.filter_cons, hname], fun name => ?_⟩
    have hmacro := hmacros name
    rw [Table.get?_put] at hmacro
    by_cases heq : own = name
    · rw [List.filter_cons_of_pos (by simp [hname, hattribute, heq])]
      exact .cons hbody (by simpa [heq] using hmacro)
    · rw [List.filter_cons_of_neg (by simp [hname, hattribute, heq])]
      simpa [Ne.symm heq] using hmacro
  case h_4 hname =>
    obtain ⟨citation, hsection, hread⟩ := bind_ok hread
    cases hread
    refine ⟨?_, by simpa [List.filter_cons, hname], by simpa [List.filter_cons, hname]⟩
    rw [List.filter_cons_of_pos (by simp [hname])]
    exact .cons hsection hcitation
  case h_5 hname =>
    obtain ⟨bibliography, hsection, hread⟩ := bind_ok hread
    cases hread
    refine ⟨by simpa [List.filter_cons, hname], ?_, by simpa [List.filter_cons, hname]⟩
    rw [List.filter_cons_of_pos (by simp [hname])]
    exact .cons hsection hbibliography
  case h_6 hinfo hlocale hmacro hcitation' hbibliography' =>
    cases hread
    refine ⟨?_, ?_, fun name => ?_⟩
    · rwa [List.filter_cons_of_neg (by simpa using hcitation')]
    · rwa [List.filter_cons_of_neg (by simpa using hbibliography')]
    · have hne : x.name ≠ "macro" := hmacro
      rw [List.filter_cons_of_neg (by simp [hne])]
      exact hmacros name

theorem readParts_of_foldlM {xs : List Markup.Element} {parts parts' : StyleParts}
    (h : xs.foldlM readStylePart parts = .ok parts') : ReadParts xs parts parts' := by
  induction xs generalizing parts with
  | nil =>
    cases h
    exact ⟨rfl, rfl, fun _ => rfl⟩
  | cons x xs ih =>
    rw [List.foldlM_cons] at h
    obtain ⟨read, hread, h⟩ := bind_ok h
    exact (ih h).cons hread

theorem root_of_parse {source : String} {style : Style} (h : Style.parse source = .ok style) :
    ∃ root, Markup.Element.parse source = .ok root ∧ readStyle root = .ok style := by
  obtain ⟨root, hroot, h⟩ := bind_ok h
  refine ⟨root, ?_, h⟩
  unfold parseRoot at hroot
  split at hroot
  · cases hroot
  · split at hroot
    · cases hroot
      assumption
    · cases hroot

theorem readStyle_ok {root : Markup.Element} {style : Style} (h : readStyle root = .ok style) :
    ∃ parts, ReadParts root.elements {} parts ∧ parts.citation = some style.citation ∧
      parts.bibliography = style.bibliography ∧ parts.macros = style.macros := by
  obtain ⟨styleClass, -, h⟩ := bind_ok h
  obtain ⟨names, -, h⟩ := bind_ok h
  obtain ⟨demote, -, h⟩ := bind_ok h
  obtain ⟨hyphen, -, h⟩ := bind_ok h
  obtain ⟨pageRangeFormat, -, h⟩ := bind_ok h
  obtain ⟨parts, hparts, h⟩ := bind_ok h
  split at h
  next citation hcitation =>
    cases h
    exact ⟨parts, readParts_of_foldlM hparts, hcitation, rfl, rfl⟩
  next => cases h

end Parts

namespace Markup.Element

def layouts (root : Element) : List Element :=
  ((root.named "citation").getLast?.toList ++ (root.named "bibliography").getLast?.toList).flatMap
    (·.named "layout")

def lastMacro? (root : Element) (name : String) : Option Element :=
  (root.elements.filter fun e => e.name == "macro" && e.attribute? "name" == some name).getLast?

theorem name_of_mem_layouts {root e : Element} (h : e ∈ root.layouts) : e.name = "layout" := by
  obtain ⟨part, -, he⟩ := List.mem_flatMap.mp h
  exact (mem_named.mp he).2

end Markup.Element

/-- The layouts of an accepted style are read from the last citation and the last bibliography, a macro
from the last one with its name. Each stands for the content there exactly if nothing is passed over. -/
theorem Style.represents_iff_lossless {source : String} {style : Style}
    (h : Style.parse source = .ok style) :
    ∃ root, Markup.Element.parse source = .ok root ∧
      List.Forall₂ (fun e layout => Represents e layout.children ↔ e.Lossless) root.layouts
        style.layouts ∧
      ∀ name, Option.Rel (fun e body => Represents e body ↔ e.Lossless) (root.lastMacro? name)
        (style.macros.get? name) := by
  obtain ⟨root, hroot, hstyle⟩ := root_of_parse h
  obtain ⟨parts, ⟨hcitation, hbibliography, hmacros⟩, hfirst, hsecond, hbodies⟩ := readStyle_ok hstyle
  refine ⟨root, hroot, ?_, fun name => ?_⟩
  · have hcitations := hcitation.forall₂
    rw [hfirst] at hcitations
    have hbibliographies := hbibliography.forall₂
    rw [hsecond] at hbibliographies
    have hlayouts : style.layouts = [style.citation].flatMap (·.layouts) ++
        style.bibliography.toList.flatMap (·.layouts) := by
      rw [Style.layouts, List.flatMap_singleton]
      cases style.bibliography <;> simp
    have hread : List.Forall₂ ReadAsLayout root.layouts style.layouts := by
      rw [hlayouts, Markup.Element.layouts, List.flatMap_append]
      exact List.rel_append (List.rel_flatMap hcitations fun _ _ h => (readCitation_ok h).1)
        (List.rel_flatMap hbibliographies fun _ _ h => (readBibliography_ok h).1)
    have hnames : ∀ e ∈ root.layouts, e.name = "layout" := fun e => Markup.Element.name_of_mem_layouts
    refine ((List.forall₂_and_left _ _).mpr ⟨hnames, hread⟩).imp fun e layout he => ?_
    exact represents_iff_of_readChildren (.inl he.1) he.2
  · rw [← hbodies]
    refine (hmacros name).rel fun e he body hbody => represents_iff_of_readChildren (.inr ?_) hbody
    have hname := (List.mem_filter.mp he).2
    simp at hname
    exact hname.1

def oneCondition : String :=
  "<style class=\"in-text\"><macro name=\"own\"><group><text variable=\"title\"/></group></macro>" ++
    "<citation><layout><choose><if type=\"book\"><text macro=\"own\"/></if>" ++
      "<else><date variable=\"issued\"/></else></choose></layout></citation></style>"

theorem represents_iff_lossless_of_oneCondition :
    ∃ style, Style.parse oneCondition = .ok style ∧
      ∃ root, Markup.Element.parse oneCondition = .ok root ∧
        List.Forall₂ (fun e layout => Represents e layout.children ↔ e.Lossless) root.layouts
          style.layouts ∧
        ∀ name, Option.Rel (fun e body => Represents e body ↔ e.Lossless) (root.lastMacro? name)
          (style.macros.get? name) := by
  have hparse : (Style.parse oneCondition).toOption.isSome = true := by decide +kernel
  cases hstyle : Style.parse oneCondition with
  | ok style => exact ⟨style, rfl, Style.represents_iff_lossless hstyle⟩
  | error cause =>
    rw [hstyle] at hparse
    cases hparse

def twoConditions : String :=
  "<style class=\"in-text\"><citation><layout><choose>" ++
    "<if type=\"book\"><text variable=\"title\"/></if><if type=\"article\"><text value=\"x\"/></if>" ++
      "</choose></layout></citation></style>"

theorem not_represents_twoConditions :
    ∃ root style e layout, Markup.Element.parse twoConditions = .ok root ∧
      Style.parse twoConditions = .ok style ∧ root.layouts = [e] ∧ style.layouts = [layout] ∧
        ¬ Represents e layout.children := by
  -- How many branches the choose element has in the markup and in the style.
  let inMarkup (e : Markup.Element) : List Nat :=
    (e.elements.flatMap Markup.Element.outlines).map (·.inside.length)
  let inStyle (layout : Layout) : List Nat := (Element.outlines layout.children).map (·.inside.length)
  have hcounts : (do
      let root ← (Markup.Element.parse twoConditions).toOption
      let style ← (Style.parse twoConditions).toOption
      pure (root.layouts.map inMarkup, style.layouts.map inStyle)) = some ([[2]], [[1]]) := by
    decide +kernel
  cases hroot : Markup.Element.parse twoConditions with
  | error cause =>
    rw [hroot] at hcounts
    cases hcounts
  | ok root =>
    cases hstyle : Style.parse twoConditions with
    | error cause =>
      rw [hroot, hstyle] at hcounts
      cases hcounts
    | ok style =>
      rw [hroot, hstyle] at hcounts
      obtain ⟨hmarkup, hread⟩ := Prod.mk.inj (Option.some.inj hcounts)
      obtain ⟨e, he, htwo⟩ := List.map_eq_singleton_iff.mp hmarkup
      obtain ⟨layout, hlayout, hone⟩ := List.map_eq_singleton_iff.mp hread
      refine ⟨root, style, e, layout, rfl, rfl, he, hlayout, fun h => ?_⟩
      have hsame : inStyle layout = inMarkup e := congrArg (List.map (·.inside.length)) h
      rw [hone, htwo] at hsame
      cases hsame

end Citeproc
