import Citeproc.Names.List
import Citeproc.Proofs.Output.Tags
import Citeproc.Render.Leaf

namespace Citeproc

namespace NameFormatter

variable (f : NameFormatter)

@[simp] theorem tags_part (which : NamePartName) (value : Output) :
    (f.part which value).tags = value.tags := by
  rw [part]
  split
  · exact value.tags_decorate _
  · rfl

@[simp] theorem tags_renderName (n : Name) (index : Nat) : (f.renderName n index).tags = [] := by
  rw [renderName]
  split
  · simp
  · rw [renderPerson]
    dsimp only
    split
    · simp
    · split <;> simp [Output.tags_join_eq_nil]

theorem tags_joinWithAnd {rendered : List Output} (h : ∀ o ∈ rendered, o.tags = []) (inverted : Bool) :
    (f.joinWithAnd rendered inverted).tags = [] := by
  rw [joinWithAnd]
  split
  · next word last hword hlast =>
    split
    · exact Output.tags_join_eq_nil h _
    · apply Output.tags_ofList_eq_nil
      simp only [List.forall_mem_cons, Output.tags_ofText, true_and]
      refine ⟨Output.tags_join_eq_nil (fun o ho => h o (List.mem_of_mem_dropLast ho)) _,
        h last (List.mem_of_getLast? hlast), by simp⟩
  · exact Output.tags_join_eq_nil h _

theorem tags_withHidden (names : List Name) (shown : Nat) {head : Output} (h : head.tags = []) :
    (f.withHidden names shown head).tags = [] := by
  have hetAl (term : String) :
      (f.etAl.elim (Output.ofText term) ((Output.ofText term).decorate ·.rendering)).tags = [] := by
    cases f.etAl <;> simp
  rw [withHidden]
  repeat' split
  all_goals simp [h, hetAl, Output.tags_ofList_eq_nil]

@[simp] theorem tags_personList (names : List Name) : (f.personList names).tags = [] := by
  have hnames (names : List Name) : ∀ o ∈ f.renderNames names, o.tags = [] := by
    simp only [renderNames, List.forall_mem_map, tags_renderName, implies_true]
  rw [personList]
  dsimp only
  split
  · rfl
  · split
    · exact f.tags_joinWithAnd (hnames _) _
    · exact f.tags_withHidden _ _ (Output.tags_join_eq_nil (hnames _) _)

@[simp] theorem tags_institutionList (e : InstitutionElement) (names : List Name) :
    (f.institutionList e names).tags = [] := by
  have hgroup (group : List Name × Name) :
      (if group.1.isEmpty then renderInstitution e group.2
        else .join [f.personList group.1, renderInstitution e group.2] ", ").tags = [] := by
    split <;> simp [renderInstitution, Output.tags_join_eq_nil]
  rw [institutionList]
  dsimp only
  split
  · exact tags_joinWithAnd _ (List.forall_mem_map.mpr fun group _ => hgroup group) false
  · apply Output.tags_ofList_eq_nil
    simp only [List.forall_mem_cons, tags_personList, Output.tags_ofText, true_and]
    exact ⟨tags_joinWithAnd _ (List.forall_mem_map.mpr fun group _ => hgroup group) false, by simp⟩

@[simp] theorem tags_formatKept (names : List Name) : (f.formatKept names).tags = [] := by
  rw [formatKept]
  split
  · rfl
  · split
    · exact Output.tags_ofText _
    · cases f.name <;> cases f.institution <;> simp [apply_ite Output.tags]

@[simp] theorem tags_format (names : List Name) : (f.format names).tags = [] := by
  rw [format]
  split
  · exact f.tags_formatKept names
  · simp [apply_ite Output.tags, countText]

end NameFormatter

namespace Renderer

variable (r : Renderer)

@[simp] theorem tags_termLabel (e : LabelElement) (term : String) (many : Bool) :
    (r.termLabel e term many).tags = [] := by
  rw [termLabel]
  cases r.locale.term? term e.form (PluralRule.holds e.plural many) <;> simp

@[simp] theorem tags_renderLabel (ctx : RenderContext) (st : RenderState) (e : LabelElement) :
    (r.renderLabel ctx st e).tags = [] := by
  rw [renderLabel]
  repeat' split
  all_goals simp

@[simp] theorem tags_renderLists (f : NameFormatter) (e : NamesElement)
    (lists : List (String × List Name)) : (r.renderLists f e lists).tags = [] := by
  have hlist (role : String) (names : List Name) : (r.renderList f e role names).tags = [] := by
    have hlabel : (e.label.elim Output.null fun label =>
        r.termLabel label role (1 < names.length)).tags = [] := by
      cases e.label <;> simp
    simp [renderList, apply_ite Output.tags, Output.tags_ofList_eq_nil, hlabel]
  rw [renderLists]
  split
  · simp [apply_ite Output.tags]
  · apply Output.tags_join_eq_nil
    simp only [List.forall_mem_map, hlist, implies_true]

end Renderer

end Citeproc
