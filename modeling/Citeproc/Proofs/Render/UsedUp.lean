import Citeproc.Proofs.Render.Growth

namespace Citeproc

def Element.var? : Element → Option String
  | .text e =>
    match e.source with
    | .var name _ => some name
    | _ => none
  | .date e => some e.var
  | .number e => some e.var
  | .label e => if e.var == "locator" then none else some e.var
  | _ => none

def RenderState.ShowsUnused (s t : RenderState) : Prop :=
  s.suppressed <+: t.suppressed ∧ s.rendered <+: t.rendered ∧
    ∀ var ∈ t.rendered.drop s.rendered.length, var ∉ s.suppressed

instance (s t : RenderState) : Decidable (s.ShowsUnused t) :=
  inferInstanceAs (Decidable (_ ∧ _ ∧ _))

def Renderer.moments (r : Renderer) (layout : Layout) (ctx : RenderContext) : List RenderState :=
  (r.layoutVisits layout ctx).map (·.state) ++ [(r.collectLayout layout ctx).state]

open RenderState

theorem RenderState.Grows.showsUnused {s t : RenderState} (h : Grows True s t) : s.ShowsUnused t := by
  obtain ⟨shown, ht, hshown⟩ := h.rendered
  refine ⟨h.suppressed, ht ▸ List.prefix_append _ _, ?_⟩
  rw [ht, List.drop_left]
  exact hshown trivial

namespace Renderer

variable {r : Renderer} {ctx : RenderContext} {s : RenderState} {v : Visit}

theorem renderVariable_of_suppressed {var : String} (h : var ∈ s.suppressed) (form : VariableForm) :
    (r.renderVariable ctx s var form).output = .null := by
  have hsup : s.isSuppressed var = true := by simpa [isSuppressed] using h
  simp [renderVariable, hsup]

theorem freeValue?_of_suppressed {var : String} (h : var ∈ s.suppressed) :
    freeValue? ctx s var = none := by
  rw [freeValue?, if_pos (by simpa [isSuppressed] using h)]

theorem isEmpty_outcome_of_suppressed {var : String} (hvar : v.element.var? = some var)
    (h : var ∈ v.state.suppressed) : ∀ o ∈ (r.outcome ctx v).outputs, o.isEmpty = true := by
  obtain ⟨s, e⟩ := v
  have one {x : Rendered} (hx : x.output = .null) : ∀ o ∈ (Collected.one x).outputs,
      o.isEmpty = true := by
    simp [Collected.one, hx, Output.isEmpty]
  rw [outcome]
  cases e with
  | text e =>
    obtain ⟨source, rendering⟩ := e
    cases source with
    | var name form =>
      obtain rfl : name = var := Option.some.inj hvar
      rw [renderParts]
      apply one
      have hnull := @renderVariable_of_suppressed r ctx s name h form
      simp only [renderText, hnull, Output.decorate, Output.isEmpty, if_true, markNumber]
      split <;> rfl
    | _ => cases hvar
  | date e =>
    obtain rfl : e.var = var := Option.some.inj hvar
    rw [renderParts]
    apply one
    simp only [renderDate, freeValue?_of_suppressed h]
  | number e =>
    obtain rfl : e.var = var := Option.some.inj hvar
    rw [renderParts]
    apply one
    simp only [renderNumber, freeValue?_of_suppressed h]
  | label e =>
    rw [Element.var?] at hvar
    split at hvar
    · cases hvar
    · next hlocator =>
      obtain rfl := Option.some.inj hvar
      rw [renderParts]
      apply one
      simp only [renderLabel, hlocator, freeValue?_of_suppressed h, Bool.false_eq_true, if_false]
  | _ => cases hvar

theorem exists_rendered_of_clashes (h : v.Clashes ctx) :
    ∃ shown, (r.outcome ctx v).state.rendered = v.state.rendered ++ shown ∧
      ∃ role ∈ shown, role ∈ v.state.suppressed := by
  obtain ⟨e, he, list, hlist, role, hrole, hused⟩ := exists_shown_of_clashes h
  obtain ⟨s, element⟩ := v
  cases element with
  | names e' substitute =>
    obtain rfl : e' = e := Option.some.inj he
    have hlists : (nameLists ctx s e').isEmpty = false := by
      rw [List.isEmpty_eq_false_iff_exists_mem]
      exact ⟨list, hlist⟩
    have hshown : role ∈ (nameLists ctx s e').flatMap fun list => shownRoles list.1 :=
      List.mem_flatMap.mpr ⟨list, hlist, hrole⟩
    refine ⟨_, ?_, role, hshown, hused⟩
    rw [outcome, renderParts_of_names hlists, Collected.one, closeNames, snd_finishNames]
    rfl
  | _ => cases he

/-- From moment to moment nothing is shown that is used up, exactly when no names element clashes. No
other element shows anything for a variable that is used up, and a names element that does not clash
shows no role that is. -/
theorem used_up_not_shown (r : Renderer) (layout : Layout) (ctx : RenderContext) :
    ((r.moments layout ctx).Pairwise ShowsUnused ↔ ∀ v ∈ r.layoutVisits layout ctx, ¬v.Clashes ctx) ∧
      (∀ v ∈ r.layoutVisits layout ctx, ∀ var ∈ v.element.var?, var ∈ v.state.suppressed →
        ∀ o ∈ (r.outcome ctx v).outputs, o.isEmpty = true) ∧
      ∀ v ∈ r.layoutVisits layout ctx, ¬v.Clashes ctx → ∀ e ∈ v.names?,
        ∀ list ∈ nameLists ctx v.state e, ∀ role ∈ shownRoles list.1, role ∉ v.state.suppressed := by
  refine ⟨⟨fun hpairwise v hv hclash => ?_, fun hnone => ?_⟩,
    fun v _ var hvar hused => isEmpty_outcome_of_suppressed hvar hused, fun v _ hclash e he => ?_⟩
  · have htracked := r.tracked_layout layout ctx (False.elim : False → _)
    obtain ⟨shown, hout, role, hrole, hused⟩ := @exists_rendered_of_clashes r _ _ hclash
    obtain ⟨more, hend, -⟩ := (htracked.passes v hv).after.rendered
    have hlast := (List.pairwise_append.mp hpairwise).2.2 v.state (List.mem_map_of_mem hv) _
      List.mem_cons_self
    rw [ShowsUnused, hend, hout, List.append_assoc, List.drop_left] at hlast
    exact hlast.2.2 role (List.mem_append_left _ hrole) hused
  · have htracked := r.tracked_layout layout ctx fun (_ : True) => hnone
    refine List.pairwise_append.mpr ⟨?_, List.pairwise_singleton _ _, fun s hs t ht => ?_⟩
    · exact List.pairwise_map.mpr (htracked.ordered.imp fun h => h.showsUnused)
    · obtain ⟨v, hv, rfl⟩ := List.mem_map.mp hs
      have hv := htracked.passes v hv
      rw [List.mem_singleton.mp ht]
      exact (hv.during.trans hv.after).showsUnused
  · obtain ⟨s, element⟩ := v
    cases element with
    | names e' substitute =>
      obtain rfl : e' = e := Option.some.inj he
      exact fun list hlist role hrole => notMem_suppressed_of_nameLists hlist hclash hrole
    | _ => cases he

theorem used_up_shown_again :
    let both := NamesElement.ofRole "editortranslator"
    let layout := Layout.ofElements
      [.names (.ofRole "author") (some [.names both none]), .names both none]
    let r : Renderer := { style := .citing layout.children, locale := {} }
    let ctx := RenderContext.citation
      { id := "a", type := "book", names := [("editortranslator", [.ofLiteral "Doe"])] } none
    (r.renderLayout layout ctx).plain = "DoeDoe" ∧ ¬(r.moments layout ctx).Pairwise ShowsUnused := by
  decide +kernel

end Renderer

end Citeproc
