import Citeproc.Render.Pages

namespace Citeproc

variable {ctx : RenderContext} {pages : String}

theorem RenderContext.cases_of_pages? {var : String} (h : ctx.pages? var = some pages) :
    (var = "page" ∧ ctx.value? "page" = some pages) ∨
      (var = "locator" ∧ ctx.locatorLabel? = some "page" ∧ ctx.value? "locator" = some pages) := by
  unfold RenderContext.pages? at h
  split at h
  · exact .inl ⟨rfl, h⟩
  · obtain ⟨hlabel, hvalue⟩ := Option.ite_none_right_eq_some.mp h
    exact .inr ⟨rfl, beq_iff_eq.mp hlabel, hvalue⟩
  · cases h

theorem Visit.exists_of_pages? {v : Visit} (h : v.pages? ctx = some pages) :
    ∃ e var form, v.element = .text e ∧ e.source = .var var form ∧
      v.state.isSuppressed var = false ∧ ctx.pages? var = some pages := by
  rw [Visit.pages?] at h
  split at h
  · next e helement =>
    split at h
    · next var form hsource =>
      split at h
      · cases h
      · next hfree => exact ⟨e, var, form, helement, hsource, by simpa using hfree, h⟩
    · cases h
  · cases h

theorem Visit.value?_of_mem_pages {visits : List Visit}
    (h : pages ∈ visits.filterMap (Visit.pages? ctx)) :
    ctx.value? "page" = some pages ∨ ctx.value? "locator" = some pages := by
  obtain ⟨v, -, hv⟩ := List.mem_filterMap.mp h
  obtain ⟨-, var, -, -, -, -, hpages⟩ := Visit.exists_of_pages? hv
  exact (RenderContext.cases_of_pages? hpages).imp (·.2) (·.2.2)

namespace Renderer

variable {r : Renderer}

theorem variableText_of_pages? {var text : String} (hpages : ctx.pages? var = some pages)
    (htext : r.formatPages? pages = some text) (form : VariableForm) :
    r.variableText ctx var form = .ofText text := by
  have hrange : r.pageRange pages = text := by rw [pageRange, htext, Option.getD_some]
  obtain ⟨rfl, hvalue⟩ | ⟨rfl, hlabel, hvalue⟩ := RenderContext.cases_of_pages? hpages
  · simp [variableText, hvalue, hrange]
  · simp [variableText, hvalue, hlabel, hrange]

theorem value?_of_mem_sortPages {keys : SortSpec} (h : pages ∈ r.sortPages keys ctx) :
    ctx.value? "page" = some pages ∨ ctx.value? "locator" = some pages := by
  obtain ⟨key, -, hkey⟩ := List.mem_flatMap.mp h
  rw [sortKeyPages] at hkey
  split at hkey
  · exact Visit.value?_of_mem_pages hkey
  · cases hkey

/-- Where a render gets past all its pages, each text element for pages shows just what they are
formatted as. -/
theorem shown_of_formatsAll {layout : Layout}
    (h : r.formatsAll (r.layoutPages layout ctx) = true) {v : Visit}
    (hv : v ∈ r.layoutVisits layout ctx) (hpages : v.pages? ctx = some pages) :
    ∃ e text, v.element = .text e ∧ r.formatPages? pages = some text ∧
      ∀ expand, (r.renderText expand ctx v.state e).output =
        (Output.ofText text).decorate e.rendering := by
  obtain ⟨e, var, form, helement, hsource, hfree, hvar⟩ := Visit.exists_of_pages? hpages
  obtain ⟨text, htext⟩ := Option.isSome_iff_exists.mp
    (List.all_eq_true.mp h pages (List.mem_filterMap.mpr ⟨v, hv, hpages⟩))
  have hcontent := variableText_of_pages? hvar htext form
  refine ⟨e, text, helement, htext, fun expand => ?_⟩
  simp only [renderText, hsource, renderVariable, hfree, hcontent]
  obtain ⟨rfl, -⟩ | ⟨rfl, -, -⟩ := RenderContext.cases_of_pages? hvar <;> rfl

end Renderer

end Citeproc
