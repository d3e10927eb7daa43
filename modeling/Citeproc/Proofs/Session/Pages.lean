import Citeproc.Proofs.Disambiguation.Cited
import Citeproc.Proofs.Render.Pages
import Citeproc.Session.Pages

namespace Citeproc

variable {pages : String}

theorem RenderContext.lookup?_of_value? {ctx : RenderContext} (hitem : ctx.item = none)
    (h : ctx.value? "page" = some pages ∨ ctx.value? "locator" = some pages) :
    ctx.entry.lookup? "page" = some pages := by
  rcases h with h | h
  · exact h
  · simp [RenderContext.value?, hitem] at h

theorem Renderer.lookup?_of_mem_firstCitePages {r : Renderer} {e : Entry}
    {state : DisambiguationState} (h : pages ∈ r.firstCitePages e state) :
    e.lookup? "page" = some pages := by
  rw [firstCitePages] at h
  cases hlayout : r.citationLayout? e with
  | none => simp [hlayout] at h
  | some layout =>
    rw [hlayout] at h
    exact RenderContext.lookup?_of_value? rfl (Visit.value?_of_mem_pages h)

theorem Listing.exists_of_mem_pages {r : Renderer} {b : Bibliography} {citations : List Citation}
    {includeUncited : Bool} (h : pages ∈ Listing.pages r b citations includeUncited) :
    ∃ id ∈ registered b citations includeUncited, ∃ e, b.get? id = some e ∧
      e.lookup? "page" = some pages := by
  have hsome : ∀ e ∈ (registered b citations includeUncited).filterMap (Table.get? b),
      e.lookup? "page" = some pages →
        ∃ id ∈ registered b citations includeUncited, ∃ e, Table.get? b id = some e ∧
          e.lookup? "page" = some pages := by
    intro e he hpages
    obtain ⟨id, hid, hget⟩ := List.mem_filterMap.mp he
    exact ⟨id, hid, e, hget, hpages⟩
  rcases List.mem_append.mp h with hsort | hcite
  · cases hkeys : r.style.effectiveSort? with
    | none => simp [hkeys] at hsort
    | some keys =>
      rw [hkeys] at hsort
      obtain ⟨e, he, hpages⟩ := List.mem_flatMap.mp hsort
      exact hsome e he (RenderContext.lookup?_of_value? rfl (Renderer.value?_of_mem_sortPages hpages))
  · obtain ⟨cite, hcite, hpages⟩ := List.mem_flatMap.mp hcite
    have he := (sorted_perm r b _).mem_iff.mp (Renderer.mem_of_mem_disambiguationCites hcite)
    exact hsome cite.1 he (Renderer.lookup?_of_mem_firstCitePages hpages)

namespace Session

/-- Nothing but the pages of an entry that it lists keeps a session from its listing. -/
theorem listed?_of_pages (s : Session)
    (h : ∀ id ∈ Listing.registered s.bibliography s.citations s.options.includeUncited,
      ∀ e, s.bibliography.get? id = some e → ∀ pages, e.lookup? "page" = some pages →
        (s.renderer.formatPages? pages).isSome) :
    s.listed? = some s := by
  rw [listed?, if_pos]
  refine List.all_eq_true.mpr fun pages hpages => ?_
  obtain ⟨id, hid, e, hget, hpages⟩ := Listing.exists_of_mem_pages hpages
  exact h id hid e hget pages hpages

end Session

end Citeproc
