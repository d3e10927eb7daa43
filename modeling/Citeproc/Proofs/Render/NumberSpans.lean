import Citeproc.Proofs.Output.Unnumbered
import Citeproc.Proofs.Render.Spans
import Citeproc.Proofs.Sample

namespace Citeproc

open RenderState

def Element.isText : Element → Bool
  | text _ => true
  | _ => false

namespace Renderer

variable {r : Renderer} {ctx : RenderContext} {v : Visit} {n : Nat} {o : Output}

theorem outputs_of_shows (hn : ctx.citationNumber = some n)
    (hshows : v.element.shows "citation-number" = true) (ho : o ∈ (r.outcome ctx v).outputs)
    (hempty : o.isEmpty = false) :
    if v.element.isText then ∃ child, o = .tagged (.citationNumber n) child else o.tags = [] := by
  obtain ⟨s, element⟩ := v
  cases element with
  | text e =>
    rw [outcome, renderParts] at ho
    obtain ⟨source, rendering⟩ := e
    cases source with
    | var name form =>
      obtain rfl : name = "citation-number" := eq_of_beq hshows
      obtain rfl := List.mem_singleton.mp ho
      simp only [renderText, markNumber, hn, Output.withTag] at hempty ⊢
      split at hempty
      · cases hempty
      · next hshown =>
        rw [if_neg hshown]
        exact ⟨_, rfl⟩
    | _ => cases hshows
  | number e =>
    rw [outcome, renderParts] at ho
    obtain rfl := List.mem_singleton.mp ho
    exact tags_renderNumber s e
  | _ => cases hshows

theorem marked_iff_isText (hn : ctx.citationNumber = some n)
    (hshows : v.element.shows "citation-number" = true) :
    ∀ o ∈ (r.outcome ctx v).outputs, o.isEmpty = false →
      ((∃ child, o = .tagged (.citationNumber n) child) ↔ v.element.isText = true) ∧
      o.citationNumber? = (if v.element.isText then some n else none) ∧
      o.withoutCitationNumber.plain = if v.element.isText then "" else o.plain := by
  intro o ho hempty
  have hout := outputs_of_shows hn hshows ho hempty
  cases htext : v.element.isText with
  | true =>
    rw [htext] at hout
    obtain ⟨child, rfl⟩ := hout
    exact ⟨⟨fun _ => rfl, fun _ => ⟨child, rfl⟩⟩, rfl, rfl⟩
  | false =>
    replace hout : o.tags = [] := by simpa [htext] using hout
    have hnumber : ∀ k, .citationNumber k ∉ o.tags := by simp [hout]
    refine ⟨⟨?_, fun h => nomatch h⟩, ?_, Output.plain_withoutCitationNumber hnumber⟩
    · rintro ⟨child, rfl⟩
      cases hout
    · rw [Output.citationNumber?, Output.findTag?_eq_none (by simp [hout])]
      rfl

theorem shows_of_mem_marks (hcall : v.macro? = none) (h : .citationNumber n ∈ v.marks r ctx) :
    ctx.citationNumber = some n ∧ v.element.isText = true ∧
      v.element.shows "citation-number" = true := by
  obtain ⟨s, element⟩ := v
  cases element with
  | text e =>
    replace hcall : e.macro? = none := hcall
    simp only [Visit.marks, hcall, Option.elim_none] at h
    obtain ⟨var, hvar, hshown, hnumber⟩ := mem_tags_renderText hcall h
    obtain rfl := Option.some.inj hvar
    exact ⟨hnumber n rfl, rfl, hshown⟩
  | date e => exact absurd (mem_tags_renderDate e _ h).1 Bool.false_ne_true
  | names e substitute => simp [Visit.marks] at h
  | number _ | label _ | group _ _ | choose _ _ => cases h

theorem shown_of_mem_tags (hn : ctx.citationNumber = some n) (layout : Layout) {k : Nat}
    (hk : .citationNumber k ∈ (r.renderLayout layout ctx).tags) :
    k = n ∧ ∃ v ∈ r.layoutVisits layout ctx,
      v.element.isText = true ∧ v.element.shows "citation-number" = true := by
  have hfields : .citationNumber k ∈ (r.collectLayout layout ctx).tags :=
    (Output.tags_ofList_sublist _).subset hk
  let P (tag : Tag) : Prop := tag = .citationNumber k →
    k = n ∧ ∃ v ∈ r.layoutVisits layout ctx,
      v.element.isText = true ∧ v.element.shows "citation-number" = true
  refine (renders_layout r layout ctx).forall_tags (P := P) ?_ _ hfields rfl
  rintro v hv hcall _ htag rfl
  obtain ⟨hk, hshown⟩ := shows_of_mem_marks hcall htag
  exact ⟨Option.some.inj (hk.symm.trans hn), v, hv, hshown⟩

/-- Numbers in text elements are seen, and removed, and those in number elements are not. So all
numbers of a render are marked exactly if its number elements show none. No other number than that
of the context is marked, and only where a text element shows it. -/
theorem number_marked_by_text (r : Renderer) {ctx : RenderContext} {n : Nat}
    (hn : ctx.citationNumber = some n) (layout : Layout) :
    ((∀ v ∈ r.layoutVisits layout ctx, v.element.shows "citation-number" = true →
        ∀ o ∈ (r.outcome ctx v).outputs, o.isEmpty = false →
          ∃ child, o = .tagged (.citationNumber n) child) ↔
      ∀ v ∈ r.layoutVisits layout ctx, v.element.shows "citation-number" = true →
        v.element.isText = false → ∀ o ∈ (r.outcome ctx v).outputs, o.isEmpty = true) ∧
    (∀ v ∈ r.layoutVisits layout ctx, v.element.shows "citation-number" = true →
      ∀ o ∈ (r.outcome ctx v).outputs, o.isEmpty = false →
        ((∃ child, o = .tagged (.citationNumber n) child) ↔ v.element.isText = true) ∧
        o.citationNumber? = (if v.element.isText then some n else none) ∧
        o.withoutCitationNumber.plain = if v.element.isText then "" else o.plain) ∧
    ∀ k, .citationNumber k ∈ (r.renderLayout layout ctx).tags →
      k = n ∧ ∃ v ∈ r.layoutVisits layout ctx,
        v.element.isText = true ∧ v.element.shows "citation-number" = true := by
  refine ⟨⟨?_, ?_⟩, fun v _ => marked_iff_isText hn, fun k => shown_of_mem_tags hn layout⟩
  · intro hmarked v hv hshows htext o ho
    by_contra hempty
    rw [Bool.not_eq_true] at hempty
    have hiff := (marked_iff_isText hn hshows o ho hempty).1
    rw [htext] at hiff
    exact Bool.false_ne_true (hiff.mp (hmarked v hv hshows o ho hempty))
  · intro hnone v hv hshows o ho hempty
    apply (marked_iff_isText hn hshows o ho hempty).1.mpr
    by_contra htext
    rw [Bool.not_eq_true] at htext
    simp [hnone v hv hshows htext o ho] at hempty

theorem number_marked_by_text_of_both :
    let number : Element := .number { var := "citation-number", form := .numeric, rendering := {} }
    let layout := Layout.ofElements [.ofSource (.var "citation-number" .long), number]
    let r : Renderer := { style := .citing layout.children, locale := {} }
    let ctx :=
      { RenderContext.citation { id := "a", type := "book" } none with citationNumber := some 3 }
    (r.renderLayout layout ctx).plain = "33" ∧
      ∀ text ∈ [true, false], ∃ v ∈ r.layoutVisits layout ctx, v.element.isText = text ∧
        ∃ o ∈ (r.outcome ctx v).outputs, o.plain = "3" ∧
          o.citationNumber? = (if text then some 3 else none) ∧
          o.withoutCitationNumber.plain = if text then "" else "3" := by
  intro number layout r ctx
  have h := (@number_marked_by_text r ctx 3 rfl layout).2.1
  have hshown : ∀ text ∈ [true, false], ∃ v ∈ r.layoutVisits layout ctx, v.element.isText = text ∧
      v.element.shows "citation-number" = true ∧
        ∃ o ∈ (r.outcome ctx v).outputs, o.isEmpty = false ∧ o.plain = "3" := by
    decide +kernel
  refine ⟨by decide, fun text htext => ?_⟩
  obtain ⟨v, hv, rfl, hshows, o, ho, hempty, hplain⟩ := hshown text htext
  obtain ⟨-, hnumber, hremoved⟩ := h v hv hshows o ho hempty
  exact ⟨v, hv, rfl, o, ho, hplain, hnumber, hplain ▸ hremoved⟩

theorem number_unmarked :
    let number : Element := .number { var := "citation-number", form := .numeric, rendering := {} }
    let layout := Layout.ofElements [number]
    let r : Renderer := { style := .citing layout.children, locale := {} }
    let ctx :=
      { RenderContext.citation { id := "a", type := "book" } none with citationNumber := some 3 }
    (r.renderLayout layout ctx).withoutCitationNumber.plain = "3" ∧
      ¬∀ v ∈ r.layoutVisits layout ctx, v.element.shows "citation-number" = true →
        ∀ o ∈ (r.outcome ctx v).outputs, o.isEmpty = false →
          ∃ child, o = .tagged (.citationNumber 3) child := by
  intro number layout r ctx
  refine ⟨by decide, fun h => ?_⟩
  obtain ⟨v, hv, hshows, o, ho, hempty, htags⟩ : ∃ v ∈ r.layoutVisits layout ctx,
      v.element.shows "citation-number" = true ∧
        ∃ o ∈ (r.outcome ctx v).outputs, o.isEmpty = false ∧ o.tags = [] := by
    decide +kernel
  obtain ⟨child, rfl⟩ := h v hv hshows o ho hempty
  cases htags

end Renderer

end Citeproc
