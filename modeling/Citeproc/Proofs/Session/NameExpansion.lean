import Citeproc.Proofs.Disambiguation.Remaining
import Citeproc.Proofs.Render.States
import Citeproc.Proofs.Sample
import Citeproc.Session.Cites
import Citeproc.Session.References

namespace Citeproc

open RenderContext

def DisambiguationState.SameButNames (s t : DisambiguationState) : Prop :=
  s.yearSuffix = t.yearSuffix ∧ s.condition = t.condition

variable {ctx : RenderContext} {s t : DisambiguationState}

theorem DisambiguationState.SameButNames.overlooks (h : s.SameButNames t) (hctx : ¬ctx.ExpandsNames)
    (m : Bool) : (ctx.withState t).Overlooks s m where
  yearSuffix := h.1
  names hexpands := absurd hexpands hctx
  condition _ := h.2

namespace Renderer

variable (r : Renderer)

theorem collectLayout_sameButNames (h : s.SameButNames t) (hctx : ¬ctx.ExpandsNames)
    (layout : Layout) :
    r.collectLayout layout (ctx.withState s) = r.collectLayout layout (ctx.withState t) := by
  have hlayout := r.collectLayout_withState layout (h.overlooks hctx _)
  exact hlayout

theorem renderSortKey_sameButNames (h : s.SameButNames t) (key : SortKey) :
    r.renderSortKey key (ctx.withState s) = r.renderSortKey key (ctx.withState t) := by
  have hctx : ¬({ ctx with sortKey := some key } : RenderContext).ExpandsNames := by
    rintro ⟨-, hnone⟩
    cases hnone
  cases hsource : key.source with
  | macroCall name =>
    have hexpand := r.expandMacro_withState (h.overlooks hctx _) maxMacroDepth
    simp only [renderSortKey, hsource]
    exact congrArg (fun expand => Output.plain (Rendered.output (expand {} name))) hexpand
  | var name =>
    have hvar := r.sortVariable_withState (h.overlooks hctx false) name
    simp only [renderSortKey, hsource]
    exact hvar

theorem sortItems_sameButNames {α : Type} (keys : SortSpec) (context : α → RenderContext)
    {states states' : α → DisambiguationState}
    (h : ∀ item, (states item).SameButNames (states' item)) (items : List α) :
    r.sortItems keys (fun item => (context item).withState (states item)) items =
      r.sortItems keys (fun item => (context item).withState (states' item)) items := by
  have htexts (item : α) : r.sortTexts keys ((context item).withState (states item)) =
      r.sortTexts keys ((context item).withState (states' item)) := by
    rw [sortTexts, sortTexts]
    refine List.map_congr_left fun key _ => ?_
    rw [r.renderSortKey_sameButNames (h item)]
  simp only [sortItems, htexts]

end Renderer

namespace Session

def withStates (s : Session) (states : States) : Session :=
  { s with listing := { s.listing with states } }

variable (s : Session) {states : States}
  (h : ∀ id, (states.of id).SameButNames (s.listing.states.of id))
include h

theorem sortCites_withStates (cites : List PlacedCite) :
    (s.withStates states).sortCites cites = s.sortCites cites := by
  cases hsort : s.style.citation.sort with
  | none =>
    have hsort' : (s.withStates states).style.citation.sort = none := hsort
    simp only [sortCites, hsort, hsort']
  | some keys =>
    have hsort' : (s.withStates states).style.citation.sort = some keys := hsort
    simp only [sortCites, hsort, hsort']
    have hknown := s.renderer.sortItems_sameButNames keys
      (fun cite : PlacedCite × Entry => s.citeContext cite.2 cite.1.item cite.1.placement)
      (fun cite => h cite.2.id) (cites.filterMap fun cite => cite.entry.map (cite, ·))
    exact congrArg (fun known => known.map (·.1) ++ cites.filter (·.entry.isNone)) hknown

theorem renderEntry_withStates (layout : Layout) (e : Entry) (substitute : Option String) :
    (s.withStates states).renderEntry layout e substitute = s.renderEntry layout e substitute := by
  let ctx : RenderContext :=
    { RenderContext.bibliography e with
      citationNumber := s.citationNumber? e.id, authorSubstitute := substitute }
  have hctx : ¬ctx.ExpandsNames := by
    rintro ⟨hcites, -⟩
    cases hcites
  have hfields : s.renderer.renderLayoutFields layout (ctx.withState (states.of e.id)) =
      s.renderer.renderLayoutFields layout (ctx.withState (s.listing.states.of e.id)) := by
    rw [Renderer.renderLayoutFields, s.renderer.collectLayout_sameButNames (h e.id) hctx]
    rfl
  exact congrArg (fun fields : List Output =>
    if s.style.bibliography.any (·.options.secondFieldAlign.isSome) then alignFields fields
    else .ofList fields) hfields

theorem renderReferences_withStates (substitute previous : Option String) (ids : List String) :
    (s.withStates states).renderReferences substitute previous ids =
      s.renderReferences substitute previous ids := by
  have hafter (layout : Layout) (e : Entry) (previous : Option String) :
      (s.withStates states).renderAfter substitute previous layout e =
        s.renderAfter substitute previous layout e := by
    simp only [renderAfter, renderEntry_withStates s h]
  induction ids generalizing previous with
  | nil => rfl
  | cons id ids ih =>
    simp only [renderReferences, hafter, ih]
    rfl

theorem referenceOutputs_withStates :
    (s.withStates states).referenceOutputs = s.referenceOutputs := by
  simp only [referenceOutputs, renderReferences_withStates s h]
  rfl

theorem entryText_withStates (id : String) : (s.withStates states).entryText id = s.entryText id := by
  simp only [entryText, renderEntry_withStates s h]
  rfl

end Session

/-- How far names are expanded is seen in cites only: neither in anything that a layout of the
bibliography collects nor in what is sorted by, and so in no text of the bibliography of a session and
in no order. -/
theorem Renderer.names_expand_in_cites_only (r : Renderer) :
    (∀ (ctx : RenderContext) (s t : DisambiguationState), s.SameButNames t →
      (ctx.target = .bibliography ∨ ctx.sortKey.isSome → ∀ layout,
        r.collectLayout layout (ctx.withState s) = r.collectLayout layout (ctx.withState t)) ∧
      ∀ key, r.renderSortKey key (ctx.withState s) = r.renderSortKey key (ctx.withState t)) ∧
    (∀ {α : Type} (keys : SortSpec) (context : α → RenderContext)
        (states states' : α → DisambiguationState) (items : List α),
      (∀ item, (states item).SameButNames (states' item)) →
      r.sortItems keys (fun item => (context item).withState (states item)) items =
        r.sortItems keys (fun item => (context item).withState (states' item)) items) ∧
    ∀ (s : Session) (states : States),
      (∀ id, (states.of id).SameButNames (s.listing.states.of id)) →
      (s.withStates states).references = s.references ∧
        (∀ fmt, (s.withStates states).bibliographyText fmt = s.bibliographyText fmt) ∧
        (∀ id, (s.withStates states).entryText id = s.entryText id) ∧
        ∀ cites, (s.withStates states).sortCites cites = s.sortCites cites := by
  refine ⟨fun ctx s t h => ⟨fun hctx layout => ?_, r.renderSortKey_sameButNames h⟩,
    fun keys context states states' items h => r.sortItems_sameButNames keys context h items,
    fun s states h => ⟨?_, fun fmt => ?_, s.entryText_withStates h, s.sortCites_withStates h⟩⟩
  · apply r.collectLayout_sameButNames h
    rintro ⟨htarget, hkey⟩
    rw [htarget, hkey] at hctx
    simp at hctx
  · rw [Session.references, s.referenceOutputs_withStates h]
    rfl
  · rw [Session.bibliographyText, s.referenceOutputs_withStates h]
    rfl

theorem names_expand_in_cites_only_of_one :
    let style := (Style.citing [.firstAuthor]).withBibliography [.firstAuthor]
    let entries := (Entry.threeByDoe.take 1).map fun e => (e.id, e)
    let s := (Session.new style entries {}).register [.of ["a"]]
    let states : States := [("a", { givenNameLevel := 1, namesExpanded := 1 })]
    (∀ id, (states.of id).SameButNames (s.listing.states.of id)) ∧
      s.citationTexts PlainText.format = ["Doe et al."] ∧
      (s.withStates states).citationTexts PlainText.format = ["John Doe, Ann Roe"] ∧
      (s.withStates states).references = s.references := by
  intro style entries s states
  have hsame : ∀ id, (states.of id).SameButNames (s.listing.states.of id) := by
    have hstates : s.listing.states = Table.put [] "a" {} := by decide +kernel
    have hexpanded : states = Table.put [] "a" { givenNameLevel := 1, namesExpanded := 1 } := rfl
    intro id
    rw [hstates, hexpanded, States.of_put, States.of_put]
    split <;> exact ⟨rfl, rfl⟩
  have htexts := ((Renderer.names_expand_in_cites_only s.renderer).2.2 s states hsame).1
  exact ⟨hsame, by decide +kernel, by decide +kernel, htexts⟩

end Citeproc
