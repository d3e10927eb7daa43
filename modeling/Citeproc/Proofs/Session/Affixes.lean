import Citeproc.Proofs.Cites.Join
import Citeproc.Proofs.Output.Tags
import Citeproc.Proofs.Sample
import Citeproc.Session.Cites

namespace Citeproc

namespace RenderedCite

def withAffixes (cite : RenderedCite) (before after : Option String) : RenderedCite :=
  { cite with
    output := cite.output.withAffixes before after
    withoutAuthor := cite.withoutAuthor.withAffixes before after }

theorem alike_withAffixes (cite : RenderedCite) (before after before' after' : Option String) :
    (cite.withAffixes before after).Alike (cite.withAffixes before' after') := by
  constructor <;>
    simp only [withAffixes, author?, suffix?, number?, Output.firstNames?, Output.yearSuffix?,
      Output.citationNumber?, Output.findTag?_withAffixes]

end RenderedCite

theorem CiteJoiner.shows_withAffixes (j : CiteJoiner) {before after : List RenderedCite}
    {own : RenderedCite} {b a : Option String}
    (h : j.drops before (own.withAffixes b a) after = false) (houtput : own.output.isEmpty = false)
    (hwithout : own.withoutAuthor.isEmpty = false) :
    ∃ o ∈ [own.output, own.withoutAuthor],
      (j.join (before ++ own.withAffixes b a :: after)).Shows (b.getD "" ++ o.plain ++ a.getD "") := by
  obtain ⟨o, ho, hshows⟩ := j.shows_join h
  rcases List.mem_pair.mp ho with rfl | rfl
  · rw [RenderedCite.withAffixes, Output.plain_withAffixes houtput] at hshows
    exact ⟨_, List.mem_cons_self, hshows⟩
  · rw [RenderedCite.withAffixes, Output.plain_withAffixes hwithout] at hshows
    exact ⟨_, List.mem_cons_of_mem _ List.mem_cons_self, hshows⟩

namespace Session

variable (s : Session)

def ownCite (e : Entry) (item : CitationItem) (placement : Placement) : RenderedCite :=
  let ctx := s.citeContext e item placement
  let render (ctx : RenderContext) : Output :=
    (s.renderer.citationLayout? e).elim .null fun layout => s.renderer.renderLayout layout ctx
  { id := e.id
    output := if item.form == .authorOnly then (render ctx).firstNames?.getD .null else render ctx
    withoutAuthor := render { ctx with suppressAuthor := true }
    year := e.year?
    hasLocator := item.locator.isSome }

theorem renderCite_of_entry {cite : PlacedCite} {e : Entry} (h : cite.entry = some e) :
    s.renderCite cite =
      (s.ownCite e cite.item cite.placement).withAffixes cite.item.before cite.item.after := by
  rw [renderCite, h]
  rfl

theorem sortCites_perm (cites : List PlacedCite) : (s.sortCites cites).Perm cites := by
  rw [sortCites]
  split
  · exact .refl _
  · next keys _ =>
    dsimp only
    have hknown : (cites.filterMap fun cite => cite.entry.map (cite, ·)).map (·.1) =
        cites.filter (·.entry.isSome) := by
      rw [List.map_filterMap, ← List.filterMap_eq_filter]
      congr 1
      funext cite
      cases h : cite.entry <;> simp [Option.guard, h]
    have hunknown : cites.filter (·.entry.isNone) = cites.filter (!·.entry.isSome) := by
      simp only [Option.not_isSome]
    refine (((s.renderer.sortItems_perm keys _ _).map _).append_right _).trans ?_
    rw [hknown, hunknown]
    exact List.filter_append_perm _ _

theorem map_item_placeCites (c : Citation) {placements : List Placement}
    (h : c.items.length ≤ placements.length) : (s.placeCites c placements).map (·.item) = c.items := by
  rw [placeCites, List.map_map]
  exact List.map_fst_zip h

/-- Each item of a citation is a cite. One of a known entry that shows something is either shown
whole, with its affixes around it, or dropped, and then its affixes are not seen; one of an unknown
id never shows its affixes. -/
theorem affixes_shown_or_dropped {c : Citation} {placements : List Placement} {layout : Layout}
    (hplaced : c.items.length ≤ placements.length)
    (hlayout : selectLayout? s.style.citation.layouts none = some layout) :
    let joiner : CiteJoiner :=
      { options := s.style.citation.options, delimiter := layout.delimiter.getD "" }
    let cites := s.sortCites (s.placeCites c placements)
    let joined := joiner.join (cites.map s.renderCite)
    s.renderCitation c placements =
        (if isAuthorOnly c then joined else joined.decorate layout.rendering) ∧
      (cites.map (·.item)).Perm c.items ∧
      ∀ before cite after, cites = before ++ cite :: after →
        (∀ e own, cite.entry = some e → own = s.ownCite e cite.item cite.placement →
          own.output.isEmpty = false → own.withoutAuthor.isEmpty = false →
          if joiner.drops (before.map s.renderCite) (s.renderCite cite) (after.map s.renderCite) then
            ∀ b a, joiner.join (before.map s.renderCite ++ own.withAffixes b a ::
              after.map s.renderCite) = joined
          else
            ∃ o ∈ [own.output, own.withoutAuthor],
              joined.Shows (cite.item.before.getD "" ++ o.plain ++ cite.item.after.getD "")) ∧
        (cite.entry = none → ∀ b a,
          s.renderCite { cite with item := { cite.item with before := b, after := a } } =
            s.renderCite cite) := by
  intro joiner cites joined
  refine ⟨?_, ?_, ?_⟩
  · rw [renderCitation, hlayout]
  · rw [← s.map_item_placeCites c hplaced]
    exact (s.sortCites_perm _).map _
  · intro before cite after hcites
    refine ⟨fun e own he hown houtput hwithout => ?_, fun hnone b a => ?_⟩
    · have hcite := s.renderCite_of_entry he
      rw [← hown] at hcite
      have hjoined : joined = joiner.join (before.map s.renderCite ++
          own.withAffixes cite.item.before cite.item.after :: after.map s.renderCite) := by
        rw [← hcite]
        change joiner.join (cites.map s.renderCite) = _
        rw [hcites, List.map_append, List.map_cons]
      rw [hjoined, hcite]
      split
      · next hdrops =>
        intro b a
        exact (joiner.join_congr (own.alike_withAffixes _ _ b a) hdrops).symm
      · next hdrops =>
        exact joiner.shows_withAffixes (Bool.eq_false_iff.mpr hdrops) houtput hwithout
    · simp only [renderCite, hnone]

def numbered : Session :=
  let number := Element.ofSource (.var "citation-number" .long)
  let entries := ["a", "b", "c"].map fun id => (id, Entry.writtenBy id [])
  (new (.citing [number] [] { collapse := some .citationNumber }) entries {}).register
    [.of ["a", "b", "c"]]

def citeBehind (before id : String) : PlacedCite where
  item := { id, before := some before }
  placement := { position := .first }
  entry := some (.writtenBy id [])

theorem affixes_shown_or_dropped_of_three :
    let cites := [citeBehind "cf. " "a", citeBehind "see " "b", citeBehind "" "c"]
    let joiner : CiteJoiner := { options := numbered.style.citation.options, delimiter := "" }
    let joined := joiner.join (cites.map numbered.renderCite)
    joined.plain = "cf. 1-3" ∧ joined.Shows "cf. 1" ∧
      ∀ before after, joiner.join [numbered.renderCite (citeBehind "cf. " "a"),
        (numbered.ownCite (.writtenBy "b" []) { id := "b", before := some "see " }
          { position := .first }).withAffixes before after,
        numbered.renderCite (citeBehind "" "c")] = joined := by
  intro cites joiner joined
  have hcites : numbered.sortCites (numbered.placeCites { items := cites.map (·.item) }
      (cites.map (·.placement))) = cites := by
    decide +kernel
  have hplaced : (cites.map (·.item)).length ≤ (cites.map (·.placement)).length := by simp
  have h := (numbered.affixes_shown_or_dropped (c := { items := cites.map (·.item) }) hplaced rfl).2.2
  have hfirst := (h [] _ _ hcites).1 _ _ rfl rfl (by decide +kernel) (by decide +kernel)
  have hsecond := (h [citeBehind "cf. " "a"] _ _ hcites).1 _ _ rfl rfl (by decide +kernel)
    (by decide +kernel)
  rw [if_neg (by decide +kernel), hcites] at hfirst
  rw [if_pos (by decide +kernel), hcites] at hsecond
  refine ⟨by decide +kernel, ?_, hsecond⟩
  obtain ⟨o, ho, hshows⟩ := hfirst
  rcases List.mem_pair.mp ho with rfl | rfl
  · exact hshows
  · exact hshows

def byDoe (id : String) : Entry :=
  { Entry.writtenBy id [.person "Doe" "John"] with fields := [("issued", "2020")] }

def suffixed : Session :=
  let suffix := Element.ofSource (.var "year-suffix" .long)
  let options : CitationOptions :=
    { disambiguateAddYearSuffix := true, collapse := some .yearSuffix, yearSuffixDelimiter := some "," }
  let entries := ["a", "b"].map fun id => (id, byDoe id)
  (new (.citing [.firstAuthor, suffix] [] options) entries {}).register [.of ["a", "b"]]

def see (id : String) : CitationItem := { id, before := some "see " }

def ofItems (s : Session) (items : List CitationItem) : Output :=
  s.renderCitation { items } (items.map Placement.alone)

theorem affixes_dropped :
    ((numbered.ofItems [see "b"]).plain = "see 2" ∧
      (numbered.ownCite (.writtenBy "b" []) (see "b") (.alone (see "b"))).withoutAuthor.plain = "2" ∧
      (numbered.ofItems [{ id := "a" }, see "b", { id := "c" }]).plain = "1-3" ∧
      ¬ (numbered.ofItems [{ id := "a" }, see "b", { id := "c" }]).Shows "see ") ∧
    ((suffixed.ofItems [see "b"]).plain = "see Doeb" ∧
      (suffixed.ownCite (byDoe "b") (see "b") (.alone (see "b"))).withoutAuthor.plain = "b" ∧
      (suffixed.ofItems [{ id := "a" }, see "b"]).plain = "Doea,b" ∧
      ¬ (suffixed.ofItems [{ id := "a" }, see "b"]).Shows "see ") ∧
    (numbered.ofItems [see "x"]).plain = "x" := by
  decide +kernel

end Session

end Citeproc
