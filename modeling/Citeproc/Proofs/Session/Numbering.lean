import Citeproc.Proofs.FirstOccurrence
import Citeproc.Proofs.Sample
import Citeproc.Proofs.Session.Run
import Citeproc.Proofs.Table

namespace Citeproc

structure Bibliography.Keyed (b : Bibliography) : Prop where
  nodup : (Table.keys b).Nodup
  id_eq : ∀ entry ∈ b, entry.2.id = entry.1

namespace Bibliography.Keyed

variable {b : Bibliography}

theorem id_of_get? (hb : b.Keyed) {id : String} {e : Entry} (h : Table.get? b id = some e) :
    e.id = id :=
  hb.id_eq (id, e) (Table.mem_of_get? h)

theorem map_id_filterMap (hb : b.Keyed) {ids : List String} (h : ∀ id ∈ ids, id ∈ Table.keys b) :
    (ids.filterMap (Table.get? b)).map (·.id) = ids := by
  induction ids with
  | nil => rfl
  | cons id ids ih =>
    obtain ⟨e, he⟩ := Option.isSome_iff_exists.mp ((Table.get?_isSome_iff b id).mpr (h id (by simp)))
    rw [List.filterMap_cons_some he, List.map_cons, hb.id_of_get? he,
      ih fun id hid => h id (List.mem_cons_of_mem _ hid)]

end Bibliography.Keyed

def citedIds (citations : List Citation) : List String := (citations.flatMap (·.items)).map (·.id)

theorem citedIds_append (citations more : List Citation) :
    citedIds (citations ++ more) = citedIds citations ++ citedIds more := by
  simp only [citedIds, List.flatMap_append, List.map_append]

def citedBefore (b : Bibliography) (citations : List Citation) (id : String) : Finset String :=
  (((citedIds citations).filter b.keys.contains).takeWhile (· ≠ id)).toFinset

theorem citedBefore_append {b : Bibliography} {citations : List Citation} {id : String}
    (hb : id ∈ Table.keys b) (hc : id ∈ citedIds citations) (more : List Citation) :
    citedBefore b (citations ++ more) id = citedBefore b citations id := by
  rw [citedBefore, citedIds_append, List.filter_append, List.takeWhile_ne_append, citedBefore]
  exact List.mem_filter.mpr ⟨hc, List.contains_iff_mem.mpr hb⟩

namespace Listing

variable {b : Bibliography} (citations : List Citation) (includeUncited : Bool)

theorem mem_registered (id : String) :
    id ∈ registered b citations includeUncited ↔ id ∈ Table.keys b ∧
      (id ∈ citedIds citations ∨ includeUncited = true ∨ citations = []) := by
  have hcited : id ∈ ((citedIds citations).filter b.keys.contains).eraseDups ↔
      id ∈ citedIds citations ∧ id ∈ Table.keys b := by
    simp [List.mem_eraseDups]
  simp only [registered]
  rw [← citedIds]
  split
  · next h =>
    have h : includeUncited = true ∨ citations = [] := by simpa using h
    rw [List.mem_append, List.mem_filter, Bool.not_eq_true', Bool.eq_false_iff, ne_eq,
      List.contains_iff_mem, hcited]
    tauto
  · next h =>
    have h : ¬(includeUncited = true ∨ citations = []) := by simpa using h
    rw [hcited]
    tauto

theorem nodup_registered (hb : b.Keyed) : (registered b citations includeUncited).Nodup := by
  have hcited := List.nodup_eraseDups
    (((citations.flatMap (·.items)).map (·.id)).filter b.keys.contains)
  simp only [registered]
  split
  · refine List.nodup_append'.mpr ⟨hcited, hb.nodup.filter _, ?_⟩
    intro id hid hother
    simp_all
  · exact hcited

theorem idxOf_registered {id : String} (hb : id ∈ Table.keys b) (hc : id ∈ citedIds citations) :
    (registered b citations includeUncited).idxOf id = (citedBefore b citations id).card := by
  have hmem : id ∈ (citedIds citations).filter b.keys.contains :=
    List.mem_filter.mpr ⟨hc, List.contains_iff_mem.mpr hb⟩
  have hidx := List.idxOf_eraseDups hmem
  simp only [registered]
  rw [← citedIds]
  split
  · rw [List.idxOf_append_of_mem (List.mem_eraseDups.mpr hmem), hidx, citedBefore]
  · rw [hidx, citedBefore]

theorem order_perm (r : Renderer) (hb : b.Keyed) :
    (Listing.of r b citations includeUncited).order.Perm (registered b citations includeUncited) := by
  have hids : ((registered b citations includeUncited).filterMap (Table.get? b)).map (·.id) =
      registered b citations includeUncited :=
    hb.map_id_filterMap fun id hid => ((mem_registered _ _ id).mp hid).1
  conv_rhs => rw [← hids]
  exact (sorted_perm r b _).map _

theorem numbers_get? (r : Renderer) (hb : b.Keyed) (id : String) :
    let listing := Listing.of r b citations includeUncited
    listing.numbers.get? id =
      if id ∈ listing.order then
        some ((if r.style.numbersByCitation then registered b citations includeUncited
          else listing.order).idxOf id + 1)
      else none := by
  intro listing
  have hperm : listing.order.Perm (registered b citations includeUncited) := order_perm _ _ r hb
  have hplace := Table.get?_numbered (fun _ place => place)
    (registered b citations includeUncited) 1 id
  simp only [Prod.mk.eta, List.map_id'] at hplace
  have hnumber := Table.get?_numbered (fun id place =>
    if r.style.numbersByCitation then
      (Table.get? ((registered b citations includeUncited).zipIdx 1) id).getD place
    else place) listing.order 1 id
  refine hnumber.trans ?_
  split
  · next hid =>
    simp only [hplace, if_pos (hperm.mem_iff.mp hid), Option.getD_some]
    split <;> rfl
  · rfl

theorem numbers_bijOn (r : Renderer) (hb : b.Keyed) :
    let listing := Listing.of r b citations includeUncited
    Set.BijOn listing.numbers.get? {id | id ∈ listing.order}
      (some '' Set.Icc 1 listing.order.length) := by
  intro listing
  have hperm : listing.order.Perm (registered b citations includeUncited) := order_perm _ _ r hb
  have hnodup := nodup_registered citations includeUncited hb
  have hplaces : Set.BijOn (fun id => some ((if r.style.numbersByCitation then
      registered b citations includeUncited else listing.order).idxOf id + 1))
      {id | id ∈ listing.order} (some '' Set.Icc 1 listing.order.length) := by
    cases r.style.numbersByCitation with
    | true => simpa [hperm.mem_iff, hperm.length_eq] using List.bijOn_idxOf hnodup
    | false => simpa using List.bijOn_idxOf (hperm.nodup_iff.mpr hnodup)
  refine hplaces.congr fun id hid => ?_
  have hid : id ∈ listing.order := hid
  rw [numbers_get? _ _ r hb id, if_pos hid]

theorem numbers_get?_cited (r : Renderer) (hb : b.Keyed) (hs : r.style.numbersByCitation = true)
    {id : String} (hid : id ∈ Table.keys b) (hc : id ∈ citedIds citations) :
    (Listing.of r b citations includeUncited).numbers.get? id =
      some ((citedBefore b citations id).card + 1) := by
  have hreg : id ∈ registered b citations includeUncited := (mem_registered _ _ id).mpr ⟨hid, .inl hc⟩
  rw [numbers_get? _ _ r hb id, if_pos ((order_perm _ _ r hb).mem_iff.mpr hreg), if_pos hs,
    idxOf_registered _ _ hid hc]

end Listing

namespace Style

theorem numbersByCitation_iff (style : Style) :
    style.numbersByCitation = true ↔ style.usesVariable "citation-number" = true ∨
      ∃ keys, style.bibliographySort? = some keys ∧
        ∃ key ∈ keys, key.source = .var "citation-number" := by
  rw [numbersByCitation, Bool.or_eq_true, isNumbered, Option.any_eq_true]
  simp only [List.any_eq_true, SortKey.isCitationNumber, beq_iff_eq]

end Style

namespace Session

structure Listed (s : Session) (style : Style) (bibliography : Bibliography)
    (options : SessionOptions) (citations : List Citation) : Prop where
  style_eq : s.style = style
  bibliography_eq : s.bibliography = bibliography
  options_eq : s.options = options
  citations_eq : s.citations = citations
  current : s.listing = .of s.renderer s.bibliography s.citations s.options.includeUncited

section Listed

variable {s : Session} {style : Style} {bibliography : Bibliography} {options : SessionOptions}
  {citations : List Citation}

theorem Listed.listing_eq (h : s.Listed style bibliography options citations) :
    s.listing = .of s.renderer bibliography citations options.includeUncited := by
  rw [h.current, h.bibliography_eq, h.options_eq, h.citations_eq]

theorem Listed.register (h : s.Listed style bibliography options citations)
    (later : List Citation) : (s.register later).Listed style bibliography options later :=
  ⟨h.style_eq, h.bibliography_eq, h.options_eq, rfl, rfl⟩

theorem Listed.addLocale (h : s.Listed style bibliography options citations) (table : Locale) :
    (s.addLocale table).Listed style bibliography options citations := by
  simp only [Session.addLocale, refresh]
  exact ⟨h.style_eq, h.bibliography_eq, h.options_eq, h.citations_eq, rfl⟩

end Listed

theorem listed_run (style : Style) (bibliography : Bibliography) (options : SessionOptions)
    (calls : List Call) :
    ((new style bibliography options).run calls).Listed style bibliography options
      ((Call.lastCitations? calls).getD []) := by
  induction calls using List.reverseRecOn with
  | nil => exact ⟨rfl, rfl, rfl, rfl, rfl⟩
  | append_singleton calls call ih =>
    rw [run_concat]
    cases call with
    | register citations =>
      have hl : Call.lastCitations? (calls ++ [.register citations]) = some citations := by
        simp [Call.lastCitations?, Call.citations?]
      rw [hl]
      exact ih.register citations
    | addLocale table =>
      have hl : Call.lastCitations? (calls ++ [.addLocale table]) = Call.lastCitations? calls := by
        simp [Call.lastCitations?, Call.citations?]
      rw [hl]
      exact ih.addLocale table

/-- The listing holds each known cited id once, and all others where they are wanted. Numbers run from
one on without gaps. Where entries are numbered as they are cited, an id is numbered by the known
ids cited before it, so later citations leave the numbers of earlier ones alone. -/
theorem run_new_numbering (style : Style) (bibliography : Bibliography) (options : SessionOptions)
    (calls : List Call) (hb : bibliography.Keyed) :
    let s := (new style bibliography options).run calls
    let citations := (Call.lastCitations? calls).getD []
    s.listing.order.Nodup ∧
    (∀ id, id ∈ s.listing.order ↔ id ∈ Table.keys bibliography ∧
      (id ∈ citedIds citations ∨ options.includeUncited = true ∨ citations = [])) ∧
    Set.BijOn s.citationNumber? {id | id ∈ s.listing.order}
      (some '' Set.Icc 1 s.listing.order.length) ∧
    (∀ id ∉ s.listing.order, s.citationNumber? id = none) ∧
    ((style.usesVariable "citation-number" = true ∨ ∃ keys, style.bibliographySort? = some keys ∧
        ∃ key ∈ keys, key.source = .var "citation-number") →
      ∀ id ∈ Table.keys bibliography, id ∈ citedIds citations →
        s.citationNumber? id = some ((citedBefore bibliography citations id).card + 1) ∧
        ∀ longer more, Call.lastCitations? longer = some (citations ++ more) →
          ((new style bibliography options).run longer).citationNumber? id =
            s.citationNumber? id) := by
  intro s citations
  have hs : s.Listed style bibliography options citations := listed_run style bibliography options calls
  have hperm := Listing.order_perm citations options.includeUncited s.renderer hb
  have hbij := Listing.numbers_bijOn citations options.includeUncited s.renderer hb
  have hnone (id : String) :=
    Listing.numbers_get? citations options.includeUncited s.renderer hb id
  simp only [← hs.listing_eq] at hperm hbij hnone
  refine ⟨hperm.nodup_iff.mpr (Listing.nodup_registered _ _ hb),
    fun id => hperm.mem_iff.trans (Listing.mem_registered _ _ id), hbij, ?_, ?_⟩
  · intro id hid
    rw [citationNumber?, hnone, if_neg hid]
  · intro hcited id hid hc
    have numbered {s : Session} {citations : List Citation}
        (hs : s.Listed style bibliography options citations) (hc : id ∈ citedIds citations) :
        s.citationNumber? id = some ((citedBefore bibliography citations id).card + 1) := by
      have hn : s.renderer.style.numbersByCitation = true := by
        rw [renderer, hs.style_eq]
        exact style.numbersByCitation_iff.mpr hcited
      rw [citationNumber?, hs.listing_eq, Listing.numbers_get?_cited _ _ _ hb hn hid hc]
    refine ⟨numbered hs hc, fun longer more hl => ?_⟩
    have hlonger := listed_run style bibliography options longer
    rw [hl, Option.getD_some] at hlonger
    rw [numbered hs hc, numbered hlonger (by rw [citedIds_append]; exact List.mem_append_left _ hc),
      citedBefore_append hid hc]

theorem run_new_numbering_of_two :
    let style := Style.citing [.number { var := "citation-number", form := .numeric, rendering := {} }]
    let b : Bibliography := [("a", { id := "a", type := "book" }), ("b", { id := "b", type := "book" })]
    let calls := [Call.register [.of ["b", "unknown"], .of ["b", "a"]], .addLocale {}]
    let longer := calls ++ [.register [.of ["b", "unknown"], .of ["b", "a"], .of ["a", "b"]]]
    b.Keyed ∧ ((new style b {}).run calls).citationNumber? "a" = some 2 ∧
      ((new style b {}).run longer).citationNumber? "a" = some 2 := by
  intro style b calls longer
  have hb : b.Keyed := ⟨by decide, by decide⟩
  have hcited : style.usesVariable "citation-number" = true := rfl
  have hnumber := (run_new_numbering style b {} calls hb).2.2.2.2 (.inl hcited) "a" (by decide)
    (by decide)
  have hone : (citedBefore b ((Call.lastCitations? calls).getD []) "a").card + 1 = 2 := by decide
  have hlonger := hnumber.2 longer [.of ["a", "b"]] rfl
  rw [hone] at hnumber
  exact ⟨hb, hnumber.1, hlonger.trans hnumber.1⟩

end Session

end Citeproc
