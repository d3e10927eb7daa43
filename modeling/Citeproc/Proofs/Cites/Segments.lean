import Citeproc.Proofs.Cites.Years

namespace Citeproc

structure RenderedCite.Joins (head cite : RenderedCite) : Prop where
  suffixes : head.suffix?.isSome ∧ cite.suffix?.isSome
  no_locators : head.hasLocator = false ∧ cite.hasLocator = false
  year : ∃ year, head.year = some year ∧ cite.year = some year

theorem RenderedCite.merges_iff {head cite : RenderedCite} :
    head.merges cite = true ↔ head.Joins cite := by
  have hjoins : head.Joins cite ↔ (head.suffix?.isSome ∧ cite.suffix?.isSome) ∧
      (head.hasLocator = false ∧ cite.hasLocator = false) ∧
      ∃ year, head.year = some year ∧ cite.year = some year :=
    ⟨fun ⟨h₁, h₂, h₃⟩ => ⟨h₁, h₂, h₃⟩, fun ⟨h₁, h₂, h₃⟩ => ⟨h₁, h₂, h₃⟩⟩
  rw [hjoins, merges, suffixYear?, suffixYear?]
  cases head.hasLocator <;> cases cite.hasLocator <;> cases head.suffix? <;>
    cases cite.suffix? <;> cases head.year <;> cases cite.year <;> simp
  exact eq_comm

structure Stretch where
  head : RenderedCite
  merged : List RenderedCite

namespace Stretch

def cites (s : Stretch) : List RenderedCite := s.head :: s.merged

structure IsCut (group : List RenderedCite) (stretches : List Stretch) : Prop where
  flatten : stretches.flatMap cites = group
  joins : ∀ s ∈ stretches, ∀ cite ∈ s.merged, s.head.Joins cite
  maximal : stretches.IsChain fun s next => ¬s.head.Joins next.head

theorem IsCut.eq_takeWhile {group : List RenderedCite} {s : Stretch} {rest : List Stretch}
    (h : IsCut group (s :: rest)) : s.merged = group.tail.takeWhile s.head.merges := by
  have hflat : s.merged ++ rest.flatMap cites = group.tail := congrArg List.tail h.flatten
  have hmerged : ∀ cite ∈ s.merged, s.head.merges cite = true := fun cite hcite =>
    RenderedCite.merges_iff.mpr (h.joins s List.mem_cons_self cite hcite)
  rw [← hflat, List.takeWhile_append_of_pos hmerged]
  cases rest with
  | nil => rw [List.flatMap_nil, List.takeWhile_nil, List.append_nil]
  | cons next rest =>
    have hnext := (List.isChain_cons_cons.mp h.maximal).1
    rw [← RenderedCite.merges_iff] at hnext
    rw [List.flatMap_cons, cites, List.cons_append, List.takeWhile_cons_of_neg hnext,
      List.append_nil]

theorem IsCut.tail {group : List RenderedCite} {s : Stretch} {rest : List Stretch}
    (h : IsCut group (s :: rest)) : IsCut (rest.flatMap cites) rest :=
  ⟨rfl, fun t ht => h.joins t (List.mem_cons_of_mem _ ht), h.maximal.tail⟩

theorem IsCut.unique {group : List RenderedCite} {stretches others : List Stretch}
    (h : IsCut group stretches) (h' : IsCut group others) : others = stretches := by
  induction stretches generalizing group others with
  | nil =>
    obtain rfl := h.flatten
    cases others with
    | nil => rfl
    | cons t others => exact absurd h'.flatten (List.cons_ne_nil _ _)
  | cons s rest ih =>
    obtain rfl := h.flatten
    cases others with
    | nil => exact absurd h'.flatten (List.cons_ne_nil _ _).symm
    | cons t others =>
      obtain ⟨head, merged⟩ := t
      obtain rfl : head = s.head := (List.cons.inj h'.flatten).1
      obtain rfl : merged = s.merged := h'.eq_takeWhile.trans h.eq_takeWhile.symm
      have hflat : others.flatMap cites = rest.flatMap cites :=
        List.append_cancel_left (List.cons.inj h'.flatten).2
      have htail : IsCut (rest.flatMap cites) others := hflat ▸ h'.tail
      rw [ih h.tail htail]

def segment (s : Stretch) (shown : Output) : Segment :=
  { Segment.ofCite s.head shown with suffixes := s.merged.filterMap (·.suffix?) }

variable {s : Stretch} {cite : RenderedCite}

theorem absorb?_segment_of_joins (h : s.head.Joins cite) (shown : Output) :
    (s.segment shown).absorb? cite = some (segment ⟨s.head, s.merged ++ [cite]⟩ shown) := by
  obtain ⟨⟨hhead, hcite⟩, ⟨hhead', hcite'⟩, year, hyear, hyear'⟩ := h
  obtain ⟨suffix, hsuffix⟩ := Option.isSome_iff_exists.mp hcite
  simp [Segment.absorb?, segment, Segment.ofCite, hsuffix, hhead, hhead', hcite', hyear, hyear']

theorem absorb?_segment_of_not_joins (h : ¬s.head.Joins cite) (shown : Output) :
    (s.segment shown).absorb? cite = none :=
  Segment.absorb?_eq_none (Segment.suffixYear?_ofCite s.head shown)
    (Bool.not_eq_true _ ▸ mt RenderedCite.merges_iff.mp h)

theorem exists_extend (s : Stretch) (shown : Output) (hjoins : ∀ cite ∈ s.merged, s.head.Joins cite)
    (cites' : List RenderedCite) :
    ∃ first rest, IsCut (s.cites ++ cites') (first :: rest) ∧ first.head = s.head ∧
      Segment.extend true (s.segment shown) cites' =
        first.segment shown :: rest.map fun next => next.segment next.head.withoutAuthor := by
  induction cites' generalizing s shown with
  | nil => exact ⟨s, [], ⟨by simp, by simpa using hjoins, .singleton s⟩, rfl, rfl⟩
  | cons cite cites' ih =>
    by_cases h : s.head.Joins cite
    · have hjoins' : ∀ c ∈ s.merged ++ [cite], s.head.Joins c := by
        simpa [or_imp, forall_and] using ⟨hjoins, h⟩
      obtain ⟨first, rest, hcut, hfirst, hextend⟩ := ih ⟨s.head, s.merged ++ [cite]⟩ shown hjoins'
      refine ⟨first, rest, ?_, hfirst, ?_⟩
      · simpa [cites] using hcut
      · rw [Segment.extend, if_pos rfl, absorb?_segment_of_joins h]
        exact hextend
    · obtain ⟨first, rest, hcut, hfirst, hextend⟩ := ih ⟨cite, []⟩ cite.withoutAuthor (by simp)
      refine ⟨s, first :: rest, ⟨?_, ?_, ?_⟩, rfl, ?_⟩
      · rw [List.flatMap_cons, hcut.flatten]
        rfl
      · exact List.forall_mem_cons.mpr ⟨hjoins, hcut.joins⟩
      · exact .cons_cons (hfirst ▸ h) hcut.maximal
      · rw [Segment.extend, if_pos rfl, absorb?_segment_of_not_joins h, List.map_cons, hfirst]
        exact congrArg _ hextend

def mapHeads {α : Type} (f : Stretch → Output → α) : List Stretch → List α
  | [] => []
  | first :: rest => f first first.head.output :: rest.map fun s => f s s.head.withoutAuthor

theorem map_mapHeads {α β : Type} {f : Stretch → Output → α} {f' : Stretch → Output → β} {g : α → β}
    {stretches : List Stretch} (h : ∀ s ∈ stretches, ∀ shown, g (f s shown) = f' s shown) :
    (mapHeads f stretches).map g = mapHeads f' stretches := by
  cases stretches with
  | nil => rfl
  | cons first rest =>
    obtain ⟨hfirst, hrest⟩ := List.forall_mem_cons.mp h
    rw [mapHeads, mapHeads, List.map_cons, hfirst, List.map_map]
    exact congrArg _ (List.map_congr_left fun s hs => hrest s hs _)

theorem exists_ofGroup (group : List RenderedCite) :
    ∃ stretches, IsCut group stretches ∧ Segment.ofGroup true group = mapHeads segment stretches := by
  cases group with
  | nil => exact ⟨[], ⟨rfl, by simp, .nil⟩, rfl⟩
  | cons cite group =>
    obtain ⟨first, rest, hcut, hfirst, hextend⟩ := exists_extend ⟨cite, []⟩ cite.output (by simp) group
    exact ⟨first :: rest, hcut, by rw [Segment.ofGroup, mapHeads, hfirst]; exact hextend⟩

end Stretch

end Citeproc
