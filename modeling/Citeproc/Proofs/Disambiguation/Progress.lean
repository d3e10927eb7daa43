import Citeproc.Proofs.Disambiguation.Stages
import Mathlib.Algebra.GroupWithZero.Nat
import Mathlib.Algebra.Order.BigOperators.Group.List
import Mathlib.Algebra.Order.Group.Nat

/-!
Passes only go forward: no state loses anything, each pass that changes a state adds to the sum of all
levels and names, and that sum is bounded by what the entries have to show.
-/

namespace Citeproc

def Entry.primaryCount (e : Entry) : Nat := (e.primaryNames?.map (·.length)).getD 0

namespace DisambiguationState

structure Grows (s t : DisambiguationState) : Prop where
  yearSuffix : ∀ letter, s.yearSuffix = some letter → t.yearSuffix = some letter := by
    exact fun _ h => h
  namesExpanded : s.namesExpanded ≤ t.namesExpanded := by exact Nat.le_refl _
  givenNameLevel : s.givenNameLevel ≤ t.givenNameLevel := by exact Nat.le_refl _
  condition : s.condition = true → t.condition = true := by exact fun h => h

theorem Grows.refl (s : DisambiguationState) : s.Grows s := {}

theorem Grows.trans {s t u : DisambiguationState} (h : s.Grows t) (h' : t.Grows u) : s.Grows u where
  yearSuffix letter hs := h'.yearSuffix letter (h.yearSuffix letter hs)
  namesExpanded := h.namesExpanded.trans h'.namesExpanded
  givenNameLevel := h.givenNameLevel.trans h'.givenNameLevel
  condition hs := h'.condition (h.condition hs)

def progress (s : DisambiguationState) : Nat := s.givenNameLevel + s.namesExpanded

end DisambiguationState

namespace Disambiguation

variable {r : Renderer} {entries : List Entry} {states : States}

theorem mem_candidates {options : CitationOptions} {total : Nat} {state next : DisambiguationState}
    (h : next ∈ candidates options total state) :
    (∃ level, state.givenNameLevel < level ∧ level ≤ maxGivenNameLevel options.givenNameRule ∧
      next = { state with givenNameLevel := level }) ∨
    (state.namesExpanded < total ∧
      next = { state with namesExpanded := state.namesExpanded + 1 }) := by
  rw [candidates] at h
  rcases List.mem_append.mp h with h | h
  · obtain ⟨level, hlevel, rfl⟩ := List.mem_map.mp h
    split at hlevel
    · rw [List.mem_range'_1] at hlevel
      exact .inl ⟨level, by omega, by omega, rfl⟩
    · simp at hlevel
  · split at h
    · next hmore =>
      simp only [Bool.and_eq_true, decide_eq_true_eq] at hmore
      exact .inr ⟨hmore.2, List.mem_singleton.mp h⟩
    · simp at h

theorem step?_cases {e : Entry} {next : DisambiguationState}
    (h : step? r entries states e = some next) :
    (∃ level, (states.of e.id).givenNameLevel < level ∧
      level ≤ maxGivenNameLevel r.style.citation.options.givenNameRule ∧
      next = { states.of e.id with givenNameLevel := level }) ∨
    ((states.of e.id).namesExpanded < e.primaryCount ∧
      next = { states.of e.id with namesExpanded := (states.of e.id).namesExpanded + 1 }) := by
  rw [step?] at h
  split at h
  · exact mem_candidates (List.mem_of_find?_eq_some h)
  · cases h

theorem step?_grows {e : Entry} {next : DisambiguationState}
    (h : step? r entries states e = some next) : (states.of e.id).Grows next := by
  rcases step?_cases h with ⟨level, hlevel, -, rfl⟩ | ⟨-, rfl⟩
  · exact { DisambiguationState.Grows.refl _ with givenNameLevel := Nat.le_of_lt hlevel }
  · exact { DisambiguationState.Grows.refl _ with namesExpanded := Nat.le_succ _ }

theorem step?_progress {e : Entry} {next : DisambiguationState}
    (h : step? r entries states e = some next) : (states.of e.id).progress < next.progress := by
  rcases step?_cases h with ⟨level, hlevel, -, rfl⟩ | ⟨-, rfl⟩
  · simp only [DisambiguationState.progress]
    omega
  · simp only [DisambiguationState.progress]
    omega

structure Within (r : Renderer) (passes : Nat) (e : Entry) (s : DisambiguationState) : Prop where
  givenNameLevel : s.givenNameLevel ≤ maxGivenNameLevel r.style.citation.options.givenNameRule
  namesExpanded : s.namesExpanded ≤ min passes e.primaryCount

theorem step?_within {e : Entry} {next : DisambiguationState} {passes : Nat}
    (hs : Within r passes e (states.of e.id)) (h : step? r entries states e = some next) :
    Within r (passes + 1) e next := by
  obtain ⟨hlevel, hnames⟩ := hs
  rcases step?_cases h with ⟨level, -, hmax, rfl⟩ | ⟨hmore, rfl⟩
  · exact ⟨hmax, by simp only; omega⟩
  · exact ⟨hlevel, by simp only; omega⟩

def totalProgress (entries : List Entry) (states : States) : Nat :=
  (entries.map fun e => (states.of e.id).progress).sum

section Run

variable (hids : (entries.map (·.id)).Nodup)
include hids

theorem grows_advance (id : String) : (states.of id).Grows ((advance r entries states).of id) := by
  rcases of_advance_cases r states hids id with hsame | ⟨e, -, rfl, hstep⟩
  · rw [hsame]
    exact .refl _
  · exact step?_grows hstep

theorem totalProgress_lt (h : (expandPass r entries states).changed = true) :
    totalProgress entries states < totalProgress entries (advance r entries states) := by
  obtain ⟨e, he, hstep⟩ := (changed_expandPass hids).mp h
  apply List.sum_lt_sum
  · intro e he
    have hgrows : (states.of e.id).Grows ((advance r entries states).of e.id) :=
      grows_advance hids e.id
    exact Nat.add_le_add hgrows.givenNameLevel hgrows.namesExpanded
  · obtain ⟨next, hnext⟩ := Option.isSome_iff_exists.mp hstep
    refine ⟨e, he, ?_⟩
    rw [advance, of_expandPass hids he, hnext]
    exact step?_progress hnext

theorem within_afterPasses (n : Nat) {e : Entry} (he : e ∈ entries) :
    Within r n e ((afterPasses r entries n).of e.id) := by
  induction n with
  | zero =>
    obtain ⟨hlevel, hnames⟩ := unexpanded_suffixed r entries e.id
    constructor
    · exact hlevel.trans_le (Nat.zero_le _)
    · exact hnames.trans_le (Nat.zero_le _)
  | succ n ih =>
    rw [afterPasses_succ, advance, of_expandPass hids he]
    cases h : step? r entries (afterPasses r entries n) e with
    | none => exact ⟨ih.givenNameLevel, ih.namesExpanded.trans (by omega)⟩
    | some next => exact step?_within ih h

theorem totalProgress_le (n : Nat) : totalProgress entries (afterPasses r entries n) ≤
    (entries.map fun e =>
      maxGivenNameLevel r.style.citation.options.givenNameRule + e.primaryCount).sum := by
  apply List.sum_le_sum
  intro e he
  have hwithin := within_afterPasses (r := r) hids n he
  have hnames := hwithin.namesExpanded
  exact Nat.add_le_add hwithin.givenNameLevel (by omega)

theorem le_totalProgress (n : Nat)
    (h : ∀ m < n, (expandPass r entries (afterPasses r entries m)).changed = true) :
    n ≤ totalProgress entries (afterPasses r entries n) := by
  induction n with
  | zero => exact Nat.zero_le _
  | succ n ih =>
    have hn := ih fun m hm => h m (Nat.lt_succ_of_lt hm)
    have hlt := totalProgress_lt hids (h n (Nat.lt_succ_self n))
    rw [afterPasses_succ]
    omega

theorem converged_of_lt (h : (entries.map fun e =>
    maxGivenNameLevel r.style.citation.options.givenNameRule + e.primaryCount).sum < maxPasses) :
    (r.disambiguate entries []).1 = .converged := by
  rw [disambiguate_converged]
  by_contra hnone
  have hall : ∀ n < maxPasses, (expandPass r entries (afterPasses r entries n)).changed = true := by
    intro n hn
    by_contra hchanged
    exact hnone ⟨n, hn, by simpa using hchanged⟩
  have hle := le_totalProgress hids maxPasses hall
  have hbound := totalProgress_le (r := r) hids maxPasses
  omega

theorem changed_iff_ne : (expandPass r entries states).changed = true ↔
    advance r entries states ≠ states := by
  constructor
  · intro h heq
    have hlt := totalProgress_lt hids h
    rw [heq] at hlt
    exact Nat.lt_irrefl _ hlt
  · intro hne
    by_contra h
    exact hne (advance_of_unchanged (by simpa using h))

end Run

theorem grows_markRemaining (id : String) :
    (states.of id).Grows ((markRemaining r entries states).of id) := by
  rw [markRemaining, of_mark]
  split
  · exact { DisambiguationState.Grows.refl _ with condition := fun _ => rfl }
  · exact .refl _

theorem within_markRemaining (entries : List Entry) {passes : Nat} {e : Entry}
    (h : Within r passes e (states.of e.id)) :
    Within r passes e ((markRemaining r entries states).of e.id) := by
  rw [markRemaining, of_mark]
  split
  · exact ⟨h.givenNameLevel, h.namesExpanded⟩
  · exact h

theorem maxGivenNameLevel_eq (rule : GivenNameRule) :
    maxGivenNameLevel rule = if rule.withInitials then 1 else 2 := by
  cases rule <;> rfl

end Disambiguation

open Disambiguation

/-- No pass takes anything back from a state, and none goes beyond the highest level or the names that
there are. A pass that changes a state adds to the sum of all levels and names. So a run whose entries
have little to show converges, and a run that does not has made all its passes. -/
theorem Renderer.disambiguate_progress (r : Renderer) {entries : List Entry}
    (hids : (entries.map (·.id)).Nodup) :
    let top := if r.style.citation.options.givenNameRule.withInitials then 1 else 2
    let states := afterPasses r entries
    let sum (n : Nat) := (entries.map fun e =>
      ((states n).of e.id).givenNameLevel + ((states n).of e.id).namesExpanded).sum
    let bounded (e : Entry) (s : DisambiguationState) : Prop :=
      s.givenNameLevel ≤ top ∧ s.namesExpanded ≤ min maxPasses e.primaryCount
    let run := r.disambiguate entries []
    run.2 = markRemaining r entries (states maxPasses) ∧
    (∀ id, (∀ n, ((states n).of id).Grows ((states (n + 1)).of id)) ∧
      ((states maxPasses).of id).Grows (run.2.of id)) ∧
    (∀ e ∈ entries, (∀ n ≤ maxPasses, bounded e ((states n).of e.id)) ∧
      bounded e (run.2.of e.id)) ∧
    (∀ n, states (n + 1) ≠ states n → sum n < sum (n + 1)) ∧
    (run.1 = .converged ↔ ∃ n < maxPasses, states (n + 1) = states n) ∧
    ((entries.map fun e => top + e.primaryCount).sum < maxPasses → run.1 = .converged) ∧
    (∀ n, run.1 = .cappedAt n → n = maxPasses) := by
  intro top states sum bounded run
  have hfinal : run.2 = markRemaining r entries (states maxPasses) :=
    disambiguate_states r entries
  have htop : maxGivenNameLevel r.style.citation.options.givenNameRule = top := maxGivenNameLevel_eq _
  have hsucc (n : Nat) : states (n + 1) = advance r entries (states n) := afterPasses_succ n
  refine ⟨hfinal, ?_, ?_, ?_, ?_, ?_, ?_⟩
  · intro id
    constructor
    · intro n
      rw [hsucc]
      exact grows_advance hids id
    · rw [hfinal]
      exact grows_markRemaining id
  · intro e he
    constructor
    · intro n hn
      obtain ⟨hlevel, hnames⟩ := within_afterPasses (r := r) hids n he
      exact ⟨htop ▸ hlevel, hnames.trans (min_le_min_right _ hn)⟩
    · obtain ⟨hlevel, hnames⟩ := within_markRemaining entries
        (within_afterPasses (r := r) hids maxPasses he)
      rw [hfinal]
      exact ⟨htop ▸ hlevel, hnames⟩
  · intro n hne
    rw [hsucc] at hne
    have hlt := totalProgress_lt hids ((changed_iff_ne hids).mpr hne)
    rw [← hsucc] at hlt
    exact hlt
  · refine disambiguate_converged.trans ?_
    refine exists_congr fun n => and_congr_right fun _ => ?_
    rw [hsucc, ← Bool.not_eq_true, changed_iff_ne hids, not_not]
  · intro h
    rw [← htop] at h
    exact converged_of_lt hids h
  · intro n hn
    rcases disambiguate_capped r entries with h | h
    · cases h.symm.trans hn
    · exact (Convergence.cappedAt.inj (h.symm.trans hn)).symm

namespace Disambiguation

def firstAuthors (options : CitationOptions) : Renderer where
  style := .citing [.firstAuthor] [] options
  locale := {}

theorem disambiguate_progress_of_two :
    let r := firstAuthors { disambiguateAddGivenName := true, disambiguateAddNames := true }
    let entries := Entry.threeByDoe.take 2
    let states := afterPasses r entries
    let sum (n : Nat) := (entries.map fun e =>
      ((states n).of e.id).givenNameLevel + ((states n).of e.id).namesExpanded).sum
    (entries.map (·.id)).Nodup ∧ (entries.map fun e => 2 + e.primaryCount).sum < maxPasses ∧
      (r.disambiguate entries []).1 = .converged ∧ states 2 ≠ states 1 ∧ sum 1 < sum 2 ∧
      (r.disambiguate entries []).2.of "a" = { givenNameLevel := 1, namesExpanded := 1 } := by
  intro r entries states sum
  have hids : (entries.map (·.id)).Nodup := by decide
  have hlt : (entries.map fun e => 2 + e.primaryCount).sum < maxPasses := by decide
  have hne : states 2 ≠ states 1 := by decide
  obtain ⟨-, -, -, hsum, -, hconverged, -⟩ := Renderer.disambiguate_progress r hids
  exact ⟨hids, hlt, hconverged hlt, hne, hsum 1 hne, by decide +kernel⟩

end Disambiguation

end Citeproc
