import Citeproc.Proofs.Disambiguation.Remaining
import Mathlib.Data.List.Flatten
import Mathlib.Logic.Function.Iterate

namespace Citeproc.Disambiguation

variable {r : Renderer} {entries : List Entry} {states : States}

def namesKey (r : Renderer) (states : States) (e : Entry) : String × Option Int :=
  (r.citeNames e (states.of e.id), e.year?)

def memberStep? (r : Renderer) (group : List Entry) (e : Entry) (state : DisambiguationState) :
    Option DisambiguationState :=
  if distinguishable group e then expand? r e state else none

def step? (r : Renderer) (entries : List Entry) (states : States) (e : Entry) :
    Option DisambiguationState :=
  if ∃ other ∈ entries, namesKey r states other = namesKey r states e ∧
      other.primaryNames? ≠ e.primaryNames? then
    expand? r e (states.of e.id)
  else none

theorem expandMember_eq (group : List Entry) (pass : Pass) (e : Entry) :
    expandMember r group pass e =
      (memberStep? r group e (pass.states.of e.id)).elim pass fun next =>
        { states := pass.states.put e.id next, changed := true } := by
  rw [expandMember, memberStep?]
  split
  · cases expand? r e (pass.states.of e.id) <;> rfl
  · rfl

theorem of_expandMember (group : List Entry) (pass : Pass) (e : Entry) (id : String) :
    (expandMember r group pass e).states.of id =
      if id = e.id then (memberStep? r group e (pass.states.of e.id)).getD (pass.states.of e.id)
      else pass.states.of id := by
  rw [expandMember_eq]
  cases memberStep? r group e (pass.states.of e.id) with
  | none =>
    by_cases h : id = e.id
    · simp [h]
    · simp [h]
  | some next => exact States.of_put _ _ _ _

theorem changed_expandMember (group : List Entry) (pass : Pass) (e : Entry) :
    (expandMember r group pass e).changed = true ↔
      pass.changed = true ∨ (memberStep? r group e (pass.states.of e.id)).isSome := by
  rw [expandMember_eq]
  cases memberStep? r group e (pass.states.of e.id) <;> simp

def members (r : Renderer) (entries : List Entry) (states : States) : List (List Entry × Entry) :=
  (collisions (namesKey r states) entries).flatMap fun group => group.map (group, ·)

theorem expandPass_eq : expandPass r entries states =
    (members r entries states).foldl (fun pass m => expandMember r m.1 pass m.2) { states } := by
  rw [members, List.foldl_flatMap]
  simp only [List.foldl_map]
  rfl

section Members

variable {ms : List (List Entry × Entry)}

theorem of_foldl_of_notMem (pass : Pass) {id : String} (h : id ∉ ms.map (·.2.id)) :
    (ms.foldl (fun pass m => expandMember r m.1 pass m.2) pass).states.of id =
      pass.states.of id := by
  induction ms generalizing pass with
  | nil => rfl
  | cons m ms ih =>
    rw [List.map_cons, List.mem_cons, not_or] at h
    rw [List.foldl_cons, ih _ h.2, of_expandMember, if_neg h.1]

-- Each member is met once, so its state is still the first one when its turn comes.
theorem of_foldl_of_mem (hn : (ms.map (·.2.id)).Nodup) (pass : Pass) {m : List Entry × Entry}
    (hm : m ∈ ms) :
    (ms.foldl (fun pass m => expandMember r m.1 pass m.2) pass).states.of m.2.id =
      (memberStep? r m.1 m.2 (pass.states.of m.2.id)).getD (pass.states.of m.2.id) := by
  induction ms generalizing pass with
  | nil => simp at hm
  | cons first ms ih =>
    obtain ⟨hfirst, hn⟩ := List.nodup_cons.mp hn
    rw [List.foldl_cons]
    rcases List.mem_cons.mp hm with rfl | hm
    · rw [of_foldl_of_notMem _ hfirst, of_expandMember, if_pos rfl]
    · have hne : m.2.id ≠ first.2.id := by
        intro he
        exact hfirst (List.mem_map.mpr ⟨m, hm, he⟩)
      rw [ih hn _ hm, of_expandMember, if_neg hne]

theorem changed_foldl (hn : (ms.map (·.2.id)).Nodup) (pass : Pass) :
    (ms.foldl (fun pass m => expandMember r m.1 pass m.2) pass).changed = true ↔
      pass.changed = true ∨ ∃ m ∈ ms, (memberStep? r m.1 m.2 (pass.states.of m.2.id)).isSome := by
  induction ms generalizing pass with
  | nil => simp
  | cons first ms ih =>
    obtain ⟨hfirst, hn⟩ := List.nodup_cons.mp hn
    have hsame : ∀ m ∈ ms, (expandMember r first.1 pass first.2).states.of m.2.id =
        pass.states.of m.2.id := by
      intro m hm
      rw [of_expandMember, if_neg]
      intro he
      exact hfirst (List.mem_map.mpr ⟨m, hm, he⟩)
    have hrest : (∃ m ∈ ms, (memberStep? r m.1 m.2
          ((expandMember r first.1 pass first.2).states.of m.2.id)).isSome) ↔
        ∃ m ∈ ms, (memberStep? r m.1 m.2 (pass.states.of m.2.id)).isSome := by
      refine exists_congr fun m => and_congr_right fun hm => ?_
      rw [hsame m hm]
    rw [List.foldl_cons, ih hn, changed_expandMember, hrest, List.exists_mem_cons_iff, or_assoc]

end Members

theorem mem_of_mem_members {m : List Entry × Entry} (h : m ∈ members r entries states) :
    m.2 ∈ entries ∧ ∀ other, other ∈ m.1 ↔
      other ∈ entries ∧ namesKey r states other = namesKey r states m.2 := by
  obtain ⟨group, hgroup, hm⟩ := List.mem_flatMap.mp h
  obtain ⟨e, he, rfl⟩ := List.mem_map.mp hm
  obtain ⟨x, hx, rfl⟩ := Grouping.mem_byKey.mp (List.mem_filter.mp hgroup).1
  simp only [List.mem_filter, beq_iff_eq] at he ⊢
  exact ⟨he.1, fun other => by rw [he.2]⟩

theorem mem_map_members (hn : entries.Nodup) (e : Entry) :
    e ∈ (members r entries states).map (·.2) ↔ e ∈ entries ∧
      ∃ other ∈ entries, other ≠ e ∧ namesKey r states other = namesKey r states e := by
  rw [← mem_collisions _ hn]
  simp [members, List.mem_flatten]

theorem nodup_members (hids : (entries.map (·.id)).Nodup) :
    ((members r entries states).map (·.2.id)).Nodup := by
  have hflat : (members r entries states).map (·.2.id) =
      (collisions (namesKey r states) entries).flatten.map (·.id) := by
    simp [members, List.flatMap_def, List.map_flatten, Function.comp_def]
  have hsub : (collisions (namesKey r states) entries).flatten.Sublist
      (Grouping.byKey (namesKey r states) entries).flatten :=
    List.filter_sublist.flatten
  have hperm : (Grouping.byKey (namesKey r states) entries).flatten.Perm entries :=
    Grouping.byKey_perm _ _
  rw [hflat]
  exact (hsub.map _).nodup ((hperm.map _).nodup_iff.mpr hids)

theorem memberStep?_of_mem {m : List Entry × Entry} (h : m ∈ members r entries states) :
    memberStep? r m.1 m.2 (states.of m.2.id) = step? r entries states m.2 := by
  obtain ⟨-, hgroup⟩ := mem_of_mem_members h
  rw [memberStep?, step?]
  apply if_congr _ rfl rfl
  simp [distinguishable, hgroup, and_assoc]

theorem step?_of_notMem (hn : entries.Nodup) {e : Entry} (he : e ∈ entries)
    (h : e ∉ (members r entries states).map (·.2)) : step? r entries states e = none := by
  rw [step?, if_neg]
  rintro ⟨other, ho, hkey, hnames⟩
  apply h
  rw [mem_map_members hn]
  refine ⟨he, other, ho, ?_, hkey⟩
  rintro rfl
  exact hnames rfl

theorem of_expandPass (hids : (entries.map (·.id)).Nodup) {e : Entry} (he : e ∈ entries) :
    (expandPass r entries states).states.of e.id =
      (step? r entries states e).getD (states.of e.id) := by
  rw [expandPass_eq]
  by_cases h : e ∈ (members r entries states).map (·.2)
  · obtain ⟨m, hm, rfl⟩ := List.mem_map.mp h
    rw [of_foldl_of_mem (nodup_members hids) _ hm, memberStep?_of_mem hm]
  · rw [step?_of_notMem hids.of_map he h, Option.getD_none]
    apply of_foldl_of_notMem
    intro hmem
    obtain ⟨m, hm, hid⟩ := List.mem_map.mp hmem
    have hme : m.2 = e := List.inj_on_of_nodup_map hids (mem_of_mem_members hm).1 he hid
    exact h (List.mem_map.mpr ⟨m, hm, hme⟩)

theorem of_expandPass_of_notMem {id : String} (h : id ∉ entries.map (·.id)) :
    (expandPass r entries states).states.of id = states.of id := by
  rw [expandPass_eq]
  apply of_foldl_of_notMem
  intro hmem
  obtain ⟨m, hm, rfl⟩ := List.mem_map.mp hmem
  exact h (List.mem_map_of_mem (mem_of_mem_members hm).1)

theorem changed_expandPass (hids : (entries.map (·.id)).Nodup) :
    (expandPass r entries states).changed = true ↔
      ∃ e ∈ entries, (step? r entries states e).isSome := by
  rw [expandPass_eq, changed_foldl (nodup_members hids)]
  constructor
  · rintro (h | ⟨m, hm, hstep⟩)
    · cases h
    · rw [memberStep?_of_mem hm] at hstep
      exact ⟨m.2, (mem_of_mem_members hm).1, hstep⟩
  · rintro ⟨e, he, hstep⟩
    by_cases h : e ∈ (members r entries states).map (·.2)
    · obtain ⟨m, hm, rfl⟩ := List.mem_map.mp h
      rw [← memberStep?_of_mem hm] at hstep
      exact .inr ⟨m, hm, hstep⟩
    · rw [step?_of_notMem hids.of_map he h] at hstep
      cases hstep

def advance (r : Renderer) (entries : List Entry) (states : States) : States :=
  (expandPass r entries states).states

theorem of_advance_cases (r : Renderer) (states : States) (hids : (entries.map (·.id)).Nodup)
    (id : String) : (advance r entries states).of id = states.of id ∨
      ∃ e ∈ entries, e.id = id ∧
        step? r entries states e = some ((advance r entries states).of id) := by
  rw [advance]
  by_cases hid : id ∈ entries.map (·.id)
  · obtain ⟨e, he, rfl⟩ := List.mem_map.mp hid
    rw [of_expandPass hids he]
    cases h : step? r entries states e with
    | none => exact .inl rfl
    | some next => exact .inr ⟨e, he, rfl, h⟩
  · exact .inl (of_expandPass_of_notMem hid)

theorem advance_of_unchanged (h : (expandPass r entries states).changed = false) :
    advance r entries states = states := by
  have hkept : expandPass r entries states = { states } ∨
      (expandPass r entries states).changed = true := by
    rw [expandPass_eq]
    refine List.foldlRecOn (motive := fun pass : Pass => pass = { states } ∨ pass.changed = true)
      _ _ (.inl rfl) fun pass hpass m _ => ?_
    rw [expandMember_eq]
    cases memberStep? r m.1 m.2 (pass.states.of m.2.id) with
    | none => exact hpass
    | some next => exact .inr rfl
  rcases hkept with hkept | hchanged
  · rw [advance, hkept]
  · rw [h] at hchanged
    cases hchanged

theorem expandPass_of_none (h : ∀ e state, expand? r e state = none) :
    expandPass r entries states = { states } := by
  rw [expandPass_eq]
  refine List.foldlRecOn (motive := fun pass : Pass => pass = { states }) _ _ rfl
    fun pass hpass m _ => ?_
  rw [expandMember_eq, memberStep?, h, ite_self]
  exact hpass

theorem expandNames_states (left : Nat) :
    (expandNames r entries left states).2 = (advance r entries)^[left] states := by
  induction left generalizing states with
  | zero => rfl
  | succ left ih =>
    rw [Function.iterate_succ_apply]
    simp only [expandNames]
    split
    · exact ih
    · next h =>
      have hfixed : advance r entries states = states := advance_of_unchanged (by simpa using h)
      rw [hfixed, Function.iterate_fixed hfixed]

theorem expandNames_converged (left : Nat) :
    (expandNames r entries left states).1 = .converged ↔
      ∃ n < left, (expandPass r entries ((advance r entries)^[n] states)).changed = false := by
  induction left generalizing states with
  | zero => simp [expandNames]
  | succ left ih =>
    rw [Nat.exists_lt_succ_left]
    simp only [expandNames, Function.iterate_succ_apply, Function.iterate_zero, id_eq]
    cases h : (expandPass r entries states).changed with
    | false => simp
    | true =>
      simp only [if_true, ih, Bool.true_eq_false, false_or]
      rfl

theorem expandNames_capped (left : Nat) :
    (expandNames r entries left states).1 = .converged ∨
      (expandNames r entries left states).1 = .cappedAt maxPasses := by
  induction left generalizing states with
  | zero => exact .inr rfl
  | succ left ih =>
    simp only [expandNames]
    split
    · exact ih
    · exact .inl rfl

def afterPasses (r : Renderer) (entries : List Entry) (n : Nat) : States :=
  (advance r entries)^[n] (suffixed r entries)

theorem afterPasses_succ (n : Nat) :
    afterPasses r entries (n + 1) = advance r entries (afterPasses r entries n) :=
  Function.iterate_succ_apply' _ _ _

section Off

variable (hgiven : r.style.citation.options.disambiguateAddGivenName = false)
  (hnames : r.style.citation.options.disambiguateAddNames = false)
include hgiven hnames

theorem expand?_of_off (e : Entry) (state : DisambiguationState) : expand? r e state = none := by
  simp [expand?, candidates, hgiven, hnames]

theorem afterPasses_of_off (n : Nat) : afterPasses r entries n = suffixed r entries := by
  apply Function.iterate_fixed
  rw [advance, expandPass_of_none (expand?_of_off hgiven hnames)]

end Off

theorem settled_eq (r : Renderer) (entries : List Entry) :
    settled r entries = afterPasses r entries maxPasses := by
  rw [settled]
  split
  · exact expandNames_states _
  · next h =>
    simp only [Bool.or_eq_true, not_or, Bool.not_eq_true] at h
    exact (afterPasses_of_off h.1 h.2 _).symm

theorem disambiguate_states (r : Renderer) (entries : List Entry) :
    (r.disambiguate entries []).2 = markRemaining r entries (afterPasses r entries maxPasses) := by
  rw [disambiguate_eq, settled_eq]

theorem disambiguate_convergence (r : Renderer) (entries : List Entry) :
    (r.disambiguate entries []).1 =
      if r.style.citation.options.disambiguateAddGivenName ||
          r.style.citation.options.disambiguateAddNames then
        (expandNames r entries maxPasses (suffixed r entries)).1
      else .converged := by
  simp only [Renderer.disambiguate, suffixed, started]
  split <;> rfl

theorem disambiguate_converged : (r.disambiguate entries []).1 = .converged ↔
    ∃ n < maxPasses, (expandPass r entries (afterPasses r entries n)).changed = false := by
  rw [disambiguate_convergence]
  split
  · exact expandNames_converged _
  · next h =>
    simp only [Bool.or_eq_true, not_or, Bool.not_eq_true] at h
    refine iff_of_true rfl ⟨0, by decide, ?_⟩
    rw [expandPass_of_none (expand?_of_off h.1 h.2)]

theorem disambiguate_capped (r : Renderer) (entries : List Entry) :
    (r.disambiguate entries []).1 = .converged ∨
      (r.disambiguate entries []).1 = .cappedAt maxPasses := by
  rw [disambiguate_convergence]
  split
  · exact expandNames_capped _
  · exact .inl rfl

end Citeproc.Disambiguation
