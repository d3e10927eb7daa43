import Mathlib.Data.Finset.Card
import Mathlib.Data.List.Nodup
import Mathlib.Data.List.TakeWhile
import Mathlib.Data.Set.Function
import Mathlib.Order.Interval.Set.Defs

namespace List

variable {α : Type} [DecidableEq α]

theorem nodup_eraseDups (l : List α) : l.eraseDups.Nodup := by
  induction hn : l.length using Nat.strongRecOn generalizing l with
  | ind n ih =>
    cases l with
    | nil => simp
    | cons a l =>
      rw [eraseDups_cons]
      have hlt : (l.filter fun b => !b == a).length < n := by
        have := length_filter_le (fun b => !b == a) l
        simp only [length_cons] at hn
        omega
      refine nodup_cons.mpr ⟨?_, ih _ hlt _ rfl⟩
      simp [mem_eraseDups]

theorem length_eraseDups (l : List α) : l.eraseDups.length = l.toFinset.card := by
  rw [← toFinset_card_of_nodup (nodup_eraseDups l)]
  congr 1
  ext a
  simp [mem_eraseDups]

theorem idxOf_eraseDups {l : List α} {a : α} (h : a ∈ l) :
    l.eraseDups.idxOf a = (l.takeWhile (· ≠ a)).toFinset.card := by
  obtain ⟨before, after, rfl, ha⟩ := eq_append_cons_of_mem h
  have htake : (before ++ a :: after).takeWhile (· ≠ a) = before := by
    rw [takeWhile_append_of_pos fun b hb => by simpa using fun he : b = a => ha (he ▸ hb)]
    simp
  have hrest : (a :: after).removeAll before = a :: after.removeAll before := by
    simp [removeAll, ha]
  rw [htake, eraseDups_append, hrest, eraseDups_cons, idxOf_append_of_notMem (by simpa [mem_eraseDups]),
    idxOf_cons_self, Nat.add_zero, length_eraseDups]

theorem eraseDups_concat (l : List α) (a : α) :
    (l ++ [a]).eraseDups = if a ∈ l.eraseDups then l.eraseDups else l.eraseDups ++ [a] := by
  rw [eraseDups_append]
  by_cases h : a ∈ l <;> simp [removeAll, mem_eraseDups, eraseDups_cons, h]

theorem takeWhile_ne_append {l : List α} {a : α} (h : a ∈ l) (more : List α) :
    (l ++ more).takeWhile (· ≠ a) = l.takeWhile (· ≠ a) := by
  rw [takeWhile_append, if_neg]
  intro he
  have hall : l.takeWhile (· ≠ a) = l := ( takeWhile_prefix _).eq_of_length he
  have hm : a ∈ l.takeWhile (· ≠ a) := by rw [hall]; exact h
  simpa using mem_takeWhile_imp hm

theorem bijOn_idxOf {l : List α} (h : l.Nodup) :
    Set.BijOn (fun a => some (l.idxOf a + 1)) {a | a ∈ l} (some '' Set.Icc 1 l.length) := by
  refine ⟨?_, ?_, ?_⟩
  · intro a ha
    exact ⟨l.idxOf a + 1, ⟨by omega, idxOf_lt_length_of_mem ha⟩, rfl⟩
  · intro a ha b _ he
    have he : l.idxOf a = l.idxOf b := by simpa using he
    exact (idxOf_inj ha).mp he
  · rintro _ ⟨n, ⟨hpos, hle⟩, rfl⟩
    have hlt : n - 1 < l.length := by omega
    refine ⟨l[n - 1], getElem_mem hlt, ?_⟩
    have := h.idxOf_getElem (n - 1) hlt
    simp only [this]
    congr 1
    omega

end List
