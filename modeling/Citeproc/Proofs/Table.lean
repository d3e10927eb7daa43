import Citeproc.Table

namespace Citeproc.Table

variable {α : Type}

theorem get?_isSome_iff (t : Table α) (key : String) : (t.get? key).isSome ↔ key ∈ t.keys := by
  rw [get?, List.lookup_isSome_iff, keys, List.mem_map]
  exact exists_congr fun _ => and_congr_right fun _ => beq_iff_eq.trans eq_comm

theorem mem_of_get? {t : Table α} {key : String} {value : α} (h : t.get? key = some value) :
    (key, value) ∈ t := by
  obtain ⟨before, after, rfl, _⟩ := List.lookup_eq_some_iff.mp h
  simp

theorem mem_keys_put (t : Table α) (key name : String) (value : α) :
    name ∈ (t.put key value).keys ↔ name ∈ t.keys ∨ name = key := by
  rw [put, keys_modify]
  split
  · next h =>
    constructor
    · exact .inl
    · rintro (hname | rfl)
      · exact hname
      · exact h
  · rw [List.mem_append, List.mem_singleton]

theorem nodup_keys_modify {t : Table α} (h : t.keys.Nodup) (key : String) (f : Option α → α) :
    (t.modify key f).keys.Nodup := by
  rw [keys_modify]
  split
  · exact h
  · next hkey =>
    have hne : ∀ name ∈ t.keys, name ≠ key := fun name hname heq => hkey (heq ▸ hname)
    exact List.nodup_append.mpr ⟨h, by simp, by simpa using hne⟩

theorem put_of_get? {t : Table α} {key : String} {value : α} (h : t.get? key = some value) :
    t.put key value = t := by
  induction t with
  | nil => cases h
  | cons entry rest ih =>
    obtain ⟨k, v⟩ := entry
    rw [get?, List.lookup_cons] at h
    rw [put, modify]
    by_cases hk : k = key
    · subst hk
      rw [if_pos (beq_self_eq_true _)]
      simp only [beq_self_eq_true, Option.some.injEq] at h
      rw [h]
    · have hk' : (key == k) = false := beq_eq_false_iff_ne.mpr (Ne.symm hk)
      rw [if_neg (by simpa using hk)]
      rw [hk'] at h
      exact congrArg _ (ih h)

theorem get?_numbered (f : String → Nat → α) (ids : List String) (start : Nat) (id : String) :
    get? ((ids.zipIdx start).map fun (id, place) => (id, f id place)) id =
      if id ∈ ids then some (f id (ids.idxOf id + start)) else none := by
  induction ids generalizing start with
  | nil => rfl
  | cons first ids ih =>
    simp only [get?] at ih
    by_cases h : id = first
    · subst h
      simp [get?]
    · have hb : (id == first) = false := beq_eq_false_iff_ne.mpr h
      simp only [get?, List.zipIdx_cons, List.map_cons, List.lookup_cons, hb, ih, List.mem_cons, h,
        false_or, List.idxOf_cons]
      have hf : (first == id) = false := beq_eq_false_iff_ne.mpr (Ne.symm h)
      simp only [hf, cond_false]
      congr 3
      omega

end Citeproc.Table
