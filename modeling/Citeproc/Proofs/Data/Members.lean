import Mathlib.Data.List.Nodup
import Mathlib.Data.String.Basic
import Citeproc.Data.Value

namespace Citeproc.Data.Value

theorem lookup_cons_ite (name key : String) (v : Value) (members : List (String × Value)) :
    List.lookup key ((name, v) :: members) = if key = name then some v else members.lookup key := by
  rw [List.lookup_cons]
  by_cases h : key = name
  · simp [h]
  · simp [h, beq_eq_false_iff_ne.mpr h]

theorem lookup_insertMember (name key : String) (v : Value) (done : List (String × Value)) :
    (insertMember name v done).lookup key = if key = name then some v else done.lookup key := by
  induction done with
  | nil => exact lookup_cons_ite name key v []
  | cons member rest ih =>
    obtain ⟨k, w⟩ := member
    rw [insertMember]
    split
    · next heq =>
      obtain rfl := beq_iff_eq.mp heq
      rw [lookup_cons_ite, lookup_cons_ite]
      split <;> rfl
    · next hne =>
      rw [beq_iff_eq] at hne
      split
      · exact lookup_cons_ite name key v _
      · rw [lookup_cons_ite, lookup_cons_ite, ih]
        by_cases hkey : key = k
        · simp [hkey, Ne.symm hne]
        · simp [hkey]

theorem mem_names_insertMember (name key : String) (v : Value) (done : List (String × Value)) :
    key ∈ (insertMember name v done).map (·.1) ↔ key = name ∨ key ∈ done.map (·.1) := by
  induction done with
  | nil => simp [insertMember]
  | cons member rest ih =>
    obtain ⟨k, w⟩ := member
    rw [insertMember]
    split
    · simp_all
    · split
      · simp
      · rw [List.map_cons, List.mem_cons, ih, List.map_cons, List.mem_cons]
        exact or_left_comm

theorem pairwise_insertMember (name : String) (v : Value) {done : List (String × Value)}
    (h : (done.map (·.1)).Pairwise (· < ·)) :
    ((insertMember name v done).map (·.1)).Pairwise (· < ·) := by
  induction done with
  | nil => simp [insertMember]
  | cons member rest ih =>
    obtain ⟨k, w⟩ := member
    obtain ⟨hk, hrest⟩ := List.pairwise_cons.mp h
    rw [insertMember]
    split
    · next heq =>
      rw [beq_iff_eq.mp heq]
      exact h
    · next hne =>
      rw [beq_iff_eq] at hne
      split
      · next hlt =>
        refine List.pairwise_cons.mpr ⟨fun key hkey => ?_, h⟩
        obtain rfl | hkey := List.mem_cons.mp hkey
        · exact hlt
        · exact hlt.trans (hk key hkey)
      · next hnlt =>
        refine List.pairwise_cons.mpr ⟨fun key hkey => ?_, ih hrest⟩
        obtain rfl | hkey := (mem_names_insertMember name key v rest).mp hkey
        · exact lt_of_le_of_ne (not_lt.mp hnlt) (Ne.symm hne)
        · exact hk key hkey

theorem pairwise_sortedMembers (members : List (String × Value)) {done : List (String × Value)}
    (h : (done.map (·.1)).Pairwise (· < ·)) :
    ((sortedMembers done members).map (·.1)).Pairwise (· < ·) := by
  induction members generalizing done with
  | nil => exact h
  | cons member members ih => exact ih (pairwise_insertMember member.1 member.2.sorted h)

theorem lookup_sortedMembers (members done : List (String × Value)) (key : String) :
    (sortedMembers done members).lookup key =
      ((members.reverse.lookup key).map sorted).or (done.lookup key) := by
  induction members generalizing done with
  | nil => rfl
  | cons member members ih =>
    obtain ⟨name, v⟩ := member
    rw [sortedMembers, ih, lookup_insertMember, List.reverse_cons, List.lookup_append, Option.map_or,
      Option.or_assoc, lookup_cons_ite]
    congr 1
    split <;> rfl

theorem lookup_eq_none_of_notMem {members : List (String × Value)} {name : String}
    (h : name ∉ members.map (·.1)) : members.lookup name = none := by
  rw [List.lookup_eq_none_iff]
  intro member hmember
  simpa using fun heq : name = member.1 => h (List.mem_map.mpr ⟨member, hmember, heq.symm⟩)

theorem lookup_reverse_of_nodup {members : List (String × Value)} (h : (members.map (·.1)).Nodup)
    (key : String) : members.reverse.lookup key = members.lookup key := by
  induction members with
  | nil => rfl
  | cons member members ih =>
    obtain ⟨name, v⟩ := member
    obtain ⟨hnotMem, hnodup⟩ := List.nodup_cons.mp h
    have hnone : members.lookup name = none := lookup_eq_none_of_notMem hnotMem
    rw [List.reverse_cons, List.lookup_append, ih hnodup, lookup_cons_ite, lookup_cons_ite]
    by_cases hkey : key = name
    · simp [hkey, hnone]
    · simp [hkey]

theorem nodup_sortedMembers (members : List (String × Value)) :
    ((sortedMembers [] members).map (·.1)).Nodup :=
  (pairwise_sortedMembers members List.Pairwise.nil).imp fun h => h.ne

theorem member?_sorted (v : Value) (name : String) :
    v.sorted.member? name = (v.member? name).map sorted := by
  cases v with
  | object members =>
    rw [sorted, member?, lookup_reverse_of_nodup (nodup_sortedMembers members), lookup_sortedMembers,
      List.lookup_nil, Option.or_none]
    rfl
  | _ => rfl

theorem sortedAll_eq_map (items : List Value) : sortedAll items = items.map sorted := by
  induction items with
  | nil => rfl
  | cons v items ih => rw [sortedAll, ih, List.map_cons]

end Citeproc.Data.Value
