/-!
Sets and maps of characters given by tables. A table lists ranges of code points in ascending
order, so one binary search decides a character.
-/

namespace Citeproc.Text

abbrev RangeTable := Array (Nat × Nat)

/-- Rows `(first, last, step)`: every `step`-th code point from `first` to `last`. -/
abbrev StrideTable := Array (Nat × Nat × Nat)

def searchRows {α : Type} (bounds : α → Nat × Nat) (rows : Array α) (n lo hi : Nat) : Option α :=
  if _h : lo < hi then
    let mid := (lo + hi) / 2
    match rows[mid]? with
    | none => none
    | some row =>
      if n < (bounds row).1 then searchRows bounds rows n lo mid
      else if (bounds row).2 < n then searchRows bounds rows n (mid + 1) hi
      else some row
  else none
termination_by hi - lo
decreasing_by all_goals omega

def RangeTable.mem (table : RangeTable) (n : Nat) : Bool :=
  (searchRows id table n 0 table.size).isSome

def StrideTable.mem (table : StrideTable) (n : Nat) : Bool :=
  match searchRows (fun row => (row.1, row.2.1)) table n 0 table.size with
  | some (first, _, step) => (n - first) % step == 0
  | none => false

theorem searchRows_mem {α : Type} {bounds : α → Nat × Nat} {rows : Array α} {n lo hi : Nat} {row : α}
    (h : searchRows bounds rows n lo hi = some row) :
    row ∈ rows ∧ (bounds row).1 ≤ n ∧ n ≤ (bounds row).2 := by
  fun_induction searchRows bounds rows n lo hi with
  | case1 => simp at h
  | case2 lo hi _ mid r hr _ ih => exact ih h
  | case3 lo hi _ mid r hr _ _ ih => exact ih h
  | case4 lo hi _ mid r hr h₁ h₂ =>
    obtain rfl : r = row := by simpa using h
    exact ⟨Array.mem_of_getElem? hr, by omega, by omega⟩
  | case5 => simp at h

theorem RangeTable.exists_of_mem {table : RangeTable} {n : Nat} (h : table.mem n = true) :
    ∃ row ∈ table, row.1 ≤ n ∧ n ≤ row.2 := by
  obtain ⟨row, hrow⟩ := Option.isSome_iff_exists.mp h
  exact ⟨row, searchRows_mem hrow⟩

end Citeproc.Text
