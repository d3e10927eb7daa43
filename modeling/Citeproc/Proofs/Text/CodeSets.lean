import Citeproc.Text.Case.Mapping
import Mathlib.Data.List.Basic

/-!
Sets of code points, kept as the bits of one number. Whether two sets are apart, or one is within
the other, is one operation on numbers then, however many code points there are.
-/

namespace Citeproc.Text

structure CodeSet where
  bits : Nat

namespace CodeSet

variable {s t : CodeSet} {n : Nat}

instance : Membership Nat CodeSet := ⟨fun s n => s.bits.testBit n = true⟩

instance (n : Nat) (s : CodeSet) : Decidable (n ∈ s) :=
  inferInstanceAs (Decidable (s.bits.testBit n = true))

instance : Union CodeSet := ⟨fun s t => ⟨s.bits ||| t.bits⟩⟩

theorem mem_iff : n ∈ s ↔ s.bits.testBit n = true := .rfl

theorem not_mem_empty : n ∉ (⟨0⟩ : CodeSet) := by simp [mem_iff]

@[simp] theorem mem_union : n ∈ s ∪ t ↔ n ∈ s ∨ n ∈ t := by
  rw [mem_iff, show (s ∪ t).bits = s.bits ||| t.bits from rfl, Nat.testBit_or, Bool.or_eq_true,
    mem_iff, mem_iff]

def range (first last : Nat) : CodeSet := ⟨(1 <<< (last + 1 - first) - 1) <<< first⟩

@[simp] theorem mem_range {first last : Nat} : n ∈ range first last ↔ first ≤ n ∧ n ≤ last := by
  rw [mem_iff, range, Nat.one_shiftLeft, Nat.testBit_shiftLeft, Nat.testBit_two_pow_sub_one]
  simp only [Bool.and_eq_true, decide_eq_true_eq]
  omega

def every (step first : Nat) : Nat → CodeSet
  | 0 => ⟨0⟩
  | count + 1 => ⟨1 <<< (first + step * count)⟩ ∪ every step first count

theorem mem_every {step first count i : Nat} (h : i < count) :
    first + step * i ∈ every step first count := by
  induction count with
  | zero => exact absurd h (Nat.not_lt_zero i)
  | succ count ih =>
    rw [every, mem_union]
    obtain hi | rfl := Nat.lt_succ_iff_lt_or_eq.mp h
    · exact .inr (ih hi)
    · exact .inl (by simp [mem_iff])

def ofRows {α : Type} (sets : α → CodeSet) (rows : List α) : CodeSet :=
  rows.foldr (fun row s => sets row ∪ s) ⟨0⟩

theorem mem_ofRows {α : Type} {sets : α → CodeSet} {rows : List α} :
    n ∈ ofRows sets rows ↔ ∃ row ∈ rows, n ∈ sets row := by
  induction rows with
  | nil => simp [ofRows, not_mem_empty]
  | cons row rows ih =>
    rw [ofRows, List.foldr_cons, mem_union, ← ofRows, ih]
    simp

def apart (s t : CodeSet) : Bool := s.bits &&& t.bits == 0

theorem not_mem_of_apart (h : apart s t = true) (hs : n ∈ s) : n ∉ t := by
  intro ht
  have hand : (s.bits &&& t.bits).testBit n = true := by
    rw [Nat.testBit_and, mem_iff.mp hs, mem_iff.mp ht]
    rfl
  rw [eq_of_beq h] at hand
  exact not_mem_empty hand

def within (s t : CodeSet) : Bool := s.bits &&& t.bits == s.bits

theorem mem_of_within (h : within s t = true) (hs : n ∈ s) : n ∈ t := by
  rw [mem_iff, ← eq_of_beq h, Nat.testBit_and, Bool.and_eq_true] at hs
  exact hs.2

end CodeSet

def RangeTable.codes (table : RangeTable) : CodeSet :=
  .ofRows (fun row => .range row.1 row.2) table.toList

theorem RangeTable.mem_codes {table : RangeTable} {n : Nat} (h : table.mem n = true) :
    n ∈ table.codes := by
  obtain ⟨row, hrow, hbounds⟩ := exists_of_mem h
  exact CodeSet.mem_ofRows.mpr ⟨row, Array.mem_toList_iff.mpr hrow, CodeSet.mem_range.mpr hbounds⟩

theorem RangeTable.mem_codes_append {table table' : RangeTable} {n : Nat} :
    n ∈ RangeTable.codes (table ++ table') ↔ n ∈ table.codes ∨ n ∈ table'.codes := by
  simp only [codes, CodeSet.mem_ofRows, Array.toList_append, List.mem_append, or_and_right, exists_or]

def StrideTable.bounds (table : StrideTable) : CodeSet :=
  .ofRows (fun row => .range row.1 row.2.1) table.toList

theorem StrideTable.mem_bounds {table : StrideTable} {n : Nat} (h : table.mem n = true) :
    n ∈ table.bounds := by
  rw [mem] at h
  split at h
  · next first last step hrow =>
    obtain ⟨hmem, hbounds⟩ := searchRows_mem hrow
    exact CodeSet.mem_ofRows.mpr ⟨_, Array.mem_toList_iff.mpr hmem, CodeSet.mem_range.mpr hbounds⟩
  · cases h

def SpellingTable.codes (table : SpellingTable) : CodeSet :=
  .ofRows (fun row => .range row.1 row.1) table.toList

theorem SpellingTable.mem_codes {table : SpellingTable} {n : Nat} {cs : List Char}
    (h : table.find? n = some cs) : n ∈ table.codes := by
  obtain ⟨row, hmem, rfl, -⟩ := exists_of_find? h
  exact CodeSet.mem_ofRows.mpr ⟨row, Array.mem_toList_iff.mpr hmem,
    CodeSet.mem_range.mpr ⟨Nat.le_refl _, Nat.le_refl _⟩⟩

namespace ShiftTable

def isValidRow : Nat × Nat × Nat × Int → Bool
  | (first, last, _, shift) =>
    Nat.blt 0 (first + shift).toNat &&
      (Nat.blt (last + shift).toNat 0xd800 ||
        Nat.blt 0xdfff (first + shift).toNat && Nat.blt (last + shift).toNat 0x110000)

def codes (table : ShiftTable) : CodeSet :=
  .ofRows (fun (first, last, step, _) => .every step first ((last - first) / step + 1)) table.toList

def images (table : ShiftTable) : CodeSet :=
  .ofRows (fun (first, last, step, shift) =>
    .every step (first + shift).toNat ((last - first) / step + 1))
    table.toList

theorem toNat_ofNat {n : Nat} (h : n.isValidChar) : (Char.ofNat n).toNat = n := by
  rw [Char.ofNat, dif_pos h]
  rfl

theorem apply_eq_self_or {table : ShiftTable} (htable : table.toList.all isValidRow = true) (c : Char) :
    table.apply c = c ∨ c.toNat ∈ table.codes ∧ (table.apply c).toNat ∈ table.images := by
  rw [apply]
  split
  · next first last step shift hrow =>
    obtain ⟨hmem, hfirst, hlast⟩ := searchRows_mem hrow
    have hmem := Array.mem_toList_iff.mpr hmem
    have hvalid := List.all_eq_true.mp htable _ hmem
    simp only [isValidRow, Bool.and_eq_true, Bool.or_eq_true, Nat.blt_eq] at hvalid
    dsimp only at hfirst hlast
    split
    · next hstep =>
      right
      have hindex : (c.toNat - first) / step < (last - first) / step + 1 :=
        Nat.lt_succ_of_le (Nat.div_le_div_right (Nat.sub_le_sub_right hlast first))
      have hstepped : step * ((c.toNat - first) / step) = c.toNat - first :=
        Nat.mul_div_cancel' (Nat.dvd_of_mod_eq_zero (eq_of_beq hstep))
      have hplaced (start : Nat) : start + step * ((c.toNat - first) / step) ∈
          CodeSet.every step start ((last - first) / step + 1) := CodeSet.mem_every hindex
      have hcode := hplaced first
      have himage := hplaced (first + shift).toNat
      have hchar : (c.toNat + shift).toNat.isValidChar := by
        rw [Nat.isValidChar]
        omega
      rw [hstepped] at hcode himage
      rw [toNat_ofNat hchar]
      constructor
      · exact CodeSet.mem_ofRows.mpr ⟨_, hmem, by rwa [Nat.add_sub_cancel' hfirst] at hcode⟩
      · refine CodeSet.mem_ofRows.mpr ⟨_, hmem, ?_⟩
        rwa [show (first + shift).toNat + (c.toNat - first) = (c.toNat + shift).toNat by omega] at himage
    · exact .inl rfl
  · exact .inl rfl

end ShiftTable

end Citeproc.Text
