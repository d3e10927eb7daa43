import Citeproc.Proofs.Text.DigitOrder
import Citeproc.Text.Cut
import Citeproc.Text.Digit

namespace Citeproc.Text

theorem isDecimalDigit_of_isDigit {c : Char} : c.isDigit = true → isDecimalDigit c = true :=
  of_isDigit (isDecimalDigit · = true) (by decide)

theorem isDecimalDigit_of_isBlank {c : Char} (h : isBlank c = true) : isDecimalDigit c = false := by
  have hdisjoint : ∀ blank ∈ blankRanges, ∀ digit ∈ decimalRanges,
      blank.2 < digit.1 ∨ digit.2 < blank.1 := by decide +kernel
  rw [isBlank] at h
  by_contra hdigit
  rw [Bool.not_eq_false, isDecimalDigit] at hdigit
  by_cases hascii : c.toNat < 128
  · rw [if_pos hascii, Bool.or_eq_true] at h
    rw [if_pos hascii, Char.isDigit_iff_toNat] at hdigit
    rcases h with h | h
    · obtain rfl := eq_of_beq h
      exact absurd hdigit (by decide)
    · simp at h hdigit
      omega
  · rw [if_neg hascii] at h hdigit
    obtain ⟨blank, hblank, hb⟩ := RangeTable.exists_of_mem h
    obtain ⟨digit, hrow, hd⟩ := RangeTable.exists_of_mem hdigit
    have hrows := hdisjoint blank hblank digit hrow
    omega

theorem utf8Size_of_isDigit {c : Char} : c.isDigit = true → c.utf8Size = 1 :=
  of_isDigit (·.utf8Size = 1) (by decide)

theorem head?_ne_plus {cs : List Char} (h : ∀ c ∈ cs, isDecimalDigit c = true) :
    cs.head? ≠ some '+' := by
  intro hplus
  have hdigit := h '+' (List.mem_of_mem_head? hplus)
  revert hdigit
  decide

theorem natural?_eq_some_iff {limit n : Nat} {cs : List Char} (hplus : cs.head? ≠ some '+') :
    natural? limit cs = some n ↔
      cs ≠ [] ∧ (∀ c ∈ cs, c.isDigit = true) ∧ Nat.ofDigitChars 10 cs 0 = n ∧ n ≤ limit := by
  rw [natural?, if_neg (by simpa using hplus), Option.filter_eq_some_iff, decimal?]
  split
  · next hno =>
    have hnot : cs ≠ [] → ∃ c ∈ cs, c.isDigit = false := by simpa [← not_or, imp_iff_not_or] using hno
    constructor
    · intro h
      cases h.1
    · rintro ⟨hne, hdigits, -⟩
      obtain ⟨c, hc, hcdigit⟩ := hnot hne
      simp [hdigits c hc] at hcdigit
  · next hrun =>
    have hrun : cs ≠ [] ∧ ∀ c ∈ cs, c.isDigit = true := by simpa using hrun
    constructor
    · rintro ⟨hn, hlimit⟩
      exact ⟨hrun.1, hrun.2, Option.some.inj hn, by simpa using hlimit⟩
    · rintro ⟨-, -, hn, hlimit⟩
      exact ⟨congrArg some hn, by simpa using hlimit⟩

section Digits

variable {cs ds : List Char} (hcs : ∀ c ∈ cs, c.isDigit = true)

include hcs

theorem byteLength_of_isDigit : byteLength cs = cs.length := by
  induction cs with
  | nil => rfl
  | cons c cs ih =>
    obtain ⟨hc, hcs⟩ := List.forall_mem_cons.mp hcs
    rw [byteLength, utf8Size_of_isDigit hc, ih hcs, List.length_cons, Nat.add_comm]

theorem cutAt?_of_isDigit {n : Nat} (h : n ≤ cs.length) : cutAt? n cs = some (cs.take n, cs.drop n) := by
  rw [cutAt?_eq_some_iff, List.take_append_drop,
    byteLength_of_isDigit fun c hc => hcs c (List.mem_of_mem_take hc), List.length_take,
    Nat.min_eq_left h]
  exact ⟨rfl, rfl⟩

theorem eq_of_ofDigitChars_eq (hds : ∀ c ∈ ds, c.isDigit = true) (hlength : cs.length = ds.length)
    (h : Nat.ofDigitChars 10 cs 0 = Nat.ofDigitChars 10 ds 0) : cs = ds := by
  have hcompare := compare_digits hcs hds hlength.le le_rfl
  rw [decimals, decimals, h, hlength, compare_eq_iff_eq.mpr rfl, compare_eq_iff_eq.mpr rfl] at hcompare
  exact Std.LawfulEqCmp.eq_of_compare hcompare

theorem length_toDigits_ofDigitChars_le (hne : cs ≠ []) :
    (Nat.toDigits 10 (Nat.ofDigitChars 10 cs 0)).length ≤ cs.length :=
  (Nat.length_toDigits_le_iff (by decide) (List.length_pos_of_ne_nil hne)).mpr (ofDigitChars_lt hcs)

theorem toDigits_ofDigitChars
    (h : (Nat.toDigits 10 (Nat.ofDigitChars 10 cs 0)).length = cs.length) :
    Nat.toDigits 10 (Nat.ofDigitChars 10 cs 0) = cs := by
  apply eq_of_ofDigitChars_eq _ hcs h Nat.ofDigitChars_ten_toDigits
  intro c hc
  exact Nat.isDigit_of_mem_toDigits (by decide) (by decide) hc

end Digits

end Citeproc.Text
