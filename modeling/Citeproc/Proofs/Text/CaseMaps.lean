import Citeproc.Proofs.Text.CodeSets
import Citeproc.Text.Blank
import Citeproc.Text.Case.Mapping
import Mathlib.Data.List.Basic

namespace Citeproc.Text

-- Sets of code points are evaluated row by row, a level for each row.
set_option maxRecDepth 2000

section Decidable

variable (p : Char → Prop) [DecidablePred p]

-- The characters of a list are tried one by one, never all characters.
instance (priority := high) decidableForallMemList (cs : List Char) :
    Decidable (∀ c ∈ cs, p c) := List.decidableBAll p cs

instance (priority := high) decidableForallMemOption (c? : Option Char) : Decidable (∀ c ∈ c?, p c) :=
  Option.decidableForallMem c?

instance (priority := high) decidableExistsMemOption (c? : Option Char) : Decidable (∃ c ∈ c?, p c) :=
  Option.decidableExistsMem c?

end Decidable

@[elab_as_elim]
theorem forall_char_lt {bound : Nat} {P : Char → Prop} (h : ∀ n < bound, P (Char.ofNat n)) {c : Char}
    (hc : c.toNat < bound) : P c := by
  have hP := h c.toNat hc
  rwa [Char.ofNat_toNat] at hP

theorem isValidRow_shifts : ∀ table ∈ [upperShifts, lowerShifts],
    table.toList.all ShiftTable.isValidRow = true := by
  decide

theorem apply_upperShifts_eq_self_or (c : Char) : upperShifts.apply c = c ∨
    c.toNat ∈ upperShifts.codes ∧ (upperShifts.apply c).toNat ∈ upperShifts.images :=
  ShiftTable.apply_eq_self_or (isValidRow_shifts _ List.mem_cons_self) c

theorem apply_lowerShifts_eq_self_or (c : Char) : lowerShifts.apply c = c ∨
    c.toNat ∈ lowerShifts.codes ∧ (lowerShifts.apply c).toNat ∈ lowerShifts.images :=
  ShiftTable.apply_eq_self_or (isValidRow_shifts _ (List.mem_cons_of_mem _ List.mem_cons_self)) c

section Upper

structure IsUpperForm (c : Char) : Prop where
  upperChars : upperChars c = [c]
  isBlank : isBlank c = false
  ne_hyphen : c ≠ '-'
  ne_period : c ≠ '.'

theorem isUpperForm_iff (c : Char) :
    IsUpperForm c ↔ Text.upperChars c = [c] ∧ Text.isBlank c = false ∧ c ≠ '-' ∧ c ≠ '.' :=
  ⟨fun h => ⟨h.upperChars, h.isBlank, h.ne_hyphen, h.ne_period⟩, fun h => ⟨h.1, h.2.1, h.2.2.1, h.2.2.2⟩⟩

instance (c : Char) : Decidable (IsUpperForm c) := decidable_of_iff' _ (isUpperForm_iff c)

theorem upperChars_cases {P : Char → Prop}
    (hascii : ∀ c : Char, c.toNat < 128 → upperChars c = [c.toUpper] → P c)
    (hspelled : ∀ row ∈ upperSpellings, upperChars (Char.ofNat row.1) = row.2.map Char.ofNat →
      P (Char.ofNat row.1))
    (hshifted : ∀ c : Char, ¬c.toNat < 128 → upperChars c = [upperShifts.apply c] → P c)
    (c : Char) : P c := by
  by_cases hc : c.toNat < 128
  · exact hascii c hc (by rw [upperChars, if_pos hc])
  · cases hfind : upperSpellings.find? c.toNat with
    | some spelling =>
      have hupper : upperChars c = spelling := by rw [upperChars, if_neg hc, hfind, Option.getD_some]
      obtain ⟨row, hmem, hcode, rfl⟩ := SpellingTable.exists_of_find? hfind
      obtain rfl : c = Char.ofNat row.1 := by rw [hcode, Char.ofNat_toNat]
      exact hspelled row hmem hupper
    | none => exact hshifted c hc (by rw [upperChars, if_neg hc, hfind, Option.getD_none])

def otherThanUpper : CodeSet :=
  upperShifts.codes ∪ upperSpellings.codes ∪ lowerShifts.images ∪ blankRanges.codes ∪ .range 0 64 ∪
    .range 91 127

theorem ascii_case {c : Char} (hc : c.toNat < 128) : (c.toNat ∉ otherThanUpper → IsUpperForm c) ∧
    (c.toUpper = c ∨ c.toUpper.toNat ∉ otherThanUpper) ∧
      (c.toLower = c ∨ c.toLower.toNat ∈ otherThanUpper) := by
  refine forall_char_lt ?_ hc
  decide

theorem apart_images_upperShifts : CodeSet.apart upperShifts.images otherThanUpper = true := by decide

theorem not_mem_upperSpellings : ∀ row ∈ upperSpellings,
    row.2 ≠ [] ∧ ∀ d ∈ row.2.map Char.ofNat, d.toNat ∉ otherThanUpper := by
  decide

theorem isUpperForm_of_not_mem {c : Char} (h : c.toNat ∉ otherThanUpper) : IsUpperForm c := by
  by_cases hascii : c.toNat < 128
  · exact (ascii_case hascii).1 h
  · simp only [otherThanUpper, CodeSet.mem_union, CodeSet.mem_range, not_or] at h
    obtain ⟨⟨⟨⟨⟨hcodes, hspelled⟩, -⟩, hblank⟩, -⟩, -⟩ := h
    refine ⟨?_, ?_, ?_, ?_⟩
    · have hself := (apply_upperShifts_eq_self_or c).resolve_right fun h => hcodes h.1
      have hfind : upperSpellings.find? c.toNat = none :=
        Option.eq_none_iff_forall_ne_some.mpr fun _ h => hspelled (SpellingTable.mem_codes h)
      rw [upperChars, if_neg hascii, hfind, Option.getD_none, hself]
    · rw [isBlank, if_neg hascii, Bool.eq_false_iff]
      exact fun h => hblank (RangeTable.mem_codes h)
    · rintro rfl
      exact hascii (by decide)
    · rintro rfl
      exact hascii (by decide)

theorem upperChars_eq_self_or_not_mem (c : Char) :
    upperChars c = [c] ∨ upperChars c ≠ [] ∧ ∀ d ∈ upperChars c, d.toNat ∉ otherThanUpper := by
  induction c using upperChars_cases with
  | hascii c hc hupper =>
    rw [hupper]
    obtain hself | hform := (ascii_case hc).2.1
    · exact .inl (congrArg ([·]) hself)
    · exact .inr ⟨List.cons_ne_nil _ _, by simpa using hform⟩
  | hspelled row hrow hupper =>
    rw [hupper, List.ne_nil_iff_length_pos, List.length_map, ← List.ne_nil_iff_length_pos]
    exact .inr (not_mem_upperSpellings row hrow)
  | hshifted c _ hupper =>
    rw [hupper]
    obtain hself | ⟨-, himage⟩ := apply_upperShifts_eq_self_or c
    · exact .inl (congrArg ([·]) hself)
    · have hform := CodeSet.not_mem_of_apart apart_images_upperShifts himage
      exact .inr ⟨List.cons_ne_nil _ _, by simpa using hform⟩

theorem upperChars_eq_self_or (c : Char) : upperChars c = [c] ∨ ∀ d ∈ upperChars c, IsUpperForm d :=
  (upperChars_eq_self_or_not_mem c).imp_right fun h d hd => isUpperForm_of_not_mem (h.2 d hd)

theorem upperChars_ne_nil (c : Char) : upperChars c ≠ [] := by
  obtain hself | ⟨hne, -⟩ := upperChars_eq_self_or_not_mem c
  · exact hself ▸ List.cons_ne_nil c []
  · exact hne

theorem upperChars_eq_self_of_head? {c : Char} (h : (upperChars c).head? = some c) :
    upperChars c = [c] := by
  obtain hself | hforms := upperChars_eq_self_or c
  · exact hself
  · exact (hforms c (List.mem_of_mem_head? h)).upperChars

end Upper

section Lower
theorem lowerChars_cases {P : Char → Prop}
    (hascii : ∀ c : Char, c.toNat < 128 → lowerChars c = [c.toLower] → P c)
    (hspelled : lowerChars 'İ' = ['i', '\u0307'] → P 'İ')
    (hshifted : ∀ c : Char, ¬c.toNat < 128 → lowerChars c = [lowerShifts.apply c] → P c)
    (c : Char) : P c := by
  by_cases hc : c.toNat < 128
  · exact hascii c hc (by rw [lowerChars, if_pos hc])
  · cases hfind : lowerSpellings.find? c.toNat with
    | some spelling =>
      obtain ⟨row, hmem, hcode, rfl⟩ := SpellingTable.exists_of_find? hfind
      obtain rfl : row = (0x130, [0x69, 0x307]) := by simpa [lowerSpellings] using hmem
      obtain rfl : c = 'İ' := by rw [← Char.ofNat_toNat c, ← hcode]
      exact hspelled (by rw [lowerChars, if_neg hc, hfind, Option.getD_some]; rfl)
    | none => exact hshifted c hc (by rw [lowerChars, if_neg hc, hfind, Option.getD_none])

theorem lowerChars_ne_nil (c : Char) : lowerChars c ≠ [] := by
  induction c using lowerChars_cases with
  | hascii c _ hlower => exact hlower ▸ List.cons_ne_nil _ _
  | hspelled hlower => exact hlower ▸ List.cons_ne_nil _ _
  | hshifted c _ hlower => exact hlower ▸ List.cons_ne_nil _ _

theorem mem_otherThanUpper_of_lowerChars (c : Char) :
    ∀ d ∈ (lowerChars c).head?, d = c ∨ d.toNat ∈ otherThanUpper := by
  induction c using lowerChars_cases with
  | hascii c hc hlower =>
    rw [hlower]
    rintro d ⟨⟩
    exact (ascii_case hc).2.2
  | hspelled hlower =>
    rw [hlower]
    rintro d ⟨⟩
    simp only [otherThanUpper, CodeSet.mem_union, CodeSet.mem_range]
    exact .inr (.inr ⟨by decide, by decide⟩)
  | hshifted c _ hlower =>
    rw [hlower]
    rintro d ⟨⟩
    refine (apply_lowerShifts_eq_self_or c).imp_right fun h => ?_
    simp only [otherThanUpper, CodeSet.mem_union, h.2, true_or, or_true]

theorem head?_upperChars_ne {c : Char} (h : upperChars c ≠ [c]) :
    (upperChars c).head? ≠ (lowerChars c).head? := by
  intro hheads
  obtain ⟨hne, hforms⟩ := (upperChars_eq_self_or_not_mem c).resolve_left h
  obtain ⟨d, rest, hupper⟩ := List.exists_cons_of_ne_nil hne
  have hd : (upperChars c).head? = some d := by rw [hupper, List.head?_cons]
  have hform := hforms d (List.mem_of_mem_head? hd)
  obtain rfl | hother := mem_otherThanUpper_of_lowerChars c d (hheads.symm.trans hd)
  · exact h (isUpperForm_of_not_mem hform).upperChars
  · exact hform hother

end Lower

section Ascii

theorem toLower_of_not_ascii {c : Char} (h : ¬c.toNat < 128) : c.toLower = c := by
  refine dif_neg fun hletter => h ?_
  exact Nat.lt_of_le_of_lt (UInt32.le_iff_toNat_le.mp hletter.2) (by decide)

theorem isBlank_toLower (c : Char) : isBlank c.toLower = isBlank c := by
  by_cases hc : c.toNat < 128
  · refine forall_char_lt ?_ hc
    decide
  · rw [toLower_of_not_ascii hc]

theorem trim_map_toLower (cs : List Char) : trim (cs.map Char.toLower) = (trim cs).map Char.toLower := by
  have hblank : isBlank ∘ Char.toLower = isBlank := funext isBlank_toLower
  simp only [trim, trimRight, trimLeft, List.dropWhile_map, ← List.map_reverse, hblank]

end Ascii

end Citeproc.Text
