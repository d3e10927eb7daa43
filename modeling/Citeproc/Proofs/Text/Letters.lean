import Citeproc.Proofs.Text.CaseMaps
import Citeproc.Text.Case
import Citeproc.Text.Word

namespace Citeproc.Text

-- Sets of code points are evaluated row by row, a level for each row.
set_option maxRecDepth 2000

section Search

def ascends : List (Nat × Nat) → Bool
  | [] => true
  | [r] => Nat.ble r.1 r.2
  | r :: s :: rows => Nat.ble r.1 r.2 && Nat.blt r.2 s.1 && ascends (s :: rows)

theorem le_of_ascends {rows : List (Nat × Nat)} (h : ascends rows = true) : ∀ r ∈ rows, r.1 ≤ r.2 := by
  fun_induction ascends rows with
  | case1 => simp
  | case2 r => simpa using h
  | case3 r s rows ih =>
    simp only [Bool.and_eq_true, Nat.ble_eq] at h
    exact List.forall_mem_cons.mpr ⟨h.1.1, ih h.2⟩

theorem pairwise_of_ascends {rows : List (Nat × Nat)} (h : ascends rows = true) :
    rows.Pairwise fun r s => r.2 < s.1 := by
  fun_induction ascends rows with
  | case1 => exact .nil
  | case2 r => exact List.pairwise_singleton _ r
  | case3 r s rows ih =>
    simp only [Bool.and_eq_true, Nat.ble_eq, Nat.blt_eq] at h
    obtain ⟨⟨-, hlt⟩, hrest⟩ := h
    refine List.pairwise_cons.mpr ⟨List.forall_mem_cons.mpr ⟨hlt, fun t ht => ?_⟩, ih hrest⟩
    have hle := le_of_ascends hrest s List.mem_cons_self
    have hst := (List.pairwise_cons.mp (ih hrest)).1 t ht
    omega

theorem searchRows_isSome {rows : Array (Nat × Nat)} (hrows : ascends rows.toList = true)
    {n lo hi k : Nat}
    {row : Nat × Nat} (hk : rows[k]? = some row) (hhi : hi ≤ rows.size) (hlok : lo ≤ k) (hkhi : k < hi)
    (hfirst : row.1 ≤ n) (hlast : n ≤ row.2) : (searchRows id rows n lo hi).isSome = true := by
  -- The rows ascend, so the half of them that a step leaves out does not have the row looked for.
  have hlt {i j : Nat} {r s : Nat × Nat} (hij : i < j) (hi : rows[i]? = some r)
      (hj : rows[j]? = some s) :
      r.2 < s.1 := by
    obtain ⟨hisize, rfl⟩ := Array.getElem?_eq_some_iff.mp hi
    obtain ⟨hjsize, rfl⟩ := Array.getElem?_eq_some_iff.mp hj
    exact List.pairwise_iff_getElem.mp (pairwise_of_ascends hrows) i j hisize hjsize hij
  have hle {i : Nat} {r : Nat × Nat} (hr : rows[i]? = some r) : r.1 ≤ r.2 :=
    le_of_ascends hrows r (Array.mem_toList_iff.mpr (Array.mem_of_getElem? hr))
  fun_induction searchRows id rows n lo hi with
  | case1 lo hi hlohi mid hnone =>
    rw [Array.getElem?_eq_none_iff] at hnone
    omega
  | case2 lo hi hlohi mid r hr hbefore ih =>
    have hr' := hle hr
    dsimp only [id_eq] at hbefore
    obtain hmid | rfl | hmid := Nat.lt_trichotomy mid k
    · have := hlt hmid hr hk
      omega
    · obtain rfl : r = row := Option.some.inj (hr.symm.trans hk)
      omega
    · exact ih (by omega) hlok hmid
  | case3 lo hi hlohi mid r hr _ hbehind ih =>
    have hr' := hle hr
    dsimp only [id_eq] at hbehind
    obtain hmid | rfl | hmid := Nat.lt_trichotomy mid k
    · exact ih hhi hmid hkhi
    · obtain rfl : r = row := Option.some.inj (hr.symm.trans hk)
      omega
    · have := hlt hmid hk hr
      omega
  | case4 => rfl
  | case5 => omega

theorem RangeTable.mem_iff {table : RangeTable} (htable : ascends table.toList = true) {n : Nat} :
    table.mem n = true ↔ n ∈ table.codes := by
  constructor
  · exact mem_codes
  · intro h
    obtain ⟨row, hrow, hbounds⟩ := CodeSet.mem_ofRows.mp h
    obtain ⟨hfirst, hlast⟩ := CodeSet.mem_range.mp hbounds
    obtain ⟨k, hk⟩ := Array.mem_iff_getElem?.mp (Array.mem_toList_iff.mp hrow)
    obtain ⟨hsize, -⟩ := Array.getElem?_eq_some_iff.mp hk
    exact searchRows_isSome htable hk (Nat.le_refl _) (Nat.zero_le k) hsize hfirst hlast

end Search

theorem ascends_letterRanges : ascends letterRanges.toList = true := by
  rw [letterRanges, Array.toList_append, Array.toList_append]
  decide +kernel

def letters : CodeSet :=
  .range 65 90 ∪ .range 97 122 ∪ (letterRangesA.codes ∪ letterRangesB.codes ∪ letterRangesC.codes)

theorem isLetter_iff (c : Char) : isLetter c = true ↔ c.toNat ∈ letters := by
  by_cases hc : c.toNat < 128
  · refine forall_char_lt ?_ hc
    decide
  · rw [isLetter, if_neg hc, RangeTable.mem_iff ascends_letterRanges, letterRanges,
      RangeTable.mem_codes_append,
      RangeTable.mem_codes_append]
    simp only [letters, CodeSet.mem_union, CodeSet.mem_range]
    refine (or_iff_right ?_).symm
    omega

section Blanks

def ignorables : CodeSet := caseIgnorableRangesA.codes ∪ caseIgnorableRangesB.codes

theorem apart_blankRanges : CodeSet.apart blankRanges.codes (letters ∪ numericRanges.codes ∪
    uppercaseRows.bounds ∪ lowercaseRows.bounds ∪ titlecaseRanges.codes ∪ ignorables) = true := by
  decide

theorem of_isBlank_ascii {c : Char} (hc : c.toNat < 128) : isBlank c = true →
    isAlphanumeric c = false ∧ isCased c = false ∧ isCaseIgnorable c = false := by
  refine forall_char_lt ?_ hc
  decide +kernel

theorem of_isBlank {c : Char} (h : isBlank c = true) :
    isAlphanumeric c = false ∧ isCased c = false ∧ isCaseIgnorable c = false := by
  by_cases hascii : c.toNat < 128
  · exact of_isBlank_ascii hascii h
  · rw [isBlank, if_neg hascii] at h
    have hapart := CodeSet.not_mem_of_apart apart_blankRanges (RangeTable.mem_codes h)
    simp only [CodeSet.mem_union, not_or] at hapart
    obtain ⟨⟨⟨⟨⟨hletter, hnumeric⟩, hupper⟩, hlower⟩, htitle⟩, hignorable⟩ := hapart
    have hletter : isLetter c = false := Bool.eq_false_iff.mpr fun h => hletter ((isLetter_iff c).mp h)
    have hnumeric : isNumeric c = false := by
      rw [isNumeric, if_neg hascii, Bool.eq_false_iff]
      exact fun h => hnumeric (RangeTable.mem_codes h)
    have hupper : isUppercase c = false := by
      rw [isUppercase, if_neg hascii, Bool.eq_false_iff]
      exact fun h => hupper (StrideTable.mem_bounds h)
    have hlower : isLowercase c = false := by
      rw [isLowercase, if_neg hascii, Bool.eq_false_iff]
      exact fun h => hlower (StrideTable.mem_bounds h)
    have htitle : titlecaseRanges.mem c.toNat = false :=
      Bool.eq_false_iff.mpr fun h => htitle (RangeTable.mem_codes h)
    refine ⟨?_, ?_, ?_⟩
    · rw [isAlphanumeric, hletter, hnumeric, Bool.or_false]
    · rw [isCased, hupper, hlower, htitle, Bool.or_false, Bool.or_false]
    · rw [isCaseIgnorable, if_neg hascii, Bool.eq_false_iff]
      exact fun h => hignorable
        (CodeSet.mem_union.mpr (RangeTable.mem_codes_append.mp (RangeTable.mem_codes h)))

theorem isAlphanumeric_of_isBlank {c : Char} (h : isBlank c = true) :
    isAlphanumeric c = false := (of_isBlank h).1

theorem isCased_of_isBlank {c : Char} (h : isBlank c = true) : isCased c = false := (of_isBlank h).2.1

theorem isCaseIgnorable_of_isBlank {c : Char} (h : isBlank c = true) : isCaseIgnorable c = false :=
  (of_isBlank h).2.2

end Blanks

section Lowered

theorem within_lowerShifts : CodeSet.within (lowerShifts.codes ∪ lowerShifts.images) letters = true := by
  decide

theorem isLetter_toLower {c : Char} (hc : c.toNat < 128) :
    (c.toLower ≠ c → isLetter c = true) ∧ isLetter c.toLower = isLetter c := by
  refine forall_char_lt ?_ hc
  decide +kernel

theorem isLetter_of_lowerChars_ne (c : Char) : lowerChars c ≠ [c] → isLetter c = true := by
  induction c using lowerChars_cases with
  | hascii c hc hlower =>
    intro hne
    exact (isLetter_toLower hc).1 fun h => hne (hlower.trans (congrArg ([·]) h))
  | hspelled => exact fun _ => (isLetter_iff 'İ').mpr (by decide)
  | hshifted c hc hlower =>
    intro hne
    obtain hself | ⟨hcode, -⟩ := apply_lowerShifts_eq_self_or c
    · exact absurd (hlower.trans (congrArg ([·]) hself)) hne
    · exact (isLetter_iff c).mpr
        (CodeSet.mem_of_within within_lowerShifts (CodeSet.mem_union.mpr (.inl hcode)))

theorem exists_lowerChars (c : Char) : isLetter c = true →
    ∃ d rest, lowerChars c = d :: rest ∧ isLetter d = true := by
  induction c using lowerChars_cases with
  | hascii c hc hlower => exact fun h => ⟨_, [], hlower, (isLetter_toLower hc).2.trans h⟩
  | hspelled hlower => exact fun _ => ⟨_, _, hlower, by decide⟩
  | hshifted c hc hlower =>
    intro h
    refine ⟨_, [], hlower, ?_⟩
    obtain hself | ⟨-, himage⟩ := apply_lowerShifts_eq_self_or c
    · rwa [hself]
    · exact (isLetter_iff _).mpr
        (CodeSet.mem_of_within within_lowerShifts (CodeSet.mem_union.mpr (.inr himage)))

theorem isLetter_sigmas : ∀ c ∈ ['Σ', 'σ', 'ς'], isLetter c = true := by
  have hletters : ∀ c ∈ ['Σ', 'σ', 'ς'], c.toNat ∈ letters := by decide
  exact fun c hc => (isLetter_iff c).mpr (hletters c hc)

theorem length_upperSpellings_le : ∀ row ∈ upperSpellings, ∀ d ∈ (lowerChars (Char.ofNat row.1)).head?,
    d = Char.ofNat row.1 ∨ row.2.length ≤ (upperChars d).length := by
  decide +kernel

theorem length_upperChars_le {c d : Char} (hd : d ∈ (lowerChars c).head?) :
    (upperChars c).length ≤ (upperChars d).length := by
  have hone {e : Char} (h : upperChars c = [e]) : (upperChars c).length ≤ (upperChars d).length :=
    h ▸ List.length_pos_of_ne_nil (upperChars_ne_nil d)
  induction c using upperChars_cases with
  | hascii c _ hupper => exact hone hupper
  | hspelled row hrow hupper =>
    obtain rfl | hle := length_upperSpellings_le row hrow d hd
    · exact Nat.le_refl _
    · rwa [hupper, List.length_map]
  | hshifted c _ hupper => exact hone hupper

end Lowered

end Citeproc.Text
