import Citeproc.Text.Cased
import Citeproc.Text.Numeral
import Mathlib.Algebra.Order.Group.Nat
import Mathlib.Data.List.Basic

namespace Citeproc.Text

theorem exists_digitChar {c : Char} (h : c.isDigit = true) : ∃ n < 10, c = n.digitChar := by
  have hbounds : 48 ≤ c.toNat ∧ c.toNat ≤ 57 := Char.isDigit_iff_toNat.mp h
  refine ⟨c.toNat - 48, by omega, Char.toNat_inj.mp ?_⟩
  rw [Nat.toNat_digitChar_of_lt_ten (by omega)]
  omega

theorem of_isDigit (p : Char → Prop) (hp : ∀ n < 10, p n.digitChar) {c : Char}
    (h : c.isDigit = true) : p c := by
  obtain ⟨n, hn, rfl⟩ := exists_digitChar h
  exact hp n hn

theorem isLetter_of_isDigit {c : Char} : c.isDigit = true → isLetter c = false :=
  of_isDigit (isLetter · = false) (by decide)

theorem isBlank_of_isDigit {c : Char} : c.isDigit = true → isBlank c = false :=
  of_isDigit (isBlank · = false) (by decide)

theorem lowerChars_of_isDigit {c : Char} : c.isDigit = true → lowerChars c = [c] :=
  of_isDigit (fun c => lowerChars c = [c]) (by decide)

theorem upperChars_of_isDigit {c : Char} : c.isDigit = true → upperChars c = [c] :=
  of_isDigit (fun c => upperChars c = [c]) (by decide)

section Case

variable {d : Char} (hd : d.isDigit = true)

include hd

theorem mem_lowerFrom {cs : List Char} (h : d ∈ cs) (before : List Char) : d ∈ lowerFrom before cs := by
  induction cs generalizing before with
  | nil => cases h
  | cons c cs ih =>
    rw [lowerFrom, List.mem_append]
    rcases List.mem_cons.mp h with rfl | h
    · have hsigma : d ≠ 'Σ' := of_isDigit (· ≠ 'Σ') (by decide) hd
      left
      simp [hsigma, lowerChars_of_isDigit hd]
    · exact .inr (ih h _)

theorem mem_upper {cs : List Char} (h : d ∈ cs) : d ∈ upper cs :=
  List.mem_flatMap.mpr ⟨d, h, by simp [upperChars_of_isDigit hd]⟩

theorem mem_capitalize {cs : List Char} (h : d ∈ cs) : d ∈ capitalize cs := by
  induction cs with
  | nil => cases h
  | cons c cs ih =>
    rw [capitalize]
    rcases List.mem_cons.mp h with rfl | h
    · simp [isLetter_of_isDigit hd]
    · split
      · exact List.mem_append_right _ h
      · exact List.mem_cons_of_mem _ (ih h)

theorem mem_mapWordsFrom {f : Nat → List Char → List Char}
    (hf : ∀ index word, d ∈ word → d ∈ f index word) {cs : List Char} (index : Nat) (word : List Char)
    (h : d ∈ word ∨ d ∈ cs) : d ∈ mapWordsFrom f index word cs := by
  induction cs generalizing index word with
  | nil =>
    have hword : d ∈ word := h.resolve_right (List.not_mem_nil)
    rw [mapWordsFrom, if_neg (by simp [List.ne_nil_of_mem hword])]
    exact hf _ _ (List.mem_reverse.mpr hword)
  | cons c cs ih =>
    rw [mapWordsFrom]
    split
    · next hblank =>
      have hne : d ≠ c := by
        rintro rfl
        exact absurd hblank (by simp [isBlank_of_isDigit hd])
      have hcs : d ∈ word ∨ d ∈ cs := h.imp_right fun h => (List.mem_cons.mp h).resolve_left hne
      split
      · next hempty =>
        rw [List.isEmpty_iff.mp hempty] at hcs
        exact List.mem_cons_of_mem _ (ih _ _ hcs)
      · rw [List.mem_append]
        rcases hcs with hword | hcs
        · exact .inl (hf _ _ (List.mem_reverse.mpr hword))
        · exact .inr (List.mem_cons_of_mem _ (ih _ _ (.inr hcs)))
    · refine ih _ _ ?_
      rcases h with hword | hcs
      · exact .inl (List.mem_cons_of_mem _ hword)
      · rcases List.mem_cons.mp hcs with rfl | hcs
        · exact .inl List.mem_cons_self
        · exact .inr hcs

theorem mem_withCase {cs : List Char} (h : d ∈ cs) (case : TextCase) (atStart : Bool) :
    d ∈ withCase case cs atStart := by
  cases case with
  | lowercase => exact mem_lowerFrom hd h []
  | uppercase => exact mem_upper hd h
  | capitalizeFirst =>
    rw [withCase]
    split
    · exact mem_capitalize hd h
    · exact h
  | capitalizeAll => exact mem_mapWordsFrom hd (fun _ _ => mem_capitalize hd) 0 [] (.inr h)
  | sentence =>
    have hbase : d ∈ if cs.any isLetter && !cs.any isLowercase then lower cs else cs := by
      split
      · exact mem_lowerFrom hd h []
      · exact h
    rw [withCase, sentenceCase]
    split
    · exact mem_capitalize hd hbase
    · exact hbase
  | title =>
    refine mem_mapWordsFrom hd (fun index word hword => ?_) 0 [] (.inr h)
    split
    · exact hword
    · split
      · exact hword
      · exact mem_capitalize hd hword

end Case

theorem toList_padded (width n : Nat) : (padded width n).toList =
    List.replicate (width - (Nat.toDigits 10 n).length) '0' ++ Nat.toDigits 10 n := by
  have hdigits : (toString n).toList = Nat.toDigits 10 n := by
    rw [Nat.toString_eq_repr, Nat.toList_repr]
  rw [padded, String.toList_append, String.toList_ofList, hdigits, ← String.length_toList, hdigits]

theorem isDigit_of_mem_padded {width n : Nat} {c : Char} (h : c ∈ (padded width n).toList) :
    c.isDigit = true := by
  rw [toList_padded, List.mem_append] at h
  rcases h with h | h
  · rw [List.eq_of_mem_replicate h]
    rfl
  · exact Nat.isDigit_of_mem_toDigits (by decide) (by decide) h

theorem length_padded (width n : Nat) :
    (padded width n).toList.length = max width (Nat.toDigits 10 n).length := by
  rw [toList_padded, List.length_append, List.length_replicate]
  omega

theorem length_padded_of_lt {width n : Nat} (hwidth : 0 < width) (hn : n < 10 ^ width) :
    (padded width n).toList.length = width := by
  rw [length_padded, Nat.max_eq_left]
  exact (Nat.length_toDigits_le_iff (by decide) hwidth).mpr hn

theorem padded_ne_nil (width n : Nat) : (padded width n).toList ≠ [] := by
  rw [toList_padded]
  exact List.append_ne_nil_of_right_ne_nil _ Nat.toDigits_ne_nil

theorem ofDigitChars_padded (width n : Nat) : Nat.ofDigitChars 10 (padded width n).toList 0 = n := by
  have hzeros (k : Nat) : Nat.ofDigitChars 10 (List.replicate k '0') 0 = 0 := by
    induction k with
    | zero => rfl
    | succ k ih => rwa [List.replicate_succ, Nat.ofDigitChars_cons]
  rw [toList_padded, Nat.ofDigitChars_append, hzeros, Nat.ofDigitChars_ten_toDigits]

theorem ofDigitChars_lt {cs : List Char} (h : ∀ c ∈ cs, c.isDigit = true) :
    Nat.ofDigitChars 10 cs 0 < 10 ^ cs.length := by
  induction cs with
  | nil => decide
  | cons c cs ih =>
    have hc : c.toNat - '0'.toNat < 10 := of_isDigit (fun c => c.toNat - '0'.toNat < 10) (by decide)
      (h c List.mem_cons_self)
    have hcs := ih (List.forall_mem_cons.mp h).2
    have hcarry : 10 ^ cs.length * (c.toNat - '0'.toNat) ≤ 10 ^ cs.length * 9 :=
      Nat.mul_le_mul_left _ (by omega)
    rw [Nat.ofDigitChars_cons, Nat.ofDigitChars_eq_ofDigitChars_zero, Nat.mul_zero, Nat.zero_add,
      List.length_cons, Nat.pow_succ]
    omega

end Citeproc.Text
