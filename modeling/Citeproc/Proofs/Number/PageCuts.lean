import Citeproc.Number.PageRange
import Citeproc.Proofs.Text.Numerals
import Mathlib.Data.List.TakeWhile

namespace Citeproc

theorem isSome_mapM_iff {α β : Type} {f : α → Option β} {as : List α} :
    (as.mapM f).isSome ↔ ∀ a ∈ as, (f a).isSome := by
  induction as with
  | nil => simp
  | cons a as ih =>
    rw [List.mapM_cons]
    cases ha : f a <;> cases has : as.mapM f <;> simp_all

namespace PageRange

theorem leading?_eq (cs : List Char) : leading? cs = some (cs.takeWhile Text.isBlank) := by
  have hsplit : cs.takeWhile Text.isBlank ++ Text.trimLeft cs = cs := List.takeWhile_append_dropWhile
  have hlength := Text.byteLength_append (cs.takeWhile Text.isBlank) (Text.trimLeft cs)
  have hcut := Text.cutAt?_byteLength (cs.takeWhile Text.isBlank) (Text.trimLeft cs)
  rw [hsplit] at hlength hcut
  have hplace : Text.byteLength cs - Text.byteLength (Text.trimLeft cs) =
      Text.byteLength (cs.takeWhile Text.isBlank) := by omega
  rw [leading?, hplace, hcut]
  rfl

def Replaces (last first : List Char) : Prop :=
  ∃ shared replaced, first = shared ++ replaced ∧ Text.byteLength replaced = Text.byteLength last

theorem expandEnd?_isSome_iff (first last : List Char) : (expandEnd? first last).isSome ↔
    (Text.byteLength last < Text.byteLength first → Replaces last first) := by
  rw [expandEnd?]
  split
  · next h => simp [Nat.not_lt.mpr h]
  · next h =>
    have hlt : Text.byteLength last < Text.byteLength first := Nat.not_le.mp h
    rw [Option.isSome_map, Option.isSome_iff_exists, imp_iff_right hlt, Replaces, Prod.exists]
    apply exists_congr
    intro shared
    apply exists_congr
    intro replaced
    rw [Text.cutAt?_eq_some_iff, eq_comm]
    apply and_congr_right
    rintro rfl
    rw [Text.byteLength_append] at hlt ⊢
    omega

section Numbers

variable {first last : List Char} (hlast : ∀ c ∈ last, c.isDigit = true)

include hlast

theorem minimal?_eq (first : List Char) (least : Nat) : minimal? first last least =
    some (if Text.byteLength first = last.length then
      last.drop (min (firstDifference last.length first last) (last.length - least)) else last) := by
  have hbytes : Text.byteLength last = last.length := Text.byteLength_of_isDigit hlast
  rw [minimal?, hbytes]
  dsimp only
  by_cases h : Text.byteLength first = last.length
  · rw [if_neg (by simp [h]), if_pos h, Text.cutAt?_of_isDigit hlast (by omega)]
    rfl
  · rw [if_pos (by simp [h]), if_neg h]

theorem isSome_minimal? (first : List Char) (least : Nat) : (minimal? first last least).isSome := by
  rw [minimal?_eq hlast]
  rfl

theorem isSome_endText? (form : Option PageRangeFormat) (r : Range) (first : Nat) :
    (endText? form r first last).isSome := by
  have hchicago : (chicago? first last).isSome := by
    rw [chicago?]
    split
    · rfl
    · dsimp only
      split
      · exact isSome_minimal? hlast _ 1
      · rw [Option.isSome_map]
        exact isSome_minimal? hlast _ 2
  cases form with
  | none => rfl
  | some form =>
    cases form with
    | expanded => rfl
    | minimal => exact isSome_minimal? hlast _ 1
    | minimalTwo => exact isSome_minimal? hlast _ 2
    | chicago => exact hchicago
    | chicago16 => exact hchicago

end Numbers

def Range.SharesLetters (r : Range) : Prop := r.endLetters = r.startLetters ∨ r.endLetters = []

theorem Range.sharesLetters_iff (r : Range) : r.SharesLetters ↔
    ¬(r.startLetters != r.endLetters && !r.endLetters.isEmpty) = true := by
  rw [SharesLetters, Bool.and_eq_true, not_and_or, bne_iff_ne, ne_eq, not_not, Bool.not_eq_true',
    Bool.not_eq_false, List.isEmpty_iff, eq_comm]

theorem page?_eq_some {cs letters digits rest : List Char}
    (h : page? cs = some (letters, digits, rest)) :
    (∀ c ∈ letters, c.isAlpha = true) ∧ digits ≠ [] ∧ ∀ c ∈ digits, Text.isDecimalDigit c = true := by
  simp only [page?] at h
  split at h
  · cases h
  · next hdigits =>
    simp only [Option.some.injEq, Prod.mk.injEq] at h
    obtain ⟨rfl, rfl, -⟩ := h
    exact ⟨fun _ => List.mem_takeWhile_imp, by simpa using hdigits, fun _ => List.mem_takeWhile_imp⟩

structure Range.WellFormed (r : Range) : Prop where
  startLetters : ∀ c ∈ r.startLetters, c.isAlpha = true
  startDigits_ne_nil : r.startDigits ≠ []
  startDigits : ∀ c ∈ r.startDigits, Text.isDecimalDigit c = true
  endLetters : ∀ c ∈ r.endLetters, c.isAlpha = true
  endDigits_ne_nil : r.endDigits ≠ []
  endDigits : ∀ c ∈ r.endDigits, Text.isDecimalDigit c = true

theorem Range.parse?_eq_some {cs : List Char} {r : Range} (h : parse? cs = some r) :
    ∃ rest rest', page? (Text.trimLeft cs) = some (r.startLetters, r.startDigits, rest) ∧
      afterDash? rest = some rest' ∧ page? (Text.trimLeft rest') =
        some (r.endLetters, r.endDigits, []) := by
  simp only [parse?, Option.bind_eq_bind, Option.bind_eq_some_iff, Prod.exists] at h
  obtain ⟨startLetters, startDigits, rest, hstart, rest', hdash, endLetters, endDigits, last, hend,
      h⟩ := h
  split at h
  · next hlast =>
    obtain rfl := Option.some.inj h
    rw [List.isEmpty_iff.mp hlast] at hend
    exact ⟨rest, rest', hstart, hdash, hend⟩
  · cases h

theorem Range.wellFormed_of_parse? {cs : List Char} {r : Range} (h : parse? cs = some r) :
    r.WellFormed := by
  obtain ⟨rest, rest', hstart, -, hend⟩ := parse?_eq_some h
  obtain ⟨hstartLetters, hstartNe, hstartDigits⟩ := page?_eq_some hstart
  obtain ⟨hendLetters, hendNe, hendDigits⟩ := page?_eq_some hend
  exact ⟨hstartLetters, hstartNe, hstartDigits, hendLetters, hendNe, hendDigits⟩

theorem mem_expandEnd? {first last expanded : List Char} (h : expandEnd? first last = some expanded) :
    ∀ c ∈ expanded, c ∈ first ∨ c ∈ last := by
  rw [expandEnd?] at h
  split at h
  · obtain rfl := Option.some.inj h
    exact fun c => .inr
  · obtain ⟨⟨shared, replaced⟩, hcut, rfl⟩ := Option.map_eq_some_iff.mp h
    obtain ⟨rfl, -⟩ := Text.cutAt?_eq_some_iff.mp hcut
    intro c hc
    exact (List.mem_append.mp hc).imp_left (List.mem_append_left replaced)

theorem Range.isSome_format?_iff {r : Range} (h : r.WellFormed) (form : Option PageRangeFormat)
    (blanks delimiter cs : List Char) : (r.format? form blanks delimiter cs).isSome ↔
      (r.SharesLetters → (expandEnd? r.startDigits r.endDigits).isSome) := by
  rw [Range.format?]
  split
  · next hletters =>
    have hshares : ¬r.SharesLetters := by
      rw [sharesLetters_iff]
      simpa using hletters
    simp [hshares]
  · next hletters =>
    rw [imp_iff_right (r.sharesLetters_iff.mpr hletters)]
    cases hexpanded : expandEnd? r.startDigits r.endDigits with
    | none => rfl
    | some expanded =>
      rw [Option.bind_some]
      refine iff_of_true ?_ rfl
      split
      · next first last hfirst hlast =>
        have hplus : expanded.head? ≠ some '+' := by
          apply Text.head?_ne_plus
          intro c hc
          exact (mem_expandEnd? hexpanded c hc).elim (h.startDigits c) (h.endDigits c)
        have hdigits := ((Text.natural?_eq_some_iff hplus).mp hlast).2.1
        rw [Option.isSome_map]
        split
        · rfl
        · exact isSome_endText? hdigits form r first
      · rfl

/-- Pages are cut at the ends of characters if and only if each abbreviated last page can take the
place of digits of its first page. -/
theorem format?_isSome_iff (pages : String) (form : Option PageRangeFormat) (delimiter : String) :
    (format? pages form delimiter).isSome ↔
      ∀ part ∈ Text.splitWhere (· == ',') pages.toList, ∀ r ∈ Range.parse? part, r.SharesLetters →
        Text.byteLength r.endDigits < Text.byteLength r.startDigits →
          Replaces r.endDigits r.startDigits := by
  have hparts : (format? pages form delimiter).isSome ↔
      ((Text.splitWhere (· == ',') pages.toList).mapM (formatOne? form delimiter.toList)).isSome := by
    rw [format?]
    cases (Text.splitWhere (· == ',') pages.toList).mapM (formatOne? form delimiter.toList) <;> rfl
  rw [hparts, isSome_mapM_iff]
  apply forall₂_congr
  intro part _
  rw [formatOne?]
  cases hr : Range.parse? part with
  | none => simp
  | some r =>
    rw [leading?_eq]
    dsimp only
    rw [Option.bind_some, Range.isSome_format?_iff (Range.wellFormed_of_parse? hr),
      expandEnd?_isSome_iff]
    simp

theorem format?_wide_digit :
    Range.parse? "٣1-11".toList = some ⟨[], ['٣', '1'], [], ['1', '1']⟩ ∧
      Text.byteLength ['1', '1'] < Text.byteLength ['٣', '1'] ∧
      Text.cutAt? (Text.byteLength ['٣', '1'] - Text.byteLength ['1', '1']) ['٣', '1'] = none ∧
      format? "٣1-11" none "–" = none := by
  refine ⟨?_, ?_, ?_, ?_⟩ <;> decide +kernel

end PageRange

end Citeproc
