import Citeproc.Proofs.Date.Reading
import Citeproc.Proofs.Text.Cuts
import Mathlib.Data.List.Infix

namespace Citeproc.DateRange

section Qualifiers

variable {t : List Char} {n : Nat} {u : Bool} {date : DateParts} {range : DateRange}

theorem isQualifier_iff (c : Char) : isQualifier c = true ↔ c ∈ ['?', '~', '%'] := by
  simp [isQualifier, or_assoc]

theorem not_isBlank_of_isQualifier {c : Char} (h : isQualifier c = true) : ¬Text.isBlank c = true := by
  obtain rfl | rfl | rfl : c = '?' ∨ c = '~' ∨ c = '%' := by simpa using (isQualifier_iff c).mp h
  all_goals decide

theorem IsNumeral.any_isQualifier {most : Nat} (h : IsNumeral most t n) : t.any isQualifier = false := by
  have hplain : ∀ c ∈ t, isQualifier c = false := fun c hc =>
    Text.of_isDigit (isQualifier · = false) (by decide) (h.isDigit c hc)
  simpa using hplain

theorem QualifierText.any_isQualifier (h : QualifierText t u) : t.any isQualifier = u := by
  cases h with
  | absent => rfl
  | present hc => obtain rfl | rfl | rfl := hc <;> rfl

theorem YearText.any_isQualifier {year : Int} (h : YearText t year u) : t.any isQualifier = u := by
  have hplus : isQualifier '+' = false := by decide
  have hminus : isQualifier '-' = false := by decide
  obtain ⟨ht, hq⟩ | ⟨ht, hq⟩ | ⟨ht, hq⟩ := h <;>
    simp [hplus, hminus, ht.any_isQualifier, hq.any_isQualifier]

theorem FieldText.any_isQualifier {p : Nat → Prop} (h : FieldText p t n u) : t.any isQualifier = u := by
  obtain ⟨ht, -, hq⟩ := h
  have hminus : isQualifier '-' = false := by decide
  simp [hminus, ht.any_isQualifier, hq.any_isQualifier]

theorem DateText.any_isQualifier (h : DateText t date u) : t.any isQualifier = u := by
  cases h with
  | year hy => exact hy.any_isQualifier
  | month hy hm => simp [hy.any_isQualifier, hm.any_isQualifier]
  | day hy hm hd => simp [hy.any_isQualifier, hm.any_isQualifier, hd.any_isQualifier, Bool.or_assoc]

theorem RangeText.any_isQualifier (h : RangeText t range) : t.any isQualifier = range.uncertain := by
  have hslash : isQualifier '/' = false := by decide
  cases h with
  | single h => exact h.any_isQualifier
  | openEnd h => simp [hslash, h.any_isQualifier]
  | closed h h' => simp [hslash, h.any_isQualifier, h'.any_isQualifier]

end Qualifiers

section Circa

def IsCircaLetter (c : Char) : Prop := c.toLower = 'a' ∨ c.toLower = 'c'

variable {c : Char} {w t : List Char}

theorem IsCircaLetter.not_isBlank (h : IsCircaLetter c) : ¬Text.isBlank c = true := by
  have hcase := Text.eq_or_eq_of_toLower c
  obtain hlower | hlower := h <;> rw [hlower] at hcase <;> obtain rfl | rfl := hcase <;> decide

theorem IsCircaWord.exists_letter (h : IsCircaWord w) : ∃ c ∈ w, IsCircaLetter c := by
  obtain ⟨word, hword, hw⟩ := h
  have hletter : ∀ word ∈ circaWords, word.toList.any (fun d => d == 'a' || d == 'c') = true := by decide
  obtain ⟨d, hd, hletter⟩ := List.any_eq_true.mp (hletter word hword)
  rw [← hw] at hd
  obtain ⟨c, hc, rfl⟩ := List.mem_map.mp hd
  exact ⟨c, hc, by simpa [IsCircaLetter] using hletter⟩

theorem RangeText.not_isCircaLetter {range : DateRange} (h : RangeText t range) (hc : c ∈ t) :
    ¬IsCircaLetter c := by
  have hplain := (h.isDateChar c hc).induct (p := fun c => c.toLower ≠ 'a' ∧ c.toLower ≠ 'c')
    (by decide) (by decide)
  exact not_or.mpr hplain

end Circa

def BeginsWithCirca (value : String) : Prop :=
  ∃ w rest, IsCircaWord w ∧ Text.trim value.toList = w ++ rest

theorem mem_lower_iff_of_mark {d : Char} (hd : d = '~' ∨ d = '?') (cs : List Char) :
    d ∈ Text.lower cs ↔ d ∈ cs := by
  obtain ⟨hcode, hi, hk, hupper⟩ : (0 < d.toNat ∧ d.toNat < 128) ∧ d ≠ 'i' ∧ d ≠ 'k' ∧
      d.toUpper = d ∧ d.toLower = d := by
    obtain rfl | rfl := hd <;> decide
  rw [Text.lower, Text.mem_lowerFrom_iff hcode.1 hcode.2 hi hk]
  constructor
  · rintro ⟨c, hc, rfl⟩
    have hcase := Text.eq_or_eq_of_toLower c
    rw [hupper.1, or_self] at hcase
    exact hcase ▸ hc
  · exact fun hc => ⟨d, hc, hupper.2⟩

section Parsed

variable {value : String} {range : DateRange} (h : parse? value = some range)

include h

theorem beginsWithCirca_iff : BeginsWithCirca value ↔ ∃ c ∈ value.toList, IsCircaLetter c := by
  rw [parse?_eq_some_iff] at h
  rw [BeginsWithCirca]
  constructor
  · rintro ⟨w, rest, hw, htrim⟩
    obtain ⟨c, hc, hletter⟩ := hw.exists_letter
    refine ⟨c, (Text.mem_trim_iff hletter.not_isBlank _).mp ?_, hletter⟩
    rw [htrim]
    exact List.mem_append_left _ hc
  · rintro ⟨c, hc, hletter⟩
    rw [← Text.mem_trim_iff hletter.not_isBlank] at hc
    generalize Text.trim value.toList = cs at h hc ⊢
    cases h with
    | plain hrange => exact absurd hletter (hrange.not_isCircaLetter hc)
    | circa hw => exact ⟨_, _, hw, List.append_assoc _ _ _⟩

theorem uncertain_iff :
    range.uncertain = true ↔ BeginsWithCirca value ∨ ∃ c ∈ value.toList, isQualifier c = true := by
  have htrim : (∃ c ∈ value.toList, isQualifier c = true) ↔
      (Text.trim value.toList).any isQualifier = true := by
    rw [List.any_eq_true]
    exact exists_congr fun c => and_congr_left fun hqualifier =>
      (Text.mem_trim_iff (not_isBlank_of_isQualifier hqualifier) _).symm
  rw [parse?_eq_some_iff] at h
  rw [BeginsWithCirca, htrim]
  generalize Text.trim value.toList = cs at h ⊢
  cases h with
  | circa hw => exact iff_of_true rfl (.inl ⟨_, _, hw, List.append_assoc _ _ _⟩)
  | plain hrange =>
    rw [← hrange.any_isQualifier]
    refine ⟨.inr, fun h => h.resolve_left ?_⟩
    rintro ⟨w, rest, hw, rfl⟩
    obtain ⟨c, hc, hletter⟩ := hw.exists_letter
    exact absurd hletter (hrange.not_isCircaLetter (List.mem_append_left _ hc))

theorem isUncertain_iff :
    isUncertain value = true ↔ BeginsWithCirca value ∨ '~' ∈ value.toList ∨ '?' ∈ value.toList := by
  have hcirca := beginsWithCirca_iff h
  rw [isUncertain, List.any_eq_true]
  simp only [Text.holds_iff]
  constructor
  · rintro ⟨mark, hmem, hholds⟩
    have hmarks : ∀ mark ∈ uncertaintyMarks,
        mark = "~" ∨ mark = "?" ∨ 'a' ∈ mark.toList ∨ 'c' ∈ mark.toList := by
      decide
    obtain rfl | rfl | hletter := hmarks mark hmem
    · exact .inr (.inl ((mem_lower_iff_of_mark (by decide) _).mp (hholds.subset (by decide))))
    · exact .inr (.inr ((mem_lower_iff_of_mark (by decide) _).mp (hholds.subset (by decide))))
    · rw [hcirca]
      left
      obtain hletter | hletter := hletter <;>
        have hlower := hholds.subset hletter <;>
        rw [Text.lower, Text.mem_lowerFrom_iff (by decide) (by decide) (by decide) (by decide)] at hlower <;>
        obtain ⟨c, hc, heq⟩ := hlower
      · exact ⟨c, hc, .inl heq⟩
      · exact ⟨c, hc, .inr heq⟩
  · rintro (⟨w, rest, ⟨word, hword, hw⟩, htrim⟩ | hmem | hmem)
    · obtain ⟨before, after, heq, -, -⟩ := Text.exists_eq_around_trim value.toList
      have hmarks : ∀ word ∈ circaWords, word ∈ uncertaintyMarks := by decide
      refine ⟨word, hmarks word hword, ?_⟩
      rw [heq, htrim, List.append_assoc, List.append_assoc]
      exact (isPlainWord_of_mem hword).infix_lower hw before (rest ++ after)
    · have hlower := (mem_lower_iff_of_mark (.inl rfl) _).mpr hmem
      exact ⟨"~", by decide, (List.singleton_infix_iff _ _).mpr hlower⟩
    · have hlower := (mem_lower_iff_of_mark (.inr rfl) _).mpr hmem
      exact ⟨"?", by decide, (List.singleton_infix_iff _ _).mpr hlower⟩

/-- A date is uncertain when it is read just when the search finds so or it has a percent sign, the
qualifier that the search does not know. -/
theorem uncertain_of_parse? :
    (range.uncertain = true ↔ isUncertain value = true ∨ '%' ∈ value.toList) ∧
      (isUncertain value = true ↔
        BeginsWithCirca value ∨ '~' ∈ value.toList ∨ '?' ∈ value.toList) := by
  refine ⟨?_, isUncertain_iff h⟩
  have hqualifier : (∃ c ∈ value.toList, isQualifier c = true) ↔
      '~' ∈ value.toList ∨ '?' ∈ value.toList ∨ '%' ∈ value.toList := by
    simp only [isQualifier_iff, List.mem_cons, List.not_mem_nil, or_false]
    grind
  rw [uncertain_iff h, isUncertain_iff h, hqualifier, or_assoc, or_assoc]

end Parsed

theorem uncertain_of_parse?_of_march : parse? " CIRCA 2020-03%/2021?" = some
    { start := { year := 2020, month := some 3 }, stop := some { year := 2021 }, uncertain := true } ∧
    isUncertain " CIRCA 2020-03%/2021?" = true := by
  have hparse : parse? " CIRCA 2020-03%/2021?" = some
      { start := { year := 2020, month := some 3 }, stop := some { year := 2021 },
        uncertain := true } := rfl
  exact ⟨hparse, (uncertain_of_parse? hparse).2.mpr (.inr (.inr (by decide)))⟩

theorem uncertain_percent : ∃ range, parse? "2020%" = some range ∧ range.uncertain = true ∧
    isUncertain "2020%" = false :=
  ⟨{ start := { year := 2020 }, uncertain := true }, rfl, rfl, rfl⟩

end Citeproc.DateRange
