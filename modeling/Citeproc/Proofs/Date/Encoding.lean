import Citeproc.Entry.CslJson
import Citeproc.Proofs.Date.Reading

namespace Citeproc.CslJson

open Data DateRange

variable {season : Option Nat} {numbers : List Int} {date : DateParts} {q : List Char} {u : Bool}

inductive Denotes (season : Option Nat) : List Int → DateParts → Prop
  | year {year : Int} (hy : IsYear year) :
    Denotes season [year] { year, month := season.map (20 + ·) }
  | month {year : Int} {month : Nat} (hy : IsYear year) (hm : IsMonth month) :
    Denotes season [year, month] { year, month := some month }
  | day {year : Int} {month day : Nat} (hy : IsYear year) (hm : IsMonth month) (hd : IsDay day) :
    Denotes season [year, month, day] { year, month := some month, day := some day }

def ofNumbers (numbers : List Int) : Value := .list (numbers.map fun n => .number (.int n))

theorem isNumeral_padded {width most n : Nat} (hmost : 0 < most) (hwidth : width ≤ most)
    (hn : n < 10 ^ most) : IsNumeral most (Text.padded width n).toList n where
  ne_nil := Text.padded_ne_nil width n
  length_le := by
    rw [Text.length_padded]
    exact Nat.max_le.mpr ⟨hwidth, (Nat.length_toDigits_le_iff (by decide) hmost).mpr hn⟩
  isDigit c hc := Text.isDigit_of_mem_padded hc
  value := Text.ofDigitChars_padded width n

theorem yearText_yearText {year : Int} (h : IsYear year) (hq : QualifierText q u) :
    YearText ((yearText year).toList ++ q) year u := by
  obtain ⟨hfirst, hlast⟩ := h
  have hnumeral : IsNumeral 6 (Text.padded 4 year.natAbs).toList year.natAbs :=
    isNumeral_padded (by decide) (by decide) (by omega)
  rcases Int.lt_or_le year 0 with hneg | hnonneg
  · have htext := YearText.minus hnumeral hq
    rw [show -(year.natAbs : Int) = year by omega] at htext
    have hfirst : -(Text.maxInteger : Int) ≤ year := by
      rw [Text.maxInteger]
      omega
    simpa [yearText_of_neg hfirst hneg] using htext
  · have htext := YearText.unsigned hnumeral hq
    rw [show (year.natAbs : Int) = year by omega] at htext
    rwa [yearText_of_nonneg hnonneg]

theorem fieldText_paddedInt {p : Nat → Prop} (hbound : ∀ n, p n → n < 100) {n : Nat} (hp : p n)
    (hq : QualifierText q u) : FieldText p ('-' :: (Text.paddedInt 2 n).toList ++ q) n u := by
  rw [Text.paddedInt, if_neg (by omega), Int.natAbs_natCast]
  exact .intro (isNumeral_padded (by decide) (by decide) (hbound n hp)) hp hq

theorem monthText_paddedInt {month : Nat} (h : IsMonth month) (hq : QualifierText q u) :
    FieldText IsMonth ('-' :: (Text.paddedInt 2 month).toList ++ q) month u :=
  fieldText_paddedInt (fun _ hn => Nat.lt_of_le_of_lt hn.bounds.2 (by decide)) h hq

theorem dayText_paddedInt {day : Nat} (h : IsDay day) (hq : QualifierText q u) :
    FieldText IsDay ('-' :: (Text.paddedInt 2 day).toList ++ q) day u :=
  fieldText_paddedInt (fun _ hn => Nat.lt_of_le_of_lt hn.2 (by decide)) h hq

theorem Denotes.dateText (h : Denotes season numbers date) (hseason : ∀ s ∈ season, 1 ≤ s ∧ s ≤ 4)
    (hq : QualifierText q u) :
    DateText ((partsText (withSeason (season.map Int.ofNat) numbers)).toList ++ q) date u := by
  have hmonthText {year : Int} {month : Nat} (hy : IsYear year) (hm : IsMonth month) :
      DateText ((partsText [year, (month : Int)]).toList ++ q) { year, month := some month } u := by
    have hdate := DateText.month (yearText_yearText hy .absent) (monthText_paddedInt hm hq)
    simpa [partsText] using hdate
  cases h with
  | year hy =>
    cases season with
    | none => exact .year (yearText_yearText hy hq)
    | some s =>
      obtain ⟨hfirst, hlast⟩ := hseason s rfl
      have hinside : (decide (1 ≤ Int.ofNat s) && decide (Int.ofNat s ≤ 4)) = true := by simp; omega
      have hmonth : IsMonth (20 + s) := by rw [IsMonth]; omega
      rw [Option.map_some, withSeason, if_pos hinside]
      simpa using hmonthText hy hmonth
  | month hy hm => exact hmonthText hy hm
  | day hy hm hd =>
    have hdate := DateText.day (yearText_yearText hy .absent) (monthText_paddedInt hm .absent)
      (dayText_paddedInt hd hq)
    simpa [withSeason, partsText] using hdate

theorem Denotes.le_maxInteger (h : Denotes season numbers date) :
    ∀ n ∈ numbers, n ≤ Text.maxInteger := by
  have hmax : Text.maxInteger = 9223372036854775807 := rfl
  have hyear {year : Int} (hy : IsYear year) : year ≤ Text.maxInteger := by
    have hlast := hy.2
    omega
  have hmonth {month : Nat} (hm : IsMonth month) : (month : Int) ≤ Text.maxInteger := by
    have hlast := hm.bounds.2
    omega
  have hday {day : Nat} (hd : IsDay day) : (day : Int) ≤ Text.maxInteger := by
    have hlast := hd.2
    omega
  cases h with
  | year hy => simpa using hyear hy
  | month hy hm => simpa using And.intro (hyear hy) (hmonth hm)
  | day hy hm hd => simpa using And.intro (hyear hy) (And.intro (hmonth hm) (hday hd))

theorem Denotes.filterMap_int? (h : Denotes season numbers date) :
    (numbers.map fun n => Value.number (.int n)).filterMap int? = numbers := by
  have hread : ∀ n ∈ numbers, int? (.number (.int n)) = some n := fun n hn =>
    if_pos (h.le_maxInteger n hn)
  rw [List.filterMap_map]
  exact (List.filterMap_congr hread).trans List.filterMap_some

section Object

variable {item : Value} {lists : List (List Int)} {dates : List DateParts}
theorem texts_eq (hseason : ∀ s ∈ season, 1 ≤ s ∧ s ≤ 4)
    (h : List.Forall₂ (Denotes season) lists dates) :
    ((lists.map ofNumbers).filterMap (·.list?)
      |>.map (fun part => partsText (withSeason (season.map Int.ofNat) (part.filterMap int?)))
      |>.filter (!·.isEmpty)) =
    lists.map fun numbers => partsText (withSeason (season.map Int.ofNat) numbers) := by
  induction h with
  | nil => rfl
  | @cons numbers _ _ _ h _ ih =>
    have htext : (partsText (withSeason (season.map Int.ofNat) numbers)).isEmpty = false := by
      obtain ⟨c, t, ht, -⟩ := (h.dateText hseason .absent).exists_cons
      rw [List.append_nil] at ht
      rw [String.isEmpty_eq_false_iff, Ne, ← String.toList_eq_nil_iff, ht]
      exact List.cons_ne_nil c t
    have hlist : (ofNumbers numbers).list? = some (numbers.map fun n => .number (.int n)) := rfl
    rw [List.map_cons, List.filterMap_cons_some hlist, List.map_cons, h.filterMap_int?,
      List.filter_cons_of_pos (by simp [htext]), ih, List.map_cons]

theorem date?_eq (hseason : ∀ s ∈ season, 1 ≤ s ∧ s ≤ 4)
    (hmember : item.member? "season" = season.map fun s => .number (.int s))
    (hlists : item.member? "date-parts" = some (.list (lists.map ofNumbers)))
    (hdates : List.Forall₂ (Denotes season) lists dates) (hne : lists ≠ []) :
    date? item = some
      ("/".intercalate (lists.map fun numbers =>
        partsText (withSeason (season.map Int.ofNat) numbers)) ++
        if (item.member? "circa").any isTrue then "~" else "") := by
  obtain ⟨members, hitem⟩ : ∃ members, item.members? = some members := by
    cases item with
    | object members => exact ⟨members, rfl⟩
    | _ => cases hlists
  have hread : (item.member? "season").bind int? = season.map Int.ofNat := by
    rw [hmember]
    cases season with
    | none => rfl
    | some s =>
      have hmax : Text.maxInteger = 9223372036854775807 := rfl
      have hrange := hseason s rfl
      exact if_pos (by omega)
  have htexts := texts_eq hseason hdates
  simp only [date?, hitem, hlists, hread, htexts]
  simp [hne]

/-- What an object with one or two dates is turned into is read back as these dates, and as
uncertain just when the object is. -/
theorem parse?_of_date? {start : DateParts} {stop : Option DateParts}
    (hseason : ∀ s ∈ season, 1 ≤ s ∧ s ≤ 4)
    (hmember : item.member? "season" = season.map fun s => .number (.int s))
    (hlists : item.member? "date-parts" = some (.list (lists.map ofNumbers)))
    (hdates : List.Forall₂ (Denotes season) lists (start :: stop.toList)) :
    ∃ text, date? item = some text ∧ parse? text = some
      { start, stop := stop.filter (· ≠ start), openEnd := false
        uncertain := (item.member? "circa").any isTrue } := by
  have hne : lists ≠ [] := by
    rintro rfl
    cases hdates
  refine ⟨_, date?_eq hseason hmember hlists hdates hne, RangeText.parse?_eq ?_⟩
  have hq : QualifierText (if (item.member? "circa").any isTrue then "~" else "").toList
      ((item.member? "circa").any isTrue) := by
    split
    · next h => exact h ▸ .present (.inr (.inl rfl))
    · next h => exact Bool.eq_false_iff.mpr h ▸ .absent
  generalize (item.member? "circa").any isTrue = u at hq ⊢
  cases stop with
  | none =>
    obtain _ | ⟨hstart, hrest⟩ := hdates
    cases hrest
    simpa using RangeText.single (hstart.dateText hseason hq)
  | some stop =>
    obtain _ | ⟨hstart, hrest⟩ := hdates
    obtain _ | ⟨hstop, hrest⟩ := hrest
    cases hrest
    have hrange := RangeText.closed (hstart.dateText hseason .absent) (hstop.dateText hseason hq)
    by_cases heq : stop = start
    · simpa [heq, Option.filter] using hrange
    · simpa [heq, Option.filter] using hrange

def seasonToDay : Value := .object [
  ("date-parts", .list ([[-44], [2000, 3, 15]].map ofNumbers)), ("season", .number (.int 2)),
  ("circa", .bool true)]

theorem parse?_of_date?_of_season :
    date? seasonToDay = some "-0044-22/2000-03-15~" ∧ parse? "-0044-22/2000-03-15~" = some
      { start := { year := -44, month := some 22 }
        stop := some { year := 2000, month := some 3, day := some 15 }, uncertain := true } := by
  have hstart : Denotes (some 2) [-44] { year := -44, month := some 22 } := .year ⟨by decide, by decide⟩
  have hstop : Denotes (some 2) [2000, (3 : Nat), (15 : Nat)]
      { year := 2000, month := some 3, day := some 15 } :=
    .day ⟨by decide, by decide⟩ (.inl ⟨by decide, by decide⟩) ⟨by decide, by decide⟩
  have hdates : List.Forall₂ (Denotes (some 2)) [[-44], [2000, 3, 15]]
      ({ year := -44, month := some 22 } ::
        (some { year := 2000, month := some 3, day := some 15 : DateParts }).toList) :=
    .cons hstart (.cons hstop .nil)
  obtain ⟨text, htext, hparse⟩ := parse?_of_date? (by decide) (rfl : seasonToDay.member? "season" = _)
    rfl hdates
  have hdate : date? seasonToDay = some "-0044-22/2000-03-15~" := rfl
  obtain rfl := Option.some.inj (hdate.symm.trans htext)
  exact ⟨hdate, hparse⟩

end Object

end Citeproc.CslJson
