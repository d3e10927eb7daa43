import Citeproc.Date.Basic
import Citeproc.Proofs.Text.Digits

/-!
The grammar of dates, as relations between a text and what it denotes.
-/

namespace Citeproc

namespace DateRange

structure IsNumeral (most : Nat) (text : List Char) (n : Nat) : Prop where
  ne_nil : text ≠ []
  length_le : text.length ≤ most
  isDigit : ∀ c ∈ text, c.isDigit = true
  value : Nat.ofDigitChars 10 text 0 = n

inductive QualifierText : List Char → Bool → Prop
  | absent : QualifierText [] false
  | present {c : Char} (h : c = '?' ∨ c = '~' ∨ c = '%') : QualifierText [c] true

inductive YearText : List Char → Int → Bool → Prop
  | unsigned {t q : List Char} {n : Nat} {u : Bool} (ht : IsNumeral 6 t n) (hq : QualifierText q u) :
    YearText (t ++ q) n u
  | plus {t q : List Char} {n : Nat} {u : Bool} (ht : IsNumeral 6 t n) (hq : QualifierText q u) :
    YearText ('+' :: t ++ q) n u
  | minus {t q : List Char} {n : Nat} {u : Bool} (ht : IsNumeral 6 t n) (hq : QualifierText q u) :
    YearText ('-' :: t ++ q) (-n) u

def IsYear (n : Int) : Prop := -999999 ≤ n ∧ n ≤ 999999

def IsMonth (n : Nat) : Prop := 1 ≤ n ∧ n ≤ 12 ∨ 13 ≤ n ∧ n ≤ 16 ∨ 21 ≤ n ∧ n ≤ 24

def IsDay (n : Nat) : Prop := 1 ≤ n ∧ n ≤ 31

end DateRange

structure DateParts.IsProper (d : DateParts) : Prop where
  year : DateRange.IsYear d.year
  month : ∀ m ∈ d.month, DateRange.IsMonth m
  day : ∀ n ∈ d.day, DateRange.IsDay n

namespace DateRange

inductive FieldText (p : Nat → Prop) : List Char → Nat → Bool → Prop
  | intro {t q : List Char} {n : Nat} {u : Bool} (ht : IsNumeral 2 t n) (hp : p n)
    (hq : QualifierText q u) : FieldText p ('-' :: t ++ q) n u

inductive DateText : List Char → DateParts → Bool → Prop
  | year {y : List Char} {year : Int} {u : Bool} (hy : YearText y year u) : DateText y { year } u
  | month {y m : List Char} {year : Int} {month : Nat} {u v : Bool} (hy : YearText y year u)
    (hm : FieldText IsMonth m month v) : DateText (y ++ m) { year, month := some month } (u || v)
  | day {y m d : List Char} {year : Int} {month day : Nat} {u v w : Bool} (hy : YearText y year u)
    (hm : FieldText IsMonth m month v) (hd : FieldText IsDay d day w) :
    DateText (y ++ m ++ d) { year, month := some month, day := some day } (u || v || w)

inductive RangeText : List Char → DateRange → Prop
  | single {t : List Char} {start : DateParts} {u : Bool} (h : DateText t start u) :
    RangeText t { start, uncertain := u }
  | openEnd {t : List Char} {start : DateParts} {u : Bool} (h : DateText t start u) :
    RangeText (t ++ ['/']) { start, openEnd := true, uncertain := u }
  | closed {t t' : List Char} {start stop : DateParts} {u v : Bool} (h : DateText t start u)
    (h' : DateText t' stop v) :
    RangeText (t ++ '/' :: t')
      { start, stop := if stop = start then none else some stop, uncertain := u || v }

def IsCircaWord (w : List Char) : Prop :=
  ∃ word ∈ ["approximately", "circa", "ca.", "c."], w.map Char.toLower = word.toList

inductive ValueText : List Char → DateRange → Prop
  | plain {t : List Char} {range : DateRange} (h : RangeText t range) : ValueText t range
  | circa {w blanks t : List Char} {range : DateRange} (hw : IsCircaWord w)
    (hblanks : ∀ c ∈ blanks, Text.isBlank c = true) (h : RangeText t range) :
    ValueText (w ++ blanks ++ t) { range with uncertain := true }

def IsDateChar (c : Char) : Prop := c.isDigit = true ∨ c ∈ ['+', '-', '/', '?', '~', '%']

theorem IsDateChar.induct {p : Char → Prop} (hdigit : ∀ n < 10, p n.digitChar)
    (hmark : p '+' ∧ p '-' ∧ p '/' ∧ p '?' ∧ p '~' ∧ p '%') {c : Char} (h : IsDateChar c) : p c := by
  obtain h | h := h
  · exact Text.of_isDigit p hdigit h
  · simp only [List.mem_cons, List.not_mem_nil, or_false] at h
    obtain rfl | rfl | rfl | rfl | rfl | rfl := h <;> simp only [hmark]

section Texts

variable {t : List Char} {n : Nat} {u : Bool} {date : DateParts} {range : DateRange}

theorem IsNumeral.append_ne_cons {most : Nat} (h : IsNumeral most t n) {c : Char}
    (hc : c.isDigit = false) {rest : List Char} (cs : List Char) : t ++ rest ≠ c :: cs := by
  obtain ⟨d, t, rfl⟩ := List.exists_cons_of_ne_nil h.ne_nil
  intro heq
  obtain rfl : d = c := (List.cons_eq_cons.mp heq).1
  exact absurd (h.isDigit d List.mem_cons_self) (by simp [hc])

theorem IsNumeral.lt {most : Nat} (h : IsNumeral most t n) : n < 10 ^ most :=
  h.value ▸ Nat.lt_of_lt_of_le (Text.ofDigitChars_lt h.isDigit)
    (Nat.pow_le_pow_right (by decide) h.length_le)

theorem FieldText.mono {p p' : Nat → Prop} (h : ∀ n, p n → p' n) (ht : FieldText p t n u) :
    FieldText p' t n u := by
  obtain ⟨ht, hp, hq⟩ := ht
  exact .intro ht (h _ hp) hq

theorem IsMonth.bounds (h : IsMonth n) : 1 ≤ n ∧ n ≤ 24 := by
  rw [IsMonth] at h
  omega

theorem YearText.isYear {year : Int} (h : YearText t year u) : IsYear year := by
  obtain ⟨ht, -⟩ | ⟨ht, -⟩ | ⟨ht, -⟩ := h
  all_goals
    have hlt := ht.lt
    exact ⟨by omega, by omega⟩

theorem DateText.isProper (h : DateText t date u) : date.IsProper := by
  cases h with
  | year hy => exact ⟨hy.isYear, nofun, nofun⟩
  | month hy hm =>
    obtain ⟨-, hm, -⟩ := hm
    exact ⟨hy.isYear, fun _ h => Option.some.inj h ▸ hm, nofun⟩
  | day hy hm hd =>
    obtain ⟨-, hm, -⟩ := hm
    obtain ⟨-, hd, -⟩ := hd
    exact ⟨hy.isYear, fun _ h => Option.some.inj h ▸ hm, fun _ h => Option.some.inj h ▸ hd⟩

theorem RangeText.isProper (h : RangeText t range) :
    range.start.IsProper ∧ ∀ d ∈ range.stop, d.IsProper := by
  cases h with
  | single h => exact ⟨h.isProper, nofun⟩
  | openEnd h => exact ⟨h.isProper, nofun⟩
  | closed h h' =>
    refine ⟨h.isProper, fun d hd => ?_⟩
    dsimp only at hd
    split at hd
    · cases hd
    · exact Option.some.inj hd ▸ h'.isProper

theorem QualifierText.isDateChar (h : QualifierText t u) : ∀ c ∈ t, IsDateChar c := by
  cases h with
  | absent => simp
  | present h =>
    rw [List.forall_mem_singleton]
    obtain rfl | rfl | rfl := h <;> exact .inr (by decide)

theorem IsNumeral.isDateChar {most : Nat} (h : IsNumeral most t n) : ∀ c ∈ t, IsDateChar c :=
  fun c hc => .inl (h.isDigit c hc)

theorem YearText.isDateChar {year : Int} (h : YearText t year u) : ∀ c ∈ t, IsDateChar c := by
  have hplus : IsDateChar '+' := .inr (by decide)
  have hminus : IsDateChar '-' := .inr (by decide)
  obtain ⟨ht, hq⟩ | ⟨ht, hq⟩ | ⟨ht, hq⟩ := h <;>
    simp only [List.forall_mem_append, List.forall_mem_cons]
  · exact ⟨ht.isDateChar, hq.isDateChar⟩
  · exact ⟨⟨hplus, ht.isDateChar⟩, hq.isDateChar⟩
  · exact ⟨⟨hminus, ht.isDateChar⟩, hq.isDateChar⟩

theorem FieldText.isDateChar {p : Nat → Prop} (h : FieldText p t n u) : ∀ c ∈ t, IsDateChar c := by
  obtain ⟨ht, -, hq⟩ := h
  simp only [List.forall_mem_append, List.forall_mem_cons]
  exact ⟨⟨.inr (by decide), ht.isDateChar⟩, hq.isDateChar⟩

theorem DateText.isDateChar (h : DateText t date u) : ∀ c ∈ t, IsDateChar c := by
  cases h with
  | year hy => exact hy.isDateChar
  | month hy hm => exact List.forall_mem_append.mpr ⟨hy.isDateChar, hm.isDateChar⟩
  | day hy hm hd =>
    simp only [List.forall_mem_append]
    exact ⟨⟨hy.isDateChar, hm.isDateChar⟩, hd.isDateChar⟩

theorem RangeText.isDateChar (h : RangeText t range) : ∀ c ∈ t, IsDateChar c := by
  have hslash : IsDateChar '/' := .inr (by decide)
  cases h with
  | single h => exact h.isDateChar
  | openEnd h =>
    exact List.forall_mem_append.mpr ⟨h.isDateChar, List.forall_mem_singleton.mpr hslash⟩
  | closed h h' =>
    simp only [List.forall_mem_append, List.forall_mem_cons]
    exact ⟨h.isDateChar, hslash, h'.isDateChar⟩

theorem RangeText.isBlank (h : RangeText t range) : ∀ c ∈ t, Text.isBlank c = false := fun c hc =>
  (h.isDateChar c hc).induct (p := (Text.isBlank · = false)) (by decide) (by decide)

theorem YearText.exists_cons {year : Int} (h : YearText t year u) :
    ∃ c t', t = c :: t' ∧ (c.isDigit = true ∨ c = '+' ∨ c = '-') := by
  cases h with
  | unsigned ht hq =>
    obtain ⟨c, t, rfl⟩ := List.exists_cons_of_ne_nil ht.ne_nil
    exact ⟨c, _, rfl, .inl (ht.isDigit c List.mem_cons_self)⟩
  | plus => exact ⟨_, _, rfl, .inr (.inl rfl)⟩
  | minus => exact ⟨_, _, rfl, .inr (.inr rfl)⟩

theorem DateText.exists_cons (h : DateText t date u) :
    ∃ c t', t = c :: t' ∧ (c.isDigit = true ∨ c = '+' ∨ c = '-') := by
  obtain hy | ⟨hy, -⟩ | ⟨hy, -, -⟩ := h
  all_goals
    obtain ⟨c, t', rfl, hc⟩ := hy.exists_cons
    exact ⟨c, _, rfl, hc⟩

theorem RangeText.exists_cons (h : RangeText t range) :
    ∃ c t', t = c :: t' ∧ (c.isDigit = true ∨ c = '+' ∨ c = '-') := by
  obtain h | h | ⟨h, -⟩ := h
  all_goals
    obtain ⟨c, t', rfl, hc⟩ := h.exists_cons
    exact ⟨c, _, rfl, hc⟩

end Texts

end DateRange

end Citeproc
