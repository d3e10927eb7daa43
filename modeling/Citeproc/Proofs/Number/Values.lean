import Citeproc.Proofs.Number.Lists
import Citeproc.Proofs.Number.Roman

namespace Citeproc

namespace Text

def decimalValue (c : Char) : Nat :=
  if c.toNat < 128 then digitValue c
  else
    match searchRows id decimalRanges c.toNat 0 decimalRanges.size with
    | some (first, _) => (c.toNat - first) % 10
    | none => 0

def numeralValue (cs : List Char) : Nat := cs.foldl (fun n c => 10 * n + decimalValue c) 0

theorem decimalValue_of_isDigit {c : Char} (h : c.isDigit = true) : decimalValue c = digitValue c := by
  have hbounds : 48 ≤ c.toNat ∧ c.toNat ≤ 57 := Char.isDigit_iff_toNat.mp h
  rw [decimalValue, if_pos (by omega)]

theorem numeralValue_of_isDigit {cs : List Char} (h : ∀ c ∈ cs, c.isDigit = true) :
    numeralValue cs = Nat.ofDigitChars 10 cs 0 := by
  rw [numeralValue, Nat.ofDigitChars]
  apply List.foldl_ext
  intro n c hc
  rw [decimalValue_of_isDigit (h c hc)]
  rfl

theorem head?_toDigits {n : Nat} (h : (Nat.toDigits 10 n).head? = some '0') : n = 0 := by
  obtain ⟨rest, hrest⟩ := List.head?_eq_some_iff.mp h
  have hdigits : ∀ c ∈ rest, c.isDigit = true := fun c hc =>
    Nat.isDigit_of_mem_toDigits (by decide) (by decide) (hrest ▸ List.mem_cons_of_mem _ hc)
  have hvalue : Nat.ofDigitChars 10 rest 0 = n := by
    have := Nat.ofDigitChars_ten_toDigits (n := n)
    rw [hrest] at this
    simpa [Nat.ofDigitChars] using this
  by_cases hne : rest = []
  · rw [← hvalue, hne]
    rfl
  · have hlt : n < 10 ^ rest.length := hvalue ▸ ofDigitChars_lt hdigits
    have hle := (Nat.length_toDigits_le_iff (by decide) (List.length_pos_of_ne_nil hne)).mpr hlt
    rw [hrest, List.length_cons] at hle
    omega

end Text

namespace Number
def IsRead (run : List Char) : Prop :=
  (∀ c ∈ run, c.isDigit = true) ∧ Text.numeralValue run ≤ Text.maxInteger

section Run

variable {run : List Char} (hrun : IsRun run)

include hrun

theorem runValue_of_isRead (h : IsRead run) : runValue run = Text.numeralValue run := by
  have hnumber : Text.natural? Text.maxInteger run = some (Text.numeralValue run) :=
    (Text.natural?_eq_some_iff (Text.head?_ne_plus hrun.2)).mpr
      ⟨hrun.1, h.1, (Text.numeralValue_of_isDigit h.1).symm, h.2⟩
  rw [runValue, hnumber, Option.getD_some]

theorem runValue_of_not_isRead (h : ¬IsRead run) : runValue run = 0 := by
  cases hnumber : Text.natural? Text.maxInteger run with
  | none => rw [runValue, hnumber, Option.getD_none]
  | some n =>
    obtain ⟨-, hdigits, rfl, hle⟩ := (Text.natural?_eq_some_iff (Text.head?_ne_plus hrun.2)).mp hnumber
    exact absurd ⟨hdigits, (Text.numeralValue_of_isDigit hdigits).trans_le hle⟩ h

end Run

def shownRun (form : NumberForm) (locale : Locale) (run : List Char) : String :=
  let n := Text.numeralValue run
  match form with
  | .numeric => String.ofList run
  | .ordinal => toString n ++ locale.ordinalSuffix n
  | .longOrdinal => locale.longOrdinal n
  | .roman => if 1 ≤ n ∧ n < 4000 then Roman.places n else String.ofList run

def Keeps (form : NumberForm) (locale : Locale) (run : List Char) : Prop :=
  let n := Text.numeralValue run
  match form with
  | .numeric => True
  | .ordinal => IsRead run ∨ n = 0
  | .longOrdinal =>
    IsRead run ∨ n = 0 ∨
      (n ≤ 10 ∧ locale.longTerm? ("long-ordinal-" ++ Text.padded 2 n) = some (locale.ordinal 0))
  | .roman => IsRead run ∧ ((1 ≤ n ∧ n < 4000) ∨ Text.maxHalfWord < n ∨ run = Nat.toDigits 10 n)

theorem ordinal_natCast (locale : Locale) (n : Nat) :
    locale.ordinal n = toString n ++ locale.ordinalSuffix n := by
  rw [Locale.ordinal]
  rfl

theorem ordinal_eq_ordinal_zero_iff (locale : Locale) (n : Nat) :
    locale.ordinal 0 = toString n ++ locale.ordinalSuffix n ↔ n = 0 := by
  constructor
  · intro h
    apply Text.head?_toDigits
    have hchars := congrArg String.toList ((ordinal_natCast locale 0).symm.trans h)
    rw [String.toList_append, String.toList_append, Nat.toString_eq_repr, Nat.toString_eq_repr,
      Nat.toList_repr, Nat.toList_repr] at hchars
    have hne : Nat.toDigits 10 n ≠ [] := Nat.toDigits_ne_nil
    have hhead := congrArg List.head? hchars
    rw [List.head?_append_of_ne_nil _ hne] at hhead
    exact hhead.symm
  · rintro rfl
    exact ordinal_natCast locale 0

theorem longOrdinal_eq_ordinal_zero_iff (locale : Locale) (n : Nat) :
    locale.longOrdinal n = locale.ordinal 0 ↔ n = 0 ∨
      (n ≤ 10 ∧ locale.longTerm? ("long-ordinal-" ++ Text.padded 2 n) = some (locale.ordinal 0)) := by
  have hordinal : locale.ordinal n = locale.ordinal 0 ↔ n = 0 := by
    rw [ordinal_natCast, eq_comm]
    exact ordinal_eq_ordinal_zero_iff locale n
  rw [Locale.longOrdinal]
  by_cases hword : 1 ≤ n ∧ n ≤ 10
  · have hne : n ≠ 0 := by omega
    rw [if_pos (by simpa using hword), Int.toNat_natCast, or_iff_right hne, and_iff_right hword.2]
    cases locale.longTerm? ("long-ordinal-" ++ Text.padded 2 n) with
    | none => simpa [hordinal] using hne
    | some word => simp
  · rw [if_neg (by simpa using hword), Option.getD_none, hordinal]
    constructor
    · exact .inl
    · rintro (h | ⟨hle, -⟩) <;> omega

theorem roman_ne_zero {n : Nat} {run : List Char} (h : ¬IsRead run) :
    "0" ≠ if 1 ≤ n ∧ n < 4000 then Roman.places n else String.ofList run := by
  split
  · intro hplaces
    exact Roman.zero_not_mem_places n (hplaces ▸ by decide)
  · intro hrun
    obtain rfl : ['0'] = run := by simpa using congrArg String.toList hrun
    exact h ⟨List.forall_mem_singleton.mpr (by decide), by decide⟩

theorem formatRun_roman_iff {run : List Char} (locale : Locale) (hrun : IsRun run) (h : IsRead run) :
    formatRun .roman locale run = shownRun .roman locale run ↔ Keeps .roman locale run := by
  have hword : Text.maxHalfWord = 4294967295 := rfl
  rw [formatRun, shownRun, Keeps, runValue_of_isRead hrun h, and_iff_right h]
  generalize Text.numeralValue run = n
  -- Numbers with a numeral, numbers that 32 bits do not hold, and the others.
  by_cases hnumeral : 1 ≤ n ∧ n < 4000
  · rw [if_pos (by omega), Roman.ofNat, if_pos (by simpa using hnumeral), Roman.write_numerals,
      if_pos hnumeral]
    exact iff_of_true rfl (.inl hnumeral)
  · rw [if_neg hnumeral]
    by_cases hlarge : Text.maxHalfWord < n
    · rw [if_neg (by omega)]
      exact iff_of_true rfl (.inr (.inl hlarge))
    · rw [if_pos (by omega), Roman.ofNat, if_neg (by simpa using hnumeral), or_iff_right hnumeral,
        or_iff_right hlarge, ← String.toList_inj, Nat.toString_eq_repr, Nat.toList_repr,
        String.toList_ofList]
      exact eq_comm

theorem formatRun_eq_shownRun_iff (form : NumberForm) (locale : Locale) {run : List Char}
    (hrun : IsRun run) :
    formatRun form locale run = shownRun form locale run ↔ Keeps form locale run := by
  by_cases h : IsRead run
  · have hvalue := runValue_of_isRead hrun h
    cases form with
    | numeric => exact iff_of_true rfl trivial
    | ordinal =>
      refine iff_of_true ?_ (.inl h)
      rw [formatRun, hvalue]
      exact ordinal_natCast locale _
    | longOrdinal =>
      refine iff_of_true ?_ (.inl h)
      rw [formatRun, hvalue]
      rfl
    | roman => exact formatRun_roman_iff locale hrun h
  · have hvalue := runValue_of_not_isRead hrun h
    cases form with
    | numeric => exact iff_of_true rfl trivial
    | ordinal =>
      rw [formatRun, hvalue, Keeps, or_iff_right h]
      exact ordinal_eq_ordinal_zero_iff locale _
    | longOrdinal =>
      rw [formatRun, hvalue, Keeps, or_iff_right h, eq_comm]
      exact longOrdinal_eq_ordinal_zero_iff locale _
    | roman =>
      rw [formatRun, hvalue, Keeps]
      refine iff_of_false ?_ fun hkeeps => h hkeeps.1
      exact roman_ne_zero h

/-- A list of numbers keeps what stands between them, hyphens apart, and shows each number on its own. -/
theorem format_list_runs {l : NumberList} (h : l.WellFormed) (form : NumberForm) (locale : Locale) :
    format (String.ofList l.chars) form locale =
        String.ofList (l.write Joint.shown fun run => (formatRun form locale run).toList) ∧
      ∀ run ∈ l.runs, formatRun form locale run = shownRun form locale run ↔ Keeps form locale run := by
  refine ⟨format_list form locale h, fun run hmem => formatRun_eq_shownRun_iff form locale ?_⟩
  rcases List.mem_cons.mp hmem with rfl | hmem
  · exact h.first
  · obtain ⟨p, hp, rfl⟩ := List.mem_map.mp hmem
    exact (h.others p hp).2

def threeNumbers : NumberList where
  leading := [' ']
  first := ['1']
  others := [(⟨[' '], ['-'], [' ']⟩, ['2']), (⟨[' '], ['&'], [' ']⟩, ['3'])]
  trailing := []

def oneSuffix : Locale := { terms := [("ordinal", { long := some (.simple "th") })] }

theorem format_list_runs_three : threeNumbers.WellFormed ∧
    format (String.ofList threeNumbers.chars) .ordinal oneSuffix =
        String.ofList (threeNumbers.write Joint.shown fun run =>
          (formatRun .ordinal oneSuffix run).toList) ∧
      ∀ run ∈ threeNumbers.runs,
        formatRun .ordinal oneSuffix run = shownRun .ordinal oneSuffix run ↔
          Keeps .ordinal oneSuffix run := by
  have hlist : threeNumbers.WellFormed := by decide
  exact ⟨hlist, format_list_runs hlist .ordinal oneSuffix⟩

theorem format_unread_runs :
    IsRun "99999999999999999999".toList ∧ IsRun "٣".toList ∧
      format "99999999999999999999" .ordinal oneSuffix = "0th" ∧
      shownRun .ordinal oneSuffix "99999999999999999999".toList = "99999999999999999999th" ∧
      format "٣" .roman oneSuffix = "0" ∧ shownRun .roman oneSuffix "٣".toList = "iii" := by
  refine ⟨?_, ?_, ?_, ?_, ?_, ?_⟩ <;> decide +kernel

end Number

end Citeproc
