import Citeproc.Proofs.Date.Reading
import Citeproc.Proofs.Text.DigitOrder

/-!
The order of dates and that of the texts they are sorted by. The texts begin with the year counted
from the year -10000, in five digits: years that take more digits, and years before, can be out of
place.
-/

namespace Citeproc

namespace DateParts

variable {x y : DateParts}

def compareDates (x y : DateParts) : Ordering :=
  (compare x.year y.year).then
    ((compare (x.month.getD 0) (y.month.getD 0)).then (compare (x.day.getD 0) (y.day.getD 0)))

theorem IsProper.month_lt (h : x.IsProper) : x.month.getD 0 < 100 := by
  cases hmonth : x.month with
  | none => decide
  | some m =>
    have hm := (h.month m hmonth).bounds
    rw [Option.getD_some]
    omega

theorem IsProper.day_lt (h : x.IsProper) : x.day.getD 0 < 100 := by
  cases hday : x.day with
  | none => decide
  | some n =>
    have hlast := (h.day n hday).2
    rw [Option.getD_some]
    omega

theorem eq_of_getD_eq {m n : Option Nat} (hm : ∀ k ∈ m, 1 ≤ k) (hn : ∀ k ∈ n, 1 ≤ k)
    (h : m.getD 0 = n.getD 0) : m = n := by
  cases m with
  | none =>
    cases n with
    | none => rfl
    | some k => exact absurd (hn k rfl) (by rw [← show 0 = k from h]; decide)
  | some j =>
    cases n with
    | none => exact absurd (hm j rfl) (by rw [show j = 0 from h]; decide)
    | some k => exact congrArg some h

theorem IsProper.ext (hx : x.IsProper) (hy : y.IsProper) (hyear : x.year = y.year)
    (hmonth : x.month.getD 0 = y.month.getD 0) (hday : x.day.getD 0 = y.day.getD 0) : x = y := by
  have hm := eq_of_getD_eq (fun m h => (hx.month m h).bounds.1)
      (fun m h => (hy.month m h).bounds.1) hmonth
  have hd := eq_of_getD_eq (fun n h => (hx.day n h).1) (fun n h => (hy.day n h).1) hday
  cases x
  cases y
  simp_all

theorem compareDates_eq_eq_iff (hx : x.IsProper) (hy : y.IsProper) :
    x.compareDates y = .eq ↔ x = y := by
  rw [compareDates, Ordering.then_eq_eq, Ordering.then_eq_eq, compare_eq_iff_eq, compare_eq_iff_eq,
    compare_eq_iff_eq]
  constructor
  · rintro ⟨hyear, hmonth, hday⟩
    exact hx.ext hy hyear hmonth hday
  · rintro rfl
    exact ⟨rfl, rfl, rfl⟩

def keySign (d : DateParts) : List Char := if d.year < -10000 then ['-'] else []

def keyDigits (d : DateParts) : List Char :=
  (Text.padded (if d.year < -10000 then 4 else 5) (d.year + 10000).natAbs).toList ++
    ((Text.padded 2 (d.month.getD 0)).toList ++ (Text.padded 2 (d.day.getD 0)).toList)

theorem toList_sortKey (d : DateParts) : d.sortKey.toList = d.keySign ++ d.keyDigits := by
  simp only [sortKey, String.toList_append, List.append_assoc, keySign, keyDigits, Text.paddedInt]
  by_cases h : d.year < -10000
  · rw [if_pos h, if_pos h, if_pos (by omega), String.toList_append, List.append_assoc]
    rfl
  · rw [if_neg h, if_neg h, if_neg (by omega), List.nil_append]

theorem isDigit_keyDigits (d : DateParts) : ∀ c ∈ d.keyDigits, c.isDigit = true := by
  simp only [keyDigits, List.forall_mem_append]
  exact ⟨fun _ => Text.isDigit_of_mem_padded, fun _ => Text.isDigit_of_mem_padded,
    fun _ => Text.isDigit_of_mem_padded⟩

theorem keyDigits_ne_nil (d : DateParts) : d.keyDigits ≠ [] :=
  List.append_ne_nil_of_left_ne_nil (Text.padded_ne_nil _ _) _

theorem exists_sortKey_cons (d : DateParts) :
    ∃ c cs, d.sortKey.toList = c :: cs ∧ ∀ c ∈ cs, c.isDigit = true := by
  rw [d.toList_sortKey, keySign]
  split
  · exact ⟨'-', d.keyDigits, List.singleton_append, d.isDigit_keyDigits⟩
  · obtain ⟨c, cs, hcs⟩ := List.exists_cons_of_ne_nil d.keyDigits_ne_nil
    have hdigits := d.isDigit_keyDigits
    rw [hcs, List.forall_mem_cons] at hdigits
    exact ⟨c, cs, (List.nil_append _).trans hcs, hdigits.2⟩

def keyWidth (d : DateParts) : Nat :=
  max (if d.year < -10000 then 4 else 5) (Nat.toDigits 10 (d.year + 10000).natAbs).length + 4

theorem IsProper.length_keyDigits (h : x.IsProper) : x.keyDigits.length = x.keyWidth := by
  rw [keyWidth, keyDigits, List.length_append, List.length_append, Text.length_padded,
    Text.length_padded_of_lt (by decide) h.month_lt, Text.length_padded_of_lt (by decide) h.day_lt]

theorem IsProper.keyWidth_le (h : x.IsProper) : x.keyWidth ≤ 11 := by
  obtain ⟨hfirst, hlast⟩ := h.year
  have hdigits : (Nat.toDigits 10 (x.year + 10000).natAbs).length ≤ 7 :=
    (Nat.length_toDigits_le_iff (by decide) (by decide)).mpr (by omega)
  rw [keyWidth]
  split <;> omega

def keyNumber (d : DateParts) : Nat :=
  10000 * (d.year + 10000).natAbs + (100 * d.month.getD 0 + d.day.getD 0)

theorem IsProper.ofDigitChars_keyDigits (h : x.IsProper) :
    Nat.ofDigitChars 10 x.keyDigits 0 = x.keyNumber := by
  have happend (cs ds : List Char) : Nat.ofDigitChars 10 (cs ++ ds) 0 =
      10 ^ ds.length * Nat.ofDigitChars 10 cs 0 + Nat.ofDigitChars 10 ds 0 := by
    rw [Nat.ofDigitChars_append, Nat.ofDigitChars_eq_ofDigitChars_zero]
  rw [keyDigits, happend, happend, List.length_append, Text.length_padded_of_lt (by decide) h.month_lt,
    Text.length_padded_of_lt (by decide) h.day_lt, Text.ofDigitChars_padded, Text.ofDigitChars_padded,
    Text.ofDigitChars_padded, keyNumber]
  omega

theorem keyDigits_ne_cons (d : DateParts) (cs : List Char) : d.keyDigits ≠ '-' :: cs := by
  intro hcs
  have hdigit := d.isDigit_keyDigits '-' (hcs ▸ List.mem_cons_self)
  exact absurd hdigit (by decide)

theorem IsProper.sortKey_inj (hx : x.IsProper) (hy : y.IsProper) (h : x.sortKey = y.sortKey) :
    x = y := by
  have htext : x.keySign ++ x.keyDigits = y.keySign ++ y.keyDigits := by
    rw [← toList_sortKey, ← toList_sortKey, h]
  have heq : x.keyDigits = y.keyDigits ∧ (x.year < -10000 ↔ y.year < -10000) := by
    unfold keySign at htext
    split at htext <;> split at htext <;>
      simp only [List.cons_append, List.nil_append] at htext
    · next hx hy => exact ⟨(List.cons_eq_cons.mp htext).2, iff_of_true hx hy⟩
    · exact absurd htext.symm (y.keyDigits_ne_cons _)
    · exact absurd htext (x.keyDigits_ne_cons _)
    · next hx hy => exact ⟨htext, iff_of_false hx hy⟩
  obtain ⟨hdigits, hsign⟩ := heq
  have hnumber := hx.ofDigitChars_keyDigits
  rw [hdigits, hy.ofDigitChars_keyDigits, keyNumber, keyNumber] at hnumber
  have hbounds := And.intro (And.intro hx.month_lt hy.month_lt) (And.intro hx.day_lt hy.day_lt)
  exact hx.ext hy (by omega) (by omega) (by omega)

theorem compare_sortKey_of_sign (h : x.year < -10000 ↔ y.year < -10000) :
    compare x.sortKey y.sortKey = compare x.keyDigits y.keyDigits := by
  have hsign : x.keySign = y.keySign := by
    unfold keySign
    split <;> split
    · rfl
    · next hx hy => exact absurd (h.mp hx) hy
    · next hx hy => exact absurd (h.mpr hy) hx
    · rfl
  have hself : compare y.keySign y.keySign = .eq := Std.ReflCmp.compare_self
  rw [Text.compare_toList, toList_sortKey, toList_sortKey, hsign, Text.compare_append rfl, hself,
    Ordering.eq_then]

theorem compare_sortKey_of_signs (hx : x.year < -10000) (hy : ¬y.year < -10000) :
    compare x.sortKey y.sortKey = .lt := by
  obtain ⟨c, cs, hcs⟩ := List.exists_cons_of_ne_nil y.keyDigits_ne_nil
  have hhyphen : compare '-' c = .lt :=
    Text.of_isDigit (compare '-' · = .lt) (by decide) (y.isDigit_keyDigits c (hcs ▸ List.mem_cons_self))
  rw [Text.compare_toList, toList_sortKey, toList_sortKey, keySign, if_pos hx, keySign, if_neg hy, hcs,
    List.singleton_append, List.nil_append, List.compare_cons_cons, hhyphen]
  rfl

theorem IsProper.compare_keyDigits (hx : x.IsProper) (hy : y.IsProper) (h : x.keyWidth = y.keyWidth) :
    compare x.keyDigits y.keyDigits = (compare (x.year + 10000).natAbs (y.year + 10000).natAbs).then
      ((compare (x.month.getD 0) (y.month.getD 0)).then (compare (x.day.getD 0) (y.day.getD 0))) := by
  have hlength : x.keyDigits.length = y.keyDigits.length := by
    rw [hx.length_keyDigits, hy.length_keyDigits, h]
  have hmonth := And.intro hx.month_lt hy.month_lt
  have hday := And.intro hx.day_lt hy.day_lt
  rw [Text.compare_digits x.isDigit_keyDigits y.isDigit_keyDigits hlength.le le_rfl, Text.decimals,
    Text.decimals, hlength, Nat.sub_self, Nat.pow_zero, Nat.mul_one, Nat.mul_one,
    hx.ofDigitChars_keyDigits, hy.ofDigitChars_keyDigits, keyNumber, keyNumber,
    Text.compare_add_mul (by omega) (by omega), Text.compare_add_mul hday.1 hday.2,
    compare_eq_iff_eq.mpr (rfl : y.keyDigits.length = _), Ordering.then_eq]

theorem IsProper.compare_sortKey_of_year (hx : x.IsProper) (hy : y.IsProper) (h : x.year = y.year) :
    compare x.sortKey y.sortKey = x.compareDates y := by
  have hwidth : x.keyWidth = y.keyWidth := by rw [keyWidth, keyWidth, h]
  rw [compare_sortKey_of_sign (h ▸ Iff.rfl), hx.compare_keyDigits hy hwidth, compareDates, h,
    compare_eq_iff_eq.mpr rfl, compare_eq_iff_eq.mpr rfl]

def InFiveDigits (d : DateParts) : Prop := -10000 ≤ d.year ∧ d.year < 90000

theorem InFiveDigits.keyWidth_eq (h : x.InFiveDigits) : x.keyWidth = 9 := by
  obtain ⟨hfirst, hlast⟩ := h
  have hdigits : (Nat.toDigits 10 (x.year + 10000).natAbs).length ≤ 5 :=
    (Nat.length_toDigits_le_iff (by decide) (by decide)).mpr (by omega)
  rw [keyWidth, if_neg (by omega)]
  omega

theorem IsProper.compare_sortKey_of_inFiveDigits (hx : x.IsProper) (hy : y.IsProper)
    (hx' : x.InFiveDigits) (hy' : y.InFiveDigits) : compare x.sortKey y.sortKey = x.compareDates y := by
  have hwidth : x.keyWidth = y.keyWidth := hx'.keyWidth_eq.trans hy'.keyWidth_eq.symm
  obtain ⟨hxfirst, -⟩ := hx'
  obtain ⟨hyfirst, -⟩ := hy'
  have hyears : compare (x.year + 10000).natAbs (y.year + 10000).natAbs = compare x.year y.year := by
    rcases lt_trichotomy x.year y.year with h | h | h
    · rw [compare_lt_iff_lt.mpr h, compare_lt_iff_lt.mpr (by omega)]
    · rw [compare_eq_iff_eq.mpr h, compare_eq_iff_eq.mpr (by omega)]
    · rw [compare_gt_iff_gt.mpr h, compare_gt_iff_gt.mpr (by omega)]
  rw [compare_sortKey_of_sign (by omega), hx.compare_keyDigits hy hwidth, hyears, compareDates]

def fraction (d : DateParts) : Nat := d.keyNumber * 10 ^ (11 - d.keyWidth)

theorem IsProper.compare_keyDigits_eq_lt_iff (hx : x.IsProper) (hy : y.IsProper) :
    compare x.keyDigits y.keyDigits = .lt ↔
      x.fraction < y.fraction ∨ x.fraction = y.fraction ∧ x.keyWidth < y.keyWidth := by
  have hdecimals {d : DateParts} (hd : d.IsProper) : Text.decimals 11 d.keyDigits = d.fraction := by
    rw [Text.decimals, hd.ofDigitChars_keyDigits, hd.length_keyDigits, fraction]
  rw [Text.compare_digits x.isDigit_keyDigits y.isDigit_keyDigits
    (hx.length_keyDigits.trans_le hx.keyWidth_le) (hy.length_keyDigits.trans_le hy.keyWidth_le),
      hdecimals hx, hdecimals hy, hx.length_keyDigits,
    hy.length_keyDigits, Ordering.then_eq_lt, compare_lt_iff_lt, compare_eq_iff_eq, compare_lt_iff_lt]

def KeyPrecedes (x y : DateParts) : Prop :=
  x.year < -10000 ∧ -10000 ≤ y.year ∨ -10000 ≤ x.year ∧ x.fraction ≤ y.fraction ∨
    y.year < -10000 ∧ x.fraction < y.fraction

theorem keyWidth_mono (hsign : x.year < -10000 ↔ y.year < -10000)
    (h : (x.year + 10000).natAbs ≤ (y.year + 10000).natAbs) : x.keyWidth ≤ y.keyWidth := by
  have hpos : 0 < (Nat.toDigits 10 (y.year + 10000).natAbs).length :=
    List.length_pos_of_ne_nil Nat.toDigits_ne_nil
  have hdigits : (Nat.toDigits 10 (x.year + 10000).natAbs).length ≤
      (Nat.toDigits 10 (y.year + 10000).natAbs).length :=
    (Nat.length_toDigits_le_iff (by decide) hpos).mpr
      (h.trans_lt ((Nat.length_toDigits_le_iff (by decide) hpos).mp le_rfl))
  simp only [keyWidth, hsign]
  omega

theorem IsProper.compare_sortKey_eq_lt_iff_of_before (hx : x.IsProper) (hy : y.IsProper)
    (h : x.year < y.year) (hy' : y.year < -10000) :
    compare x.sortKey y.sortKey = .lt ↔ x.fraction < y.fraction := by
  have hwidth : y.keyWidth ≤ x.keyWidth := keyWidth_mono (by omega) (by omega)
  rw [compare_sortKey_of_sign (by omega), hx.compare_keyDigits_eq_lt_iff hy]
  exact or_iff_left fun hlt => Nat.not_lt.mpr hwidth hlt.2

theorem IsProper.compare_sortKey_eq_lt_iff_of_from (hx : x.IsProper) (hy : y.IsProper)
    (h : x.year < y.year) (hx' : -10000 ≤ x.year) :
    compare x.sortKey y.sortKey = .lt ↔ x.fraction ≤ y.fraction := by
  have hwidth : x.fraction = y.fraction → x.keyWidth < y.keyWidth := by
    intro hfraction
    refine (keyWidth_mono (by omega) (by omega)).lt_of_ne fun hsame => ?_
    have hlt : compare x.keyDigits y.keyDigits = .lt := by
      rw [hx.compare_keyDigits hy hsame, compare_lt_iff_lt.mpr (by omega)]
      rfl
    rcases (hx.compare_keyDigits_eq_lt_iff hy).mp hlt with hlt | ⟨-, hlt⟩
    · exact hlt.ne hfraction
    · exact hlt.ne hsame
  rw [compare_sortKey_of_sign (by omega), hx.compare_keyDigits_eq_lt_iff hy, le_iff_lt_or_eq]
  exact or_congr_right (and_iff_left_of_imp hwidth)

theorem IsProper.compare_sortKey_eq_lt_iff (hx : x.IsProper) (hy : y.IsProper) (h : x.year < y.year) :
    compare x.sortKey y.sortKey = .lt ↔ x.KeyPrecedes y := by
  rw [KeyPrecedes]
  by_cases hy' : y.year < -10000
  · rw [hx.compare_sortKey_eq_lt_iff_of_before hy h hy']
    refine ⟨fun hlt => .inr (.inr ⟨hy', hlt⟩), ?_⟩
    rintro (⟨-, hfrom⟩ | ⟨hfrom, -⟩ | ⟨-, hlt⟩)
    · omega
    · omega
    · exact hlt
  by_cases hx' : x.year < -10000
  · exact iff_of_true (compare_sortKey_of_signs hx' hy') (.inl ⟨hx', by omega⟩)
  · rw [hx.compare_sortKey_eq_lt_iff_of_from hy h (by omega)]
    refine ⟨fun hle => .inr (.inl ⟨by omega, hle⟩), ?_⟩
    rintro (⟨hbefore, -⟩ | ⟨-, hle⟩ | ⟨hbefore, -⟩)
    · omega
    · exact hle
    · omega

def KeysAgree (x y : DateParts) : Prop :=
  (x.year < y.year → x.KeyPrecedes y) ∧ (y.year < x.year → y.KeyPrecedes x)

theorem IsProper.compare_sortKey_eq_compareDates_iff (hx : x.IsProper) (hy : y.IsProper) :
    compare x.sortKey y.sortKey = x.compareDates y ↔ x.KeysAgree y := by
  rcases lt_trichotomy x.year y.year with h | h | h
  · have hdates : x.compareDates y = .lt := by
      rw [compareDates, compare_lt_iff_lt.mpr h]
      rfl
    rw [hdates, hx.compare_sortKey_eq_lt_iff hy h, KeysAgree]
    exact ⟨fun hkeys => ⟨fun _ => hkeys, fun h' => absurd h' h.not_gt⟩, fun hkeys => hkeys.1 h⟩
  · exact iff_of_true (hx.compare_sortKey_of_year hy h)
      ⟨fun h' => absurd h h'.ne, fun h' => absurd h h'.ne'⟩
  · have hdates : x.compareDates y = .gt := by
      rw [compareDates, compare_gt_iff_gt.mpr h]
      rfl
    rw [hdates, Std.OrientedCmp.gt_iff_lt, hy.compare_sortKey_eq_lt_iff hx h, KeysAgree]
    exact ⟨fun hkeys => ⟨fun h' => absurd h' h.not_gt, fun _ => hkeys⟩, fun hkeys => hkeys.2 h⟩

end DateParts

namespace DateRange

variable {a b : DateRange}

theorem isProper_of_parse? {value : String} (h : parse? value = some a) :
    a.start.IsProper ∧ ∀ d ∈ a.stop, d.IsProper := by
  obtain ⟨found, rest, hfound, -, rfl⟩ := parse?_eq_some h
  obtain ⟨t, -, hrange⟩ := exists_of_range? hfound
  exact hrange.isProper

def compareStops (f : DateParts → DateParts → Ordering) : Option DateParts → Option DateParts → Ordering
  | none, none => .eq
  | none, some _ => .lt
  | some _, none => .gt
  | some x, some y => f x y

def compareDates (a b : DateRange) : Ordering :=
  (a.start.compareDates b.start).then (compareStops DateParts.compareDates a.stop b.stop)

def stopKey (a : DateRange) : List Char := a.stop.elim [] fun stop => '-' :: stop.sortKey.toList

theorem toList_sortKey (a : DateRange) : a.sortKey.toList = a.start.sortKey.toList ++ a.stopKey := by
  rw [sortKey, stopKey]
  cases a.stop with
  | none => exact (List.append_nil _).symm
  | some stop => simp

theorem compare_stopKey (a b : DateRange) : compare a.stopKey b.stopKey =
    compareStops (fun x y => compare x.sortKey y.sortKey) a.stop b.stop := by
  rw [stopKey, stopKey]
  cases a.stop <;> cases b.stop
  · rfl
  · rfl
  · rfl
  · rw [compareStops, Text.compare_toList, Option.elim_some, Option.elim_some, List.compare_cons_cons,
      compare_eq_iff_eq.mpr (rfl : '-' = '-'), Ordering.eq_then]

theorem compare_sortKey (a b : DateRange) : compare a.sortKey b.sortKey =
    (compare a.start.sortKey b.start.sortKey).then
      (compareStops (fun x y => compare x.sortKey y.sortKey) a.stop b.stop) := by
  have hhyphen (a : DateRange) : ∀ c ∈ a.stopKey.head?, c = '-' := by
    rw [stopKey]
    cases a.stop with
    | none => exact nofun
    | some stop => exact fun c hc => (Option.some.inj hc).symm
  obtain ⟨c, cs, hcs, hdigits⟩ := a.start.exists_sortKey_cons
  obtain ⟨d, ds, hds, hdigits'⟩ := b.start.exists_sortKey_cons
  rw [Text.compare_toList, toList_sortKey, toList_sortKey, Text.compare_toList, hcs, hds,
    List.cons_append, List.cons_append, List.compare_cons_cons, List.compare_cons_cons,
    Text.compare_append_of_hyphen hdigits hdigits' (hhyphen a) (hhyphen b), compare_stopKey,
    Ordering.then_assoc]

theorem then_of_ne_eq {o : Ordering} (h : o ≠ .eq) (o' : Ordering) : o.then o' = o := by
  cases o
  · rfl
  · exact absurd rfl h
  · rfl

theorem compare_sortKey_of_inFiveDigits {v w : String} (ha : parse? v = some a) (hb : parse? w = some b)
    (hstart : a.start.InFiveDigits ∧ b.start.InFiveDigits)
    (hstop : (∀ x ∈ a.stop, x.InFiveDigits) ∧ ∀ y ∈ b.stop, y.InFiveDigits) :
    compare a.sortKey b.sortKey = a.compareDates b := by
  obtain ⟨hastart, hastop⟩ := isProper_of_parse? ha
  obtain ⟨hbstart, hbstop⟩ := isProper_of_parse? hb
  rw [compare_sortKey, compareDates, hastart.compare_sortKey_of_inFiveDigits hbstart hstart.1 hstart.2]
  congr 1
  cases hs : a.stop <;> cases hs' : b.stop
  · rfl
  · rfl
  · rfl
  · exact (hastop _ hs).compare_sortKey_of_inFiveDigits (hbstop _ hs') (hstop.1 _ hs) (hstop.2 _ hs')

/-- Texts of dates are in the order of the dates just when those of their starts are or, of dates
with one start, those of their ends. -/
theorem compare_sortKey_eq_iff {v w : String} (ha : parse? v = some a) (hb : parse? w = some b) :
    compare a.sortKey b.sortKey = a.compareDates b ↔
      a.start.KeysAgree b.start ∧
        (a.start = b.start → ∀ x ∈ a.stop, ∀ y ∈ b.stop, x.KeysAgree y) := by
  obtain ⟨hastart, hastop⟩ := isProper_of_parse? ha
  obtain ⟨hbstart, hbstop⟩ := isProper_of_parse? hb
  rw [compare_sortKey, compareDates]
  by_cases hstart : a.start = b.start
  · have hkeys : compare a.start.sortKey b.start.sortKey = .eq := compare_eq_iff_eq.mpr (by rw [hstart])
    have hdates := (DateParts.compareDates_eq_eq_iff hastart hbstart).mpr hstart
    rw [← hastart.compare_sortKey_eq_compareDates_iff hbstart, hkeys, hdates, Ordering.eq_then,
      Ordering.eq_then, and_iff_right rfl, forall_prop_of_true hstart]
    cases hs : a.stop <;> cases hs' : b.stop
    · exact iff_of_true rfl nofun
    · exact iff_of_true rfl nofun
    · exact iff_of_true rfl (fun _ _ => nofun)
    · simp only [compareStops, Option.mem_some, forall_eq']
      exact (hastop _ hs).compare_sortKey_eq_compareDates_iff (hbstop _ hs')
  · have hkeys : compare a.start.sortKey b.start.sortKey ≠ .eq := fun h =>
      hstart (hastart.sortKey_inj hbstart (compare_eq_iff_eq.mp h))
    have hdates : a.start.compareDates b.start ≠ .eq := fun h =>
      hstart ((DateParts.compareDates_eq_eq_iff hastart hbstart).mp h)
    rw [then_of_ne_eq hkeys, then_of_ne_eq hdates, hastart.compare_sortKey_eq_compareDates_iff hbstart]
    exact (and_iff_left fun h => absurd h hstart).symm

theorem compare_sortKey_eq_of_early :
    let a : DateRange := { start := { year := -20001 } }
    let b : DateRange := { start := { year := -19000 }, stop := some { year := 2020 },
                           uncertain := true }
    parse? "-20001" = some a ∧ parse? "-19000~/2020" = some b ∧
      compare a.sortKey b.sortKey = a.compareDates b := by
  intro a b
  have ha : parse? "-20001" = some a := rfl
  have hb : parse? "-19000~/2020" = some b := rfl
  refine ⟨ha, hb, (compare_sortKey_eq_iff ha hb).mpr ⟨⟨fun _ => ?_, ?_⟩, ?_⟩⟩
  · exact .inr (.inr ⟨by decide, by decide⟩)
  · exact fun hyear => absurd hyear (by decide)
  · exact fun hstart => absurd hstart (by decide)

theorem compare_sortKey_differs :
    ¬∀ (v w : String) (a b : DateRange), parse? v = some a → parse? w = some b →
      compare a.sortKey b.sortKey = a.compareDates b := by
  intro h
  have horder := h "2020" "100000" { start := { year := 2020 } } { start := { year := 100000 } } rfl rfl
  exact absurd horder (by decide)

end DateRange

end Citeproc
