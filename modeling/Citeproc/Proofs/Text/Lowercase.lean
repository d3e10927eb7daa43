import Citeproc.Text.Case
import Mathlib.Data.List.Basic

namespace Citeproc.Text

theorem ShiftTable.apply_lowerShifts {c : Char} (h : 128 ≤ c.toNat) :
    128 ≤ (lowerShifts.apply c).toNat ∨ lowerShifts.apply c = 'k' ∨ lowerShifts.apply c = '\x00' := by
  have hrows : ∀ row ∈ lowerShifts, 128 ≤ (row.1 : Int) + row.2.2.2 ∨
      row = (0x212a, 0x212a, 1, -8383) := by decide +kernel
  rw [ShiftTable.apply]
  split
  · next first last step shift hrow =>
    obtain ⟨hmem, hfirst, hlast⟩ := searchRows_mem hrow
    split
    · rcases hrows _ hmem with hge | hkelvin
      · have hcode : 128 ≤ (c.toNat + shift).toNat := by
          dsimp only at hge hfirst
          omega
        by_cases hvalid : (c.toNat + shift).toNat.isValidChar
        · have hshifted : Char.ofNat (c.toNat + shift).toNat = Char.ofNatAux _ hvalid := dif_pos hvalid
          rw [hshifted]
          exact .inl hcode
        · exact .inr (.inr (dif_neg hvalid))
      · obtain ⟨rfl, rfl, -, rfl⟩ : first = 0x212a ∧ last = 0x212a ∧ step = 1 ∧ shift = -8383 := by
          simpa using hkelvin
        obtain hc : c.toNat = 0x212a := Nat.le_antisymm hlast hfirst
        rw [hc]
        exact .inr (.inl rfl)
    · exact .inl h
  · exact .inl h

def IsLowerForm (cs : List Char) : Prop :=
  cs = ['i', '\u0307'] ∨ ∃ d, cs = [d] ∧ (128 ≤ d.toNat ∨ d = 'k' ∨ d = '\x00')

theorem isLowerForm_lowerChars {c : Char} (h : 128 ≤ c.toNat) : IsLowerForm (lowerChars c) := by
  rw [lowerChars, if_neg (by omega)]
  cases hfind : lowerSpellings.find? c.toNat with
  | some spelling =>
    left
    obtain ⟨row, hmem, -, rfl⟩ := SpellingTable.exists_of_find? hfind
    obtain rfl : row = (0x130, [0x69, 0x307]) := by simpa [lowerSpellings] using hmem
    rfl
  | none => exact .inr ⟨_, rfl, ShiftTable.apply_lowerShifts h⟩

theorem exists_lowerFrom_cons {c : Char} (h : 128 ≤ c.toNat) (before cs : List Char) :
    ∃ lowered, lowerFrom before (c :: cs) = lowered ++ lowerFrom (c :: before) cs ∧
      IsLowerForm lowered := by
  refine ⟨_, rfl, ?_⟩
  split
  · split
    · exact .inr ⟨'ς', rfl, .inl (by decide)⟩
    · exact .inr ⟨'σ', rfl, .inl (by decide)⟩
  · exact isLowerForm_lowerChars h

theorem lowerFrom_cons_of_ascii {c : Char} (h : c.toNat < 128) (before cs : List Char) :
    lowerFrom before (c :: cs) = c.toLower :: lowerFrom (c :: before) cs := by
  have hsigma : (c == 'Σ') = false := by
    rw [beq_eq_false_iff_ne]
    rintro rfl
    exact absurd h (by decide)
  rw [lowerFrom, hsigma, if_neg Bool.false_ne_true, lowerChars, if_pos h, List.singleton_append]

theorem ascii_of_toLower {c : Char} (h : c.toLower.toNat < 128) : c.toNat < 128 := by
  by_cases hletter : c.val ≥ 'A'.val ∧ c.val ≤ 'Z'.val
  · exact Nat.lt_of_le_of_lt (UInt32.le_iff_toNat_le.mp hletter.2) (by decide)
  · have hself : c.toLower = c := dif_neg hletter
    rwa [hself] at h

theorem exists_lowerFrom_append (before front cs : List Char) :
    ∃ lowered, lowerFrom before (front ++ cs) = lowered ++ lowerFrom (front.reverse ++ before) cs := by
  induction front generalizing before with
  | nil => exact ⟨[], rfl⟩
  | cons c front ih =>
    obtain ⟨lowered, hlowered⟩ := ih (c :: before)
    rw [List.cons_append, lowerFrom, hlowered, List.reverse_cons, List.append_assoc front.reverse,
      List.singleton_append, ← List.append_assoc]
    exact ⟨_, rfl⟩

theorem mem_lowerFrom_iff {d : Char} (hpos : 0 < d.toNat) (hascii : d.toNat < 128) (hi : d ≠ 'i')
    (hk : d ≠ 'k') (before cs : List Char) : d ∈ lowerFrom before cs ↔ ∃ c ∈ cs, c.toLower = d := by
  induction cs generalizing before with
  | nil => simp [lowerFrom]
  | cons c cs ih =>
    by_cases hc : c.toNat < 128
    · simp [lowerFrom_cons_of_ascii hc, ih, eq_comm]
    · obtain ⟨lowered, hlowered, hform⟩ := exists_lowerFrom_cons (Nat.not_lt.mp hc) before cs
      have hfar : d ∉ lowered := by
        obtain rfl | ⟨e, rfl, he⟩ := hform
        · have haccent : d ≠ '\u0307' := by
            rintro rfl
            exact absurd hascii (by decide)
          simp [hi, haccent]
        · rw [List.mem_singleton]
          rintro rfl
          obtain he | rfl | rfl := he
          · omega
          · exact hk rfl
          · exact absurd hpos (by decide)
      have hother : c.toLower ≠ d := by
        rintro rfl
        exact hc (ascii_of_toLower hascii)
      simp [hlowered, ih, hfar, hother]

theorem eq_or_eq_of_toLower (c : Char) : c = c.toLower ∨ c = c.toLower.toUpper := by
  by_cases hletter : c.val ≥ 'A'.val ∧ c.val ≤ 'Z'.val
  · have hcodes : ∀ n < 128, Char.ofNat n = (Char.ofNat n).toLower ∨
        Char.ofNat n = (Char.ofNat n).toLower.toUpper := by
      decide
    have hascii : c.toNat < 128 :=
      Nat.lt_of_le_of_lt (UInt32.le_iff_toNat_le.mp hletter.2) (by decide)
    have hcase := hcodes c.toNat hascii
    rwa [Char.ofNat_toNat] at hcase
  · have hself : c.toLower = c := dif_neg hletter
    exact .inl hself.symm

structure IsPlainWord (word : List Char) : Prop where
  ascii : ∀ c ∈ word, 0 < c.toNat ∧ c.toNat < 128 ∧ c ≠ 'k'
  getLast? : word.getLast? ≠ some 'i'

theorem IsPlainWord.tail {c : Char} {word : List Char} (h : IsPlainWord (c :: word)) :
    IsPlainWord word := by
  refine ⟨fun d hd => h.ascii d (List.mem_cons_of_mem _ hd), ?_⟩
  cases word with
  | nil => simp
  | cons d word => exact List.getLast?_cons_cons ▸ h.getLast?

theorem IsPlainWord.not_begins {word lowered : List Char} (h : IsPlainWord word) (hne : word ≠ [])
    (hlowered : IsLowerForm lowered) (cs : List Char) : ¬word <+: lowered ++ cs := by
  intro hbegins
  obtain ⟨c, word, rfl⟩ := List.exists_cons_of_ne_nil hne
  obtain ⟨hpos, hascii, hkelvin⟩ := h.ascii c List.mem_cons_self
  obtain rfl | ⟨d, rfl, hd⟩ := hlowered
  · obtain ⟨rfl, htail⟩ := List.cons_prefix_cons.mp hbegins
    cases word with
    | nil => exact h.getLast? rfl
    | cons d word =>
      obtain ⟨rfl, -⟩ : d = '\u0307' ∧ word <+: cs := List.cons_prefix_cons.mp htail
      exact absurd (h.ascii '\u0307' (by simp)).2.1 (by decide)
  · obtain ⟨rfl, -⟩ := List.cons_prefix_cons.mp hbegins
    rcases hd with hd | rfl | rfl
    · omega
    · exact hkelvin rfl
    · exact absurd hpos (by decide)

theorem IsPlainWord.prefix_lowerFrom_iff {word : List Char} (h : IsPlainWord word)
    (before cs : List Char) : word <+: lowerFrom before cs ↔
      ∃ front rest, cs = front ++ rest ∧ front.map Char.toLower = word := by
  induction word generalizing before cs with
  | nil => exact iff_of_true List.nil_prefix ⟨[], cs, rfl, rfl⟩
  | cons w word ih =>
    cases cs with
    | nil => simp [lowerFrom]
    | cons c cs =>
      by_cases hc : c.toNat < 128
      · rw [lowerFrom_cons_of_ascii hc, List.cons_prefix_cons, ih h.tail]
        constructor
        · rintro ⟨rfl, front, rest, rfl, rfl⟩
          exact ⟨c :: front, rest, rfl, rfl⟩
        · rintro ⟨front, rest, hcs, hfront⟩
          cases front with
          | nil => cases hfront
          | cons d front =>
            obtain ⟨rfl, rfl⟩ := List.cons_eq_cons.mp hcs
            obtain ⟨rfl, rfl⟩ := List.cons_eq_cons.mp hfront
            exact ⟨rfl, front, rest, rfl, rfl⟩
      · -- Such a character is no letter of the word, so neither side holds.
        obtain ⟨lowered, hlowered, hform⟩ := exists_lowerFrom_cons (Nat.not_lt.mp hc) before cs
        rw [hlowered]
        refine iff_of_false (h.not_begins (List.cons_ne_nil _ _) hform _) ?_
        rintro ⟨front, rest, hcs, hfront⟩
        cases front with
        | nil => cases hfront
        | cons d front =>
          obtain ⟨rfl, rfl⟩ := List.cons_eq_cons.mp hcs
          obtain ⟨rfl, rfl⟩ := List.cons_eq_cons.mp hfront
          exact hc (ascii_of_toLower (h.ascii c.toLower List.mem_cons_self).2.1)

theorem IsPlainWord.infix_lower {word w : List Char} (h : IsPlainWord word)
    (hw : w.map Char.toLower = word) (front rest : List Char) :
    word <:+: lower (front ++ (w ++ rest)) := by
  obtain ⟨lowered, hlowered⟩ := exists_lowerFrom_append [] front (w ++ rest)
  have hbegins := (h.prefix_lowerFrom_iff (front.reverse ++ []) (w ++ rest)).mpr ⟨w, rest, rfl, hw⟩
  rw [lower, hlowered]
  exact hbegins.isInfix.trans (List.suffix_append _ _).isInfix

end Citeproc.Text
