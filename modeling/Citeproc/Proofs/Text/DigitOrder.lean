import Citeproc.Proofs.Text.Digits
import Mathlib.Data.String.Basic

namespace Citeproc.Text

theorem compare_eq_lt_iff (cs ds : List Char) : compare cs ds = .lt ↔ cs < ds := by
  induction cs generalizing ds with
  | nil =>
    cases ds with
    | nil => exact iff_of_false (fun h => nomatch h) (lt_irrefl _)
    | cons d ds => exact iff_of_true List.compare_nil_cons (List.nil_lt_cons d ds)
  | cons c cs ih =>
    cases ds with
    | nil => exact iff_of_false (fun h => nomatch h) (List.not_lt_nil _)
    | cons d ds =>
      rw [List.compare_cons_cons, Ordering.then_eq_lt, compare_lt_iff_lt, compare_eq_iff_eq, ih,
        List.cons_lt_cons_iff]

theorem compare_toList (s t : String) : compare s t = compare s.toList t.toList := by
  rcases lt_trichotomy s t with h | rfl | h
  · rw [compare_lt_iff_lt.mpr h, (compare_eq_lt_iff _ _).mpr (String.lt_iff_toList_lt.mp h)]
  · have hself : compare s.toList s.toList = .eq := Std.ReflCmp.compare_self
    rw [compare_eq_iff_eq.mpr rfl, hself]
  · rw [compare_gt_iff_gt.mpr h, Std.OrientedCmp.gt_iff_lt.mpr
      ((compare_eq_lt_iff _ _).mpr (String.lt_iff_toList_lt.mp h))]

section Lists

variable {cs ds cs' ds' : List Char}

theorem compare_append (h : cs.length = ds.length) (cs' ds' : List Char) :
    compare (cs ++ cs') (ds ++ ds') = (compare cs ds).then (compare cs' ds') := by
  induction cs generalizing ds with
  | nil =>
    obtain rfl := List.length_eq_zero_iff.mp h.symm
    rfl
  | cons c cs ih =>
    obtain ⟨d, ds, rfl⟩ := List.exists_cons_of_length_eq_add_one h.symm
    rw [List.cons_append, List.cons_append, List.compare_cons_cons, List.compare_cons_cons,
      ih (Nat.succ.inj h), Ordering.then_assoc]

theorem compare_append_of_hyphen (hcs : ∀ c ∈ cs, c.isDigit = true) (hds : ∀ c ∈ ds, c.isDigit = true)
    (hcs' : ∀ c ∈ cs'.head?, c = '-') (hds' : ∀ c ∈ ds'.head?, c = '-') :
    compare (cs ++ cs') (ds ++ ds') = (compare cs ds).then (compare cs' ds') := by
  have hhyphen {c : Char} : c.isDigit = true → compare '-' c = .lt :=
    of_isDigit (compare '-' · = .lt) (by decide)
  induction cs generalizing ds with
  | nil =>
    cases ds with
    | nil => rfl
    | cons d ds =>
      cases cs' with
      | nil => rfl
      | cons c cs' =>
        obtain rfl : c = '-' := hcs' c rfl
        rw [List.nil_append, List.cons_append, List.compare_cons_cons,
          hhyphen (hds d List.mem_cons_self)]
        rfl
  | cons c cs ih =>
    cases ds with
    | nil =>
      cases ds' with
      | nil => rfl
      | cons d ds' =>
        obtain rfl : d = '-' := hds' d rfl
        rw [List.nil_append, List.cons_append, List.compare_cons_cons,
          Std.OrientedCmp.gt_of_lt (hhyphen (hcs c List.mem_cons_self))]
        rfl
    | cons d ds =>
      rw [List.cons_append, List.cons_append, List.compare_cons_cons, List.compare_cons_cons,
        ih (List.forall_mem_cons.mp hcs).2 (List.forall_mem_cons.mp hds).2, Ordering.then_assoc]

def decimals (k : Nat) (cs : List Char) : Nat := Nat.ofDigitChars 10 cs 0 * 10 ^ (k - cs.length)

theorem decimals_cons {k : Nat} (hk : cs.length ≤ k) (c : Char) :
    decimals (k + 1) (c :: cs) = 10 ^ k * (c.toNat - '0'.toNat) + decimals k cs := by
  rw [decimals, Nat.ofDigitChars_cons, Nat.ofDigitChars_eq_ofDigitChars_zero, Nat.mul_zero, Nat.zero_add,
    List.length_cons, Nat.add_sub_add_right, Nat.add_mul, decimals, Nat.mul_right_comm, ← Nat.pow_add,
    Nat.add_sub_cancel' hk]

theorem decimals_lt {k : Nat} (h : ∀ c ∈ cs, c.isDigit = true) (hk : cs.length ≤ k) :
    decimals k cs < 10 ^ k := by
  have hpow : 10 ^ k = 10 ^ cs.length * 10 ^ (k - cs.length) := by
    rw [← Nat.pow_add, Nat.add_sub_cancel' hk]
  rw [decimals, hpow]
  exact Nat.mul_lt_mul_of_pos_right (ofDigitChars_lt h) (Nat.pow_pos (by decide))

theorem compare_add_mul {b q q' r r' : Nat} (hr : r < b) (hr' : r' < b) :
    compare (b * q + r) (b * q' + r') = (compare q q').then (compare r r') := by
  rcases lt_trichotomy q q' with h | rfl | h
  · have hle : b * (q + 1) ≤ b * q' := Nat.mul_le_mul_left b h
    rw [Nat.mul_add, Nat.mul_one] at hle
    rw [compare_lt_iff_lt.mpr h, compare_lt_iff_lt.mpr (by omega)]
    rfl
  · rw [compare_eq_iff_eq.mpr (rfl : q = q), Ordering.eq_then]
    simp only [Nat.compare_eq_ite_lt, Nat.add_lt_add_iff_left]
  · have hle : b * (q' + 1) ≤ b * q := Nat.mul_le_mul_left b h
    rw [Nat.mul_add, Nat.mul_one] at hle
    rw [compare_gt_iff_gt.mpr h, compare_gt_iff_gt.mpr (by omega)]
    rfl

theorem compare_digit {c d : Char} (hc : c.isDigit = true) (hd : d.isDigit = true) :
    compare c d = compare (c.toNat - '0'.toNat) (d.toNat - '0'.toNat) := by
  obtain ⟨m, hm, rfl⟩ := exists_digitChar hc
  obtain ⟨n, hn, rfl⟩ := exists_digitChar hd
  have hdigits : ∀ m < 10, ∀ n < 10, compare (Nat.digitChar m) (Nat.digitChar n) =
      compare ((Nat.digitChar m).toNat - '0'.toNat) ((Nat.digitChar n).toNat - '0'.toNat) := by decide
  exact hdigits m hm n hn

theorem compare_digits {k : Nat} (hcs : ∀ c ∈ cs, c.isDigit = true) (hds : ∀ c ∈ ds, c.isDigit = true)
    (hk : cs.length ≤ k) (hk' : ds.length ≤ k) :
    compare cs ds =
      (compare (decimals k cs) (decimals k ds)).then (compare cs.length ds.length) := by
  have hnil (k : Nat) : decimals k [] = 0 := Nat.zero_mul _
  induction cs generalizing ds k with
  | nil =>
    cases ds with
    | nil => rw [compare_eq_iff_eq.mpr (rfl : decimals k [] = decimals k [])]; rfl
    | cons d ds =>
      rw [List.compare_nil_cons, hnil]
      symm
      rw [Ordering.then_eq_lt, compare_lt_iff_lt, compare_eq_iff_eq, compare_lt_iff_lt, List.length_cons]
      rcases Nat.eq_zero_or_pos (decimals k (d :: ds)) with h | h
      · exact .inr ⟨h.symm, Nat.succ_pos _⟩
      · exact .inl h
  | cons c cs ih =>
    cases ds with
    | nil =>
      rw [List.compare_cons_nil, hnil]
      symm
      rw [Ordering.then_eq_gt, compare_gt_iff_gt, compare_eq_iff_eq, compare_gt_iff_gt, List.length_cons]
      rcases Nat.eq_zero_or_pos (decimals k (c :: cs)) with h | h
      · exact .inr ⟨h, Nat.succ_pos _⟩
      · exact .inl h
    | cons d ds =>
      obtain ⟨k, rfl⟩ := Nat.exists_eq_succ_of_ne_zero (Nat.ne_zero_of_lt hk)
      obtain ⟨hc, hcs⟩ := List.forall_mem_cons.mp hcs
      obtain ⟨hd, hds⟩ := List.forall_mem_cons.mp hds
      replace hk := Nat.le_of_succ_le_succ hk
      replace hk' := Nat.le_of_succ_le_succ hk'
      -- The first digits decide unless they agree, since what is behind them is less than one in
      -- their place.
      rw [List.compare_cons_cons, compare_digit hc hd, ih hcs hds hk hk', decimals_cons hk,
        decimals_cons hk', compare_add_mul (decimals_lt hcs hk) (decimals_lt hds hk'),
        Ordering.then_assoc, List.length_cons, List.length_cons]
      simp only [Nat.compare_eq_ite_lt, Nat.add_lt_add_iff_right]

end Lists

end Citeproc.Text
