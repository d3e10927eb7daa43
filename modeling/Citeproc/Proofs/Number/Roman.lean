import Citeproc.Number.Roman
import Mathlib.Tactic.IntervalCases

namespace Citeproc.Roman

def digit (one four five nine : String) : Nat → String
  | 1 => one
  | 2 => one ++ one
  | 3 => one ++ (one ++ one)
  | 4 => four
  | 5 => five
  | 6 => five ++ one
  | 7 => five ++ (one ++ one)
  | 8 => five ++ (one ++ (one ++ one))
  | 9 => nine
  | _ => ""

def places (n : Nat) : String :=
  String.join (List.replicate (n / 1000) "m") ++ (digit "c" "cd" "d" "cm" (n / 100 % 10) ++
    (digit "x" "xl" "l" "xc" (n / 10 % 10) ++ digit "i" "iv" "v" "ix" (n % 10)))

theorem write_cons (n value : Nat) (numeral : String) (rest : List (Nat × String)) :
    write n ((value, numeral) :: rest) =
      String.join (List.replicate (n / value) numeral) ++ write (n % value) rest := rfl

theorem write_place (one four five nine : String) (rest : List (Nat × String)) (unit : Nat) {n : Nat}
    (hn : n / unit < 10) :
    write n ((unit * 9, nine) :: (unit * 5, five) :: (unit * 4, four) :: (unit, one) :: rest) =
      digit one four five nine (n / unit) ++ write (n % unit) rest := by
  -- Dividing by `unit * k` is dividing the digit `n / unit` by `k`.
  have hdiv (m k : Nat) : m / (unit * k) = m / unit / k := (Nat.div_div_eq_div_mul m unit k).symm
  have hmodDiv (m k : Nat) : m % (unit * k) / unit = m / unit % k := Nat.mod_mul_right_div_self m unit k
  have hmod (m k : Nat) : m % (unit * k) % unit = m % unit := Nat.mod_mul_right_mod m unit k
  simp only [write_cons, hdiv, hmodDiv, hmod]
  rw [← String.append_assoc, ← String.append_assoc, ← String.append_assoc]
  congr 1
  generalize n / unit = d at hn
  interval_cases d <;> simp [digit, String.join, String.append_assoc]

theorem write_numerals (n : Nat) : write n numerals = places n := by
  have hhundreds : n % 1000 / 100 = n / 100 % 10 := by omega
  have htens : n % 100 / 10 = n / 10 % 10 := by omega
  have hones : n % 10 / 1 = n % 10 := by omega
  have hthousand : n % 1000 % 100 = n % 100 := by omega
  have hhundred : n % 100 % 10 = n % 10 := by omega
  rw [numerals, write_cons, write_place "c" "cd" "d" "cm" _ 100 (by omega),
    write_place "x" "xl" "l" "xc" _ 10 (by omega),
    write_place "i" "iv" "v" "ix" _ 1 (by omega), hhundreds, hthousand, htens, hhundred, hones]
  simp [write, places]

theorem mem_digit {one four five nine : String} {d : Nat} {c : Char}
    (h : c ∈ (digit one four five nine d).toList) :
    c ∈ one.toList ∨ c ∈ four.toList ∨ c ∈ five.toList ∨ c ∈ nine.toList := by
  unfold digit at h
  split at h
  case h_10 => simp at h
  all_goals grind [String.toList_append]

theorem zero_not_mem_places (n : Nat) : '0' ∉ (places n).toList := by
  have hthousands (k : Nat) : '0' ∉ (String.join (List.replicate k "m")).toList := by
    simp [String.toList_join]
  intro h
  simp only [places, String.toList_append, List.mem_append] at h
  rcases h with h | h | h | h
  · exact hthousands _ h
  · exact absurd (mem_digit h) (by decide)
  · exact absurd (mem_digit h) (by decide)
  · exact absurd (mem_digit h) (by decide)

end Citeproc.Roman
