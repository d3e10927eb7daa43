/-!
The shortest decimal that stands for a binary number: of all decimals with the fewest digits that
round to it, the nearest.
-/

namespace Citeproc.Decimal

/-- A positive number `num / den` and the bounds between which a decimal rounds to it, all over the
same denominator. `closed` tells whether the bounds themselves do. -/
structure Target where
  num : Nat
  below : Nat
  above : Nat
  den : Nat
  closed : Bool

def hiddenBit : Nat := 0x10000000000000

def Target.ofBinary (m : Nat) (q : Int) (lowest : Bool) : Target :=
  let gap := if m == hiddenBit && !lowest then 1 else 2
  let up := Nat.pow 2 q.toNat
  { num := 4 * m * up, below := (4 * m - gap) * up, above := (4 * m + 2) * up
    den := 4 * Nat.pow 2 (-q).toNat, closed := m % 2 == 0 }

def leadingExponent (num den : Nat) : Int :=
  if den ≤ num then ((toString (num / den)).length : Int) - 1
  else -(search 400 1)
where
  search : Nat → Nat → Nat
    | 0, s => s
    | fuel + 1, s => if den ≤ num * Nat.pow 10 s then s else search fuel (s + 1)

def onGrid (t : Target) (k : Int) : Option Nat :=
  let up := Nat.pow 10 (-k).toNat
  let den := t.den * Nat.pow 10 k.toNat
  let low := t.num * up / den
  let fits (d : Nat) : Bool :=
    let v := d * den
    if t.closed then t.below * up ≤ v && v ≤ t.above * up
    else t.below * up < v && v < t.above * up
  let toLow := t.num * up - low * den
  let toHigh := (low + 1) * den - t.num * up
  let preferLow := toLow < toHigh || (toLow == toHigh && low % 2 == 0)
  let (first, second) := if preferLow then (low, low + 1) else (low + 1, low)
  if 0 < first && fits first then some first
  else if 0 < second && fits second then some second
  else none

def shortest (t : Target) : Nat × Int :=
  let e := leadingExponent t.num t.den
  (search 17 (e : Int)).getD (0, 0)
where
  search : Nat → Int → Option (Nat × Int)
    | 0, _ => none
    | fuel + 1, k =>
      match onGrid t k with
      | some d => some (d, k)
      | none => search fuel (k - 1)

structure Layout where
  leastExponent : Int
  greatestExponent : Int
  exponentWidth : Nat

def zeros (n : Nat) : List Char := List.replicate n '0'

def Layout.write (layout : Layout) (d : Nat) (k : Int) : String :=
  let digits := (toString d).toList
  let e := k + digits.length - 1
  let exponent := (toString e.natAbs).toList
  let pointed (n : Nat) : List Char := digits.take n ++ '.' :: digits.drop n
  String.ofList <|
    if layout.leastExponent ≤ e && e ≤ layout.greatestExponent then
      if 0 ≤ k then digits ++ zeros k.toNat ++ ['.', '0']
      else if 0 ≤ e then pointed (e + 1).toNat
      else '0' :: '.' :: zeros ((-e).toNat - 1) ++ digits
    else
      (if digits.length == 1 then digits else pointed 1) ++ 'e' :: (if e < 0 then '-' else '+') ::
        zeros (layout.exponentWidth - exponent.length) ++ exponent

def normalized : Nat → Nat → Int → Nat × Int
  | 0, d, k => (d, k)
  | fuel + 1, d, k => if d != 0 && d % 10 == 0 then normalized fuel (d / 10) (k + 1) else (d, k)

def ofBits (layout : Layout) (bits : UInt64) : String :=
  let n := bits.toNat
  let sign := if 0x8000000000000000 ≤ n then "-" else ""
  let exponent : Nat := n / hiddenBit % 2048
  let fraction : Nat := n % hiddenBit
  if exponent == 0 && fraction == 0 then sign ++ "0.0"
  else
    let (m, q) : Nat × Int :=
      if exponent == 0 then (fraction, -1074) else (hiddenBit + fraction, (exponent : Int) - 1075)
    let found := shortest (Target.ofBinary m q (exponent ≤ 1))
    let (d, k) := normalized 20 found.1 found.2
    sign ++ layout.write d k

end Citeproc.Decimal
