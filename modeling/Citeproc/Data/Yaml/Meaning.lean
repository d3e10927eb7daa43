import Citeproc.Data.Yaml.Node
import Citeproc.Text.Numeral

namespace Citeproc.Data.Yaml

def isNullWord (s : String) : Bool := ["~", "null", "Null", "NULL"].contains s

def truth? (s : String) : Option Bool :=
  if ["true", "True", "TRUE"].contains s then some true
  else if ["false", "False", "FALSE"].contains s then some false
  else none

def isSign (c : Char) : Bool := c == '+' || c == '-'

def isPadded (cs : List Char) : Bool :=
  let digits := if cs.head?.any isSign then cs.drop 1 else cs
  digits.head? == some '0' && 1 < digits.length && digits.all Char.isDigit

def based? (base : Nat) (cs : List Char) : Option Nat := do
  if cs.isEmpty then none
  cs.foldlM (fun n c => do
    let digit ← hexDigit? c
    if digit < base then some (base * n + digit) else none) 0

def magnitude? : List Char → Option Nat
  | '0' :: 'x' :: cs => based? 16 cs
  | '0' :: 'o' :: cs => based? 8 cs
  | '0' :: 'b' :: cs => based? 2 cs
  | cs => based? 10 cs

def maxDoubleWord : Nat := 0xffffffffffffffffffffffffffffffff

inductive Whole
  | natural (n : Nat)
  | negative
  | tooGreat
  deriving Repr, DecidableEq

def whole? (cs : List Char) : Option Whole :=
  if isPadded cs then none
  else
    match cs with
    | '-' :: cs => do
      let n ← magnitude? cs
      if n ≤ Text.maxInteger + 1 then some .negative
      else if n ≤ maxDoubleWord / 2 + 1 then some .tooGreat
      else none
    | cs => do
      let n ← magnitude? (if cs.head? == some '+' then cs.drop 1 else cs)
      if n ≤ Text.maxWord then some (.natural n)
      else if n ≤ maxDoubleWord then some .tooGreat
      else none

structure Fraction where
  digits : List Char
  exponent : Int

def exponent? : List Char → Option Int
  | [] => some 0
  | c :: cs =>
    let digits := if cs.head?.any isSign then cs.drop 1 else cs
    if c == 'e' || c == 'E' then
      (Text.decimal? digits).map fun n => if cs.head? == some '-' then -(n : Int) else n
    else none

def Fraction.parse? (cs : List Char) : Option Fraction := do
  let digits := cs.takeWhile Char.isDigit
  let rest := cs.dropWhile Char.isDigit
  let after := if rest.head? == some '.' then rest.drop 1 else []
  let places := after.takeWhile Char.isDigit
  let rest := if rest.head? == some '.' then after.dropWhile Char.isDigit else rest
  if digits.isEmpty && places.isEmpty then none
  pure { digits := digits ++ places, exponent := (← exponent? rest) - places.length }

def infinityBound : Nat := (Nat.pow 2 54 - 1) * Nat.pow 2 970

def Fraction.isFinite (f : Fraction) : Bool :=
  let n := f.digits.foldl (fun n c => 10 * n + Text.digitValue c) 0
  if n == 0 then true
  else if 0 ≤ f.exponent then f.exponent ≤ 400 && n * Nat.pow 10 f.exponent.toNat < infinityBound
  else
    let places := f.exponent.natAbs
    f.digits.length ≤ places || n < infinityBound * Nat.pow 10 places

def isFraction (s : String) : Bool :=
  let cs := s.toList
  let bare := if cs.head?.any isSign then cs.drop 1 else cs
  [".inf", ".Inf", ".INF"].contains (String.ofList bare) || [".nan", ".NaN", ".NAN"].contains s ||
    (Fraction.parse? bare).any (·.isFinite)

inductive Meaning
  | text (s : String)
  | index (n : Nat)
  | other
  deriving Repr, DecidableEq, Inhabited

def Whole.meaning? : Whole → Option Meaning
  | .natural n => some (.index n)
  | .negative => some .other
  | .tooGreat => none

def plainMeaning? (s : String) : Option Meaning :=
  if s.isEmpty || isNullWord s || (truth? s).isSome then some .other
  else
    match whole? s.toList with
    | some n => n.meaning?
    | none => some (if !isPadded s.toList && isFraction s then .other else .text s)

def scalarMeaning? (tag? : Option Tag) (style : Style) (s : String) : Option Meaning :=
  let untagged := if style == .plain then plainMeaning? s else some (.text s)
  let otherIf (p : Bool) : Option Meaning := if p then some .other else none
  match tag? with
  | none => untagged
  | some (.own none) => untagged
  | some (.own (some _)) => none
  | some .null => otherIf (isNullWord s)
  | some .bool => otherIf (truth? s).isSome
  | some .int => (whole? s.toList).bind Whole.meaning?
  | some .float => otherIf (isFraction s)
  | some .other => some (.text s)

end Citeproc.Data.Yaml
