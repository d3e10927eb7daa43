import Citeproc.Data.Value
import Citeproc.Decimal.Shortest
import Citeproc.Text.Numeral

namespace Citeproc.Data.Json

def isSpace (c : Char) : Bool := c == ' ' || c == '\t' || c == '\n' || c == '\r'

def skip (cs : List Char) : List Char := cs.dropWhile isSpace

def hexValue? (c : Char) : Option Nat :=
  if c.isDigit then some (c.toNat - '0'.toNat)
  else if 'a' ≤ c.toLower && c.toLower ≤ 'f' then some (c.toLower.toNat - 'a'.toNat + 10)
  else none

def hexUnit? : List Char → Option (Nat × List Char)
  | a :: b :: c :: d :: rest => do
    let digits ← [a, b, c, d].mapM hexValue?
    pure (digits.foldl (fun n d => 16 * n + d) 0, rest)
  | _ => none

def isHighSurrogate (n : Nat) : Bool := 0xd800 ≤ n && n ≤ 0xdbff

def isLowSurrogate (n : Nat) : Bool := 0xdc00 ≤ n && n ≤ 0xdfff

def escaped? (c : Char) : Option Char :=
  match c with
  | '"' => some '"'
  | '\\' => some '\\'
  | '/' => some '/'
  | 'b' => some '\x08'
  | 'f' => some '\x0c'
  | 'n' => some '\n'
  | 'r' => some '\r'
  | 't' => some '\t'
  | _ => none

def readText : Nat → List Char → Option (Option (List Char) × List Char)
  | fuel + 1, c :: cs =>
    if c == '"' then some (some [], cs)
    else if c == '\\' then
      match cs with
      | 'u' :: cs => do
        let (unit, rest) ← hexUnit? cs
        if isHighSurrogate unit then
          match rest with
          | '\\' :: 'u' :: after => do
            let (low, after) ← hexUnit? after
            if isLowSurrogate low then
              let code := 0x10000 + (unit - 0xd800) * 0x400 + (low - 0xdc00)
              let (text, rest) ← readText fuel after
              pure (text.map (Char.ofNat code :: ·), rest)
            else
              let (_, rest) ← readText fuel rest
              pure (none, rest)
          | _ =>
            let (_, rest) ← readText fuel rest
            pure (none, rest)
        else
          let (text, rest) ← readText fuel rest
          pure (if isLowSurrogate unit then none else text.map (Char.ofNat unit :: ·), rest)
      | c :: cs => do
        let c ← escaped? c
        let (text, rest) ← readText fuel cs
        pure (text.map (c :: ·), rest)
      | [] => none
    else if c.toNat < 0x20 then none
    else do
      let (text, rest) ← readText fuel cs
      pure (text.map (c :: ·), rest)
  | _, _ => none

/-- `f * 10 ^ e`, computed in steps that each round; `none` when it is too large. -/
def scaled (f : Float) (e : Int) : Option Float :=
  if e.natAbs ≤ 308 then
    let power := Float.ofScientific 1 false e.natAbs
    if 0 ≤ e then
      let g := f * power
      if g.isInf then none else some g
    else some (f / power)
  else if f == 0 then some f
  else if 0 ≤ e then none
  else scaled (f / Float.ofScientific 1 false 308) (e + 308)
termination_by e.natAbs
decreasing_by omega

structure Numeral where
  negative : Bool
  whole : List Char
  fraction : Option (List Char)
  exponent : Option (Bool × List Char)

def takeWord (n : Nat) : List Char → Nat × List Char
  | [] => (n, [])
  | c :: cs =>
    let next := 10 * n + Text.digitValue c
    if Text.maxWord < next then (n, c :: cs) else takeWord next cs

def Numeral.float (numeral : Numeral) : Option Float :=
  let (n, dropped) := takeWord 0 numeral.whole
  let fraction := numeral.fraction.getD []
  let (n, unread) := takeWord n fraction
  let shift := (dropped.length : Int) - (fraction.length - unread.length : Nat)
  let limit := 0x7fffffff
  let exponent :=
    match numeral.exponent with
    | none => some shift
    | some (down, digits) =>
      let e := digits.foldl (fun e c => min (10 * e + Text.digitValue c) (limit + 1)) 0
      if e ≤ limit then some (if down then shift - e else shift + e)
      else if n == 0 || down then none
      else some (limit + 1)
  let f := Float.ofNat n
  let magnitude :=
    match exponent with
    | none => some 0
    | some e => scaled f e
  magnitude.map fun f => if numeral.negative then -f else f

def Numeral.value (numeral : Numeral) : Value :=
  let n := numeral.whole.foldl (fun n c => 10 * n + Text.digitValue c) 0
  let whole := numeral.fraction.isNone && numeral.exponent.isNone
  if whole && !numeral.negative && n ≤ Text.maxWord then .number (.int n)
  else if whole && numeral.negative && 0 < n && n ≤ Text.maxInteger + 1 then .number (.int (-n))
  else
    match numeral.float with
    | some f => .number (.binary f.toBits)
    | none => .unfit

def readNumeral (cs : List Char) : Option (Numeral × List Char) := do
  let negative := cs.head? == some '-'
  let cs := if negative then cs.drop 1 else cs
  let whole := cs.takeWhile Char.isDigit
  let rest := cs.dropWhile Char.isDigit
  if whole.isEmpty || (whole.head? == some '0' && 1 < whole.length) then none
  let (fraction, rest) ←
    match rest with
    | '.' :: rest =>
      let digits := rest.takeWhile Char.isDigit
      if digits.isEmpty then none else some (some digits, rest.dropWhile Char.isDigit)
    | rest => some (none, rest)
  let (exponent, rest) ←
    match rest with
    | [] => some (none, [])
    | c :: after =>
      if c == 'e' || c == 'E' then
        let down := after.head? == some '-'
        let after := if down || after.head? == some '+' then after.drop 1 else after
        let digits := after.takeWhile Char.isDigit
        if digits.isEmpty then none else some (some (down, digits), after.dropWhile Char.isDigit)
      else some (none, c :: after)
  pure ({ negative, whole, fraction, exponent }, rest)

mutual

def readValue : Nat → List Char → Option (Value × List Char)
  | 0, _ => none
  | fuel + 1, cs =>
    match skip cs with
    | 'n' :: 'u' :: 'l' :: 'l' :: rest => some (.null, rest)
    | 't' :: 'r' :: 'u' :: 'e' :: rest => some (.bool true, rest)
    | 'f' :: 'a' :: 'l' :: 's' :: 'e' :: rest => some (.bool false, rest)
    | '"' :: rest => do
      let (text, rest) ← readText (rest.length + 1) rest
      pure (text.elim .unfit fun t => .text (String.ofList t), rest)
    | '[' :: rest =>
      match skip rest with
      | ']' :: rest => some (.list [], rest)
      | _ => do
        let (items, rest) ← readItems fuel rest
        pure (.list items, rest)
    | '{' :: rest =>
      match skip rest with
      | '}' :: rest => some (.object [], rest)
      | _ => do
        let (members, rest) ← readMembers fuel rest
        pure (members.elim .unfit .object, rest)
    | cs => do
      let (numeral, rest) ← readNumeral cs
      pure (numeral.value, rest)

def readItems : Nat → List Char → Option (List Value × List Char)
  | 0, _ => none
  | fuel + 1, cs => do
    let (v, rest) ← readValue fuel cs
    match skip rest with
    | ',' :: rest => do
      let (vs, rest) ← readItems fuel rest
      pure (v :: vs, rest)
    | ']' :: rest => pure ([v], rest)
    | _ => none

def readMembers : Nat → List Char → Option (Option (List (String × Value)) × List Char)
  | 0, _ => none
  | fuel + 1, cs =>
    match skip cs with
    | '"' :: rest => do
      let (name, rest) ← readText (rest.length + 1) rest
      match skip rest with
      | ':' :: rest => do
        let (v, rest) ← readValue fuel rest
        let own := name.map fun name => (String.ofList name, v)
        match skip rest with
        | ',' :: rest => do
          let (others, rest) ← readMembers fuel rest
          pure (do pure ((← own) :: (← others)), rest)
        | '}' :: rest => pure (own.map ([·]), rest)
        | _ => none
      | _ => none
    | _ => none

end

def parse? (source : String) : Option Value := do
  let cs := source.toList
  let (v, rest) ← readValue (cs.length + 1) cs
  if (skip rest).isEmpty then some v else none

def parseStrict? (source : String) : Option Value := (parse? source).filter (·.fits Value.maxDepth)

def fractions : Decimal.Layout :=
  { leastExponent := -5, greatestExponent := 15, exponentWidth := 2 }

def numberText : Number → String
  | .int n => toString n
  | .binary bits => Decimal.ofBits fractions bits

def escapedText (s : String) : String :=
  s.foldl (fun out c =>
    match c with
    | '"' => out ++ "\\\""
    | '\\' => out ++ "\\\\"
    | c =>
      if c.toNat < 0x20 then
        let digits := Nat.toDigits 16 c.toNat
        out ++ "\\u" ++ String.ofList (List.replicate (4 - digits.length) '0' ++ digits)
      else out.push c) ""

def quoted (s : String) : String := "\"" ++ escapedText s ++ "\""

mutual

def render : Value → String
  | .null => "null"
  | .unfit => "null"
  | .bool b => toString b
  | .number n => numberText n
  | .text s => quoted s
  | .list items => "[" ++ ",".intercalate (renderAll items) ++ "]"
  | .object members => "\x7b" ++ ",".intercalate (renderMembers members) ++ "\x7d"

def renderAll : List Value → List String
  | [] => []
  | v :: vs => render v :: renderAll vs

def renderMembers : List (String × Value) → List String
  | [] => []
  | (name, v) :: rest => (quoted name ++ ":" ++ render v) :: renderMembers rest

end

end Citeproc.Data.Json
