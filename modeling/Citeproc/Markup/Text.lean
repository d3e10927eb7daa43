import Citeproc.Markup.Token

namespace Citeproc.Markup

def digitsValue (base : Nat) (digits : List Char) : Option Nat :=
  if digits.isEmpty then none
  else
    let value (c : Char) : Nat :=
      if c.isDigit then c.toNat - '0'.toNat else c.toLower.toNat - 'a'.toNat + 10
    let n := digits.foldl (fun n c => n * base + value c) 0
    if n < 0x100000000 then some n else none

def isHexDigit (c : Char) : Bool :=
  c.isDigit || ('a' ≤ c.toLower && c.toLower ≤ 'f')

def referenced (n : Nat) : Char := if n.isValidChar then Char.ofNat n else '\ufffd'

def namedReference (name : String) : Option Char :=
  match name with
  | "quot" => some '"'
  | "amp" => some '&'
  | "apos" => some '\''
  | "lt" => some '<'
  | "gt" => some '>'
  | _ => none

def scanReference (cs : List Char) : Except Malformed (Char × List Char) := do
  let (found, rest) ←
    match cs with
    | '#' :: 'x' :: cs => pure (numbered 16 (cs.takeWhile isHexDigit), cs.dropWhile isHexDigit)
    | '#' :: cs => pure (numbered 10 (cs.takeWhile Char.isDigit), cs.dropWhile Char.isDigit)
    | cs => do
      let (name, rest) ← scanName cs
      pure (namedReference name, rest)
  match found, rest with
  | some c, ';' :: rest => pure (c, rest)
  | _, _ => throw .badReference
where
  numbered (base : Nat) (digits : List Char) : Option Char :=
    ((digitsValue base digits).map referenced).filter isDocumentChar

def pushLine (buffer : List Char) (c : Char) (last : Bool) : List Char :=
  let buffer' := if buffer.head? == some '\r' then '\n' :: buffer.drop 1 else buffer
  if last && c == '\r' then '\n' :: buffer'
  else if buffer.head? == some '\r' && c == '\n' then buffer'
  else c :: buffer'

def resolveTextFrom : Nat → List Char → Bool → List Char → Except Malformed (List Char)
  | _, buffer, _, [] => .ok buffer.reverse
  | 0, _, _, _ => .error .unexpectedEnd
  | fuel + 1, buffer, asIs, c :: cs =>
    if c == '&' then do
      let (found, rest) ← scanReference cs
      resolveTextFrom fuel (found :: buffer) true rest
    else if asIs then resolveTextFrom fuel (c :: buffer) false cs
    else resolveTextFrom fuel (pushLine buffer c cs.isEmpty) false cs

def resolveText (raw : List Char) : Except Malformed (List Char) :=
  resolveTextFrom raw.length [] false raw

def resolveVerbatim (raw : List Char) : List Char :=
  (go [] raw).reverse
where
  go (buffer : List Char) : List Char → List Char
    | [] => buffer
    | c :: cs => go (pushLine buffer c cs.isEmpty) cs

def resolveValueFrom : Nat → List Char → Except Malformed (List Char)
  | _, [] => .ok []
  | 0, _ => .error .unexpectedEnd
  | fuel + 1, c :: cs =>
    if c == '&' then do
      let (found, rest) ← scanReference cs
      (found :: ·) <$> resolveValueFrom fuel rest
    else if c == '\r' && cs.head? == some '\n' then resolveValueFrom fuel cs
    else if isSpace c then (' ' :: ·) <$> resolveValueFrom fuel cs
    else (c :: ·) <$> resolveValueFrom fuel cs

def resolveValue (raw : List Char) : Except Malformed String :=
  String.ofList <$> resolveValueFrom raw.length raw

end Citeproc.Markup
