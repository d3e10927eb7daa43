import Citeproc.Data.Yaml.Scalar

namespace Citeproc.Data.Yaml

def isNameChar (c : Char) : Bool := c.isAlphanum || c == '_' || c == '-'

def readName (cs : List Char) : String × List Char :=
  (String.ofList (cs.takeWhile isNameChar), cs.dropWhile isNameChar)

abbrev Octets := List UInt8

def octetsOf (s : String) : Octets := s.toUTF8.toList

def octetCount? (first : Nat) : Option Nat :=
  if first < 0x80 then some 1
  else if first < 0xc0 then none
  else if first < 0xe0 then some 2
  else if first < 0xf0 then some 3
  else if first < 0xf8 then some 4
  else none

def readOctet? : List Char → Option (Nat × List Char)
  | '%' :: a :: b :: cs => do pure (16 * (← hexDigit? a) + (← hexDigit? b), cs)
  | _ => none

def readFollowing : Nat → List Char → Option (Octets × List Char)
  | 0, cs => some ([], cs)
  | n + 1, cs => do
    let (octet, cs) ← readOctet? cs
    if octet < 0x80 || 0xc0 ≤ octet then none
    let (octets, cs) ← readFollowing n cs
    pure (octet.toUInt8 :: octets, cs)

def readEscapes (cs : List Char) : Option (Octets × List Char) := do
  let (first, cs) ← readOctet? cs
  let (octets, cs) ← readFollowing ((← octetCount? first) - 1) cs
  pure (first.toUInt8 :: octets, cs)

def isAddressChar (isSetOff : Bool) (c : Char) : Bool :=
  isNameChar c || ";/?:@&=+$.%!~*'()".toList.contains c ||
    (isSetOff && (c == ',' || c == '[' || c == ']'))

def readAddressFrom (isSetOff : Bool) : Nat → List Char → Option (Octets × List Char)
  | 0, _ => none
  | _, [] => some ([], [])
  | fuel + 1, c :: cs =>
    if !isAddressChar isSetOff c then some ([], c :: cs)
    else do
      let (own, rest) ← if c == '%' then readEscapes (c :: cs) else some ([c.toNat.toUInt8], cs)
      let (octets, rest) ← readAddressFrom isSetOff fuel rest
      pure (own ++ octets, rest)

def readAddress? (isSetOff : Bool) (cs : List Char) : Option (Octets × List Char) :=
  readAddressFrom isSetOff (cs.length + 1) cs

def readHandle? : List Char → Option (String × List Char)
  | '!' :: cs =>
    let (name, rest) := readName cs
    match rest with
    | '!' :: rest => some ("!" ++ name ++ "!", rest)
    | rest => some ("!" ++ name, rest)
  | _ => none

structure TagText where
  handle : String
  suffix : Octets
  deriving Repr, DecidableEq, Inhabited

def TagText.read? (cs : List Char) : Option (TagText × List Char) := do
  match cs with
  | '!' :: '<' :: rest =>
    let (suffix, rest) ← readAddress? true rest
    if suffix.isEmpty || rest.head? != some '>' then none
    pure (⟨"", suffix⟩, rest.drop 1)
  | _ =>
    let (handle, rest) ← readHandle? cs
    let (suffix, rest) ← readAddress? false rest
    if 1 < handle.length && handle.endsWith "!" then
      if suffix.isEmpty then none else some (⟨handle, suffix⟩, rest)
    else
      let suffix := octetsOf (String.ofList (handle.toList.drop 1)) ++ suffix
      pure (if suffix.isEmpty then ⟨"", octetsOf "!"⟩ else ⟨"!", suffix⟩, rest)

abbrev Handles := List (String × Octets)

def coreAddress : String := "tag:yaml.org,2002:"

def Handles.given : Handles := [("!", octetsOf "!"), ("!!", octetsOf coreAddress)]

def TagText.resolve? (t : TagText) (handles : Handles) : Option Octets :=
  if t.handle.isEmpty then some t.suffix else (handles.lookup t.handle).map (· ++ t.suffix)

inductive Tag
  | null
  | bool
  | int
  | float
  | own (name : Option String)
  | other
  deriving Repr, DecidableEq, Inhabited

def Tag.ofAddress (address : Octets) : Tag :=
  match address with
  | [] => .other
  | mark :: name =>
    if mark == 0x21 then .own (String.fromUTF8? ⟨(if name.isEmpty then address else name).toArray⟩)
    else
      let core : List (Octets × Tag) :=
        [("null", Tag.null), ("bool", Tag.bool), ("int", Tag.int), ("float", Tag.float)].map
          fun (name, tag) => (octetsOf (coreAddress ++ name), tag)
      (core.lookup address).getD .other

end Citeproc.Data.Yaml
