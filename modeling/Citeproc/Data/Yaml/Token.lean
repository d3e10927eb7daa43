import Citeproc.Data.Yaml.Tag

/-!
The tokens of a YAML text. The mark of a key is not written where the key fits on one line, so a
place where a key may begin is kept until a colon shows that it was one, and the mark is put there.
-/

namespace Citeproc.Data.Yaml

inductive Token
  | version (major minor : Nat)
  | handle (name : String) (address : Octets)
  | documentStart
  | documentEnd
  | streamEnd
  | blockSequence
  | blockMapping
  | blockEnd
  | flowSequence
  | flowSequenceEnd
  | flowMapping
  | flowMappingEnd
  | item
  | comma
  | key
  | value
  | aliasOf (name : String)
  | anchor (name : String)
  | tag (text : TagText)
  | scalar (style : Style) (text : String)
  deriving Repr, DecidableEq, Inhabited

structure KeyStart where
  tokenCount : Nat
  cursor : Cursor
  isRequired : Bool

/-- The tokens read so far. `floors` are those of the block collections around the innermost one,
`outerKeys` the places of keys outside the innermost flow collection, and `limit` is more than the
number of characters of the text. -/
structure Progress where
  limit : Nat
  cursor : Cursor
  tokens : Array Token := #[]
  floor : Nat := 0
  floors : List Nat := []
  allowsKey : Bool := true
  key : Option KeyStart := none
  outerKeys : List (Option KeyStart) := []

namespace Progress

def inFlow (p : Progress) : Bool := !p.outerKeys.isEmpty

def push (p : Progress) (t : Token) : Progress := { p with tokens := p.tokens.push t }

def take (p : Progress) (n : Nat) (t : Token) : Progress :=
  { p.push t with cursor := p.cursor.drop n }

def allowKey (p : Progress) (allowed : Bool) : Progress := { p with allowsKey := allowed }

def openBlock (p : Progress) (column count : Nat) (t : Token) : Progress :=
  if p.inFlow || column < p.floor then p
  else
    { p with
      floor := column + 1
      floors := p.floor :: p.floors
      tokens := p.tokens.insertIdxIfInBounds count t }

def closeFrom (limit : Nat) (tokens : Array Token) (floor : Nat) :
    List Nat → Array Token × Nat × List Nat
  | [] => (tokens, floor, [])
  | outer :: floors =>
    if limit < floor then closeFrom limit (tokens.push .blockEnd) outer floors
    else (tokens, floor, outer :: floors)

def closeBlocks (p : Progress) (limit : Nat) : Progress :=
  if p.inFlow then p
  else
    let (tokens, floor, floors) := closeFrom limit p.tokens p.floor p.floors
    { p with tokens, floor, floors }

def dropKey (p : Progress) : Option Progress :=
  if p.key.any (·.isRequired) then none else some { p with key := none }

def startKey (p : Progress) : Option Progress :=
  if !p.allowsKey then some p
  else do
    let p ← p.dropKey
    pure { p with
      key := some {
        tokenCount := p.tokens.size
        cursor := p.cursor
        isRequired := !p.inFlow && p.floor == p.cursor.column + 1 } }

def canReach (p : Progress) (k : KeyStart) : Bool :=
  p.cursor.line ≤ k.cursor.line && p.cursor.index ≤ k.cursor.index + 1024

def dropOldKeys (p : Progress) : Option Progress :=
  let isOld (k : KeyStart) : Bool := !p.canReach k
  if (p.key :: p.outerKeys).any (·.any fun k => isOld k && k.isRequired) then none
  else some { p with
    key := p.key.filter p.canReach
    outerKeys := p.outerKeys.map (·.filter p.canReach) }

def skipFrom (inFlow : Bool) : Nat → Cursor → Bool → Cursor × Bool
  | 0, c, allowsKey => (c, allowsKey)
  | fuel + 1, c, allowsKey =>
    let c := if c.column == 0 && c.rest.head? == some '\ufeff' then c.step else c
    let isSkipped (x : Char) : Bool := x == ' ' || ((inFlow || !allowsKey) && x == '\t')
    let c := (c.dropWhile isSkipped).skipComment
    if c.rest.head?.any isBreak then skipFrom inFlow fuel c.step (allowsKey || !inFlow)
    else (c, allowsKey)

def skip (p : Progress) : Progress :=
  let (cursor, allowsKey) := skipFrom p.inFlow p.limit p.cursor p.allowsKey
  { p with cursor, allowsKey }

def readVersion? (cs : List Char) : Option (Token × List Char) := do
  let (major, rest) ← number? (cs.dropWhile isBlank)
  if rest.head? != some '.' then none
  let (minor, rest) ← number? (rest.drop 1)
  pure (.version major minor, rest)
where
  number? (cs : List Char) : Option (Nat × List Char) :=
    let digits := cs.takeWhile Char.isDigit
    if digits.isEmpty || 9 < digits.length then none
    else
      some (digits.foldl (fun n c => 10 * n + (c.toNat - '0'.toNat)) 0, cs.dropWhile Char.isDigit)

def readHandleDirective? (cs : List Char) : Option (Token × List Char) := do
  let (handle, rest) ← readHandle? (cs.dropWhile isBlank)
  if handle != "!" && !(handle.endsWith "!" && 1 < handle.length) then none
  if !rest.head?.any isBlank then none
  let (address, rest) ← readAddress? true (rest.dropWhile isBlank)
  if address.isEmpty || !endsWord rest then none
  pure (.handle handle address, rest)

def directive (p : Progress) : Option Progress := do
  let p ← (p.closeBlocks 0).dropKey
  let (name, rest) := readName (p.cursor.rest.drop 1)
  if !endsWord rest then none
  let (t, rest) ←
    if name == "YAML" then readVersion? rest
    else if name == "TAG" then readHandleDirective? rest
    else none
  let cursor ← (p.cursor.moveTo rest).finishLine?
  pure ({ p with cursor }.push t |>.allowKey false)

def marker (p : Progress) (t : Token) : Option Progress := do
  let p ← (p.closeBlocks 0).dropKey
  pure ((p.take 3 t).allowKey false)

def openFlow (p : Progress) (t : Token) : Option Progress := do
  let p ← p.startKey
  pure ({ p with key := none, outerKeys := p.key :: p.outerKeys }.take 1 t |>.allowKey true)

def closeFlow (p : Progress) (t : Token) : Option Progress := do
  let p ← p.dropKey
  let p :=
    match p.outerKeys with
    | [] => p
    | key :: outerKeys => { p with key, outerKeys }
  pure ((p.take 1 t).allowKey false)

def flowComma (p : Progress) : Option Progress := do
  pure ((← p.dropKey).take 1 .comma |>.allowKey true)

def blockItem (p : Progress) : Option Progress := do
  if !p.inFlow && !p.allowsKey then none
  let p ← (p.openBlock p.cursor.column p.tokens.size .blockSequence).dropKey
  pure ((p.take 1 .item).allowKey true)

def keyMark (p : Progress) : Option Progress := do
  if !p.inFlow && !p.allowsKey then none
  let p ← (p.openBlock p.cursor.column p.tokens.size .blockMapping).dropKey
  pure ((p.take 1 .key).allowKey !p.inFlow)

def valueMark (p : Progress) : Option Progress :=
  match p.key with
  | some k =>
    let p := { p with key := none, tokens := p.tokens.insertIdxIfInBounds k.tokenCount .key }
    some ((p.openBlock k.cursor.column k.tokenCount .blockMapping).take 1 .value |>.allowKey false)
  | none =>
    if p.inFlow then some ((p.take 1 .value).allowKey false)
    else if !p.allowsKey then none
    else
      some ((p.openBlock p.cursor.column p.tokens.size .blockMapping).take 1 .value |>.allowKey true)

def reference (p : Progress) (token : String → Token) : Option Progress := do
  let p ← p.startKey
  let (name, rest) := readName (p.cursor.rest.drop 1)
  if name.isEmpty || !(endsWord rest || rest.head?.any ("?:,]\x7d%@\x60".toList.contains ·)) then none
  pure ((p.take (name.length + 1) (token name)).allowKey false)

def tagged (p : Progress) : Option Progress := do
  let p ← p.startKey
  let (text, rest) ← TagText.read? p.cursor.rest
  if !(endsWord rest || (p.inFlow && rest.head? == some ',')) then none
  pure ({ p.push (.tag text) with cursor := p.cursor.moveTo rest }.allowKey false)

def blockScalar (p : Progress) (style : Style) : Option Progress := do
  let p ← p.dropKey
  let (text, cursor) ← readBlock? p.limit p.floor p.cursor
  pure ({ p.push (.scalar style (String.ofList text)) with cursor }.allowKey true)

def quotedScalar (p : Progress) : Option Progress := do
  let p ← p.startKey
  let (text, cursor) ← readQuoted? p.limit p.cursor
  pure ({ p.push (.scalar .quoted (String.ofList text)) with cursor }.allowKey false)

def plainScalar (p : Progress) : Option Progress := do
  let p ← p.startKey
  let read ← readPlain? p.limit p.inFlow p.floor p.cursor
  pure ({ p.push (.scalar .plain (String.ofList read.text)) with cursor := read.cursor }.allowKey
    read.endsLine)

def startsPlain (inFlow : Bool) (c : Char) (cs : List Char) : Bool :=
  if c == '-' then !cs.head?.any isBlank
  else if c == '?' || c == ':' then !inFlow && !endsWord cs
  else !(isFlowMark c || "#&*!|>'\"%@\x60".toList.contains c || isSpace c)

def read (p : Progress) (c : Char) (cs : List Char) : Option Progress :=
  if p.cursor.column == 0 && c == '%' then p.directive
  else if p.cursor.opensDocument then p.marker .documentStart
  else if p.cursor.endsDocument then p.marker .documentEnd
  else if c == '[' then p.openFlow .flowSequence
  else if c == '\x7b' then p.openFlow .flowMapping
  else if c == ']' then p.closeFlow .flowSequenceEnd
  else if c == '\x7d' then p.closeFlow .flowMappingEnd
  else if c == ',' then p.flowComma
  else if c == '-' && endsWord cs then p.blockItem
  else if c == '?' && (p.inFlow || endsWord cs) then p.keyMark
  else if c == ':' && (p.inFlow || endsWord cs) then p.valueMark
  else if c == '*' then p.reference .aliasOf
  else if c == '&' then p.reference .anchor
  else if c == '!' then p.tagged
  else if c == '|' && !p.inFlow then p.blockScalar .literal
  else if c == '>' && !p.inFlow then p.blockScalar .folded
  else if c == '\'' || c == '"' then p.quotedScalar
  else if startsPlain p.inFlow c cs then p.plainScalar
  else none

def finish : Nat → Progress → Option (List Token)
  | 0, _ => none
  | fuel + 1, p => do
    let p ← p.skip.dropOldKeys
    let p := p.closeBlocks (p.cursor.column + 1)
    match p.cursor.rest with
    | [] => pure ((← (p.closeBlocks 0).dropKey).push .streamEnd).tokens.toList
    | c :: cs => finish fuel (← p.read c cs)

end Progress

def Token.ofText? (source : String) : Option (List Token) :=
  let cs := source.toList
  if cs.all isPrintable then
    let rest := withLineFeeds cs
    let limit := rest.length + 1
    Progress.finish limit { limit, cursor := { rest } }
  else none

end Citeproc.Data.Yaml
