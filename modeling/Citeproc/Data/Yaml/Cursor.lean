import Citeproc.Text.Cut

namespace Citeproc.Data.Yaml

def isPrintable (c : Char) : Bool :=
  let n := c.toNat
  n == 0x09 || n == 0x0a || n == 0x0d || (0x20 ≤ n && n ≤ 0x7e) || n == 0x85 ||
    (0xa0 ≤ n && n ≤ 0xfffd) || 0x10000 ≤ n

def withLineFeeds : List Char → List Char
  | [] => []
  | '\r' :: '\n' :: cs => '\n' :: withLineFeeds cs
  | c :: cs => (if c == '\r' || c == '\u0085' then '\n' else c) :: withLineFeeds cs

def isBlank (c : Char) : Bool := c == ' ' || c == '\t'

def isBreak (c : Char) : Bool := c == '\n' || c == '\u2028' || c == '\u2029'

def isSpace (c : Char) : Bool := isBlank c || isBreak c

def endsWord (cs : List Char) : Bool := cs.head?.all isSpace

def isFlowMark (c : Char) : Bool := c == ',' || c == '[' || c == ']' || c == '\x7b' || c == '\x7d'

def startsMarker (mark : String) (cs : List Char) : Bool :=
  mark.toList.isPrefixOf cs && endsWord (cs.drop mark.length)

def folded (space : List Char) : List Char :=
  match space.filter isBreak with
  | [] => space
  | ['\n'] => [' ']
  | '\n' :: breaks => breaks
  | breaks => breaks

structure Cursor where
  rest : List Char
  index : Nat := 0
  line : Nat := 0
  column : Nat := 0
  deriving Repr, DecidableEq, Inhabited

namespace Cursor

def step (c : Cursor) : Cursor :=
  match c.rest with
  | [] => c
  | x :: rest =>
    if isBreak x then { rest, index := c.index + 1, line := c.line + 1, column := 0 }
    else { c with rest, index := c.index + 1, column := c.column + 1 }

def drop (c : Cursor) : Nat → Cursor
  | 0 => c
  | n + 1 => c.step.drop n

def moveTo (c : Cursor) (rest : List Char) : Cursor := c.drop (c.rest.length - rest.length)

def dropWhile (c : Cursor) (p : Char → Bool) : Cursor := c.drop (c.rest.takeWhile p).length

def skipComment (c : Cursor) : Cursor :=
  if c.rest.head? == some '#' then c.dropWhile (!isBreak ·) else c

def opensDocument (c : Cursor) : Bool := c.column == 0 && startsMarker "---" c.rest

def endsDocument (c : Cursor) : Bool := c.column == 0 && startsMarker "..." c.rest

def atMarker (c : Cursor) : Bool := c.opensDocument || c.endsDocument

def finishLine? (c : Cursor) : Option Cursor :=
  let c := (c.dropWhile isBlank).skipComment
  match c.rest with
  | [] => some c
  | x :: _ => if isBreak x then some c.step else none

end Cursor

end Citeproc.Data.Yaml
