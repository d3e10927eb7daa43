import Citeproc.Data.Yaml.Cursor

namespace Citeproc.Data.Yaml

inductive Style
  | plain
  | quoted
  | literal
  | folded
  deriving Repr, DecidableEq, Inhabited

def plainRun (inFlow : Bool) : List Char → Option (List Char)
  | [] => some []
  | c :: cs =>
    let isColon := c == ':'
    if isSpace c then some []
    else if inFlow && isColon && cs.head?.any fun d => isFlowMark d || d == '?' then none
    else if (isColon && endsWord cs) || (inFlow && isFlowMark c) then some []
    else (c :: ·) <$> plainRun inFlow cs

def hasTabBelow (floor : Nat) (space : List Char) : Bool :=
  ((Text.splitWhere isBreak space).drop 1).any fun line => (line.take floor).contains '\t'

structure PlainText where
  text : List Char
  cursor : Cursor
  endsLine : Bool

def readPlainFrom (inFlow : Bool) (floor : Nat) : Nat → List Char → Cursor → Option PlainText
  | 0, _, _ => none
  | fuel + 1, before, c => do
    let run ← if c.atMarker || c.rest.head? == some '#' then some [] else plainRun inFlow c.rest
    if run.isEmpty then some { text := [], cursor := c, endsLine := before.any isBreak }
    else
      let c := c.drop run.length
      let space := c.rest.takeWhile isSpace
      let next := c.drop space.length
      if hasTabBelow floor space then none
      else if space.isEmpty || (!inFlow && next.column < floor) then
        some { text := folded before ++ run, cursor := next, endsLine := space.any isBreak }
      else do
        let more ← readPlainFrom inFlow floor fuel space next
        pure { more with text := folded before ++ run ++ more.text }

def readPlain? (limit : Nat) (inFlow : Bool) (floor : Nat) (c : Cursor) : Option PlainText :=
  readPlainFrom inFlow floor limit [] c

def hexDigit? (c : Char) : Option Nat :=
  if c.isDigit then some (c.toNat - '0'.toNat)
  else if 'a' ≤ c.toLower && c.toLower ≤ 'f' then some (c.toLower.toNat - 'a'.toNat + 10)
  else none

def hexNumber? (cs : List Char) : Option Nat :=
  cs.foldlM (fun n c => (16 * n + ·) <$> hexDigit? c) 0

def escaped? : List Char → Option (Char × Nat)
  | 'x' :: cs => coded 2 cs
  | 'u' :: cs => coded 4 cs
  | 'U' :: cs => coded 8 cs
  | c :: _ =>
    (("0abt\tnvfre \"/\\N_LP".toList.zip
      ['\x00', '\x07', '\x08', '\t', '\t', '\n', '\x0b', '\x0c', '\r', '\x1b', ' ', '"', '/', '\\',
        '\u0085', '\u00a0', '\u2028', '\u2029']).lookup c).map (·, 1)
  | [] => none
where
  coded (width : Nat) (cs : List Char) : Option (Char × Nat) := do
    let digits := cs.take width
    let n ← hexNumber? digits
    if digits.length < width || !n.isValidChar then none else some (Char.ofNat n, width + 1)

def quotedRun (quote : Char) : Nat → Cursor → Option (List Char × Bool × Cursor)
  | 0, _ => none
  | fuel + 1, c =>
    let continued (own : Char) (width : Nat) := do
      let (run, escaped, c) ← quotedRun quote fuel (c.drop width)
      pure (own :: run, escaped, c)
    match c.rest with
    | [] => some ([], false, c)
    | x :: rest =>
      if isSpace x then some ([], false, c)
      else if x == quote then
        if quote == '\'' && rest.head? == some '\'' then continued '\'' 2 else some ([], false, c)
      else if quote == '"' && x == '\\' then
        if rest.head?.any isBreak then some ([], true, c.drop 2)
        else do
          let (own, width) ← escaped? rest
          continued own (width + 1)
      else continued x 1

def readQuotedFrom (limit : Nat) (quote : Char) : Nat → Cursor → Option (List Char × Cursor)
  | 0, _ => none
  | fuel + 1, c =>
    if c.atMarker || c.rest.isEmpty then none
    else do
      let (run, escaped, c) ← quotedRun quote limit c
      if c.rest.head? == some quote then some (run, c.step)
      else do
        let space := c.rest.takeWhile isSpace
        let (more, c) ← readQuotedFrom limit quote fuel (c.drop space.length)
        pure (run ++ (if escaped then space.filter isBreak else folded space) ++ more, c)

def readQuoted? (limit : Nat) (c : Cursor) : Option (List Char × Cursor) := do
  readQuotedFrom limit (← c.rest.head?) limit c.step

inductive Chomping
  | strip
  | clip
  | keep
  deriving Repr, DecidableEq

def chomping? (c : Char) : Option Chomping :=
  if c == '-' then some .strip else if c == '+' then some .keep else none

def shift? (c : Char) : Option Nat :=
  if '1' ≤ c && c ≤ '9' then some (c.toNat - '0'.toNat) else none

def readModifiers : List Char → Chomping × Option Nat × List Char
  | [] => (.clip, none, [])
  | c :: cs =>
    match chomping? c, shift? c with
    | some chomping, _ =>
      match cs.head?.bind shift? with
      | some n => (chomping, some n, cs.drop 1)
      | none => (chomping, none, cs)
    | none, some n =>
      match cs.head?.bind chomping? with
      | some chomping => (chomping, some n, cs.drop 1)
      | none => (.clip, some n, cs)
    | none, none => (.clip, none, c :: cs)

structure Margin where
  breaks : List Char
  cursor : Cursor
  widest : Nat

def readMargin (indent : Nat) : Nat → Cursor → Option Margin
  | 0, _ => none
  | fuel + 1, c =>
    let spaces := (c.rest.takeWhile (· == ' ')).length
    let c := c.drop (if indent == 0 then spaces else min spaces (indent - c.column))
    match c.rest with
    | [] => some { breaks := [], cursor := c, widest := c.column }
    | x :: _ =>
      if x == '\t' && (indent == 0 || c.column < indent) then none
      else if isBreak x then do
        let more ← readMargin indent fuel c.step
        pure { more with breaks := x :: more.breaks, widest := max c.column more.widest }
      else some { breaks := [], cursor := c, widest := c.column }

structure BlockText where
  text : List Char := []
  lineEnd : List Char := []
  empties : List Char := []
  isIndented : Bool := false

def BlockText.joined (b : BlockText) (isFolded isIndented : Bool) : List Char :=
  if isFolded && b.lineEnd == ['\n'] && !b.isIndented && !isIndented then
    b.text ++ if b.empties.isEmpty then [' '] else b.empties
  else b.text ++ b.lineEnd ++ b.empties

def readBlockLines (limit : Nat) (isFolded : Bool) (indent : Nat) :
    Nat → BlockText → Cursor → Option (BlockText × Cursor)
  | 0, _, _ => none
  | fuel + 1, b, c =>
    if c.column != indent || c.rest.isEmpty then some (b, c)
    else do
      let isIndented := c.rest.head?.any isBlank
      let line := c.rest.takeWhile (!isBreak ·)
      let c := c.drop line.length
      let margin ← readMargin indent limit c.step
      readBlockLines limit isFolded indent fuel
        { text := b.joined isFolded isIndented ++ line
          lineEnd := c.rest.take 1
          empties := margin.breaks
          isIndented }
        margin.cursor

def readBlock? (limit floor : Nat) (c : Cursor) : Option (List Char × Cursor) := do
  let isFolded := c.rest.head? == some '>'
  let (chomping, shift, rest) := readModifiers (c.rest.drop 1)
  let c ← (c.moveTo rest).finishLine?
  let indent := shift.elim 0 ((floor - 1) + ·)
  let margin ← readMargin indent limit c
  let indent := if indent == 0 then max margin.widest (max floor 1) else indent
  let (b, c) ← readBlockLines limit isFolded indent limit { empties := margin.breaks } margin.cursor
  pure (b.text ++ (match chomping with
    | .strip => []
    | .clip => b.lineEnd
    | .keep => b.lineEnd ++ b.empties), c)

end Citeproc.Data.Yaml
