import Citeproc.Output.Basic
import Citeproc.Locale.Basic

namespace Citeproc

structure QuoteMarks where
  outer : String × String := ("“", "”")
  inner : String × String := ("‘", "’")
  punctuationInQuote : Bool := true
  deriving Repr, DecidableEq, Inhabited

def QuoteMarks.ofLocale (l : Locale) : QuoteMarks where
  outer := l.quotes false
  inner := l.quotes true
  punctuationInQuote := l.punctuationInQuote

namespace Output

def doubles (previous c : Char) : Bool :=
  if c == '.' then previous == '.' || previous == '!' || previous == '?'
  else (c == ',' || c == ';' || c == ':' || c == ' ') && previous == c

def dedupeText (previous : Option Char) (s : String) : String × Option Char :=
  let cs := s.toList
  let cs :=
    match previous, cs with
    | some p, c :: rest => if doubles p c then rest else cs
    | _, _ => cs
  (String.ofList cs, cs.getLast? <|> previous)

def dedupePunctuation (o : Output) : Output := (o.mapTexts dedupeText none).1

mutual

/-- For each quotation, in order of their beginnings, the position of the last leaf up to its end.
`n` is the number of leaves before; the number after comes first in the result. -/
def quoteEnds (n : Nat) : Output → Nat × List (Option Nat)
  | null => (n, [])
  | text _ => (n + 1, [])
  | seq items => quoteEndsIn n items
  | formatted _ quotes _ child =>
    let (n, ends) := quoteEnds n child
    (n, if quotes then (if n == 0 then none else some (n - 1)) :: ends else ends)
  | tagged _ child => quoteEnds n child

def quoteEndsIn (n : Nat) : List Output → Nat × List (Option Nat)
  | [] => (n, [])
  | o :: os =>
    let (n, ends) := quoteEnds n o
    let (n, more) := quoteEndsIn n os
    (n, ends ++ more)

end

structure QuoteMove where
  quote : Nat
  leaf : Nat
  mark : Char
  deriving Repr, DecidableEq, Inhabited

def nextMark? (leaves : List String) (start : Nat) : Option (Nat × Char) := do
  let offset ← (leaves.drop start).findIdx? (!·.isEmpty)
  let s ← leaves[start + offset]?
  let c ← s.toList.head?
  if c == '.' || c == ',' then some (start + offset, c) else none

def quoteMoves (leaves : List String) (ends : List (Option Nat)) : List QuoteMove :=
  (ends.zipIdx).foldl (fun moves (last?, quote) =>
    match last? with
    | none => moves
    | some last =>
      if moves.any fun m => ends[m.quote]? == some (some last) then moves
      else
        match nextMark? leaves (last + 1) with
        | some (leaf, mark) => moves ++ [⟨quote, leaf, mark⟩]
        | none => moves) []

mutual

def applyMoves (moves : List QuoteMove) (leaf quote : Nat) : Output → Output × Nat × Nat
  | null => (null, leaf, quote)
  | text s =>
    let s := if moves.any (·.leaf == leaf) then String.ofList (s.toList.drop 1) else s
    (text s, leaf + 1, quote)
  | seq items =>
    let (items, leaf, quote) := applyMovesIn moves leaf quote items
    (seq items, leaf, quote)
  | formatted formatting quotes display child =>
    let (moved, leaf, next) :=
      applyMoves moves leaf (if quotes then quote + 1 else quote) child
    let taken := if quotes then moves.find? (·.quote == quote) else none
    let moved :=
      match taken with
      | some m => ofList [moved, text (String.singleton m.mark)]
      | none => moved
    (formatted formatting quotes display moved, leaf, next)
  | tagged tag child =>
    let (child, leaf, quote) := applyMoves moves leaf quote child
    (tagged tag child, leaf, quote)

def applyMovesIn (moves : List QuoteMove) (leaf quote : Nat) :
    List Output → List Output × Nat × Nat
  | [] => ([], leaf, quote)
  | o :: os =>
    let (o, leaf, quote) := applyMoves moves leaf quote o
    let (os, leaf, quote) := applyMovesIn moves leaf quote os
    (o :: os, leaf, quote)

end

def movePunctuationIntoQuotes (o : Output) : Output :=
  let moves := quoteMoves o.leaves (o.quoteEnds 0).2
  if moves.isEmpty then o else (o.applyMoves moves 0 0).1

def tidy (o : Output) (marks : QuoteMarks) : Output :=
  let o := o.dedupePunctuation
  if marks.punctuationInQuote then o.movePunctuationIntoQuotes else o

end Output

end Citeproc
