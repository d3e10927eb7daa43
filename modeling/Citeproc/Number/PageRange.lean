import Citeproc.Number.Basic
import Citeproc.Text.Cut

/-!
Page ranges: how many digits of the last page are shown. Texts are cut at places counted in bytes,
and there is no result where such a place lies inside a character.
-/

namespace Citeproc.PageRange

structure Range where
  startLetters : List Char
  startDigits : List Char
  endLetters : List Char
  endDigits : List Char
  deriving Repr, DecidableEq

def page? (cs : List Char) : Option (List Char × List Char × List Char) :=
  let letters := cs.takeWhile Char.isAlpha
  let rest := cs.dropWhile Char.isAlpha
  let digits := rest.takeWhile Text.isDecimalDigit
  if digits.isEmpty then none
  else some (letters, digits, Text.trimLeft (rest.dropWhile Text.isDecimalDigit))

def afterDash? : List Char → Option (List Char)
  | '–' :: cs => some cs
  | '-' :: cs => some (cs.dropWhile (· == '-'))
  | _ => none

def Range.parse? (cs : List Char) : Option Range := do
  let (startLetters, startDigits, rest) ← page? (Text.trimLeft cs)
  let rest ← afterDash? rest
  let (endLetters, endDigits, rest) ← page? (Text.trimLeft rest)
  if rest.isEmpty then some { startLetters, startDigits, endLetters, endDigits } else none

def leading? (cs : List Char) : Option (List Char) :=
  (Text.cutAt? (Text.byteLength cs - Text.byteLength (Text.trimLeft cs)) cs).map (·.1)

/-- The last page with the digits restored that it shares with the first: 321-8 ends at 328. -/
def expandEnd? (first last : List Char) : Option (List Char) :=
  if Text.byteLength first ≤ Text.byteLength last then some last
  else
    (Text.cutAt? (Text.byteLength first - Text.byteLength last) first).map (·.1 ++ last)

def firstDifference (limit : Nat) : List Char → List Char → Nat
  | a :: as, b :: bs => if a == b then firstDifference (limit - 1) as bs + 1 else 0
  | _, _ => limit

def minimal? (first last : List Char) (least : Nat) : Option (List Char) :=
  if Text.byteLength first != Text.byteLength last then some last
  else
    let n := Text.byteLength last
    (Text.cutAt? (min (firstDifference n first last) (n - least)) last).map (·.2)

/-- Below 100 and at multiples of 100 all digits are kept; just after those only the changed ones;
else two or more, and all when more than two of four change. -/
def chicago? (first : Nat) (last : List Char) : Option (List Char) :=
  if first < 100 || first % 100 == 0 then some last
  else
    let digits := (toString first).toList
    if first % 100 < 10 then minimal? digits last 1
    else
      (minimal? digits last 2).map fun short =>
        if digits.length == 4 && 2 < Text.byteLength short then last else short

def endText? (form : Option PageRangeFormat) (r : Range) (first : Nat) (expanded : List Char) :
    Option (List Char) :=
  match form with
  | none => some r.endDigits
  | some .expanded => some expanded
  | some .minimal => minimal? r.startDigits expanded 1
  | some .minimalTwo => minimal? r.startDigits expanded 2
  | some .chicago => chicago? first expanded
  | some .chicago16 => chicago? first expanded

def Range.write (r : Range) (blanks delimiter last : List Char) : List Char :=
  blanks ++ (r.startLetters ++ (r.startDigits ++ (delimiter ++ last)))

def Range.format? (r : Range) (form : Option PageRangeFormat) (blanks delimiter cs : List Char) :
    Option (List Char) :=
  if r.startLetters != r.endLetters && !r.endLetters.isEmpty then
    some (r.write blanks delimiter (r.endLetters ++ r.endDigits))
  else
    (expandEnd? r.startDigits r.endDigits).bind fun expanded =>
      match Text.natural? Text.maxWord r.startDigits, Text.natural? Text.maxWord expanded with
      | some first, some last =>
        (if last ≤ first then some expanded else endText? form r first expanded).map
          (r.write blanks delimiter)
      | _, _ => some cs

def formatOne? (form : Option PageRangeFormat) (delimiter cs : List Char) : Option (List Char) :=
  match Range.parse? cs with
  | none => some cs
  | some r => (leading? cs).bind fun blanks => r.format? form blanks delimiter cs

def format? (pages : String) (form : Option PageRangeFormat) (delimiter : String) : Option String := do
  let parts ← (Text.splitWhere (· == ',') pages.toList).mapM (formatOne? form delimiter.toList)
  pure (String.ofList ([','].intercalate parts))

end Citeproc.PageRange
