import Citeproc.Date.Basic
import Citeproc.Text.Blank
import Citeproc.Text.Case
import Citeproc.Text.Cut

/-!
Reading dates: a signed year, then month and day with hyphens, then a slash and an end. A mark after
a part, or a word such as "circa" in front, makes the date uncertain.
-/

namespace Citeproc.DateRange

def uncertaintyMarks : List String := ["circa", "c.", "~", "?", "ca.", "approximately"]

def circaWords : List String := ["approximately", "circa", "ca.", "c."]

def isUncertain (value : String) : Bool :=
  let lower := Text.lower value.toList
  uncertaintyMarks.any fun mark => Text.holds mark.toList lower

def isQualifier (c : Char) : Bool := c == '?' || c == '~' || c == '%'

def qualifier : List Char → Bool × List Char
  | c :: cs => if isQualifier c then (true, cs) else (false, c :: cs)
  | [] => (false, [])

def digits? (most : Nat) (cs : List Char) : Option (Nat × List Char) :=
  let run := (cs.takeWhile Char.isDigit).take most
  (Text.decimal? run).map fun n => (n, cs.drop run.length)

def year? (cs : List Char) : Option (Int × List Char) :=
  match cs with
  | '-' :: cs => (digits? 6 cs).map fun (n, rest) => (-(n : Int), rest)
  | '+' :: cs => (digits? 6 cs).map fun (n, rest) => ((n : Int), rest)
  | cs => (digits? 6 cs).map fun (n, rest) => ((n : Int), rest)

def isMonth (n : Nat) : Bool := (1 ≤ n && n ≤ 12) || isSeasonNumber n

def isDay (n : Nat) : Bool := 1 ≤ n && n ≤ 31

def hyphenated (p : Nat → Bool) (cs : List Char) : Option Nat × List Char :=
  match cs with
  | '-' :: rest =>
    match digits? 2 rest with
    | some (n, after) => if p n then (some n, after) else (none, cs)
    | none => (none, cs)
  | cs => (none, cs)

def parts? (cs : List Char) : Option ((DateParts × Bool) × List Char) := do
  let (year, rest) ← year? cs
  let (uncertainYear, rest) := qualifier rest
  let (month, rest) := hyphenated isMonth rest
  if month.isNone then return (({ year }, uncertainYear), rest)
  let (uncertainMonth, rest) := qualifier rest
  let (day, rest) := hyphenated isDay rest
  let (uncertainDay, rest) := if day.isSome then qualifier rest else (false, rest)
  pure (({ year, month, day }, uncertainYear || uncertainMonth || uncertainDay), rest)

def range? (cs : List Char) : Option (DateRange × List Char) := do
  let ((start, uncertain), rest) ← parts? cs
  match rest with
  | '/' :: rest =>
    match parts? rest with
    | some ((stop, uncertainStop), rest) =>
      pure ({ start, stop := if stop = start then none else some stop
              uncertain := uncertain || uncertainStop }, rest)
    | none => pure ({ start, openEnd := true, uncertain }, rest)
  | rest => pure ({ start, uncertain }, rest)

def dropCirca (cs : List Char) : Bool × List Char :=
  match circaWords.find? fun word => word.toList.isPrefixOf (Text.lower cs) with
  | some word => (true, Text.trimLeft (cs.drop word.length))
  | none => (false, cs)

def parse? (value : String) : Option DateRange := do
  let (circa, cs) := dropCirca (Text.trim value.toList)
  let (range, rest) ← range? cs
  if rest.all Text.isBlank then some { range with uncertain := circa || range.uncertain } else none

end Citeproc.DateRange
