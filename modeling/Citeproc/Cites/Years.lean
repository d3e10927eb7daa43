import Citeproc.Cites.Basic

namespace Citeproc

structure Segment where
  head : Output
  year : Option Int
  headSuffix : Option Char
  suffixes : List (Char × Output) := []
  deriving Repr, Inhabited

namespace Segment

def ofCite (cite : RenderedCite) (head : Output) : Segment where
  head
  year := cite.year
  headSuffix := if cite.hasLocator then none else cite.suffix?.map (·.1)

def absorb? (segment : Segment) (cite : RenderedCite) : Option Segment :=
  match cite.suffix? with
  | some suffix =>
    if !cite.hasLocator && segment.headSuffix.isSome && cite.year.isSome &&
        segment.year == cite.year then
      some { segment with suffixes := segment.suffixes ++ [suffix] }
    else none
  | none => none

def extend (merging : Bool) (segment : Segment) : List RenderedCite → List Segment
  | [] => [segment]
  | cite :: cites =>
    match if merging then segment.absorb? cite else none with
    | some longer => extend merging longer cites
    | none => segment :: extend merging (ofCite cite cite.withoutAuthor) cites

def ofGroup (merging : Bool) : List RenderedCite → List Segment
  | [] => []
  | cite :: cites => extend merging (ofCite cite cite.output) cites

def isNextLetter (a b : Char × Option Output) : Bool := b.1.toNat == a.1.toNat + 1

def showSuffix (delimiter : String) (suffix : Char × Option Output) : List Output :=
  match suffix.2 with
  | some output => [.ofText delimiter, output]
  | none => []

def showRun (delimiter : String) : List (Char × Option Output) → List Output
  | [] => []
  | first :: rest =>
    let last :=
      match rest.getLast? with
      | some last => showSuffix (if rest.length == 1 then delimiter else "–") last
      | none => []
    showSuffix delimiter first ++ last

def letterRuns (segment : Segment) : List (List (Char × Option Output)) :=
  let letters := segment.headSuffix.toList.map (·, none)
  let more := segment.suffixes.map fun (letter, output) => (letter, some output)
  (letters ++ more).splitBy isNextLetter

def render (segment : Segment) (delimiter : String) (ranged : Bool) : Output :=
  if segment.suffixes.isEmpty then segment.head
  else if ranged then
    .ofList (segment.head :: segment.letterRuns.flatMap (showRun delimiter))
  else
    .ofList (segment.head ::
      segment.suffixes.flatMap fun (_, output) => [.ofText delimiter, output])

end Segment

namespace CiteJoiner

def suffixDelimiter (j : CiteJoiner) : String := j.options.yearSuffixDelimiter.getD j.delimiter

def joinYears (j : CiteJoiner) (mode : Collapse) (group : List RenderedCite) : Output :=
  let merging := mode == .yearSuffix || mode == .yearSuffixRanged
  let segments := Segment.ofGroup merging group
  .join (segments.map fun segment => segment.render j.suffixDelimiter (mode == .yearSuffixRanged))
    j.groupDelimiter

end CiteJoiner

end Citeproc
