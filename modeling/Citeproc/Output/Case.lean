import Citeproc.Output.Basic
import Citeproc.Text.Cased

namespace Citeproc.Output

def stripPeriods (o : Output) : Output :=
  (o.mapTexts (fun _ s => (String.ofList (s.toList.filter (· != '.')), ())) ()).1

mutual

/-- Changes the case of plain text. A span with formatting of its own keeps its case, and what
follows it is no longer at the start. -/
def caseFrom (case : TextCase) (atStart : Bool) : Output → Output × Bool
  | null => (null, atStart)
  | text s =>
    let (s, atStart) := Text.applyCase case s atStart
    (text s, atStart)
  | seq items =>
    let (items, atStart) := caseFromIn case atStart items
    (seq items, atStart)
  | formatted formatting quotes display child =>
    if formatting.isEmpty then
      let (child, atStart) := caseFrom case atStart child
      (formatted formatting quotes display child, atStart)
    else (formatted formatting quotes display child, atStart && child.isEmpty)
  | tagged tag child =>
    let (child, atStart) := caseFrom case atStart child
    (tagged tag child, atStart)

def caseFromIn (case : TextCase) (atStart : Bool) : List Output → List Output × Bool
  | [] => ([], atStart)
  | o :: os =>
    let (o, atStart) := caseFrom case atStart o
    let (os, atStart) := caseFromIn case atStart os
    (o :: os, atStart)

end

def withCase (o : Output) (case : TextCase) : Output := (o.caseFrom case true).1

def transformed (o : Output) (r : Rendering) : Output :=
  let o := if r.stripPeriods then o.stripPeriods else o
  r.textCase.elim o o.withCase

/-- Applies rendering attributes: text transforms, then formatting and quotes, then affixes, then the
display block. -/
def decorate (o : Output) (r : Rendering) : Output :=
  if o.isEmpty then o
  else
    ((o.transformed r).withFormat r.formatting r.quotes none).withAffixes r.before r.after
      |>.withFormat {} false r.display

end Citeproc.Output
