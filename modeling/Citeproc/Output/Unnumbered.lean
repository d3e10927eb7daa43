import Citeproc.Output.Basic
import Citeproc.Text.Blank

namespace Citeproc.Output

def isDelimiter : Output → Bool
  | text s => s.toList.all fun c => Text.isBlank c || c == '.' || c == ',' || c == ';' || c == ':'
  | _ => false

mutual

/-- The output without its citation numbers. Delimiters that would then begin a sequence go too. -/
def withoutCitationNumber : Output → Output
  | tagged (.citationNumber _) _ => null
  | tagged tag child => tagged tag (withoutCitationNumber child)
  | seq items => ofList (keptItems false false items)
  | formatted formatting quotes display child =>
    (withoutCitationNumber child).withFormat formatting quotes display
  | text s => text s
  | null => null

def keptItems (removed begun : Bool) : List Output → List Output
  | [] => []
  | o :: os =>
    let stripped := withoutCitationNumber o
    if stripped.isEmpty && !o.isEmpty then keptItems (removed || !begun) begun os
    else if removed && !begun && stripped.isDelimiter then keptItems removed begun os
    else stripped :: keptItems removed true os

end

end Citeproc.Output
