import Citeproc.Text.Blank
import Citeproc.Text.Case.Mapping
import Citeproc.Text.Cut

namespace Citeproc

namespace Initials

def ofPart (mark part : List Char) : List Char :=
  match (part.reverse.dropWhile (· == '.')).reverse with
  | [] => []
  | c :: _ => Text.upperChars c ++ mark

def ofWord (mark : List Char) (hyphen : Bool) (word : List Char) : List Char :=
  let parts := (Text.splitWhere (· == '-') word).filter (!·.isEmpty)
  (if hyphen then ['-'] else []).intercalate (parts.map (ofPart mark))

end Initials

/-- The initials of a given name, each followed by the mark `ending`. They stand apart if the mark
ends in a blank; hyphens are kept if `hyphen` is set. -/
def initialsOf (given ending : String) (hyphen : Bool) : String :=
  let mark := Text.trimRight ending.toList
  let spaced := ending.toList.getLast?.any Text.isBlank
  let words := ((Text.wordsFrom [] given.toList).map (Initials.ofWord mark hyphen)).filter
    (!·.isEmpty)
  String.ofList ((if spaced then [' '] else []).intercalate words)

end Citeproc
