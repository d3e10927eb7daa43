import Citeproc.Text.Base
import Citeproc.Text.Blank
import Citeproc.Text.Case.Mapping
import Citeproc.Text.Mark

namespace Citeproc.Text

def foldChars (cs : List Char) : List Char :=
  trim (((cs.flatMap baseLetters).filter (!isMark ·)).flatMap lowerChars)

def folded (s : String) : String := String.ofList (foldChars s.toList)

end Citeproc.Text
