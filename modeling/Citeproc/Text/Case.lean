import Citeproc.Text.Case.Mapping
import Citeproc.Text.Case.Property

namespace Citeproc.Text

def meetsCased (cs : List Char) : Bool :=
  match cs.dropWhile isCaseIgnorable with
  | c :: _ => isCased c
  | [] => false

def lowerFrom (before : List Char) : List Char → List Char
  | [] => []
  | c :: cs =>
    let mapped :=
      if c == 'Σ' then
        if meetsCased before && !meetsCased cs then ['ς'] else ['σ']
      else lowerChars c
    mapped ++ lowerFrom (c :: before) cs

def lower (cs : List Char) : List Char := lowerFrom [] cs

def upper (cs : List Char) : List Char := cs.flatMap upperChars

def lowercase (s : String) : String := String.ofList (lower s.toList)

def sameIgnoringAsciiCase (s t : String) : Bool :=
  s.toList.map Char.toLower == t.toList.map Char.toLower

end Citeproc.Text
