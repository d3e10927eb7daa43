import Citeproc.Style.Vocabulary
import Citeproc.Text.Blank
import Citeproc.Text.Case
import Citeproc.Text.Word

namespace Citeproc.Text

def minorWords : List (List Char) :=
  ["a", "an", "and", "as", "at", "but", "by", "down", "for", "from", "in", "into", "nor", "of", "on",
    "onto", "or", "over", "so", "the", "till", "to", "up", "via", "with", "yet"].map String.toList

def mapWordsFrom (f : Nat → List Char → List Char) (index : Nat) (word : List Char) :
    List Char → List Char
  | [] => if word.isEmpty then [] else f index word.reverse
  | c :: cs =>
    if isBlank c then
      if word.isEmpty then c :: mapWordsFrom f index [] cs
      else f index word.reverse ++ c :: mapWordsFrom f (index + 1) [] cs
    else mapWordsFrom f index (c :: word) cs

def mapWords (f : Nat → List Char → List Char) (cs : List Char) : List Char :=
  mapWordsFrom f 0 [] cs

def capitalize : List Char → List Char
  | [] => []
  | c :: cs => if isLetter c then upperChars c ++ cs else c :: capitalize cs

def sentenceCase (cs : List Char) (atStart : Bool) : List Char :=
  let base := if cs.any isLetter && !cs.any isLowercase then lower cs else cs
  if atStart then capitalize base else base

def titleCase (cs : List Char) (atStart : Bool) : List Char :=
  mapWords (fun index word =>
    if word.any isUppercase then word
    else if (index != 0 || !atStart) && minorWords.contains (word.filter isAlphanumeric) then word
    else capitalize word) cs

def withCase (case : TextCase) (cs : List Char) (atStart : Bool) : List Char :=
  match case with
  | .lowercase => lower cs
  | .uppercase => upper cs
  | .capitalizeFirst => if atStart then capitalize cs else cs
  | .capitalizeAll => mapWords (fun _ => capitalize) cs
  | .sentence => sentenceCase cs atStart
  | .title => titleCase cs atStart

def applyCase (case : TextCase) (s : String) (atStart : Bool) : String × Bool :=
  (String.ofList (withCase case s.toList atStart), atStart && !s.toList.any isAlphanumeric)

end Citeproc.Text
