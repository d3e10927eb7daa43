import Citeproc.Locale.Basic
import Citeproc.Number.Roman
import Citeproc.Text.Blank
import Citeproc.Text.Digit
import Citeproc.Text.Word

namespace Citeproc.Number

def isNumeric (value : String) : Bool := value.toList.head?.any Char.isDigit

def isSeparator (c : Char) : Bool := c == '-' || c == '–' || c == ',' || c == '&'

def afterSeparator? : List Char → Option (List Char)
  | 'a' :: 'n' :: 'd' :: cs => some cs
  | c :: cs => if isSeparator c then some cs else none
  | [] => none

def isListFrom : Nat → List Char → Bool
  | 0, _ => false
  | fuel + 1, cs =>
    let cs := Text.trimLeft cs
    let rest := Text.trimLeft (cs.dropWhile Text.isDecimalDigit)
    cs.head?.any Text.isDecimalDigit &&
      (rest.isEmpty || (afterSeparator? rest).any (isListFrom fuel))

def isList (value : List Char) : Bool := isListFrom (value.length + 1) value

def joinsNext : List Char → Bool
  | [] => false
  | c :: cs =>
    let startsWord (cs : List Char) : Bool := (Text.trimLeft cs).head?.any Text.isWordChar
    Text.isWordChar c &&
      match Text.trimLeft cs with
      | 'a' :: 'n' :: 'd' :: rest =>
        cs.head?.any Text.isBlank && rest.head?.any Text.isBlank && startsWord rest
      | d :: rest => (isSeparator d || d == ';') && startsWord rest
      | [] => false

def joinsSomewhere : List Char → Bool
  | [] => false
  | c :: cs => joinsNext (c :: cs) || joinsSomewhere cs

def isMultiple (value : String) : Bool := joinsSomewhere value.toList

inductive Piece
  | digits (cs : List Char)
  | between (cs : List Char)
  deriving Repr, DecidableEq

def Piece.chars : Piece → List Char
  | digits cs => cs
  | between cs => cs

def pieces : List Char → List Piece
  | [] => []
  | c :: cs =>
    match Text.isDecimalDigit c, pieces cs with
    | true, .digits run :: rest => .digits (c :: run) :: rest
    | true, rest => .digits [c] :: rest
    | false, .between run :: rest => .between (c :: run) :: rest
    | false, rest => .between [c] :: rest

theorem flatMap_chars_pieces (cs : List Char) : (pieces cs).flatMap Piece.chars = cs := by
  induction cs with
  | nil => rfl
  | cons c cs ih =>
    unfold pieces
    split <;> simp_all [Piece.chars]

def runValue (cs : List Char) : Nat := (Text.natural? Text.maxInteger cs).getD 0

def formatRun (form : NumberForm) (locale : Locale) (cs : List Char) : String :=
  let n := runValue cs
  match form with
  | .numeric => String.ofList cs
  | .ordinal => locale.ordinal n
  | .longOrdinal => locale.longOrdinal n
  | .roman => if n ≤ Text.maxHalfWord then Roman.ofNat n else String.ofList cs

def formatBetween (cs : List Char) : String :=
  let bare := Text.trim cs
  if bare.all (· == '-') && bare.contains '-' then "–" else String.ofList cs

def formatPieces (form : NumberForm) (locale : Locale) : List Piece → String
  | [] => ""
  | [.between cs] => String.ofList cs
  | .digits cs :: rest => formatRun form locale cs ++ formatPieces form locale rest
  | .between cs :: rest => formatBetween cs ++ formatPieces form locale rest

def format (value : String) (form : NumberForm) (locale : Locale) : String :=
  if isList value.toList then formatPieces form locale (pieces value.toList) else value

def sortText? (value : String) : Option String :=
  (Text.natural? Text.maxWord (Text.trim value.toList)).map (Text.padded 10)

end Citeproc.Number
