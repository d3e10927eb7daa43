import Citeproc.Style.Rendering

/-!
Rendered output: a tree of texts with formatting, from which every output format is written. Tags
mark the spans that later passes look for.
-/

namespace Citeproc

inductive Tag
  | names (var : String)
  | yearSuffix (letter : Char)
  | citationNumber (n : Nat)
  deriving Repr, DecidableEq, Inhabited

inductive Output
  | null
  | text (s : String)
  | seq (items : List Output)
  | formatted (formatting : Formatting) (quotes : Bool) (display : Option Display) (child : Output)
  | tagged (tag : Tag) (child : Output)
  deriving Repr, Inhabited

namespace Output

mutual

def isEmpty : Output → Bool
  | null => true
  | text s => s.isEmpty
  | seq items => allEmpty items
  | formatted _ _ _ child => isEmpty child
  | tagged _ child => isEmpty child

def allEmpty : List Output → Bool
  | [] => true
  | o :: os => isEmpty o && allEmpty os

end

mutual

def leaves : Output → List String
  | null => []
  | text s => [s]
  | seq items => leavesAll items
  | formatted _ _ _ child => leaves child
  | tagged _ child => leaves child

def leavesAll : List Output → List String
  | [] => []
  | o :: os => leaves o ++ leavesAll os

end

def plain (o : Output) : String := String.join o.leaves

def firstChar? (o : Output) : Option Char := o.plain.toList.head?

def lastChar? (o : Output) : Option Char := o.plain.toList.getLast?

def ofText (s : String) : Output := if s.isEmpty then null else text s

def ofList (items : List Output) : Output :=
  match items.filter (!·.isEmpty) with
  | [] => null
  | [o] => o
  | os => seq os

def join (items : List Output) (delimiter : String) : Output :=
  let items := items.filter (!·.isEmpty)
  ofList (if delimiter.isEmpty then items else items.intersperse (text delimiter))

def withTag (tag : Tag) (o : Output) : Output := if o.isEmpty then null else tagged tag o

def withAffixes (o : Output) (before after : Option String) : Output :=
  let before := before.getD ""
  let after := after.getD ""
  if o.isEmpty || (before.isEmpty && after.isEmpty) then o
  else ofList [ofText before, o, ofText after]

def withFormat (o : Output) (formatting : Formatting) (quotes : Bool) (display : Option Display) :
    Output :=
  if o.isEmpty || (formatting.isEmpty && !quotes && display.isNone) then o
  else formatted formatting quotes display o

mutual

def findTag? (p : Tag → Bool) : Output → Option Output
  | null => none
  | text _ => none
  | seq items => findTagIn? p items
  | formatted _ _ _ child => findTag? p child
  | tagged tag child => if p tag then some (tagged tag child) else findTag? p child

def findTagIn? (p : Tag → Bool) : List Output → Option Output
  | [] => none
  | o :: os => findTag? p o <|> findTagIn? p os

end

def firstNames? (o : Output) : Option Output :=
  o.findTag? fun | .names _ => true | _ => false

def yearSuffix? (o : Output) : Option Output :=
  o.findTag? fun | .yearSuffix _ => true | _ => false

def citationNumber? (o : Output) : Option Nat :=
  match o.findTag? fun | .citationNumber _ => true | _ => false with
  | some (tagged (.citationNumber n) _) => some n
  | _ => none

mutual

def mapTexts {σ : Type} (f : σ → String → String × σ) (st : σ) : Output → Output × σ
  | null => (null, st)
  | text s =>
    let (s, st) := f st s
    (text s, st)
  | seq items =>
    let (items, st) := mapTextsIn f st items
    (seq items, st)
  | formatted formatting quotes display child =>
    let (child, st) := mapTexts f st child
    (formatted formatting quotes display child, st)
  | tagged tag child =>
    let (child, st) := mapTexts f st child
    (tagged tag child, st)

def mapTextsIn {σ : Type} (f : σ → String → String × σ) (st : σ) :
    List Output → List Output × σ
  | [] => ([], st)
  | o :: os =>
    let (o, st) := mapTexts f st o
    let (os, st) := mapTextsIn f st os
    (o :: os, st)

end

end Output

end Citeproc
