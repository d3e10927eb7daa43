import Citeproc.Markup.Name

/-!
Lexical tokens of a document. `Token.scan` cuts a text into its tokens; what the tokens nest to is
decided in `Citeproc.Markup.Element`.
-/

namespace Citeproc.Markup

inductive Malformed
  | unexpectedEnd
  | unexpected (c : Char)
  | badCharacter (c : Char)
  | badName
  | badComment
  | badReference
  | strayText
  | misplacedDeclaration
  | mismatchedTag (name : String)
  | unclosedTag
  | missingRoot
  | secondRoot
  | unboundScope (scope : String)
  | reservedScope (scope : String)
  | repeatedAttribute (name : String)
  deriving Repr, DecidableEq

structure ScopedName where
  scope : String
  name : String
  deriving Repr, DecidableEq, Inhabited

structure RawAttribute where
  key : ScopedName
  value : List Char
  deriving Repr, DecidableEq, Inhabited

inductive Token
  | start (name : ScopedName) (attributes : List RawAttribute) (closed : Bool)
  | stop (name : ScopedName)
  | text (raw : List Char)
  | verbatim (raw : List Char)
  | comment
  | instruction
  deriving Repr, DecidableEq, Inhabited

def skipSpaces (cs : List Char) : List Char := cs.dropWhile isSpace

def expect : List Char → List Char → Except Malformed (List Char)
  | [], cs => .ok cs
  | _ :: _, [] => .error .unexpectedEnd
  | e :: es, c :: cs => if e == c then expect es cs else .error (.unexpected c)

def takeUntil (stops : List Char → Bool) : List Char → Except Malformed (List Char × List Char)
  | [] => .ok ([], [])
  | c :: cs =>
    if !isDocumentChar c then .error (.badCharacter c)
    else if stops (c :: cs) then .ok ([], c :: cs)
    else do
      let (run, rest) ← takeUntil stops cs
      pure (c :: run, rest)

def startsWith (opening : String) (cs : List Char) : Bool := opening.toList.isPrefixOf cs

def takeThrough (closing : String) (cs : List Char) : Except Malformed (List Char × List Char) := do
  let (run, rest) ← takeUntil (startsWith closing) cs
  let rest ← expect closing.toList rest
  pure (run, rest)

def scanName (cs : List Char) : Except Malformed (String × List Char) :=
  match cs with
  | [] => .error .badName
  | c :: _ =>
    if startsName c then .ok (String.ofList (cs.takeWhile inName), cs.dropWhile inName)
    else .error .badName

def scanScopedName (cs : List Char) : Except Malformed (ScopedName × List Char) :=
  let run := cs.takeWhile inName
  let rest := cs.dropWhile inName
  let startsWell (part : List Char) : Bool := part.head?.any startsName
  if run.count ':' > 1 then .error .badName
  else
    let (scope, name) :=
      if run.contains ':' then
        (run.takeWhile (· != ':'), (run.dropWhile (· != ':')).drop 1)
      else ([], run)
    if startsWell name && (scope.isEmpty || startsWell scope) then
      .ok (⟨String.ofList scope, String.ofList name⟩, rest)
    else .error .badName

def scanAttribute (cs : List Char) : Except Malformed (RawAttribute × List Char) := do
  let (key, rest) ← scanScopedName cs
  let rest ← expect ['='] (skipSpaces rest)
  match skipSpaces rest with
  | [] => .error .unexpectedEnd
  | quote :: rest =>
    if quote != '"' && quote != '\'' then .error (.unexpected quote)
    else
      let (value, rest) ← takeUntil (fun cs => cs.head?.any fun c => c == quote || c == '<') rest
      let rest ← expect [quote] rest
      pure (⟨key, value⟩, rest)

def scanAttributes : Nat → List Char → Except Malformed ((List RawAttribute × Bool) × List Char)
  | 0, _ => .error .unexpectedEnd
  | fuel + 1, cs =>
    match skipSpaces cs with
    | [] => .error .unexpectedEnd
    | '/' :: rest => do
      let rest ← expect ['>'] rest
      pure (([], true), rest)
    | '>' :: rest => .ok (([], false), rest)
    | c :: rest => do
      unless cs.head?.any isSpace do throw (.unexpected c)
      let (a, rest) ← scanAttribute (c :: rest)
      let ((attributes, closed), rest) ← scanAttributes fuel rest
      pure ((a :: attributes, closed), rest)

def scanComment (cs : List Char) : Except Malformed (Token × List Char) := do
  let (run, rest) ← takeThrough "-->" cs
  if startsWith "--" run || run.getLast? == some '-' || hasDoubleHyphen run then
    throw .badComment
  pure (.comment, rest)
where
  hasDoubleHyphen : List Char → Bool
    | '-' :: '-' :: _ => true
    | _ :: cs => hasDoubleHyphen cs
    | [] => false

def scanInstruction (cs : List Char) : Except Malformed (Token × List Char) := do
  let (_, rest) ← scanName cs
  let (_, rest) ← takeThrough "?>" (skipSpaces rest)
  pure (.instruction, rest)

def holdsCloser : List Char → Bool
  | ']' :: ']' :: '>' :: _ => true
  | _ :: cs => holdsCloser cs
  | [] => false

def scanToken (fuel : Nat) (cs : List Char) : Except Malformed (Token × List Char) :=
  if startsWith "<!--" cs then scanComment (cs.drop 4)
  else if startsWith "<![CDATA[" cs then do
    let (run, rest) ← takeThrough "]]>" (cs.drop 9)
    pure (.verbatim run, rest)
  else if startsWith "<?xml " cs then .error .misplacedDeclaration
  else if startsWith "<?" cs then scanInstruction (cs.drop 2)
  else if startsWith "</" cs then do
    let (name, rest) ← scanScopedName (cs.drop 2)
    let rest ← expect ['>'] (skipSpaces rest)
    pure (.stop name, rest)
  else if startsWith "<" cs then do
    let (name, rest) ← scanScopedName (cs.drop 1)
    let ((attributes, closed), rest) ← scanAttributes fuel rest
    pure (.start name attributes closed, rest)
  else do
    let (run, rest) ← takeUntil (startsWith "<") cs
    if holdsCloser run then throw .strayText
    pure (.text run, rest)

def scanTokens : Nat → List Char → Except Malformed (List Token)
  | _, [] => .ok []
  | 0, _ => .error .unexpectedEnd
  | fuel + 1, c :: cs => do
    let (token, rest) ← scanToken (fuel + 1) (c :: cs)
    let tokens ← scanTokens fuel rest
    pure (token :: tokens)

def skipDeclaration (cs : List Char) : Except Malformed (List Char) := do
  let rest ← expect "<?xml".toList cs
  let rest ← spaced rest
  unless startsWith "version" rest do throw .misplacedDeclaration
  let (_, rest) ← scanAttribute rest
  let rest ← spaced rest
  let rest ←
    if startsWith "encoding" rest then do
      let (_, rest) ← scanAttribute rest
      spaced rest
    else pure rest
  let rest ← if startsWith "standalone" rest then (·.2) <$> scanAttribute rest else pure rest
  expect "?>".toList (skipSpaces rest)
where
  spaced (cs : List Char) : Except Malformed (List Char) :=
    match cs with
    | [] => .ok []
    | c :: _ =>
      if isSpace c then .ok (skipSpaces cs)
      else if startsWith "?>" cs then .ok cs
      else .error (.unexpected c)

def Token.scan (source : String) : Except Malformed (List Token) := do
  let cs := source.toList
  let cs := if cs.head? == some '\ufeff' then cs.drop 1 else cs
  let cs ← if startsWith "<?xml " cs then skipDeclaration cs else pure cs
  scanTokens cs.length cs

end Citeproc.Markup
