import Citeproc.Markup.Text

namespace Citeproc.Markup

structure Attribute where
  space : Option String
  name : String
  value : String
  deriving Repr, DecidableEq, Inhabited

inductive Node
  | element (name : String) (attributes : List Attribute) (children : List Node)
  | text (content : String)
  | comment
  | instruction
  deriving Repr, Inhabited

structure Element where
  name : String
  attributes : List Attribute
  children : List Node
  deriving Repr, Inhabited

def Node.element? : Node → Option Element
  | .element name attributes children => some ⟨name, attributes, children⟩
  | _ => none

namespace Element

def elements (e : Element) : List Element := e.children.filterMap Node.element?

def attribute? (e : Element) (name : String) : Option String :=
  (e.attributes.find? fun a => a.space.isNone && a.name == name).map (·.value)

def scoped? (e : Element) (space name : String) : Option String :=
  (e.attributes.find? fun a => a.space == some space && a.name == name).map (·.value)

def leadingText (e : Element) : String :=
  match e.children with
  | .text content :: _ => content
  | _ => ""

end Element

abbrev Scopes := List (String × String)

def w3Name (path : String) : String := "http:" ++ "//www.w3.org/" ++ path

def xmlSpace : String := w3Name "XML/1998/namespace"

def xmlnsSpace : String := w3Name "2000/xmlns/"

def bindScope (own : Scopes) (a : ScopedName) (value : String) : Except Malformed Scopes :=
  if a.scope == "xmlns" then
    if value == xmlnsSpace || (a.name == "xml") != (value == xmlSpace) then
      .error (.reservedScope a.name)
    else if own.any (·.1 == a.name) then .error (.repeatedAttribute a.name)
    else if value == xmlSpace then .ok own
    else .ok (own ++ [(a.name, value)])
  else if value == xmlSpace || value == xmlnsSpace then .error (.reservedScope "")
  else .ok (own ++ [("", value)])

def lookupScope (scopes : Scopes) (scope : String) : Except Malformed (Option String) :=
  match scopes.lookup scope with
  | some space => .ok (some space)
  | none => if scope.isEmpty then .ok none else .error (.unboundScope scope)

def bindScopes (own : Scopes) : List RawAttribute →
    Except Malformed (Scopes × List (ScopedName × String))
  | [] => .ok (own, [])
  | a :: rest => do
    let value ← resolveValue a.value
    if a.key.scope == "xmlns" || a.key.name == "xmlns" then
      bindScopes (← bindScope own a.key value) rest
    else
      let (scopes, others) ← bindScopes own rest
      pure (scopes, (a.key, value) :: others)

def resolveAttributes (scopes : Scopes) (seen : List Attribute) :
    List (ScopedName × String) → Except Malformed (List Attribute)
  | [] => .ok seen.reverse
  | (key, value) :: rest => do
    let space ←
      if key.scope == "xml" then pure (some xmlSpace)
      else if key.scope.isEmpty then pure none
      else lookupScope scopes key.scope
    if seen.any fun a => a.space == space && a.name == key.name then
      throw (.repeatedAttribute key.name)
    resolveAttributes scopes (⟨space, key.name, value⟩ :: seen) rest

structure OpenElement where
  tag : ScopedName
  attributes : List Attribute
  children : List Node
  scopes : Scopes

structure Progress where
  stack : List OpenElement := []
  root : Option Element := none

namespace Progress

def pushNode (p : Progress) (node : Node) : Progress :=
  match p.stack with
  | [] => p
  | top :: rest => { p with stack := { top with children := node :: top.children } :: rest }

def pushText (p : Progress) (content : String) : Progress :=
  match p.stack with
  | [] => p
  | top :: rest =>
    let children :=
      match top.children with
      | .text before :: others => .text (before ++ content) :: others
      | children => .text content :: children
    { p with stack := { top with children } :: rest }

def close (p : Progress) (e : Element) : Progress :=
  match p.stack with
  | [] => { p with root := some e }
  | _ => p.pushNode (.element e.name e.attributes e.children)

def step (p : Progress) : Token → Except Malformed Progress
  | .comment => .ok (p.pushNode .comment)
  | .instruction => .ok (p.pushNode .instruction)
  | .text raw =>
    if p.stack.isEmpty then
      if raw.all isSpace then .ok p else .error .strayText
    else do
      pure (p.pushText (String.ofList (← resolveText raw)))
  | .verbatim raw =>
    if p.stack.isEmpty then .error .strayText
    else .ok (p.pushText (String.ofList (resolveVerbatim raw)))
  | .start tag raw closed => do
    if p.stack.isEmpty && p.root.isSome then throw .secondRoot
    if tag.scope == "xmlns" then throw (.reservedScope "xmlns")
    let outer := (p.stack.head?.map (·.scopes)).getD []
    let (own, others) ← bindScopes [] raw
    let scopes := own ++ outer
    let attributes ← resolveAttributes scopes [] others
    let _ ← lookupScope scopes tag.scope
    if closed then pure (p.close ⟨tag.name, attributes, []⟩)
    else pure { p with stack := ⟨tag, attributes, [], scopes⟩ :: p.stack }
  | .stop tag =>
    match p.stack with
    | [] => .error (.mismatchedTag tag.name)
    | top :: rest =>
      if top.tag == tag then
        .ok ({ p with stack := rest }.close ⟨tag.name, top.attributes, top.children.reverse⟩)
      else .error (.mismatchedTag tag.name)

end Progress

def Element.ofTokens (tokens : List Token) : Except Malformed Element := do
  let p ← tokens.foldlM Progress.step {}
  unless p.stack.isEmpty do throw .unclosedTag
  match p.root with
  | some root => pure root
  | none => throw .missingRoot

def Element.parse (source : String) : Except Malformed Element := do
  Element.ofTokens (← Token.scan source)

end Citeproc.Markup
