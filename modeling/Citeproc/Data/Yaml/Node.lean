import Citeproc.Data.Yaml.Token
import Citeproc.Table

namespace Citeproc.Data.Yaml

inductive Node
  | scalar (tag : Option Tag) (style : Style) (text : String)
  | sequence (tag : Option Tag) (items : List Node)
  | mapping (tag : Option Tag) (members : List (Node × Node))
  | aliasOf (number : Nat)
  | anchored (number : Nat) (node : Node)
  deriving Repr, Inhabited

namespace Node

def missing : Node := .scalar none .plain ""

mutual

def size : Node → Nat
  | scalar _ _ _ => 1
  | sequence _ items => sizeAll items + 2
  | mapping _ members => sizeMembers members + 2
  | aliasOf _ => 1
  | anchored _ node => node.size

def sizeAll : List Node → Nat
  | [] => 0
  | n :: ns => n.size + sizeAll ns

def sizeMembers : List (Node × Node) → Nat
  | [] => 0
  | (k, v) :: rest => k.size + v.size + sizeMembers rest

end

mutual

def anchors : Node → List (Nat × Node)
  | scalar _ _ _ => []
  | sequence _ items => anchorsAll items
  | mapping _ members => anchorsMembers members
  | aliasOf _ => []
  | anchored number node => (number, node) :: node.anchors

def anchorsAll : List Node → List (Nat × Node)
  | [] => []
  | n :: ns => n.anchors ++ anchorsAll ns

def anchorsMembers : List (Node × Node) → List (Nat × Node)
  | [] => []
  | (k, v) :: rest => k.anchors ++ v.anchors ++ anchorsMembers rest

end

end Node

/-- The tokens that are left, and the numbers of the anchors met so far. An anchor gets as its
number how many names are in use, so a name that is taken again leaves its old number unused and
the new one to be given once more. -/
structure TokenStream where
  tokens : List Token
  numbers : Table Nat := []

namespace TokenStream

abbrev Reader := StateT TokenStream Option

def peek : Reader Token := do (← get).tokens.head?

def skip : Reader Unit := modify fun s => { s with tokens := s.tokens.drop 1 }

def takes (t : Token) : Reader Bool := do
  if (← peek) == t then
    skip
    pure true
  else pure false

def expect (t : Token) : Reader Unit := do
  if !(← takes t) then failure

def readAnchor : Reader (Option Nat) := do
  match ← peek with
  | .anchor name =>
    let number := (← get).numbers.length
    modify fun s => { s with tokens := s.tokens.drop 1, numbers := s.numbers.put name number }
    pure (some number)
  | _ => pure none

def readTag (handles : Handles) : Reader (Option Octets) := do
  match ← peek with
  | .tag text =>
    skip
    match text.resolve? handles with
    | some address => pure (some address)
    | none => failure
  | _ => pure none

def readProperties (handles : Handles) : Reader (Option Nat × Option Octets) := do
  match ← readAnchor with
  | some number => pure (some number, ← readTag handles)
  | none =>
    let address ← readTag handles
    if address.isSome then pure (← readAnchor, address) else pure (none, none)

structure Place where
  isBlock : Bool
  isOutdented : Bool := false

mutual

def readNode (handles : Handles) : Nat → Place → Reader Node
  | 0, _ => failure
  | fuel + 1, place => do
    match ← peek with
    | .aliasOf name =>
      skip
      match (← get).numbers.lookup name with
      | some number => pure (.aliasOf number)
      | none => failure
    | _ =>
      let (number?, address?) ← readProperties handles
      let node ← readContent handles fuel place address? (number?.isSome || address?.isSome)
      pure (number?.elim node (.anchored · node))

def readContent (handles : Handles) : Nat → Place → Option Octets → Bool → Reader Node
  | 0, _, _, _ => failure
  | fuel + 1, place, address?, isMarked => do
    let tag? := address?.map Tag.ofAddress
    match ← peek with
    | .item =>
      if place.isOutdented then pure (.sequence tag? (← readOutdented handles fuel))
      else if isMarked then pure (.scalar tag? .plain "")
      else failure
    | .scalar style text =>
      skip
      pure (.scalar (if address? == some (octetsOf "!") then none else tag?) style text)
    | .flowSequence =>
      skip
      pure (.sequence tag? (← readFlowItems handles fuel true))
    | .flowMapping =>
      skip
      pure (.mapping tag? (← readFlowMembers handles fuel true))
    | .blockSequence =>
      if place.isBlock then
        skip
        pure (.sequence tag? (← readItems handles fuel))
      else if isMarked then pure (.scalar tag? .plain "")
      else failure
    | .blockMapping =>
      if place.isBlock then
        skip
        pure (.mapping tag? (← readMembers handles fuel))
      else if isMarked then pure (.scalar tag? .plain "")
      else failure
    | _ => if isMarked then pure (.scalar tag? .plain "") else failure

def readUnless (handles : Handles) : Nat → List Token → Place → Reader Node
  | 0, _, _ => failure
  | fuel + 1, ends, place => do
    if ends.contains (← peek) then pure .missing else readNode handles fuel place

def readItems (handles : Handles) : Nat → Reader (List Node)
  | 0 => failure
  | fuel + 1 => do
    if ← takes .item then
      let item ← readUnless handles fuel [.item, .blockEnd] { isBlock := true }
      pure (item :: (← readItems handles fuel))
    else
      expect .blockEnd
      pure []

def readOutdented (handles : Handles) : Nat → Reader (List Node)
  | 0 => failure
  | fuel + 1 => do
    if ← takes .item then
      let item ← readUnless handles fuel [.item, .key, .value, .blockEnd] { isBlock := true }
      pure (item :: (← readOutdented handles fuel))
    else pure []

def readMembers (handles : Handles) : Nat → Reader (List (Node × Node))
  | 0 => failure
  | fuel + 1 => do
    let ends := [Token.key, .value, .blockEnd]
    let place : Place := { isBlock := true, isOutdented := true }
    if ← takes .key then
      let key ← readUnless handles fuel ends place
      let value ← if ← takes .value then readUnless handles fuel ends place else pure .missing
      pure ((key, value) :: (← readMembers handles fuel))
    else
      expect .blockEnd
      pure []

def readFlowItems (handles : Handles) : Nat → Bool → Reader (List Node)
  | 0, _ => failure
  | fuel + 1, isFirst => do
    if ← takes .flowSequenceEnd then pure []
    else
      if !isFirst then expect .comma
      if ← takes .key then
        let key ← readFlowKey handles fuel
        let value ←
          if ← takes .value then
            readUnless handles fuel [.comma, .flowSequenceEnd] { isBlock := false }
          else pure .missing
        pure (.mapping none [(key, value)] :: (← readFlowItems handles fuel false))
      else if ← takes .flowSequenceEnd then pure []
      else
        let item ← readNode handles fuel { isBlock := false }
        pure (item :: (← readFlowItems handles fuel false))

def readFlowKey (handles : Handles) : Nat → Reader Node
  | 0 => failure
  | fuel + 1 => do
    if [Token.value, .comma, .flowSequenceEnd].contains (← peek) then
      skip
      pure .missing
    else readNode handles fuel { isBlock := false }

def readFlowMembers (handles : Handles) : Nat → Bool → Reader (List (Node × Node))
  | 0, _ => failure
  | fuel + 1, isFirst => do
    if ← takes .flowMappingEnd then pure []
    else
      if !isFirst then expect .comma
      if ← takes .key then
        let key ← readUnless handles fuel [.value, .comma, .flowMappingEnd] { isBlock := false }
        let value ←
          if ← takes .value then
            readUnless handles fuel [.comma, .flowMappingEnd] { isBlock := false }
          else pure .missing
        pure ((key, value) :: (← readFlowMembers handles fuel false))
      else if ← takes .flowMappingEnd then pure []
      else
        let key ← readNode handles fuel { isBlock := false }
        pure ((key, .missing) :: (← readFlowMembers handles fuel false))

end

def readDirectives : Nat → Bool → Handles → Reader Handles
  | 0, _, _ => failure
  | fuel + 1, hasVersion, declared => do
    match ← peek with
    | .version major minor =>
      if hasVersion || major != 1 || (minor != 1 && minor != 2) then failure
      skip
      readDirectives fuel true declared
    | .handle name address =>
      if (declared.lookup name).isSome then failure
      skip
      readDirectives fuel hasVersion (declared ++ [(name, address)])
    | _ => pure declared

def skipEnds : Nat → Reader Unit
  | 0 => failure
  | fuel + 1 => do if ← takes .documentEnd then skipEnds fuel

def readDocument (fuel : Nat) : Reader Node := do
  let node ←
    match ← peek with
    | .streamEnd => pure .missing
    | .documentStart => readMarked
    | .version _ _ => readMarked
    | .handle _ _ => readMarked
    | _ => readNode .given fuel { isBlock := true }
  skipEnds fuel
  expect .streamEnd
  pure node
where
  readMarked : Reader Node := do
    let declared ← readDirectives fuel false []
    expect .documentStart
    match ← peek with
    | .streamEnd => pure .missing
    | .documentStart => pure .missing
    | .documentEnd => pure .missing
    | .version _ _ => pure .missing
    | .handle _ _ => pure .missing
    | _ => readNode (declared ++ .given) fuel { isBlock := true }

end TokenStream

structure Document where
  root : Node
  targets : List (Nat × Node)

def Document.ofText? (source : String) : Option Document := do
  let tokens ← Token.ofText? source
  let (root, _) ← (TokenStream.readDocument (3 * tokens.length + 3)).run { tokens }
  pure { root, targets := root.anchors.reverse }

end Citeproc.Data.Yaml
