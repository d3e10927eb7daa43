import Citeproc.Data.Schema
import Citeproc.Data.Value
import Citeproc.Data.Yaml.Meaning

/-!
Reading YAML. A document is read by a schema: unknown members of records are passed over whatever
they hold, and aliases are followed where their values are asked for.
-/

namespace Citeproc.Data.Yaml

abbrev Follow := StateT Nat Option

def Node.isMissing : Node → Bool
  | .scalar _ style s => style == .plain && s.isEmpty
  | _ => false

def Node.isNull? : Node → Option Bool
  | .scalar tag? .plain s =>
    match tag? with
    | none => some (s.isEmpty || isNullWord s)
    | some .null => if isNullWord s then some true else none
    | some _ => some false
  | _ => some false

def Node.keyword? : Node → Option String
  | .scalar (some (.own (some name))) style s =>
    if style == .plain && (s.isEmpty || isNullWord s) then some name else none
  | .scalar _ _ s => some s
  | _ => none

def Node.truth? : Node → Option Bool
  | .scalar tag? style s =>
    if style == .plain || (style == .literal && tag? == some .bool) then Yaml.truth? s else none
  | _ => none

def isOwn (tag? : Option Tag) : Bool := tag? matches some (.own (some _))

namespace Document

def follow (d : Document) (n : Node) : Follow Node :=
  match n with
  | .aliasOf number => do
    let left ← get
    if left == 0 then failure
    set (left - 1)
    d.targets.lookup number
  | .anchored _ n => pure n
  | n => pure n

def meaning? (d : Document) (depth : Nat) (n : Node) : Follow Meaning := do
  match depth, ← d.follow n with
  | _, .scalar tag? style s => scalarMeaning? tag? style s
  | depth + 1, .sequence tag? items =>
    if isOwn tag? then failure
    items.forM fun item => discard (d.meaning? depth item)
    pure .other
  | depth + 1, .mapping tag? members =>
    if isOwn tag? then failure
    members.forM fun (k, v) => do
      discard (d.meaning? depth k)
      discard (d.meaning? depth v)
    pure .other
  | _, _ => failure

def textMember? (names : List String) (key value : Meaning) : Option (Option (String × Value)) := do
  let name? ←
    match key with
    | .text name => if names.contains name then some (some name) else some none
    | .index n => some names[n]?
    | .other => none
  match name?, value with
  | some name, .text s => pure (some (name, .text s))
  | some _, _ => none
  | none, _ => pure none

def readTexts (d : Document) (depth : Nat) (names : List String) (n : Node) : Follow Value := do
  match depth, ← d.follow n with
  | _, .scalar tag? style s =>
    match scalarMeaning? tag? style s with
    | some (.text s) => pure (.text s)
    | _ => failure
  | depth + 1, .mapping tag? members =>
    if isOwn tag? then failure
    let members ← members.mapM fun (k, v) => do
      pure (← d.meaning? depth k, ← d.meaning? depth v)
    let members ← members.mapM fun (k, v) => textMember? names k v
    pure (.object (members.filterMap id))
  | _, _ => failure

def readText (d : Document) (n : Node) : Follow String := do
  match ← d.follow n with
  | .scalar _ _ s => pure s
  | _ => failure

def readItems (d : Document) (n : Node) : Follow (List Node) := do
  match ← d.follow n with
  | .sequence _ items => pure items
  | n => if n.isMissing then pure [] else failure

def readMembers (d : Document) (n : Node) : Follow (List (Node × Node)) := do
  match ← d.follow n with
  | .mapping _ members => pure members
  | n => if n.isMissing then pure [] else failure

mutual

def read (d : Document) (depth : Nat) : Schema → Node → Follow Value
  | .text, n => do pure (.text (← d.readText n))
  | .flag, n => do pure (.bool (← (← d.follow n).truth?))
  | .keyword, n => do pure (.text (← (← d.follow n).keyword?))
  | .optional schema, n => do
    let n ← d.follow n
    if ← n.isNull? then pure .null else d.read depth schema n
  | .list item, n => do
    pure (.list (← (← d.readItems n).mapM fun n => d.read (depth - 1) item n))
  | .table item, n => do
    pure (.object (← (← d.readMembers n).mapM fun (k, v) => do
      pure (← d.readText k, ← d.read (depth - 1) item v)))
  | .record fields, n => do
    let members ← (← d.readMembers n).mapM fun (k, v) => do
      let name ← d.readText k
      pure ((← d.readField (depth - 1) fields name v).map (name, ·))
    pure (.object (members.filterMap id))
  | .textOrTexts names, n => d.readTexts depth names n

def readField (d : Document) (depth : Nat) :
    List (String × Schema) → String → Node → Follow (Option Value)
  | [], _, _ => pure none
  | (field, schema) :: fields, name, n => do
    if field == name then pure (some (← d.read depth schema n)) else d.readField depth fields name n

end

def maxDepth : Nat := 128

def followLimit : Nat := 100

end Document

def parse? (schema : Schema) (source : String) : Option Value := do
  let d ← Document.ofText? source
  (d.read Document.maxDepth schema d.root).run' (Document.followLimit * d.root.size)

end Citeproc.Data.Yaml
