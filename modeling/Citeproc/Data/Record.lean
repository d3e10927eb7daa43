import Citeproc.Data.Value
import Citeproc.Style.Keyword

namespace Citeproc.Data

structure Record where
  named : Bool
  members : List (String × Value)

namespace Value

def record? (fields : List String) (v : Value) : Option Record :=
  match v with
  | .list values => if values.length ≤ fields.length then some ⟨false, fields.zip values⟩ else none
  | v => do
    let known := (← v.members?).filter (fields.contains ·.1)
    if (known.map (·.1)).Nodup then some ⟨true, known⟩ else none

def keyword? {α : Type} [Keyword α] (v : Value) : Option α :=
  match v with
  | .object [(word, .null)] => Keyword.read? word
  | v => v.text?.bind Keyword.read?

def listOf? {α : Type} (read : Value → Option α) (v : Value) : Option (List α) :=
  v.list?.bind (·.mapM read)

def tableOf? {α : Type} (read : Value → Option α) (v : Value) : Option (Table α) := do
  let members ← v.members?
  members.foldlM (fun table (name, v) => do pure (table.put name (← read v))) []

end Value

namespace Record

variable {α : Type}

def required (r : Record) (name : String) (read : Value → Option α) : Option α :=
  (r.members.lookup name).bind read

def optional (r : Record) (name : String) (read : Value → Option α) : Option (Option α) :=
  match r.members.lookup name with
  | none => if r.named then some none else none
  | some v => if v.isNull then some none else (read v).map some

def nullable (r : Record) (name : String) (read : Value → Option α) : Option (Option α) :=
  match r.members.lookup name with
  | none => some none
  | some v => if v.isNull then some none else (read v).map some

def withDefault (r : Record) (name : String) (read : Value → Option α) (default : α) : Option α :=
  match r.members.lookup name with
  | none => some default
  | some v => read v

end Record

def present (members : List (String × Option Value)) : Value :=
  .object (members.filterMap fun (name, v?) => v?.map (name, ·))

end Citeproc.Data
