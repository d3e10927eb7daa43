import Citeproc.Table

namespace Citeproc.Data

inductive Number
  | int (n : Int)
  | binary (bits : UInt64)
  deriving Repr, DecidableEq, Inhabited

inductive Value
  | null
  | bool (b : Bool)
  | number (n : Number)
  | text (s : String)
  | unfit
  | list (items : List Value)
  | object (members : List (String × Value))
  deriving Repr, Inhabited

namespace Value

def member? (v : Value) (name : String) : Option Value :=
  match v with
  | .object members => members.reverse.lookup name
  | _ => none

def text? : Value → Option String
  | .text s => some s
  | _ => none

def bool? : Value → Option Bool
  | .bool b => some b
  | _ => none

def isNull : Value → Bool
  | .null => true
  | _ => false

def natural? (limit : Nat) : Value → Option Nat
  | .number (.int n) => if 0 ≤ n && n ≤ limit then some n.toNat else none
  | _ => none

def int? : Value → Option Int
  | .number (.int n) => some n
  | _ => none

def list? : Value → Option (List Value)
  | .list items => some items
  | _ => none

def members? : Value → Option (List (String × Value))
  | .object members => some members
  | _ => none

def maxDepth : Nat := 128

mutual

def fits (depth : Nat) : Value → Bool
  | .unfit => false
  | .list items => 1 < depth && fitsAll (depth - 1) items
  | .object members => 1 < depth && fitsMembers (depth - 1) members
  | _ => true

def fitsAll (depth : Nat) : List Value → Bool
  | [] => true
  | v :: vs => fits depth v && fitsAll depth vs

def fitsMembers (depth : Nat) : List (String × Value) → Bool
  | [] => true
  | (_, v) :: rest => fits depth v && fitsMembers depth rest

end

def insertMember (name : String) (v : Value) : List (String × Value) → List (String × Value)
  | [] => [(name, v)]
  | (k, w) :: rest =>
    if name == k then (name, v) :: rest
    else if name < k then (name, v) :: (k, w) :: rest
    else (k, w) :: insertMember name v rest

mutual

def sorted : Value → Value
  | .list items => .list (sortedAll items)
  | .object members => .object (sortedMembers [] members)
  | v => v

def sortedAll : List Value → List Value
  | [] => []
  | v :: vs => sorted v :: sortedAll vs

def sortedMembers (done : List (String × Value)) : List (String × Value) → List (String × Value)
  | [] => done
  | (name, v) :: rest => sortedMembers (insertMember name (sorted v) done) rest

end

end Value

end Citeproc.Data
