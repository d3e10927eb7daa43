import Citeproc.Entry.Kind
import Citeproc.Table

namespace Citeproc

structure Name where
  family : Option String := none
  given : Option String := none
  particle : Option String := none
  suffix : Option String := none
  literal : Option String := none
  deriving Repr, DecidableEq, Inhabited

namespace Name

def person (family given : String) : Name :=
  { family := some family, given := if given.isEmpty then none else some given }

def ofLiteral (literal : String) : Name := { literal := some literal }

def isInstitution (n : Name) : Bool := n.literal.isSome || (n.given.getD "").isEmpty

def familyOrLiteral (n : Name) : String := (n.literal <|> n.family).getD ""

end Name

structure Entry where
  id : String
  type : String
  fields : Table String := []
  names : Table (List Name) := []
  deriving Repr, DecidableEq, Inhabited

namespace Entry

def withField (e : Entry) (key value : String) : Entry :=
  { e with fields := e.fields.put key value }

def withNames (e : Entry) (role : String) (names : List Name) : Entry :=
  { e with names := e.names.put role names }

def field? (e : Entry) (key : String) : Option String :=
  (e.fields.get? key).filter (!·.isEmpty)

def names? (e : Entry) (role : String) : Option (List Name) :=
  (e.names.get? role).filter (!·.isEmpty)

def cslType (e : Entry) : String := canonicalType e.type

theorem field?_withField (e : Entry) (key name value : String) (h : value.isEmpty = false) :
    (e.withField key value).field? name = if name = key then some value else e.field? name := by
  simp only [withField, field?, Table.get?_put]
  split <;> simp [h]

end Entry

abbrev Bibliography := Table Entry

def Bibliography.add (b : Bibliography) (e : Entry) : Bibliography := Table.put b e.id e

end Citeproc
