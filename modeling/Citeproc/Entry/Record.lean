import Citeproc.Data.Json
import Citeproc.Data.Record
import Citeproc.Entry.Basic

namespace Citeproc

open Data

def Name.ofValue? (v : Value) : Option Name := do
  let r ← v.record? ["family", "given", "prefix", "suffix", "literal"]
  pure {
    family := ← r.nullable "family" (·.text?)
    given := ← r.nullable "given" (·.text?)
    particle := ← r.nullable "prefix" (·.text?)
    suffix := ← r.nullable "suffix" (·.text?)
    literal := ← r.nullable "literal" (·.text?)
  }

def Name.toValue (n : Name) : Value :=
  present [
    ("family", n.family.map .text), ("given", n.given.map .text),
    ("prefix", n.particle.map .text), ("suffix", n.suffix.map .text),
    ("literal", n.literal.map .text)]

def Entry.ofValue? (v : Value) : Option Entry := do
  let r ← v.record? ["id", "type", "fields", "names"]
  pure {
    id := ← r.required "id" (·.text?)
    type := ← r.required "type" (·.text?)
    fields := ← r.withDefault "fields" (·.tableOf? (·.text?)) []
    names := ← r.withDefault "names" (·.tableOf? (·.listOf? Name.ofValue?)) []
  }

def Entry.toValue (e : Entry) : Value :=
  .object [
    ("id", .text e.id), ("type", .text e.type),
    ("fields", .object (e.fields.map fun (key, value) => (key, .text value))),
    ("names", .object (e.names.map fun (role, names) => (role, .list (names.map Name.toValue))))]

def Entry.parse? (json : String) : Option Entry := (Json.parse? json).bind Entry.ofValue?

end Citeproc
