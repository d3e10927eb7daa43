import Citeproc.Data.Json
import Citeproc.Data.Record
import Citeproc.Data.Yaml

namespace Citeproc

open Data

structure SessionOptions where
  locale : Option String := none
  memoizeMacros : Bool := true
  includeUncited : Bool := true
  deriving Repr, DecidableEq, Inhabited

namespace SessionOptions

def schema : Schema :=
  .record [("locale", .optional .text), ("memoize-macros", .flag), ("include-uncited", .flag)]

def ofValue? (v : Value) : Option SessionOptions := do
  let r ← v.record? schema.names
  pure {
    locale := ← r.nullable "locale" (·.text?)
    memoizeMacros := ← r.withDefault "memoize-macros" (·.bool?) true
    includeUncited := ← r.withDefault "include-uncited" (·.bool?) true
  }

def toValue (o : SessionOptions) : Value :=
  .object [
    ("locale", o.locale.elim .null .text), ("memoize-macros", .bool o.memoizeMacros),
    ("include-uncited", .bool o.includeUncited)]

def parseJson? (source : String) : Option SessionOptions := (Json.parse? source).bind ofValue?

def parseYaml? (source : String) : Option SessionOptions := (Yaml.parse? schema source).bind ofValue?

end SessionOptions

end Citeproc
