import Citeproc.Data.Json
import Citeproc.Data.Record
import Citeproc.Data.Yaml
import Citeproc.Locale.English
import Citeproc.Style.Reader
import Citeproc.Style.Record

namespace Citeproc

open Data

inductive LocaleError
  | yaml
  | json
  | xml (cause : StyleError)
  deriving Repr, DecidableEq

def LocaleError.message : LocaleError → String
  | .yaml => "failed to parse locale YAML"
  | .json => "failed to parse locale JSON"
  | .xml cause => "failed to parse locale XML: " ++ cause.message

def TermValue.schema : Schema := .textOrTexts ["single", "multiple"]

def TermValue.ofValue? (v : Value) : Option TermValue := do
  if !v.fits (Value.maxDepth - 3) then none
  match v with
  | .text s => pure (.simple s)
  | .object _ =>
    let r ← v.record? TermValue.schema.names
    pure (.plural (← r.required "single" (·.text?)) (← r.required "multiple" (·.text?)))
  | _ => none

def TermValue.toValue : TermValue → Value
  | .simple text => .text text
  | .plural single multiple => .object [("single", .text single), ("multiple", .text multiple)]

def TermForms.schema : Schema :=
  .record [
    ("long", .optional TermValue.schema), ("short", .optional TermValue.schema),
    ("verb", .optional TermValue.schema), ("verb-short", .optional TermValue.schema),
    ("symbol", .optional TermValue.schema)]

def TermForms.ofValue? (v : Value) : Option TermForms := do
  let r ← v.record? TermForms.schema.names
  pure {
    long := ← r.nullable "long" TermValue.ofValue?
    short := ← r.nullable "short" TermValue.ofValue?
    verb := ← r.nullable "verb" TermValue.ofValue?
    verbShort := ← r.nullable "verb-short" TermValue.ofValue?
    symbol := ← r.nullable "symbol" TermValue.ofValue?
  }

def TermForms.toValue (forms : TermForms) : Value :=
  present [
    ("long", forms.long.map TermValue.toValue), ("short", forms.short.map TermValue.toValue),
    ("verb", forms.verb.map TermValue.toValue),
    ("verb-short", forms.verbShort.map TermValue.toValue),
    ("symbol", forms.symbol.map TermValue.toValue)]

def DateFormats.schema : Schema :=
  .record [
    ("text", .optional DateElement.schema), ("numeric", .optional DateElement.schema)]

def DateFormats.ofValue? (v : Value) : Option DateFormats := do
  let r ← v.record? DateFormats.schema.names
  pure {
    text := ← r.nullable "text" DateElement.ofValue?
    numeric := ← r.nullable "numeric" DateElement.ofValue?
  }

def DateFormats.toValue (formats : DateFormats) : Value :=
  present [
    ("text", formats.text.map fun e => .object e.toMembers),
    ("numeric", formats.numeric.map fun e => .object e.toMembers)]

def Locale.schema : Schema :=
  .record [
    ("lang", .text), ("terms", .table TermForms.schema), ("date-formats", DateFormats.schema),
    ("punctuation-in-quote", .optional .flag), ("limit-day-ordinals-to-day-1", .optional .flag)]

def Locale.ofValue? (v : Value) : Option Locale := do
  let r ← v.record? Locale.schema.names
  pure {
    lang := ← r.withDefault "lang" (·.text?) ""
    terms := ← r.withDefault "terms" (·.tableOf? TermForms.ofValue?) []
    dateFormats := ← r.withDefault "date-formats" DateFormats.ofValue? {}
    punctuationInQuote? := ← r.nullable "punctuation-in-quote" (·.bool?)
    limitDayOrdinalsToDay1? := ← r.nullable "limit-day-ordinals-to-day-1" (·.bool?)
  }

def Locale.toValue (l : Locale) : Value :=
  present [
    ("lang", some (.text l.lang)),
    ("terms", some (.object (l.terms.map fun (name, forms) => (name, forms.toValue)))),
    ("date-formats", some l.dateFormats.toValue),
    ("punctuation-in-quote", l.punctuationInQuote?.map .bool),
    ("limit-day-ordinals-to-day-1", l.limitDayOrdinalsToDay1?.map .bool)]

namespace Locale

def parseJson (source : String) : Except LocaleError Locale :=
  ((Json.parse? source).bind ofValue?).elim (.error .json) .ok

def parseYaml (source : String) : Except LocaleError Locale :=
  ((Yaml.parse? schema source).bind ofValue?).elim (.error .yaml) .ok

def parseXml (source : String) : Except LocaleError Locale :=
  match LocaleBlock.parse source with
  | .ok block => .ok (ofBlock block)
  | .error cause => .error (.xml cause)

end Locale

end Citeproc
