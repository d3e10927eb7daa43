import Citeproc.Data.Json
import Citeproc.Entry.Basic
import Citeproc.Text.Blank

namespace Citeproc

open Data

inductive EntryError
  | malformed
  | notAnObject
  | missingId
  deriving Repr, DecidableEq

def EntryError.message : EntryError → String
  | .malformed => "invalid entry JSON"
  | .notAnObject => "entry is not a JSON object"
  | .missingId => "entry has no `id`"

namespace CslJson

def textMember? (item : Value) (name : String) : Option String :=
  match item.member? name with
  | some (.text s) => some (Text.trimmed s) |>.filter (!·.isEmpty)
  | _ => none

def name? (item : Value) : Option Name := do
  let _ ← item.members?
  let get := textMember? item
  let particle :=
    match get "dropping-particle", get "non-dropping-particle" with
    | some dropping, some nonDropping => some (dropping ++ " " ++ nonDropping)
    | dropping, nonDropping => dropping <|> nonDropping
  let name : Name :=
    { family := get "family", given := get "given", particle, suffix := get "suffix"
      literal := get "literal" }
  if name.family.isSome || name.literal.isSome then some name else none

def int? : Value → Option Int
  | .number (.int n) => if n ≤ Text.maxInteger then some n else none
  | .text s => Text.integer? (Text.trim s.toList)
  | _ => none

def isTrue : Value → Bool
  | .bool b => b
  | .number (.int n) => n != 0 && n ≤ Text.maxInteger
  | .text s => !s.isEmpty && s != "0" && s != "false"
  | _ => false

/-- A year in four places. It is negated in a word of 64 bits without a check for overflow, so the
least year, which is its own negative, has two signs. -/
def yearText (year : Int) : String :=
  if year < 0 then "-" ++ Text.paddedInt 4 (-Int64.ofInt year).toInt else Text.paddedInt 4 year

theorem yearText_of_neg {year : Int} (hfirst : -Text.maxInteger ≤ year) (hneg : year < 0) :
    yearText year = "-" ++ Text.padded 4 year.natAbs := by
  rw [Text.maxInteger] at hfirst
  have hread : (Int64.ofInt year).toInt = year := Int64.toInt_ofInt_of_le (by omega) (by omega)
  have hnegate : (-Int64.ofInt year).toInt = -year := by
    rw [Int64.toInt_neg, hread, Int.bmod_eq_of_le (by omega) (by omega)]
  rw [yearText, if_pos hneg, hnegate, Text.paddedInt, if_neg (by omega), Int.natAbs_neg]

theorem yearText_of_nonneg {year : Int} (h : 0 ≤ year) :
    yearText year = Text.padded 4 year.natAbs := by
  rw [yearText, if_neg (by omega), Text.paddedInt, if_neg (by omega)]

example : yearText Int64.minValue.toInt = "--9223372036854775808" := by decide

def partsText : List Int → String
  | [] => ""
  | [year] => yearText year
  | [year, month] => yearText year ++ "-" ++ Text.paddedInt 2 month
  | year :: month :: day :: _ =>
    yearText year ++ "-" ++ Text.paddedInt 2 month ++ "-" ++ Text.paddedInt 2 day

def withSeason (season : Option Int) (parts : List Int) : List Int :=
  match parts, season with
  | [year], some season => if 1 ≤ season && season ≤ 4 then [year, 20 + season] else [year]
  | parts, _ => parts

def date? (item : Value) : Option String := do
  let _ ← item.members?
  match item.member? "date-parts" with
  | some (.list parts) =>
    let season := (item.member? "season").bind int?
    let texts := parts.filterMap (·.list?)
      |>.map (fun part => partsText (withSeason season (part.filterMap int?)))
      |>.filter (!·.isEmpty)
    if texts.isEmpty then none
    else
      let circa := (item.member? "circa").any isTrue
      pure ("/".intercalate texts ++ if circa then "~" else "")
  | _ =>
    match item.member? "literal" <|> item.member? "raw" with
    | some (.text s) => some s
    | _ => none

def addMember (e : Entry) : String × Value → Entry
  | (key, v) =>
    if key == "id" || key == "type" then e
    else
      match v with
      | .text s => e.withField key s
      | .number n => e.withField key (Json.numberText n)
      | .list items =>
        let names := items.filterMap name?
        if names.isEmpty then e else e.withNames key names
      | .object _ => (date? v).elim e (e.withField key)
      | _ => e

end CslJson

def Entry.ofCslJson (item : Value) : Except EntryError Entry := do
  let some members := item.members? | throw .notAnObject
  let id ←
    match item.member? "id" with
    | some (.text s) => pure s
    | some (.number n) => pure (Json.numberText n)
    | _ => throw .missingId
  let type := ((item.member? "type").bind (·.text?)).getD "article"
  pure (members.foldl CslJson.addMember { id, type })

/-- The entries of a CSL-JSON text. A later entry with the same id takes the place of the earlier. -/
def Bibliography.parse (json : String) : Except EntryError Bibliography := do
  let some v := Json.parseStrict? json | throw .malformed
  match v.sorted with
  | .list items =>
    items.foldlM (fun b item => do pure (Bibliography.add b (← Entry.ofCslJson item))) []
  | _ => throw .notAnObject

end Citeproc
