import Citeproc.Date.Reader
import Citeproc.Entry.Basic

namespace Citeproc

def dateVariables : List String :=
  ["accessed", "available-date", "event-date", "issued", "original-date", "submitted",
    "publication-date", "locator-date"]

def numberVariables : List String :=
  ["chapter-number", "citation-number", "collection-number", "edition",
    "first-reference-note-number", "issue", "locator", "number", "number-of-pages",
    "number-of-volumes", "page", "page-first", "part-number", "printing-number", "section",
    "supplement-number", "version", "volume"]

def standIns (var type : String) : List String :=
  match var with
  | "publisher" =>
    match type with
    | "thesis" => ["school", "institution", "organization"]
    | "report" => ["institution", "organization"]
    | _ => ["organization"]
  | "issue" =>
    if ["article-journal", "article-magazine", "article-newspaper"].contains type then ["number"]
    else []
  | "container-title" => ["journal", "journaltitle", "booktitle"]
  | "container-title-short" => ["journalAbbreviation", "journal-abbreviation"]
  | "publisher-place" => ["address", "location"]
  | "event-place" => ["venue"]
  | "page" => ["pages"]
  | "title-short" => ["shortTitle", "shorttitle"]
  | "issued" => ["date", "year"]
  | "collection-title" => ["series"]
  | "DOI" => ["doi"]
  | "URL" => ["url"]
  | "ISBN" => ["isbn"]
  | "ISSN" => ["issn"]
  | "PMID" => ["pmid"]
  | "PMCID" => ["pmcid"]
  | "authority" => if type == "legal_case" then ["court"] else []
  | "jurisdiction" => ["country"]
  | _ => []

def firstPage? (pages : String) : Option String :=
  let ends (c : Char) : Bool := c == '-' || c == '–' || c == ',' || c == '&'
  let first := Text.trim (pages.toList.takeWhile (!ends ·))
  if first.isEmpty then none else some (String.ofList first)

namespace Entry

def fieldOrStandIn? (e : Entry) (var : String) : Option String :=
  e.field? var <|> (standIns var e.cslType).findSome? e.field?

def lookup? (e : Entry) (var : String) : Option String :=
  if var == "page-first" then
    e.field? var <|> (e.fieldOrStandIn? "page").bind firstPage?
  else e.fieldOrStandIn? var

def lookupShort? (e : Entry) (var : String) : Option String :=
  e.lookup? (var ++ "-short") <|> e.lookup? var

def hasVariable (e : Entry) (var : String) : Bool := (e.names? var).isSome || (e.lookup? var).isSome

def year? (e : Entry) : Option Int :=
  ((e.lookup? "issued").bind DateRange.parse?).map (·.start.year)

def primaryNames? (e : Entry) : Option (List Name) :=
  ["author", "editor", "translator"].findSome? e.names?

end Entry

end Citeproc
