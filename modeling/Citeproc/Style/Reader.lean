import Citeproc.Style.Attribute

/-!
Reading styles and locale files. An element that rendering does not know is an error, since dropping
it would change what is shown; an unknown element elsewhere is skipped.
-/

namespace Citeproc

open Markup (Node)

def readTextSource (e : Markup.Element) : Except StyleError TextSource := do
  if let some name := e.attribute? "variable" then
    let form ← e.keyword? "form"
    return .var name (form.getD .long)
  if let some name := e.attribute? "macro" then
    return .macroCall name
  if let some name := e.attribute? "term" then
    let form ← e.keyword? "form"
    let plural ← e.flag? "plural"
    return .term name (form.getD .long) (plural.getD false)
  if let some value := e.attribute? "value" then
    return .value value
  throw (.missingAttribute e.name "variable")

def readText (e : Markup.Element) : Except StyleError TextElement := do
  let source ← readTextSource e
  let rendering ← readRendering e
  pure { source, rendering }

def readDatePart (e : Markup.Element) : Except StyleError DatePart := do
  let some name ← e.keyword? "name" | throw (.missingAttribute e.name "name")
  let form ← e.keyword? "form"
  let rendering ← readRendering e
  pure { name, form, rangeDelimiter := e.attribute? "range-delimiter", rendering }

def readDate (e : Markup.Element) (inLayout : Bool) : Except StyleError DateElement := do
  let var ← if inLayout then e.required "variable" else pure ((e.attribute? "variable").getD "")
  let parts ← (e.elements.filter (·.name == "date-part")).mapM readDatePart
  let form ← e.keyword? "form"
  let scope ← e.keyword? "date-parts"
  let rendering ← readRendering e
  pure {
    var, form, parts, rendering
    scope := scope.getD .yearMonthDay
    delimiter := e.attribute? "delimiter"
  }

def readNumber (e : Markup.Element) : Except StyleError NumberElement := do
  let var ← e.required "variable"
  let form ← e.keyword? "form"
  let rendering ← readRendering e
  pure { var, form := form.getD .numeric, rendering }

def readLabel (e : Markup.Element) : Except StyleError LabelElement := do
  let form ← e.keyword? "form"
  let plural ← e.keyword? "plural"
  let rendering ← readRendering e
  pure {
    var := (e.attribute? "variable").getD ""
    form := form.getD .long
    plural := plural.getD .contextual
    rendering
  }

def readNamePart (e : Markup.Element) : Except StyleError NamePart := do
  let some name ← e.keyword? "name" | throw (.missingAttribute e.name "name")
  let rendering ← readRendering e
  pure { name, rendering }

def readName (e : Markup.Element) : Except StyleError NameElement := do
  let parts ← (e.elements.filter (·.name == "name-part")).mapM readNamePart
  let options ← readNameOptions e false
  let suppressMin ← e.count? "suppress-min"
  let suppressMax ← e.count? "suppress-max"
  let rendering ← readRendering e
  pure { options, suppressMin, suppressMax, parts, rendering }

def readEtAl (e : Markup.Element) : Except StyleError EtAlElement := do
  pure { term := (e.attribute? "term").getD "et-al", rendering := ← readRendering e }

def readInstitution (e : Markup.Element) : Except StyleError InstitutionElement := do
  let and ← e.keyword? "and"
  let useFirst ← e.count? "use-first"
  let useLast ← e.count? "use-last"
  let reverseOrder ← e.flag? "reverse-order"
  let parts ← e.keyword? "institution-parts"
  let rendering ← readRendering e
  pure {
    and, useFirst, useLast, rendering
    delimiter := e.attribute? "delimiter"
    reverseOrder := reverseOrder.getD false
    parts := parts.getD .long
  }

def readNamesHead (e : Markup.Element) : Except StyleError NamesElement := do
  let roles ← e.required "variable"
  let rendering ← readRendering e
  pure {
    roles := Text.words roles
    delimiter := e.attribute? "delimiter"
    name := none, etAl := none, label := none, labelBeforeName := false, institution := none
    rendering
  }

def readNamesPart (names : NamesElement) (e : Markup.Element) : Except StyleError NamesElement := do
  match e.name with
  | "name" => pure { names with name := some (← readName e) }
  | "et-al" => pure { names with etAl := some (← readEtAl e) }
  | "label" =>
    pure { names with labelBeforeName := names.name.isNone, label := some (← readLabel e) }
  | "institution" => pure { names with institution := some (← readInstitution e) }
  | other => throw (.unknownElement "names" other)

def readGroupHead (e : Markup.Element) : Except StyleError GroupElement := do
  let require ← e.keyword? "require"
  let reject ← e.keyword? "reject"
  let rendering ← readRendering e
  pure { delimiter := e.attribute? "delimiter", require, reject, rendering }

structure ChooseParts where
  first : Option Branch := none
  others : List Branch := []
  otherwise : Option (List Element) := none

def branchOf (e : Markup.Element) (nested : Option BranchCondition) (es : List Element) :
    Except StyleError Branch := do
  match nested with
  | some condition => pure ⟨condition, es⟩
  | none => pure ⟨.simple (← readCondition e), es⟩

mutual

def readNode (parent : String) : Node → Except StyleError (Option Element)
  | .element name attributes children => do
    let e : Markup.Element := ⟨name, attributes, children⟩
    match name with
    | "text" => return some (.text (← readText e))
    | "date" => return some (.date (← readDate e true))
    | "number" => return some (.number (← readNumber e))
    | "label" => return some (.label (← readLabel e))
    | "names" =>
      let head ← readNamesHead e
      let (names, substitute) ← readNamesChildren head none children
      return some (.names names substitute)
    | "group" =>
      let head ← readGroupHead e
      let children ← readNodes name children
      return some (.group head children)
    | "choose" =>
      let parts ← readChooseChildren {} children
      match parts.first with
      | some first => return some (.choose (first :: parts.others) parts.otherwise)
      | none => throw (.missingSection "choose/if")
    | other => throw (.unknownElement parent other)
  | _ => .ok none

def readNodes (parent : String) : List Node → Except StyleError (List Element)
  | [] => .ok []
  | node :: rest => do
    let e? ← readNode parent node
    let es ← readNodes parent rest
    pure (e?.toList ++ es)

def readNamesChildren (names : NamesElement) (substitute : Option (List Element)) :
    List Node → Except StyleError (NamesElement × Option (List Element))
  | [] => .ok (names, substitute)
  | .element "substitute" _ children :: rest => do
    let es ← readNodes "substitute" children
    readNamesChildren names (some es) rest
  | .element name attributes children :: rest => do
    let names ← readNamesPart names ⟨name, attributes, children⟩
    readNamesChildren names substitute rest
  | _ :: rest => readNamesChildren names substitute rest

def readChooseChildren (parts : ChooseParts) : List Node → Except StyleError ChooseParts
  | [] => .ok parts
  | .element "if" attributes children :: rest => do
    let (nested, es) ← readBranchChildren "if" none children
    let branch ← branchOf ⟨"if", attributes, children⟩ nested es
    readChooseChildren { parts with first := some branch } rest
  | .element "else-if" attributes children :: rest => do
    let (nested, es) ← readBranchChildren "else-if" none children
    let branch ← branchOf ⟨"else-if", attributes, children⟩ nested es
    readChooseChildren { parts with others := parts.others ++ [branch] } rest
  | .element "else" _ children :: rest => do
    let es ← readNodes "else" children
    readChooseChildren { parts with otherwise := some es } rest
  | .element name _ _ :: _ => .error (.unknownElement "choose" name)
  | _ :: rest => readChooseChildren parts rest

def readBranchChildren (parent : String) (nested : Option BranchCondition) :
    List Node → Except StyleError (Option BranchCondition × List Element)
  | [] => .ok (nested, [])
  | .element "conditions" attributes children :: rest => do
    let condition ← readConditions ⟨"conditions", attributes, children⟩
    readBranchChildren parent (some condition) rest
  | node :: rest => do
    let e? ← readNode parent node
    let (nested, es) ← readBranchChildren parent nested rest
    pure (nested, e?.toList ++ es)

end

def readChildren (e : Markup.Element) : Except StyleError (List Element) :=
  readNodes e.name e.children

def readLayout (e : Markup.Element) : Except StyleError Layout := do
  let rendering ← readRendering e
  let children ← readChildren e
  pure {
    locales := ((e.attribute? "locale").map Text.words).getD []
    delimiter := e.attribute? "delimiter"
    rendering, children
  }

def readSortKey (e : Markup.Element) : Except StyleError SortKey := do
  let source ←
    match e.attribute? "variable", e.attribute? "macro" with
    | some name, _ => pure (SortSource.var name)
    | none, some name => pure (.macroCall name)
    | none, none => throw (.missingAttribute e.name "variable")
  let descending ←
    match e.attribute? "sort" with
    | none => pure false
    | some "ascending" => pure false
    | some "descending" => pure true
    | some other => e.invalid "sort" other
  let namesMin ← e.count? "names-min"
  let namesUseFirst ← e.count? "names-use-first"
  let namesUseLast ← e.flag? "names-use-last"
  pure { source, descending, namesMin, namesUseFirst, namesUseLast }

def readSort (e : Markup.Element) : Except StyleError SortSpec :=
  (e.elements.filter (·.name == "key")).mapM readSortKey

def readSection (sort : Option SortSpec) :
    List Markup.Element → Except StyleError (Option SortSpec × List Layout)
  | [] => .ok (sort, [])
  | e :: rest =>
    match e.name with
    | "layout" => do
      let layout ← readLayout e
      let (sort, layouts) ← readSection sort rest
      pure (sort, layout :: layouts)
    | "sort" => do
      let keys ← readSort e
      readSection (some keys) rest
    | _ => readSection sort rest

def readCitationOptions (e : Markup.Element) : Except StyleError CitationOptions := do
  let addNames ← e.flag? "disambiguate-add-names"
  let addGivenName ← e.flag? "disambiguate-add-givenname"
  let rule ← e.keyword? "givenname-disambiguation-rule"
  let addYearSuffix ← e.flag? "disambiguate-add-year-suffix"
  let collapse ← e.keyword? "collapse"
  let distance ← e.smallCount? "near-note-distance"
  pure {
    disambiguateAddNames := addNames.getD false
    disambiguateAddGivenName := addGivenName.getD false
    givenNameRule := rule.getD .byCite
    disambiguateAddYearSuffix := addYearSuffix.getD false
    collapse
    citeGroupDelimiter := e.attribute? "cite-group-delimiter"
    yearSuffixDelimiter := e.attribute? "year-suffix-delimiter"
    afterCollapseDelimiter := e.attribute? "after-collapse-delimiter"
    nearNoteDistance := distance.getD 5
  }

def readCitation (e : Markup.Element) : Except StyleError CitationSection := do
  let options ← readCitationOptions e
  let (sort, layouts) ← readSection none e.elements
  if layouts.isEmpty then throw (.missingSection "citation/layout")
  let names ← readNameOptions e true
  pure { options, names, sort, layouts }

def readBibliographyOptions (e : Markup.Element) : Except StyleError BibliographyOptions := do
  let hangingIndent ← e.flag? "hanging-indent"
  let lineSpacing ← e.smallCount? "line-spacing"
  let entrySpacing ← e.smallCount? "entry-spacing"
  let rule ← e.keyword? "subsequent-author-substitute-rule"
  pure {
    hangingIndent := hangingIndent.getD false
    secondFieldAlign := e.attribute? "second-field-align"
    lineSpacing := lineSpacing.getD 1
    entrySpacing := entrySpacing.getD 1
    subsequentAuthorSubstitute := e.attribute? "subsequent-author-substitute"
    subsequentAuthorSubstituteRule := rule.getD .completeAll
  }

def readBibliography (e : Markup.Element) : Except StyleError BibliographySection := do
  let options ← readBibliographyOptions e
  let (sort, layouts) ← readSection none e.elements
  if layouts.isEmpty then throw (.missingSection "bibliography/layout")
  let names ← readNameOptions e true
  pure { options, names, sort, layouts }

def readTerm (e : Markup.Element) : Except StyleError TermDefinition := do
  let name ← e.required "name"
  let form ← e.keyword? "form"
  let text (part : String) : Option String :=
    ((e.elements.filter (·.name == part)).getLast?).map (·.leadingText)
  pure {
    name
    form := form.getD .long
    single := (text "single").getD (Text.trimmed e.leadingText)
    multiple := text "multiple"
  }

def readLocalePart (block : LocaleBlock) (e : Markup.Element) : Except StyleError LocaleBlock := do
  match e.name with
  | "terms" =>
    let terms ← (e.elements.filter (·.name == "term")).mapM readTerm
    pure { block with terms := block.terms ++ terms }
  | "date" => pure { block with dateFormats := block.dateFormats ++ [← readDate e false] }
  | "style-options" =>
    let punctuationInQuote ← e.flag? "punctuation-in-quote"
    let limitDayOrdinalsToDay1 ← e.flag? "limit-day-ordinals-to-day-1"
    pure { block with punctuationInQuote, limitDayOrdinalsToDay1 }
  | _ => pure block

def readLocale (e : Markup.Element) : Except StyleError LocaleBlock :=
  let lang := e.scoped? Markup.xmlSpace "lang" <|> e.attribute? "lang"
  e.elements.foldlM readLocalePart { lang }

def readInfo (e : Markup.Element) : Info :=
  e.elements.foldl (fun info child =>
    let text := Text.trimmed child.leadingText
    match child.name with
    | "title" => { info with title := text }
    | "id" => { info with id := text }
    | "updated" => { info with updated := text }
    | _ => info) {}

structure StyleParts where
  info : Info := {}
  locales : List LocaleBlock := []
  macros : Table (List Element) := []
  citation : Option CitationSection := none
  bibliography : Option BibliographySection := none

def readStylePart (parts : StyleParts) (e : Markup.Element) : Except StyleError StyleParts := do
  match e.name with
  | "info" => pure { parts with info := readInfo e }
  | "locale" => pure { parts with locales := parts.locales ++ [← readLocale e] }
  | "macro" =>
    let name ← e.required "name"
    let body ← readChildren e
    pure { parts with macros := parts.macros.put name body }
  | "citation" => pure { parts with citation := some (← readCitation e) }
  | "bibliography" => pure { parts with bibliography := some (← readBibliography e) }
  | _ => pure parts

def readStyle (e : Markup.Element) : Except StyleError Style := do
  let styleClass ← e.keyword? "class"
  let names ← readNameOptions e true
  let demote ← e.keyword? "demote-non-dropping-particle"
  let hyphen ← e.flag? "initialize-with-hyphen"
  let pageRangeFormat ← e.keyword? "page-range-format"
  let parts ← e.elements.foldlM readStylePart {}
  let some citation := parts.citation | throw (.missingSection "citation")
  pure {
    version := (e.attribute? "version").getD "1.0"
    styleClass := styleClass.getD .inText
    defaultLocale := e.attribute? "default-locale"
    info := parts.info
    options := {
      names
      demoteNonDroppingParticle := demote.getD .displayAndSort
      initialsWithHyphen := hyphen.getD true
      pageRangeFormat
    }
    locales := parts.locales
    macros := parts.macros
    citation
    bibliography := parts.bibliography
  }

def parseRoot (expected source : String) : Except StyleError Markup.Element :=
  match Markup.Element.parse source with
  | .error cause => .error (.malformed cause)
  | .ok root => if root.name == expected then .ok root else .error (.unknownRoot expected root.name)

def Style.parse (source : String) : Except StyleError Style := do
  readStyle (← parseRoot "style" source)

def LocaleBlock.parse (source : String) : Except StyleError LocaleBlock := do
  readLocale (← parseRoot "locale" source)

end Citeproc
