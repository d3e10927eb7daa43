import Citeproc.Data.Record
import Citeproc.Data.Schema
import Citeproc.Style.Basic
import Citeproc.Text.Numeral

namespace Citeproc

open Data

def textOrNull (s : Option String) : Value := s.elim .null .text

def keywordValue {α : Type} [Keyword α] (a : α) : Value := .text (keyword a)

def keywordOrNull {α : Type} [Keyword α] (a : Option α) : Value := a.elim .null keywordValue

def boolOrNull (b : Option Bool) : Value := b.elim .null .bool

def natValue (n : Nat) : Value := .number (.int n)

def natOrNull (n : Option Nat) : Value := n.elim .null natValue

def Formatting.schema : Schema :=
  .record [
    ("font_style", .optional .keyword), ("font_variant", .optional .keyword),
    ("font_weight", .optional .keyword), ("text_decoration", .optional .keyword),
    ("vertical_align", .optional .keyword)]

def Formatting.ofValue? (v : Value) : Option Formatting := do
  let r ← v.record? Formatting.schema.names
  pure {
    fontStyle := ← r.optional "font_style" (·.keyword?)
    fontVariant := ← r.optional "font_variant" (·.keyword?)
    fontWeight := ← r.optional "font_weight" (·.keyword?)
    textDecoration := ← r.optional "text_decoration" (·.keyword?)
    verticalAlign := ← r.optional "vertical_align" (·.keyword?)
  }

def Formatting.toMembers (f : Formatting) : List (String × Value) :=
  [("font_style", keywordOrNull f.fontStyle), ("font_variant", keywordOrNull f.fontVariant),
    ("font_weight", keywordOrNull f.fontWeight),
    ("text_decoration", keywordOrNull f.textDecoration),
    ("vertical_align", keywordOrNull f.verticalAlign)]

def Rendering.schema : Schema :=
  .record [
    ("prefix", .optional .text), ("suffix", .optional .text), ("formatting", Formatting.schema),
    ("text_case", .optional .keyword), ("strip_periods", .flag), ("quotes", .flag),
    ("display", .optional .keyword)]

def Rendering.ofValue? (v : Value) : Option Rendering := do
  let r ← v.record? Rendering.schema.names
  pure {
    before := ← r.optional "prefix" (·.text?)
    after := ← r.optional "suffix" (·.text?)
    formatting := ← r.required "formatting" Formatting.ofValue?
    textCase := ← r.optional "text_case" (·.keyword?)
    stripPeriods := ← r.required "strip_periods" (·.bool?)
    quotes := ← r.required "quotes" (·.bool?)
    display := ← r.optional "display" (·.keyword?)
  }

def Rendering.toValue (r : Rendering) : Value :=
  .object [
    ("prefix", textOrNull r.before), ("suffix", textOrNull r.after),
    ("formatting", .object r.formatting.toMembers), ("text_case", keywordOrNull r.textCase),
    ("strip_periods", .bool r.stripPeriods), ("quotes", .bool r.quotes),
    ("display", keywordOrNull r.display)]

def NameOptions.ofValue? (v : Value) : Option NameOptions := do
  let r ← v.record?
    ["and", "delimiter", "delimiter_precedes_et_al", "delimiter_precedes_last", "et_al_min",
      "et_al_use_first", "et_al_use_last", "et_al_subsequent_min", "et_al_subsequent_use_first",
      "initialize", "initialize_with", "name_as_sort_order", "sort_separator", "form",
      "names_delimiter"]
  let count (v : Value) : Option Nat := v.natural? Text.maxWord
  pure {
    and := ← r.optional "and" (·.keyword?)
    delimiter := ← r.optional "delimiter" (·.text?)
    delimiterPrecedesEtAl := ← r.optional "delimiter_precedes_et_al" (·.keyword?)
    delimiterPrecedesLast := ← r.optional "delimiter_precedes_last" (·.keyword?)
    etAlMin := ← r.optional "et_al_min" count
    etAlUseFirst := ← r.optional "et_al_use_first" count
    etAlUseLast := ← r.optional "et_al_use_last" (·.bool?)
    etAlSubsequentMin := ← r.optional "et_al_subsequent_min" count
    etAlSubsequentUseFirst := ← r.optional "et_al_subsequent_use_first" count
    initials := ← r.optional "initialize" (·.bool?)
    initialsWith := ← r.optional "initialize_with" (·.text?)
    nameAsSortOrder := ← r.optional "name_as_sort_order" (·.keyword?)
    sortSeparator := ← r.optional "sort_separator" (·.text?)
    form := ← r.optional "form" (·.keyword?)
    namesDelimiter := ← r.optional "names_delimiter" (·.text?)
  }

def NameOptions.toValue (o : NameOptions) : Value :=
  .object [
    ("and", keywordOrNull o.and), ("delimiter", textOrNull o.delimiter),
    ("delimiter_precedes_et_al", keywordOrNull o.delimiterPrecedesEtAl),
    ("delimiter_precedes_last", keywordOrNull o.delimiterPrecedesLast),
    ("et_al_min", natOrNull o.etAlMin), ("et_al_use_first", natOrNull o.etAlUseFirst),
    ("et_al_use_last", boolOrNull o.etAlUseLast),
    ("et_al_subsequent_min", natOrNull o.etAlSubsequentMin),
    ("et_al_subsequent_use_first", natOrNull o.etAlSubsequentUseFirst),
    ("initialize", boolOrNull o.initials), ("initialize_with", textOrNull o.initialsWith),
    ("name_as_sort_order", keywordOrNull o.nameAsSortOrder),
    ("sort_separator", textOrNull o.sortSeparator), ("form", keywordOrNull o.form),
    ("names_delimiter", textOrNull o.namesDelimiter)]

def DatePart.schema : Schema :=
  .record [
    ("name", .keyword), ("form", .optional .keyword), ("range_delimiter", .optional .text),
    ("rendering", Rendering.schema)]

def DatePart.ofValue? (v : Value) : Option DatePart := do
  let r ← v.record? DatePart.schema.names
  pure {
    name := ← r.required "name" (·.keyword?)
    form := ← r.optional "form" (·.keyword?)
    rangeDelimiter := ← r.optional "range_delimiter" (·.text?)
    rendering := ← r.required "rendering" Rendering.ofValue?
  }

def DatePart.toValue (p : DatePart) : Value :=
  .object [
    ("name", keywordValue p.name), ("form", keywordOrNull p.form),
    ("range_delimiter", textOrNull p.rangeDelimiter), ("rendering", p.rendering.toValue)]

def DateElement.schema : Schema :=
  .record [
    ("variable", .text), ("form", .optional .keyword), ("date_parts", .keyword),
    ("delimiter", .optional .text), ("parts", .list DatePart.schema),
    ("rendering", Rendering.schema)]

def DateElement.ofValue? (v : Value) : Option DateElement := do
  let r ← v.record? DateElement.schema.names
  pure {
    var := ← r.required "variable" (·.text?)
    form := ← r.optional "form" (·.keyword?)
    scope := ← r.required "date_parts" (·.keyword?)
    delimiter := ← r.optional "delimiter" (·.text?)
    parts := ← r.required "parts" (·.listOf? DatePart.ofValue?)
    rendering := ← r.required "rendering" Rendering.ofValue?
  }

def DateElement.toMembers (e : DateElement) : List (String × Value) :=
  [("variable", .text e.var), ("form", keywordOrNull e.form), ("date_parts", keywordValue e.scope),
    ("delimiter", textOrNull e.delimiter), ("parts", .list (e.parts.map DatePart.toValue)),
    ("rendering", e.rendering.toValue)]

def TextSource.toValue : TextSource → Value
  | .var name form =>
    .object [("Variable", .object [("name", .text name), ("form", keywordValue form)])]
  | .macroCall name => .object [("Macro", .text name)]
  | .term name form plural =>
    .object [("Term",
      .object [("name", .text name), ("form", keywordValue form), ("plural", .bool plural)])]
  | .value text => .object [("Value", .text text)]

def TextElement.toMembers (e : TextElement) : List (String × Value) :=
  [("source", e.source.toValue), ("rendering", e.rendering.toValue)]

def NumberElement.toMembers (e : NumberElement) : List (String × Value) :=
  [("variable", .text e.var), ("form", keywordValue e.form), ("rendering", e.rendering.toValue)]

def LabelElement.toMembers (e : LabelElement) : List (String × Value) :=
  [("variable", .text e.var), ("form", keywordValue e.form), ("plural", keywordValue e.plural),
    ("rendering", e.rendering.toValue)]

def NamePart.toValue (p : NamePart) : Value :=
  .object [("name", keywordValue p.name), ("rendering", p.rendering.toValue)]

def NameElement.toValue (e : NameElement) : Value :=
  .object [
    ("options", e.options.toValue), ("suppress_min", natOrNull e.suppressMin),
    ("suppress_max", natOrNull e.suppressMax), ("parts", .list (e.parts.map NamePart.toValue)),
    ("rendering", e.rendering.toValue)]

def EtAlElement.toValue (e : EtAlElement) : Value :=
  .object [("term", .text e.term), ("rendering", e.rendering.toValue)]

def InstitutionElement.toValue (e : InstitutionElement) : Value :=
  .object [
    ("and", keywordOrNull e.and), ("delimiter", textOrNull e.delimiter),
    ("use_first", natOrNull e.useFirst), ("use_last", natOrNull e.useLast),
    ("reverse_order", .bool e.reverseOrder), ("parts", keywordValue e.parts),
    ("rendering", e.rendering.toValue)]

def NamesElement.toMembers (e : NamesElement) : List (String × Value) :=
  [("variables", .list (e.roles.map .text)), ("delimiter", textOrNull e.delimiter),
    ("name", e.name.elim .null NameElement.toValue),
    ("et_al", e.etAl.elim .null EtAlElement.toValue),
    ("label", e.label.elim .null fun label => .object label.toMembers),
    ("label_before_name", .bool e.labelBeforeName),
    ("institution", e.institution.elim .null InstitutionElement.toValue),
    ("rendering", e.rendering.toValue)]

def GroupElement.toMembers (e : GroupElement) : List (String × Value) :=
  [("delimiter", textOrNull e.delimiter), ("require", keywordOrNull e.require),
    ("reject", keywordOrNull e.reject), ("rendering", e.rendering.toValue)]

def Test.toValue : Test → Value
  | .type name => .object [("Type", .text name)]
  | .present var => .object [("Variable", .text var)]
  | .isNumeric var => .object [("IsNumeric", .text var)]
  | .isUncertainDate var => .object [("IsUncertainDate", .text var)]
  | .position test => .object [("Position", keywordValue test)]
  | .locator label => .object [("Locator", .text label)]
  | .disambiguate expected => .object [("Disambiguate", .bool expected)]
  | .context target => .object [("Context", keywordValue target)]
  | .genre name => .object [("Genre", .text name)]
  | .hasDay var => .object [("HasDay", .text var)]
  | .hasYearOnly var => .object [("HasYearOnly", .text var)]
  | .hasMonthOrSeason var => .object [("HasToMonthOrSeason", .text var)]
  | .isMultiple var => .object [("IsMultiple", .text var)]

def Condition.toValue (c : Condition) : Value :=
  .object [("match_mode", keywordValue c.mode), ("tests", .list (c.tests.map Test.toValue))]

def BranchCondition.toValue : BranchCondition → Value
  | .simple condition => .object [("Simple", condition.toValue)]
  | .nested mode conditions =>
    .object [("Nested", .object [
      ("match_mode", keywordValue mode), ("conditions", .list (conditions.map Condition.toValue))])]

namespace Element

def tagged (type : String) (members : List (String × Value)) : Value :=
  .object (("type", .text type) :: members)

mutual

def toValue : Element → Value
  | text e => tagged "text" e.toMembers
  | date e => tagged "date" e.toMembers
  | number e => tagged "number" e.toMembers
  | label e => tagged "label" e.toMembers
  | names e substitute =>
    tagged "names" (("substitute", optionToValue substitute) :: e.toMembers)
  | group e children =>
    tagged "group" (("children", .list (listToValues children)) :: e.toMembers)
  | choose branches otherwise =>
    let values := branchValues branches
    tagged "choose" [
      ("if_branch", values.head?.getD .null), ("else_if_branches", .list values.tail),
      ("else_branch", optionToValue otherwise)]

def listToValues : List Element → List Value
  | [] => []
  | e :: es => toValue e :: listToValues es

def optionToValue : Option (List Element) → Value
  | none => .null
  | some es => .list (listToValues es)

def branchValues : List Branch → List Value
  | [] => []
  | ⟨condition, children⟩ :: rest =>
    .object [("condition", condition.toValue), ("children", .list (listToValues children))] ::
      branchValues rest

end

end Element

def Layout.toValue (l : Layout) : Value :=
  .object [
    ("locales", .list (l.locales.map .text)), ("delimiter", textOrNull l.delimiter),
    ("rendering", l.rendering.toValue), ("children", .list (Element.listToValues l.children))]

def SortSource.toValue : SortSource → Value
  | .var name => .object [("Variable", .text name)]
  | .macroCall name => .object [("Macro", .text name)]

def SortKey.toValue (k : SortKey) : Value :=
  .object [
    ("source", k.source.toValue), ("descending", .bool k.descending),
    ("names_min", natOrNull k.namesMin), ("names_use_first", natOrNull k.namesUseFirst),
    ("names_use_last", boolOrNull k.namesUseLast)]

def SortSpec.toValue (keys : SortSpec) : Value := .object [("keys", .list (keys.map SortKey.toValue))]

def CitationOptions.toValue (o : CitationOptions) : Value :=
  .object [
    ("disambiguate_add_names", .bool o.disambiguateAddNames),
    ("disambiguate_add_givenname", .bool o.disambiguateAddGivenName),
    ("givenname_disambiguation_rule", keywordValue o.givenNameRule),
    ("disambiguate_add_year_suffix", .bool o.disambiguateAddYearSuffix),
    ("collapse", keywordOrNull o.collapse),
    ("cite_group_delimiter", textOrNull o.citeGroupDelimiter),
    ("year_suffix_delimiter", textOrNull o.yearSuffixDelimiter),
    ("after_collapse_delimiter", textOrNull o.afterCollapseDelimiter),
    ("near_note_distance", natValue o.nearNoteDistance)]

def BibliographyOptions.toValue (o : BibliographyOptions) : Value :=
  .object [
    ("hanging_indent", .bool o.hangingIndent),
    ("second_field_align", textOrNull o.secondFieldAlign),
    ("line_spacing", natValue o.lineSpacing), ("entry_spacing", natValue o.entrySpacing),
    ("subsequent_author_substitute", textOrNull o.subsequentAuthorSubstitute),
    ("subsequent_author_substitute_rule", keywordValue o.subsequentAuthorSubstituteRule)]

def CitationSection.toValue (c : CitationSection) : Value :=
  .object [
    ("options", c.options.toValue), ("names", c.names.toValue),
    ("sort", c.sort.elim .null SortSpec.toValue), ("layouts", .list (c.layouts.map Layout.toValue))]

def BibliographySection.toValue (b : BibliographySection) : Value :=
  .object [
    ("options", b.options.toValue), ("names", b.names.toValue),
    ("sort", b.sort.elim .null SortSpec.toValue), ("layouts", .list (b.layouts.map Layout.toValue))]

def TermDefinition.toValue (t : TermDefinition) : Value :=
  .object [
    ("name", .text t.name), ("form", keywordValue t.form), ("single", .text t.single),
    ("multiple", textOrNull t.multiple)]

def LocaleBlock.toValue (b : LocaleBlock) : Value :=
  .object [
    ("lang", textOrNull b.lang), ("terms", .list (b.terms.map TermDefinition.toValue)),
    ("date_formats", .list (b.dateFormats.map fun e => .object e.toMembers)),
    ("punctuation_in_quote", boolOrNull b.punctuationInQuote),
    ("limit_day_ordinals_to_day_1", boolOrNull b.limitDayOrdinalsToDay1)]

def Info.toValue (i : Info) : Value :=
  .object [("title", .text i.title), ("id", .text i.id), ("updated", .text i.updated)]

def StyleOptions.toValue (o : StyleOptions) : Value :=
  .object [
    ("names", o.names.toValue),
    ("demote_non_dropping_particle", keywordValue o.demoteNonDroppingParticle),
    ("initialize_with_hyphen", .bool o.initialsWithHyphen),
    ("page_range_format", keywordOrNull o.pageRangeFormat)]

def Style.toValue (s : Style) : Value :=
  .object [
    ("version", .text s.version), ("class", keywordValue s.styleClass),
    ("default_locale", textOrNull s.defaultLocale), ("info", s.info.toValue),
    ("options", s.options.toValue), ("locales", .list (s.locales.map LocaleBlock.toValue)),
    ("macros", .object (s.macros.map fun (name, body) =>
      (name, .list (Element.listToValues body)))),
    ("citation", s.citation.toValue),
    ("bibliography", s.bibliography.elim .null BibliographySection.toValue)]

end Citeproc
