import Citeproc.Style.Element
import Citeproc.Table

namespace Citeproc

structure Info where
  title : String := ""
  id : String := ""
  updated : String := ""
  deriving Repr, DecidableEq, Inhabited

structure StyleOptions where
  names : NameOptions := {}
  demoteNonDroppingParticle : DemoteParticle := .displayAndSort
  initialsWithHyphen : Bool := true
  pageRangeFormat : Option PageRangeFormat := none
  deriving Repr, DecidableEq, Inhabited

structure CitationOptions where
  disambiguateAddNames : Bool := false
  disambiguateAddGivenName : Bool := false
  givenNameRule : GivenNameRule := .byCite
  disambiguateAddYearSuffix : Bool := false
  collapse : Option Collapse := none
  citeGroupDelimiter : Option String := none
  yearSuffixDelimiter : Option String := none
  afterCollapseDelimiter : Option String := none
  nearNoteDistance : Nat := 5
  deriving Repr, DecidableEq, Inhabited

structure BibliographyOptions where
  hangingIndent : Bool := false
  secondFieldAlign : Option String := none
  lineSpacing : Nat := 1
  entrySpacing : Nat := 1
  subsequentAuthorSubstitute : Option String := none
  subsequentAuthorSubstituteRule : SubstituteRule := .completeAll
  deriving Repr, DecidableEq, Inhabited

structure Layout where
  locales : List String
  delimiter : Option String
  rendering : Rendering
  children : List Element
  deriving Repr, Inhabited

inductive SortSource
  | var (name : String)
  | macroCall (name : String)
  deriving Repr, DecidableEq, Inhabited

structure SortKey where
  source : SortSource
  descending : Bool
  namesMin : Option Nat
  namesUseFirst : Option Nat
  namesUseLast : Option Bool
  deriving Repr, DecidableEq, Inhabited

abbrev SortSpec := List SortKey

structure CitationSection where
  options : CitationOptions
  names : NameOptions
  sort : Option SortSpec
  layouts : List Layout
  deriving Repr, Inhabited

structure BibliographySection where
  options : BibliographyOptions
  names : NameOptions
  sort : Option SortSpec
  layouts : List Layout
  deriving Repr, Inhabited

structure TermDefinition where
  name : String
  form : TermForm
  single : String
  multiple : Option String
  deriving Repr, DecidableEq, Inhabited

structure LocaleBlock where
  lang : Option String := none
  terms : List TermDefinition := []
  dateFormats : List DateElement := []
  punctuationInQuote : Option Bool := none
  limitDayOrdinalsToDay1 : Option Bool := none
  deriving Repr, DecidableEq, Inhabited

structure Style where
  version : String
  styleClass : StyleClass
  defaultLocale : Option String
  info : Info
  options : StyleOptions
  locales : List LocaleBlock
  macros : Table (List Element)
  citation : CitationSection
  bibliography : Option BibliographySection
  deriving Repr, Inhabited

def primarySubtag (tag : String) : String :=
  String.ofList (tag.toList.takeWhile fun c => c != '-' && c != '_')

/-- The position of the layout for a language: one for the very tag, else one for its primary
language, else the default one, else the first. -/
def layoutIndex? (layouts : List Layout) (lang : Option String) : Option Nat :=
  let exact := lang.bind fun lang => layouts.findIdx? (·.locales.contains lang)
  let byPrimary := lang.bind fun lang =>
    layouts.findIdx? (·.locales.any (primarySubtag · == primarySubtag lang))
  let first := if layouts.isEmpty then none else some 0
  exact <|> byPrimary <|> layouts.findIdx? (·.locales.isEmpty) <|> first

def selectLayout? (layouts : List Layout) (lang : Option String) : Option Layout :=
  (layoutIndex? layouts lang).bind (layouts[·]?)

namespace Style

def macroBody? (style : Style) (name : String) : Option (List Element) := style.macros.get? name

def layouts (style : Style) : List Layout :=
  style.citation.layouts ++ (style.bibliography.map (·.layouts)).getD []

def usesVariable (style : Style) (var : String) : Bool :=
  style.layouts.any (fun layout => Element.usesAny var layout.children) ||
    style.macros.any (fun entry => Element.usesAny var entry.2)

end Style

end Citeproc
