import Citeproc.Output.Basic
import Citeproc.Style.Basic

namespace Citeproc

structure RenderedCite where
  id : String
  output : Output
  withoutAuthor : Output
  year : Option Int := none
  hasLocator : Bool := false
  deriving Repr, Inhabited

namespace RenderedCite

def author? (cite : RenderedCite) : Option String := cite.output.firstNames?.map (·.plain)

def suffix? (cite : RenderedCite) : Option (Char × Output) :=
  match cite.output.yearSuffix? with
  | some (.tagged (.yearSuffix letter) o) => some (letter, .tagged (.yearSuffix letter) o)
  | _ => none

def number? (cite : RenderedCite) : Option Nat :=
  if cite.hasLocator then none else cite.output.citationNumber?

end RenderedCite

structure CiteJoiner where
  options : CitationOptions
  delimiter : String
  deriving Repr, DecidableEq, Inhabited

namespace CiteJoiner

def groupDelimiter (j : CiteJoiner) : String := j.options.citeGroupDelimiter.getD ", "

def mode (j : CiteJoiner) : Option Collapse :=
  match j.options.collapse with
  | some .yearSuffix | some .yearSuffixRanged =>
    if j.options.disambiguateAddYearSuffix then j.options.collapse else some .year
  | other => other

end CiteJoiner

end Citeproc
