import Citeproc.Disambiguation.Cited
import Citeproc.Render.Pages
import Citeproc.Session.Cites
import Citeproc.Session.References

namespace Citeproc

def Renderer.firstCitePages (r : Renderer) (e : Entry) (state : DisambiguationState) :
    List String :=
  (r.citationLayout? e).elim [] fun layout =>
    r.layoutPages layout { RenderContext.citation e none with state }

def Listing.pages (r : Renderer) (bibliography : Bibliography) (citations : List Citation)
    (includeUncited : Bool) : List String :=
  let registered := registered bibliography citations includeUncited
  let sortPages := r.style.effectiveSort?.elim [] fun keys =>
    (registered.filterMap bibliography.get?).flatMap fun e =>
      r.sortPages keys (itemContext registered e)
  let cites := r.disambiguationCites (sorted r bibliography registered) []
  sortPages ++ cites.flatMap fun (e, state) => r.firstCitePages e state

namespace Session

variable (s : Session)

def listingPages : List String :=
  Listing.pages s.renderer s.bibliography s.citations s.options.includeUncited

/-- The session, if it gets to its listing. -/
def listed? : Option Session := if s.renderer.formatsAll s.listingPages then some s else none

def knownPages (e : Entry) (item : CitationItem) (placement : Placement) : List String :=
  let ctx := s.citeContext e item placement
  let sortPages := s.style.citation.sort.elim [] (s.renderer.sortPages · ctx)
  sortPages ++ (s.renderer.citationLayout? e).elim [] fun layout =>
    s.renderer.layoutPages layout ctx ++
      s.renderer.layoutPages layout { ctx with suppressAuthor := true }

def citePages (c : Citation) (placements : List Placement) : List String :=
  (selectLayout? s.style.citation.layouts none).elim [] fun _ =>
    (s.placeCites c placements).flatMap fun cite =>
      cite.entry.elim [] (s.knownPages · cite.item cite.placement)

def citationPages : List String :=
  (s.citations.zip s.placements).flatMap fun (c, placements) => s.citePages c placements

def pagesAlone (c : Citation) : List String := s.citePages c (c.items.map Placement.alone)

def layoutPages (layout : Layout) (e : Entry) (substitute : Option String) : List String :=
  s.renderer.layoutPages layout (s.entryContext e substitute)

def pagesAfter (substitute previous : Option String) (layout : Layout) (e : Entry) :
    List String :=
  let names := shownNames (s.renderEntry layout e none)
  s.layoutPages layout e none ++
    if substitute.isSome && names.isSome && names == previous then
      s.layoutPages layout e substitute
    else []

def referencePagesFrom (substitute previous : Option String) : List String → List String
  | [] => []
  | id :: ids =>
    match s.bibliography.get? id with
    | none => referencePagesFrom substitute previous ids
    | some e =>
      match s.renderer.bibliographyLayout? e with
      | none => referencePagesFrom substitute previous ids
      | some layout =>
        s.pagesAfter substitute previous layout e ++
          referencePagesFrom substitute (s.renderAfter substitute previous layout e).2 ids

def referencePages : List String :=
  s.style.bibliography.elim [] fun b =>
    s.referencePagesFrom b.options.subsequentAuthorSubstitute none s.listing.order

def entryPages (id : String) : List String :=
  (s.bibliography.get? id).elim [] fun e =>
    (s.renderer.bibliographyLayout? e).elim [] fun layout => s.layoutPages layout e none

end Session

end Citeproc
