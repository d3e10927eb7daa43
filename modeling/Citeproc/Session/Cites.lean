import Citeproc.Cites.Join
import Citeproc.Output.PlainText
import Citeproc.Session.Basic

namespace Citeproc

structure PlacedCite where
  item : CitationItem
  placement : Placement
  entry : Option Entry
  deriving Repr, DecidableEq, Inhabited

namespace Session

def citeContext (s : Session) (e : Entry) (item : CitationItem) (placement : Placement) :
    RenderContext :=
  { RenderContext.citation e (some item) with
    position := some placement.position
    nearNote := placement.nearNote
    firstNoteNumber := placement.firstNote
    citationNumber := s.citationNumber? e.id
    state := s.listing.states.of e.id
    suppressAuthor := item.form == .suppressAuthor }

def placeCites (s : Session) (c : Citation) (placements : List Placement) : List PlacedCite :=
  (c.items.zip placements).map fun (item, placement) =>
    { item, placement, entry := s.bibliography.get? item.id }

def sortCites (s : Session) (cites : List PlacedCite) : List PlacedCite :=
  match s.style.citation.sort with
  | none => cites
  | some keys =>
    let known := cites.filterMap fun cite => cite.entry.map (cite, ·)
    let context : PlacedCite × Entry → RenderContext := fun (cite, e) =>
      s.citeContext e cite.item cite.placement
    (s.renderer.sortItems keys context known).map (·.1) ++ cites.filter (·.entry.isNone)

def renderKnown (s : Session) (e : Entry) (item : CitationItem) (placement : Placement) :
    RenderedCite :=
  let ctx := s.citeContext e item placement
  let render (ctx : RenderContext) : Output :=
    (s.renderer.citationLayout? e).elim .null fun layout => s.renderer.renderLayout layout ctx
  let full := render ctx
  let output := if item.form == .authorOnly then full.firstNames?.getD .null else full
  let withoutAuthor := render { ctx with suppressAuthor := true }
  { id := e.id
    output := output.withAffixes item.before item.after
    withoutAuthor := withoutAuthor.withAffixes item.before item.after
    year := e.year?
    hasLocator := item.locator.isSome }

def renderCite (s : Session) (cite : PlacedCite) : RenderedCite :=
  match cite.entry with
  | some e => s.renderKnown e cite.item cite.placement
  | none =>
    { id := cite.item.id
      output := .ofText cite.item.id
      withoutAuthor := .ofText cite.item.id
      hasLocator := cite.item.locator.isSome }

def isAuthorOnly (c : Citation) : Bool :=
  !c.items.isEmpty && c.items.all (·.form == .authorOnly)

def renderCitation (s : Session) (c : Citation) (placements : List Placement) : Output :=
  match selectLayout? s.style.citation.layouts none with
  | none => .null
  | some layout =>
    let joiner : CiteJoiner :=
      { options := s.style.citation.options, delimiter := layout.delimiter.getD "" }
    let joined := joiner.join ((s.sortCites (s.placeCites c placements)).map s.renderCite)
    if isAuthorOnly c then joined else joined.decorate layout.rendering

def citationTexts (s : Session) (fmt : Format) : List String :=
  (s.citations.zip s.placements).map fun (c, placements) =>
    fmt.finish s.quoteMarks (s.renderCitation c placements)

def citeAlone (s : Session) (c : Citation) : String :=
  PlainText.format.finish s.quoteMarks (s.renderCitation c (c.items.map Placement.alone))

end Session

end Citeproc
