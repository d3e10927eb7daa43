import Citeproc.Output.Case
import Citeproc.Output.PlainText
import Citeproc.Output.Unnumbered
import Citeproc.Session.Basic

namespace Citeproc

structure Reference where
  id : String
  text : String
  textWithoutNumber : String
  citationNumber : Option Nat
  deriving Repr, DecidableEq, Inhabited

namespace Session

def alignFields (fields : List Output) : Output :=
  .ofList [
    (fields.head?.getD .null).withFormat {} false (some .leftMargin),
    (Output.ofList fields.tail).withFormat {} false (some .rightInline)]

def entryContext (s : Session) (e : Entry) (substitute : Option String) : RenderContext :=
  { RenderContext.bibliography e with
    state := s.listing.states.of e.id
    citationNumber := s.citationNumber? e.id
    authorSubstitute := substitute }

def renderEntry (s : Session) (layout : Layout) (e : Entry) (substitute : Option String) :
    Output :=
  let ctx := s.entryContext e substitute
  if s.style.bibliography.any (·.options.secondFieldAlign.isSome) then
    alignFields (s.renderer.renderLayoutFields layout ctx)
  else s.renderer.renderLayout layout ctx

def shownNames (o : Output) : Option String :=
  (o.firstNames?.map (·.plain)).filter (!·.isEmpty)

/-- An entry after one that shows the names `previous`, and the names it shows itself. The same names
are replaced where the style asks for it. -/
def renderAfter (s : Session) (substitute previous : Option String) (layout : Layout)
    (e : Entry) : Output × Option String :=
  let full := s.renderEntry layout e none
  let names := shownNames full
  let o :=
    if substitute.isSome && names.isSome && names == previous then
      s.renderEntry layout e substitute
    else full
  (o.decorate layout.rendering, names)

def renderReferences (s : Session) (substitute previous : Option String) :
    List String → List (String × Output)
  | [] => []
  | id :: ids =>
    match s.bibliography.get? id with
    | none => renderReferences s substitute previous ids
    | some e =>
      match s.renderer.bibliographyLayout? e with
      | none => renderReferences s substitute previous ids
      | some layout =>
        let (o, names) := s.renderAfter substitute previous layout e
        (id, o) :: renderReferences s substitute names ids

def referenceOutputs (s : Session) : List (String × Output) :=
  match s.style.bibliography with
  | none => []
  | some b => s.renderReferences b.options.subsequentAuthorSubstitute none s.listing.order

def references (s : Session) : List Reference :=
  s.referenceOutputs.map fun (id, o) =>
    { id
      text := PlainText.format.finish s.quoteMarks o
      textWithoutNumber := PlainText.format.finish s.quoteMarks o.withoutCitationNumber
      citationNumber := s.citationNumber? id }

def bibliographyText (s : Session) (fmt : Format) : String :=
  fmt.bibliography (s.referenceOutputs.map fun (id, o) =>
    fmt.entry id (fmt.finish s.quoteMarks o))

def entryText (s : Session) (id : String) : Except SessionError String :=
  match s.bibliography.get? id with
  | none => .error (.entryNotFound id)
  | some e =>
    match s.renderer.bibliographyLayout? e with
    | none => .error .noBibliography
    | some layout =>
      .ok (PlainText.format.finish s.quoteMarks
        ((s.renderEntry layout e none).decorate layout.rendering))

end Session

end Citeproc
