import Citeproc.Locale.Resolver
import Citeproc.Output.Format
import Citeproc.Session.Error
import Citeproc.Session.Listing
import Citeproc.Session.Options
import Citeproc.Session.Placement
import Citeproc.Style.Reader

/-!
The session for one document: its style and entries, the citations registered so far, and all that
follows from them.
-/

namespace Citeproc

structure Session where
  style : Style
  bibliography : Bibliography
  options : SessionOptions
  resolver : LocaleResolver
  locale : Locale
  citations : List Citation := []
  placements : List (List Placement) := []
  listing : Listing := {}
  deriving Inhabited

namespace Session

def renderer (s : Session) : Renderer where
  style := s.style
  locale := s.locale
  memoize := s.options.memoizeMacros

def refresh (s : Session) : Session :=
  { s with
    listing := .of s.renderer s.bibliography s.citations s.options.includeUncited }

def language (style : Style) (options : SessionOptions) : String :=
  (options.locale <|> style.defaultLocale).getD "en-US"

def new (style : Style) (bibliography : Bibliography) (options : SessionOptions) : Session :=
  let (locale, resolver) := (LocaleResolver.ofBlocks style.locales).resolve (language style options)
  refresh { style, bibliography, options, resolver, locale }

def ofSources (style entries : String) : Except SessionError Session := do
  let style ← (Style.parse style).mapError .style
  let bibliography ← (Bibliography.parse entries).mapError .entries
  pure (new style bibliography {})

def addLocale (s : Session) (table : Locale) : Session :=
  let (locale, resolver) := (s.resolver.add table).resolve s.locale.lang
  refresh { s with locale, resolver }

def register (s : Session) (citations : List Citation) : Session :=
  refresh
    { s with
      citations
      placements := Placement.ofCitations s.style.citation.options.nearNoteDistance citations }

def quoteMarks (s : Session) : QuoteMarks := .ofLocale s.locale

def citationNumber? (s : Session) (id : String) : Option Nat := s.listing.numbers.get? id

def state? (s : Session) (id : String) : Option DisambiguationState := s.listing.states.get? id

end Session

end Citeproc
