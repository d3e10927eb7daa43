import Citeproc.Entry.Basic
import Citeproc.Style.Basic

/-!
Small styles and entries, for which statements are tried out.
-/

namespace Citeproc

def Layout.ofElements (children : List Element) : Layout where
  locales := []
  delimiter := none
  rendering := {}
  children

def Style.citing (children : List Element) (macros : Table (List Element) := [])
    (options : CitationOptions := {}) : Style where
  version := "1.0"
  styleClass := .inText
  defaultLocale := none
  info := {}
  options := {}
  locales := []
  macros
  citation := { options, names := {}, sort := none, layouts := [.ofElements children] }
  bibliography := none

def NamesElement.ofRole (role : String) (name : Option NameElement := none) : NamesElement where
  roles := [role]
  delimiter := none
  name
  etAl := none
  label := none
  labelBeforeName := false
  institution := none
  rendering := {}

def Style.withBibliography (style : Style) (children : List Element) : Style :=
  { style with
    bibliography := some
      { options := {}, names := {}, sort := none, layouts := [.ofElements children] } }

namespace Element

def ofSource (source : TextSource) (rendering : Rendering := {}) : Element := text { source, rendering }

def ofMacro (name : String) (rendering : Rendering := {}) : Element :=
  ofSource (.macroCall name) rendering

def firstAuthor : Element :=
  let options : NameOptions := { form := some .short, etAlMin := some 2, etAlUseFirst := some 1 }
  names (.ofRole "author" (some { options })) none

end Element

namespace Entry

def writtenBy (id : String) (authors : List Name) : Entry where
  id
  type := "book"
  names := [("author", authors)]

def threeByDoe : List Entry :=
  let doe := Name.person "Doe" "John"
  [writtenBy "a" [doe, .person "Roe" "Ann"], writtenBy "b" [doe, .person "Poe" "Sue"],
    writtenBy "c" [doe, .person "Roe" "Ann"]]

end Entry

end Citeproc
