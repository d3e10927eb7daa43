import Citeproc.Locale.English

/-!
The locale of a language, layered from the built-in table, the tables added from outside and those
of the style. Tables apply from the least to the most specific: tables of the same primary language
come before those of the very tag, and tables of the style after those from outside.
-/

namespace Citeproc

/-- The tables a locale is layered from, and the locales resolved since a table was last added. -/
structure LocaleResolver where
  added : List Locale := []
  ofStyle : List Locale := []
  cache : Table Locale := []
  deriving Inhabited

namespace LocaleResolver

def ofBlocks (blocks : List LocaleBlock) : LocaleResolver :=
  { ofStyle := blocks.map Locale.ofBlock }

def add (r : LocaleResolver) (locale : Locale) : LocaleResolver :=
  { r with added := r.added ++ [locale], cache := [] }

def isBase (lang : String) (l : Locale) : Bool :=
  !l.lang.isEmpty && l.lang != lang && primarySubtag l.lang == primarySubtag lang

def isExact (lang : String) (l : Locale) : Bool := l.lang == lang

def layers (r : LocaleResolver) (lang : String) : List Locale :=
  r.added.filter (isBase lang) ++ r.added.filter (isExact lang) ++
    r.ofStyle.filter (·.lang.isEmpty) ++ r.ofStyle.filter (isBase lang) ++
    r.ofStyle.filter (isExact lang)

def builtIn (lang : String) : Locale :=
  let quoting :=
    if primarySubtag lang != "en" || lang == "en-GB" then some false
    else Locale.english.punctuationInQuote?
  { Locale.english with lang, punctuationInQuote? := quoting }

def layered (r : LocaleResolver) (lang : String) : Locale :=
  (r.layers lang).foldl Locale.merge (builtIn lang)

def resolve (r : LocaleResolver) (lang : String) : Locale × LocaleResolver :=
  match r.cache.get? lang with
  | some locale => (locale, r)
  | none =>
    let locale := r.layered lang
    (locale, { r with cache := r.cache.put lang locale })

end LocaleResolver

end Citeproc
