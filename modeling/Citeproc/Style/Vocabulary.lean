import Citeproc.Style.Keyword

namespace Citeproc

inductive StyleClass
  | inText | note
  deriving Repr, DecidableEq, Inhabited

instance : Keyword StyleClass where
  all := [.inText, .note]
  keyword
    | .inText => "in-text"
    | .note => "note"

inductive FontStyle
  | normal | italic | oblique
  deriving Repr, DecidableEq, Inhabited

instance : Keyword FontStyle where
  all := [.normal, .italic, .oblique]
  keyword
    | .normal => "normal"
    | .italic => "italic"
    | .oblique => "oblique"

inductive FontVariant
  | normal | smallCaps
  deriving Repr, DecidableEq, Inhabited

instance : Keyword FontVariant where
  all := [.normal, .smallCaps]
  keyword
    | .normal => "normal"
    | .smallCaps => "small-caps"

inductive FontWeight
  | normal | bold | light
  deriving Repr, DecidableEq, Inhabited

instance : Keyword FontWeight where
  all := [.normal, .bold, .light]
  keyword
    | .normal => "normal"
    | .bold => "bold"
    | .light => "light"

inductive TextDecoration
  | none | underline
  deriving Repr, DecidableEq, Inhabited

instance : Keyword TextDecoration where
  all := [.none, .underline]
  keyword
    | .none => "none"
    | .underline => "underline"

inductive VerticalAlign
  | baseline | sup | sub
  deriving Repr, DecidableEq, Inhabited

instance : Keyword VerticalAlign where
  all := [.baseline, .sup, .sub]
  keyword
    | .baseline => "baseline"
    | .sup => "sup"
    | .sub => "sub"

inductive Display
  | block | leftMargin | rightInline | indent
  deriving Repr, DecidableEq, Inhabited

instance : Keyword Display where
  all := [.block, .leftMargin, .rightInline, .indent]
  keyword
    | .block => "block"
    | .leftMargin => "left-margin"
    | .rightInline => "right-inline"
    | .indent => "indent"

inductive TextCase
  | lowercase | uppercase | capitalizeFirst | capitalizeAll | sentence | title
  deriving Repr, DecidableEq, Inhabited

instance : Keyword TextCase where
  all := [.lowercase, .uppercase, .capitalizeFirst, .capitalizeAll, .sentence, .title]
  keyword
    | .lowercase => "lowercase"
    | .uppercase => "uppercase"
    | .capitalizeFirst => "capitalize-first"
    | .capitalizeAll => "capitalize-all"
    | .sentence => "sentence"
    | .title => "title"

inductive TermForm
  | long | short | verb | verbShort | symbol
  deriving Repr, DecidableEq, Inhabited

instance : Keyword TermForm where
  all := [.long, .short, .verb, .verbShort, .symbol]
  keyword
    | .long => "long"
    | .short => "short"
    | .verb => "verb"
    | .verbShort => "verb-short"
    | .symbol => "symbol"

inductive VariableForm
  | long | short
  deriving Repr, DecidableEq, Inhabited

instance : Keyword VariableForm where
  all := [.long, .short]
  keyword
    | .long => "long"
    | .short => "short"

inductive DateForm
  | text | numeric
  deriving Repr, DecidableEq, Inhabited

instance : Keyword DateForm where
  all := [.text, .numeric]
  keyword
    | .text => "text"
    | .numeric => "numeric"

inductive DateScope
  | yearMonthDay | yearMonth | year
  deriving Repr, DecidableEq, Inhabited

instance : Keyword DateScope where
  all := [.yearMonthDay, .yearMonth, .year]
  keyword
    | .yearMonthDay => "year-month-day"
    | .yearMonth => "year-month"
    | .year => "year"

inductive DatePartName
  | day | month | year
  deriving Repr, DecidableEq, Inhabited

instance : Keyword DatePartName where
  all := [.day, .month, .year]
  keyword
    | .day => "day"
    | .month => "month"
    | .year => "year"

inductive DatePartForm
  | numeric | numericLeadingZeros | ordinal | long | short
  deriving Repr, DecidableEq, Inhabited

instance : Keyword DatePartForm where
  all := [.numeric, .numericLeadingZeros, .ordinal, .long, .short]
  keyword
    | .numeric => "numeric"
    | .numericLeadingZeros => "numeric-leading-zeros"
    | .ordinal => "ordinal"
    | .long => "long"
    | .short => "short"

inductive NumberForm
  | numeric | ordinal | longOrdinal | roman
  deriving Repr, DecidableEq, Inhabited

instance : Keyword NumberForm where
  all := [.numeric, .ordinal, .longOrdinal, .roman]
  keyword
    | .numeric => "numeric"
    | .ordinal => "ordinal"
    | .longOrdinal => "long-ordinal"
    | .roman => "roman"

inductive PluralRule
  | contextual | always | never
  deriving Repr, DecidableEq, Inhabited

instance : Keyword PluralRule where
  all := [.contextual, .always, .never]
  keyword
    | .contextual => "contextual"
    | .always => "always"
    | .never => "never"

inductive AndForm
  | text | symbol
  deriving Repr, DecidableEq, Inhabited

instance : Keyword AndForm where
  all := [.text, .symbol]
  keyword
    | .text => "text"
    | .symbol => "symbol"

inductive DelimiterPrecedes
  | contextual | afterInvertedName | always | never
  deriving Repr, DecidableEq, Inhabited

instance : Keyword DelimiterPrecedes where
  all := [.contextual, .afterInvertedName, .always, .never]
  keyword
    | .contextual => "contextual"
    | .afterInvertedName => "after-inverted-name"
    | .always => "always"
    | .never => "never"

inductive NameAsSortOrder
  | first | all
  deriving Repr, DecidableEq, Inhabited

instance : Keyword NameAsSortOrder where
  all := [.first, .all]
  keyword
    | .first => "first"
    | .all => "all"

inductive NameForm
  | long | short | count
  deriving Repr, DecidableEq, Inhabited

instance : Keyword NameForm where
  all := [.long, .short, .count]
  keyword
    | .long => "long"
    | .short => "short"
    | .count => "count"

inductive NamePartName
  | given | family
  deriving Repr, DecidableEq, Inhabited

instance : Keyword NamePartName where
  all := [.given, .family]
  keyword
    | .given => "given"
    | .family => "family"

inductive InstitutionParts
  | long | short | shortLong | longShort
  deriving Repr, DecidableEq, Inhabited

instance : Keyword InstitutionParts where
  all := [.long, .short, .shortLong, .longShort]
  keyword
    | .long => "long"
    | .short => "short"
    | .shortLong => "short-long"
    | .longShort => "long-short"

inductive DemoteParticle
  | never | sortOnly | displayAndSort
  deriving Repr, DecidableEq, Inhabited

instance : Keyword DemoteParticle where
  all := [.never, .sortOnly, .displayAndSort]
  keyword
    | .never => "never"
    | .sortOnly => "sort-only"
    | .displayAndSort => "display-and-sort"

inductive PageRangeFormat
  | chicago | chicago16 | expanded | minimal | minimalTwo
  deriving Repr, DecidableEq, Inhabited

instance : Keyword PageRangeFormat where
  all := [.chicago, .chicago16, .expanded, .minimal, .minimalTwo]
  keyword
    | .chicago => "chicago"
    | .chicago16 => "chicago-16"
    | .expanded => "expanded"
    | .minimal => "minimal"
    | .minimalTwo => "minimal-two"

inductive Collapse
  | citationNumber | year | yearSuffix | yearSuffixRanged
  deriving Repr, DecidableEq, Inhabited

instance : Keyword Collapse where
  all := [.citationNumber, .year, .yearSuffix, .yearSuffixRanged]
  keyword
    | .citationNumber => "citation-number"
    | .year => "year"
    | .yearSuffix => "year-suffix"
    | .yearSuffixRanged => "year-suffix-ranged"

inductive GivenNameRule
  | allNames | allNamesWithInitials | primaryName | primaryNameWithInitials | byCite
  deriving Repr, DecidableEq, Inhabited

instance : Keyword GivenNameRule where
  all := [.allNames, .allNamesWithInitials, .primaryName, .primaryNameWithInitials, .byCite]
  keyword
    | .allNames => "all-names"
    | .allNamesWithInitials => "all-names-with-initials"
    | .primaryName => "primary-name"
    | .primaryNameWithInitials => "primary-name-with-initials"
    | .byCite => "by-cite"

inductive SubstituteRule
  | completeAll | completeEach | partialEach | partialFirst
  deriving Repr, DecidableEq, Inhabited

instance : Keyword SubstituteRule where
  all := [.completeAll, .completeEach, .partialEach, .partialFirst]
  keyword
    | .completeAll => "complete-all"
    | .completeEach => "complete-each"
    | .partialEach => "partial-each"
    | .partialFirst => "partial-first"

inductive Match
  | all | any | none | nand
  deriving Repr, DecidableEq, Inhabited

instance : Keyword Match where
  all := [.all, .any, .none, .nand]
  keyword
    | .all => "all"
    | .any => "any"
    | .none => "none"
    | .nand => "nand"

inductive PositionTest
  | first | subsequent | ibid | ibidWithLocator | nearNote | farNote
  deriving Repr, DecidableEq, Inhabited

instance : Keyword PositionTest where
  all := [.first, .subsequent, .ibid, .ibidWithLocator, .nearNote, .farNote]
  keyword
    | .first => "first"
    | .subsequent => "subsequent"
    | .ibid => "ibid"
    | .ibidWithLocator => "ibid-with-locator"
    | .nearNote => "near-note"
    | .farNote => "far-note"

inductive Target
  | citation | bibliography
  deriving Repr, DecidableEq, Inhabited

instance : Keyword Target where
  all := [.citation, .bibliography]
  keyword
    | .citation => "citation"
    | .bibliography => "bibliography"

inductive GroupGuard
  | commaSafe | commaSafeNumbersOnly
  deriving Repr, DecidableEq, Inhabited

instance : Keyword GroupGuard where
  all := [.commaSafe, .commaSafeNumbersOnly]
  keyword
    | .commaSafe => "comma-safe"
    | .commaSafeNumbersOnly => "comma-safe-numbers-only"

end Citeproc
