import Citeproc.Locale.Basic

namespace Citeproc

namespace Locale

def englishTerms : List (String × TermForm × TermValue) :=
  [("accessed", .long, .simple "accessed"),
   ("and", .long, .simple "and"),
   ("and", .symbol, .simple "&"),
   ("and others", .long, .simple "and others"),
   ("anonymous", .long, .simple "anonymous"),
   ("anonymous", .short, .simple "anon."),
   ("at", .long, .simple "at"),
   ("available at", .long, .simple "available at"),
   ("by", .long, .simple "by"),
   ("circa", .long, .simple "circa"),
   ("circa", .short, .simple "c."),
   ("cited", .long, .simple "cited"),
   ("edition", .long, .plural "edition" "editions"),
   ("edition", .short, .plural "ed." "eds."),
   ("et-al", .long, .simple "et al."),
   ("forthcoming", .long, .simple "forthcoming"),
   ("from", .long, .simple "from"),
   ("ibid", .long, .simple "ibid."),
   ("in", .long, .simple "in"),
   ("in press", .long, .simple "in press"),
   ("internet", .long, .simple "internet"),
   ("interview", .long, .simple "interview"),
   ("letter", .long, .simple "letter"),
   ("no date", .long, .simple "no date"),
   ("no date", .short, .simple "n.d."),
   ("online", .long, .simple "online"),
   ("presented at", .long, .simple "presented at the"),
   ("reference", .long, .plural "reference" "references"),
   ("reference", .short, .plural "ref." "refs."),
   ("retrieved", .long, .simple "retrieved"),
   ("scale", .long, .simple "scale"),
   ("version", .long, .simple "version"),
   ("with", .long, .simple "with"),
   ("ad", .long, .simple "AD"),
   ("bc", .long, .simple "BC"),
   ("open-quote", .long, .simple "“"),
   ("close-quote", .long, .simple "”"),
   ("open-inner-quote", .long, .simple "‘"),
   ("close-inner-quote", .long, .simple "’"),
   ("page-range-delimiter", .long, .simple "–"),
   ("ordinal", .long, .simple "th"),
   ("ordinal-01", .long, .simple "st"),
   ("ordinal-02", .long, .simple "nd"),
   ("ordinal-03", .long, .simple "rd"),
   ("ordinal-11", .long, .simple "th"),
   ("ordinal-12", .long, .simple "th"),
   ("ordinal-13", .long, .simple "th"),
   ("long-ordinal-01", .long, .simple "first"),
   ("long-ordinal-02", .long, .simple "second"),
   ("long-ordinal-03", .long, .simple "third"),
   ("long-ordinal-04", .long, .simple "fourth"),
   ("long-ordinal-05", .long, .simple "fifth"),
   ("long-ordinal-06", .long, .simple "sixth"),
   ("long-ordinal-07", .long, .simple "seventh"),
   ("long-ordinal-08", .long, .simple "eighth"),
   ("long-ordinal-09", .long, .simple "ninth"),
   ("long-ordinal-10", .long, .simple "tenth"),
   ("book", .long, .plural "book" "books"),
   ("book", .short, .plural "bk." "bks."),
   ("chapter", .long, .plural "chapter" "chapters"),
   ("chapter", .short, .plural "chap." "chaps."),
   ("column", .long, .plural "column" "columns"),
   ("column", .short, .plural "col." "cols."),
   ("figure", .long, .plural "figure" "figures"),
   ("figure", .short, .plural "fig." "figs."),
   ("folio", .long, .plural "folio" "folios"),
   ("folio", .short, .plural "fol." "fols."),
   ("issue", .long, .plural "issue" "issues"),
   ("issue", .short, .plural "no." "nos."),
   ("line", .long, .plural "line" "lines"),
   ("line", .short, .plural "l." "ll."),
   ("note", .long, .plural "note" "notes"),
   ("note", .short, .plural "n." "nn."),
   ("number", .long, .plural "number" "numbers"),
   ("number", .short, .plural "no." "nos."),
   ("opus", .long, .plural "opus" "opera"),
   ("opus", .short, .plural "op." "opp."),
   ("page", .long, .plural "page" "pages"),
   ("page", .short, .plural "p." "pp."),
   ("paragraph", .long, .plural "paragraph" "paragraphs"),
   ("paragraph", .short, .plural "para." "paras."),
   ("paragraph", .symbol, .plural "¶" "¶¶"),
   ("part", .long, .plural "part" "parts"),
   ("part", .short, .plural "pt." "pts."),
   ("section", .long, .plural "section" "sections"),
   ("section", .short, .plural "sec." "secs."),
   ("section", .symbol, .plural "§" "§§"),
   ("sub verbo", .long, .plural "sub verbo" "sub verbis"),
   ("sub verbo", .short, .plural "s.v." "s.vv."),
   ("verse", .long, .plural "verse" "verses"),
   ("verse", .short, .plural "v." "vv."),
   ("volume", .long, .plural "volume" "volumes"),
   ("volume", .short, .plural "vol." "vols."),
   ("author", .verb, .simple "by"),
   ("collection-editor", .long, .plural "editor" "editors"),
   ("collection-editor", .short, .plural "ed." "eds."),
   ("composer", .long, .plural "composer" "composers"),
   ("composer", .short, .plural "comp." "comps."),
   ("composer", .verb, .simple "composed by"),
   ("composer", .verbShort, .simple "comp. by"),
   ("container-author", .verb, .simple "by"),
   ("director", .long, .plural "director" "directors"),
   ("director", .short, .plural "dir." "dirs."),
   ("director", .verb, .simple "directed by"),
   ("director", .verbShort, .simple "dir. by"),
   ("editor", .long, .plural "editor" "editors"),
   ("editor", .short, .plural "ed." "eds."),
   ("editor", .verb, .simple "edited by"),
   ("editor", .verbShort, .simple "ed. by"),
   ("editorial-director", .long, .plural "editor" "editors"),
   ("editorial-director", .short, .plural "ed." "eds."),
   ("editorial-director", .verb, .simple "edited by"),
   ("editorial-director", .verbShort, .simple "ed. by"),
   ("editortranslator", .long, .plural "editor & translator" "editors & translators"),
   ("editortranslator", .short, .plural "ed. & tran." "eds. & trans."),
   ("editortranslator", .verb, .simple "edited & translated by"),
   ("editortranslator", .verbShort, .simple "ed. & trans. by"),
   ("illustrator", .long, .plural "illustrator" "illustrators"),
   ("illustrator", .short, .plural "ill." "ills."),
   ("illustrator", .verb, .simple "illustrated by"),
   ("illustrator", .verbShort, .simple "illus. by"),
   ("interviewer", .long, .plural "interviewer" "interviewers"),
   ("interviewer", .verb, .simple "interview by"),
   ("recipient", .verb, .simple "to"),
   ("reviewed-author", .verb, .simple "by"),
   ("translator", .long, .plural "translator" "translators"),
   ("translator", .short, .plural "tran." "trans."),
   ("translator", .verb, .simple "translated by"),
   ("translator", .verbShort, .simple "trans. by"),
   ("month-01", .long, .simple "January"),
   ("month-01", .short, .simple "Jan."),
   ("month-02", .long, .simple "February"),
   ("month-02", .short, .simple "Feb."),
   ("month-03", .long, .simple "March"),
   ("month-03", .short, .simple "Mar."),
   ("month-04", .long, .simple "April"),
   ("month-04", .short, .simple "Apr."),
   ("month-05", .long, .simple "May"),
   ("month-05", .short, .simple "May"),
   ("month-06", .long, .simple "June"),
   ("month-06", .short, .simple "Jun."),
   ("month-07", .long, .simple "July"),
   ("month-07", .short, .simple "Jul."),
   ("month-08", .long, .simple "August"),
   ("month-08", .short, .simple "Aug."),
   ("month-09", .long, .simple "September"),
   ("month-09", .short, .simple "Sep."),
   ("month-10", .long, .simple "October"),
   ("month-10", .short, .simple "Oct."),
   ("month-11", .long, .simple "November"),
   ("month-11", .short, .simple "Nov."),
   ("month-12", .long, .simple "December"),
   ("month-12", .short, .simple "Dec."),
   ("season-01", .long, .simple "Spring"),
   ("season-02", .long, .simple "Summer"),
   ("season-03", .long, .simple "Autumn"),
   ("season-04", .long, .simple "Winter")]

def englishPart (name : DatePartName) (form : Option DatePartForm) (after : Option String) :
    DatePart :=
  { name, form, rendering := { after } }

def englishTextDate : DateElement where
  var := ""
  form := some .text
  scope := .yearMonthDay
  delimiter := none
  parts := [englishPart .month none " ", englishPart .day none ", ", englishPart .year none none]
  rendering := {}

def englishNumericDate : DateElement where
  var := ""
  form := some .numeric
  scope := .yearMonthDay
  delimiter := none
  parts := [
    englishPart .month (some .numeric) "/", englishPart .day (some .numeric) "/",
    englishPart .year none none]
  rendering := {}

def english : Locale :=
  englishTerms.foldl (fun l (name, form, value) => l.setTerm name form value) {
    lang := "en-US"
    dateFormats := { text := some englishTextDate, numeric := some englishNumericDate }
    punctuationInQuote? := some true
    limitDayOrdinalsToDay1? := some false
  }

end Locale

end Citeproc
