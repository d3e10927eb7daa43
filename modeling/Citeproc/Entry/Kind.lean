import Citeproc.Text.Blank
import Citeproc.Text.Case

namespace Citeproc

def knownTypes : List String :=
  ["article", "article-journal", "article-magazine", "article-newspaper", "bill", "book",
   "broadcast", "chapter", "classic", "collection", "dataset", "document", "entry",
   "entry-dictionary", "entry-encyclopedia", "event", "figure", "gazette", "graphic", "hearing",
   "interview", "legal_case", "legislation", "manuscript", "map", "motion_picture", "musical_score",
   "pamphlet", "paper-conference", "patent", "performance", "periodical", "personal_communication",
   "post", "post-weblog", "regulation", "report", "review", "review-book", "software", "song",
   "speech", "standard", "thesis", "treaty", "video", "webpage"]

def typeAliases : List (String × String) :=
  [("article", "article-journal"),
   ("journalarticle", "article-journal"),
   ("inbook", "chapter"),
   ("incollection", "chapter"),
   ("bookinbook", "chapter"),
   ("suppbook", "chapter"),
   ("inproceedings", "paper-conference"),
   ("conference", "paper-conference"),
   ("proceedings-article", "paper-conference"),
   ("proceedings", "book"),
   ("mvbook", "book"),
   ("manual", "book"),
   ("booklet", "book"),
   ("mvcollection", "book"),
   ("phdthesis", "thesis"),
   ("mastersthesis", "thesis"),
   ("dissertation", "thesis"),
   ("techreport", "report"),
   ("tech-report", "report"),
   ("unpublished", "manuscript"),
   ("online", "webpage"),
   ("electronic", "webpage"),
   ("www", "webpage"),
   ("web", "webpage"),
   ("misc", "document"),
   ("inreference", "entry-encyclopedia"),
   ("encyclopedia-entry", "entry-encyclopedia"),
   ("case", "legal_case"),
   ("legal-case", "legal_case"),
   ("legalcase", "legal_case"),
   ("jurisdiction", "legal_case"),
   ("statute", "legislation"),
   ("law", "legislation"),
   ("legal-statute", "legislation"),
   ("legal-regulation", "regulation"),
   ("film", "motion_picture"),
   ("movie", "motion_picture"),
   ("motion-picture", "motion_picture"),
   ("score", "musical_score"),
   ("musical-score", "musical_score"),
   ("letter", "personal_communication"),
   ("correspondence", "personal_communication"),
   ("personal-communication", "personal_communication"),
   ("blogpost", "post-weblog"),
   ("blog-post", "post-weblog"),
   ("audio", "song"),
   ("music", "song"),
   ("artwork", "graphic"),
   ("image", "graphic")]

def canonicalType (type : String) : String :=
  let trimmed := Text.trimmed type
  let lower := String.ofList (trimmed.toList.map Char.toLower)
  match typeAliases.lookup lower with
  | some known => known
  | none => (knownTypes.find? (Text.sameIgnoringAsciiCase · trimmed)).getD type

end Citeproc
