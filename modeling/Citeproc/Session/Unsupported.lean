import Citeproc.Style.Basic

namespace Citeproc

namespace Element

mutual

def asksShortInstitutions : Element → Bool
  | text _ => false
  | date _ => false
  | number _ => false
  | label _ => false
  | names e substitute =>
    e.institution.any (·.parts != .long) || optionAsksShortInstitutions substitute
  | group _ children => anyAsksShortInstitutions children
  | choose branches otherwise =>
    branchesAskShortInstitutions branches || optionAsksShortInstitutions otherwise

def anyAsksShortInstitutions : List Element → Bool
  | [] => false
  | e :: es => asksShortInstitutions e || anyAsksShortInstitutions es

def optionAsksShortInstitutions : Option (List Element) → Bool
  | none => false
  | some es => anyAsksShortInstitutions es

def branchesAskShortInstitutions : List Branch → Bool
  | [] => false
  | ⟨_, children⟩ :: rest =>
    anyAsksShortInstitutions children || branchesAskShortInstitutions rest

end

end Element

namespace Style

def unsupportedRule? (style : Style) : Option SubstituteRule := do
  let options := (← style.bibliography).options
  if options.subsequentAuthorSubstitute.isSome &&
      options.subsequentAuthorSubstituteRule != .completeAll then
    some options.subsequentAuthorSubstituteRule
  else none

def asksShortInstitutions (style : Style) : Bool :=
  style.layouts.any (fun layout => Element.anyAsksShortInstitutions layout.children) ||
    style.macros.any fun entry => Element.anyAsksShortInstitutions entry.2

def unsupported (style : Style) : List String :=
  let rule := style.unsupportedRule?.toList.map fun rule =>
    "subsequent-author-substitute-rule=\"" ++ keyword rule ++ "\" (rendered as complete-all)"
  let parts :=
    if style.asksShortInstitutions then
      ["institution-parts with short forms (rendered as long)"]
    else []
  rule ++ parts

end Style

end Citeproc
