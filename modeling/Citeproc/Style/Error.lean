import Citeproc.Markup.Token

namespace Citeproc

inductive StyleError
  | malformed (cause : Markup.Malformed)
  | unknownRoot (expected found : String)
  | missingSection (name : String)
  | missingAttribute (element key : String)
  | invalidAttribute (element key value : String)
  | unknownElement (parent element : String)
  deriving Repr, DecidableEq

def StyleError.message : StyleError → String
  | .malformed _ => "XML error"
  | .unknownRoot expected found => s!"expected root element <{expected}>, found <{found}>"
  | .missingSection name => s!"style has no <{name}> section"
  | .missingAttribute element key => s!"<{element}> is missing required attribute `{key}`"
  | .invalidAttribute element key value => s!"<{element}> has invalid value `{value}` for `{key}`"
  | .unknownElement parent element => s!"unknown element <{element}> inside <{parent}>"

end Citeproc
