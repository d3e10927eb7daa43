import Citeproc.Entry.CslJson
import Citeproc.Style.Error

namespace Citeproc

inductive SessionError
  | style (cause : StyleError)
  | entries (cause : EntryError)
  | options
  | entryNotFound (id : String)
  | noBibliography
  deriving Repr, DecidableEq

def SessionError.message : SessionError → String
  | .style cause => "style error: " ++ cause.message
  | .entries cause => "entry data error: " ++ cause.message
  | .options => "invalid processor options"
  | .entryNotFound id => "entry not found: " ++ id
  | .noBibliography => "style has no bibliography"

end Citeproc
