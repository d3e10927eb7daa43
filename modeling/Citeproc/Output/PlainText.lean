import Citeproc.Output.Format

namespace Citeproc.PlainText

def format : Format where
  text s := s
  join items delimiter := delimiter.intercalate items
  emph s := s
  strong s := s
  smallCaps s := s
  underline s := s
  superscript s := s
  subscript s := s
  quote opening s closing := if s.isEmpty then s else opening ++ s ++ closing
  display _ s := s
  entry _ s := s
  bibliography entries := "\n".intercalate entries

end Citeproc.PlainText
