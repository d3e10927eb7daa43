import Citeproc.Text.Digit
import Citeproc.Text.Letter
import Citeproc.Text.Mark

namespace Citeproc.Text

def isAlphanumeric (c : Char) : Bool := isLetter c || isNumeric c

def connectorRanges : RangeTable :=
  #[
    (0x203f, 0x2040), (0x2054, 0x2054), (0xfe33, 0xfe34), (0xfe4d, 0xfe4f), (0xff3f, 0xff3f)]

def isWordChar (c : Char) : Bool :=
  if c.toNat < 128 then c.isAlphanum || c == '_'
  else isLetter c || isMark c || isDecimalDigit c || connectorRanges.mem c.toNat ||
    c.toNat == 0x200c || c.toNat == 0x200d

end Citeproc.Text
