import Citeproc.Style.Vocabulary

namespace Citeproc

structure Formatting where
  fontStyle : Option FontStyle := none
  fontVariant : Option FontVariant := none
  fontWeight : Option FontWeight := none
  textDecoration : Option TextDecoration := none
  verticalAlign : Option VerticalAlign := none
  deriving Repr, DecidableEq, Inhabited

def Formatting.isEmpty (f : Formatting) : Bool := f == {}

structure Rendering where
  before : Option String := none
  after : Option String := none
  formatting : Formatting := {}
  textCase : Option TextCase := none
  stripPeriods : Bool := false
  quotes : Bool := false
  display : Option Display := none
  deriving Repr, DecidableEq, Inhabited

structure NameOptions where
  and : Option AndForm := none
  delimiter : Option String := none
  delimiterPrecedesEtAl : Option DelimiterPrecedes := none
  delimiterPrecedesLast : Option DelimiterPrecedes := none
  etAlMin : Option Nat := none
  etAlUseFirst : Option Nat := none
  etAlUseLast : Option Bool := none
  etAlSubsequentMin : Option Nat := none
  etAlSubsequentUseFirst : Option Nat := none
  initials : Option Bool := none
  initialsWith : Option String := none
  nameAsSortOrder : Option NameAsSortOrder := none
  sortSeparator : Option String := none
  form : Option NameForm := none
  namesDelimiter : Option String := none
  deriving Repr, DecidableEq, Inhabited

def NameOptions.merge (outer inner : NameOptions) : NameOptions where
  and := inner.and <|> outer.and
  delimiter := inner.delimiter <|> outer.delimiter
  delimiterPrecedesEtAl := inner.delimiterPrecedesEtAl <|> outer.delimiterPrecedesEtAl
  delimiterPrecedesLast := inner.delimiterPrecedesLast <|> outer.delimiterPrecedesLast
  etAlMin := inner.etAlMin <|> outer.etAlMin
  etAlUseFirst := inner.etAlUseFirst <|> outer.etAlUseFirst
  etAlUseLast := inner.etAlUseLast <|> outer.etAlUseLast
  etAlSubsequentMin := inner.etAlSubsequentMin <|> outer.etAlSubsequentMin
  etAlSubsequentUseFirst := inner.etAlSubsequentUseFirst <|> outer.etAlSubsequentUseFirst
  initials := inner.initials <|> outer.initials
  initialsWith := inner.initialsWith <|> outer.initialsWith
  nameAsSortOrder := inner.nameAsSortOrder <|> outer.nameAsSortOrder
  sortSeparator := inner.sortSeparator <|> outer.sortSeparator
  form := inner.form <|> outer.form
  namesDelimiter := inner.namesDelimiter <|> outer.namesDelimiter

end Citeproc
