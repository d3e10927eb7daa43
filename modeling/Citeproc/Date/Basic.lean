import Citeproc.Text.Numeral

namespace Citeproc

structure DateParts where
  year : Int
  month : Option Nat := none
  day : Option Nat := none
  deriving Repr, DecidableEq, Inhabited

def isSeasonNumber (month : Nat) : Bool :=
  (13 ≤ month && month ≤ 16) || (21 ≤ month && month ≤ 24)

namespace DateParts

def isSeason (d : DateParts) : Bool := d.month.any isSeasonNumber

/-- A text that sorts by date: the year counted from the year -10000, then month and day. -/
def sortKey (d : DateParts) : String :=
  Text.paddedInt 5 (d.year + 10000) ++ Text.padded 2 (d.month.getD 0) ++
    Text.padded 2 (d.day.getD 0)

end DateParts

structure DateRange where
  start : DateParts
  stop : Option DateParts := none
  openEnd : Bool := false
  uncertain : Bool := false
  deriving Repr, DecidableEq, Inhabited

namespace DateRange

def hasDay (d : DateRange) : Bool := d.start.day.isSome

def hasYearOnly (d : DateRange) : Bool := d.start.month.isNone && d.start.day.isNone

def hasMonthOrSeason (d : DateRange) : Bool := d.start.month.isSome && d.start.day.isNone

def sortKey (d : DateRange) : String :=
  match d.stop with
  | some stop => d.start.sortKey ++ "-" ++ stop.sortKey
  | none => d.start.sortKey

end DateRange

end Citeproc
