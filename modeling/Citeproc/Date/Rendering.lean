import Citeproc.Date.Basic
import Citeproc.Output.Case
import Citeproc.Locale.Basic

namespace Citeproc

def DateScope.shows : DateScope → DatePartName → Bool
  | .yearMonthDay, _ => true
  | .yearMonth, name => name != .day
  | .year, name => name == .year

def DatePart.override (part own : DatePart) : DatePart where
  name := part.name
  form := own.form <|> part.form
  rangeDelimiter := own.rangeDelimiter <|> part.rangeDelimiter
  rendering := {
    part.rendering with
    formatting :=
      if own.rendering.formatting.isEmpty then part.rendering.formatting
      else own.rendering.formatting
    textCase := own.rendering.textCase <|> part.rendering.textCase
    stripPeriods := own.rendering.stripPeriods || part.rendering.stripPeriods
  }

def DateElement.resolve (e : DateElement) (l : Locale) : List DatePart × Option String :=
  match e.form.bind l.dateFormats.get? with
  | none => (e.parts, e.delimiter)
  | some base =>
    let parts := (base.parts.filter (e.scope.shows ·.name)).map fun part =>
      (e.parts.find? (·.name == part.name)).elim part part.override
    (parts, base.delimiter)

structure DateRenderer where
  parts : List DatePart
  delimiter : String
  locale : Locale

namespace DateRenderer

def yearText (r : DateRenderer) (year : Int) (form : Option DatePartForm) : String :=
  let term (name : String) : String := (r.locale.longTerm? name).getD ""
  if year < 0 then toString year.natAbs ++ term "bc"
  else if form == some .short then Text.padded 2 (year.toNat % 100)
  else if 0 < year && year < 1000 then toString year ++ term "ad"
  else toString year

def monthText (r : DateRenderer) (month : Nat) (form : Option DatePartForm) : String :=
  let named (short : Bool) : String := (r.locale.monthName? month short).getD (toString month)
  if isSeasonNumber month then named false
  else
    match form with
    | some .numeric => toString month
    | some .numericLeadingZeros => Text.padded 2 month
    | some .short => named true
    | _ => named false

def dayText (r : DateRenderer) (day : Nat) (form : Option DatePartForm) : String :=
  match form with
  | some .numericLeadingZeros => Text.padded 2 day
  | some .ordinal =>
    if r.locale.limitDayOrdinalsToDay1 && day != 1 then toString day else r.locale.ordinal day
  | _ => toString day

def value (r : DateRenderer) (date : DateParts) (yearSuffix : Option Char) (part : DatePart) :
    Output :=
  match part.name with
  | .year =>
    let year := Output.ofText (r.yearText date.year part.form)
    yearSuffix.elim year fun c =>
      .ofList [year, .withTag (.yearSuffix c) (.ofText (String.singleton c))]
  | .month => date.month.elim .null fun m => .ofText (r.monthText m part.form)
  | .day =>
    match date.day, date.isSeason with
    | some day, false => .ofText (r.dayText day part.form)
    | _, _ => .null

def decorate (o : Output) (r : Rendering) (after : Option String) : Output :=
  if o.isEmpty then o
  else ((o.transformed r).withFormat r.formatting r.quotes none).withAffixes r.before after

def part (r : DateRenderer) (date : DateParts) (yearSuffix : Option Char) (p : DatePart) :
    Output :=
  decorate (r.value date yearSuffix p) p.rendering p.rendering.after

def decorateAll (dropLast : Bool) : List (DatePart × Output) → List Output
  | [] => []
  | [(p, o)] => [decorate o p.rendering (if dropLast then none else p.rendering.after)]
  | (p, o) :: rest => decorate o p.rendering p.rendering.after :: decorateAll dropLast rest

def segment (r : DateRenderer) (parts : List DatePart) (date : DateParts)
    (yearSuffix : Option Char) (dropLast : Bool) : Output :=
  let shown := (parts.map fun p => (p, r.value date yearSuffix p)).filter (!·.2.isEmpty)
  .join (decorateAll dropLast shown) r.delimiter

def rangeDelimiter (r : DateRenderer) (name : DatePartName) : String :=
  ((r.parts.find? (·.name == name)).bind (·.rangeDelimiter)).getD "–"

def fullRange (r : DateRenderer) (start stop : DateParts) (delimiter : String)
    (yearSuffix : Option Char) : Output :=
  .ofList [
    r.segment r.parts start none true, .ofText delimiter, r.segment r.parts stop yearSuffix false]

def difference (start stop : DateParts) : DatePartName :=
  if start.year != stop.year then .year
  else if start.month != stop.month then .month
  else .day

def repeats (diff : DatePartName) (p : DatePart) : Bool :=
  match diff with
  | .year => true
  | .month => p.name != .year
  | .day => p.name == .day

def isContiguous : List Nat → Bool
  | a :: b :: rest => b == a + 1 && isContiguous (b :: rest)
  | _ => true

/-- A range. If the parts shown twice stand together, those around them are shown once. -/
def range (r : DateRenderer) (start stop : DateParts) (yearSuffix : Option Char) : Output :=
  let diff := difference start stop
  let delimiter := r.rangeDelimiter diff
  let positions := (r.parts.zipIdx.filter fun (p, _) => repeats diff p).map (·.2)
  match positions.head?, positions.getLast?, isContiguous positions && diff != .year with
  | some first, some last, true =>
    let repeated := (r.parts.drop first).take (last - first + 1)
    let both := Output.ofList [
      r.segment repeated start none true, .ofText delimiter, r.segment repeated stop none false]
    .join ((r.parts.take first).map (r.part start yearSuffix) ++ both ::
      (r.parts.drop (last + 1)).map (r.part start yearSuffix)) r.delimiter
  | _, _, _ => r.fullRange start stop delimiter yearSuffix

def render (r : DateRenderer) (date : DateRange) (yearSuffix : Option Char) : Output :=
  match date.stop with
  | some stop => r.range date.start stop yearSuffix
  | none =>
    let single := r.segment r.parts date.start yearSuffix false
    if date.openEnd then .ofList [single, .ofText (r.rangeDelimiter .year)] else single

end DateRenderer

end Citeproc
