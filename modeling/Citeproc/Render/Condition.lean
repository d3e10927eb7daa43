import Citeproc.Number.Basic
import Citeproc.Render.Context

namespace Citeproc

def Match.combine (mode : Match) (results : List Bool) : Bool :=
  match mode with
  | .all => results.all id
  | .any => results.any id
  | .none => !results.any id
  | .nand => results.any (!·)

namespace PositionTest

def holds (test : PositionTest) (ctx : RenderContext) : Bool :=
  match ctx.position with
  | none => false
  | some position =>
    let again := position != .first
    match test with
    | .first => !again
    | .subsequent => again
    | .ibid => position == .ibid || position == .ibidWithLocator
    | .ibidWithLocator => position == .ibidWithLocator
    | .nearNote => again && ctx.nearNote
    | .farNote => again && !ctx.nearNote

end PositionTest

namespace Test

def typeMatches (e : Entry) (name : String) : Bool :=
  e.cslType == name || e.cslType == canonicalType name || e.type == name

def holds (test : Test) (ctx : RenderContext) : Bool :=
  let date? (var : String) : Option DateRange := (ctx.value? var).bind DateRange.parse?
  match test with
  | .type name => typeMatches ctx.entry name
  | .present var => (ctx.entry.names? var).isSome || (ctx.value? var).isSome
  | .isNumeric var => (ctx.value? var).any Number.isNumeric
  | .isUncertainDate var => (ctx.value? var).any DateRange.isUncertain
  | .isMultiple var =>
    match ctx.entry.names? var with
    | some names => 1 < names.length
    | none => (ctx.value? var).any Number.isMultiple
  | .hasDay var => (date? var).any (·.hasDay)
  | .hasYearOnly var => (date? var).any (·.hasYearOnly)
  | .hasMonthOrSeason var => (date? var).any (·.hasMonthOrSeason)
  | .position test => test.holds ctx
  | .locator label => ctx.locatorLabel? == some label
  | .disambiguate expected => ctx.state.condition == expected
  | .context target => ctx.target == target
  | .genre name => (ctx.entry.lookup? "genre").any (Text.sameIgnoringAsciiCase name)

end Test

def Condition.holds (c : Condition) (ctx : RenderContext) : Bool :=
  c.mode.combine (c.tests.map (·.holds ctx))

def BranchCondition.holds (c : BranchCondition) (ctx : RenderContext) : Bool :=
  match c with
  | .simple condition => condition.holds ctx
  | .nested mode conditions => mode.combine (conditions.map (·.holds ctx))

end Citeproc
