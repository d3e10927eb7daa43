import Citeproc.Style.Rendering

namespace Citeproc

inductive TextSource
  | var (name : String) (form : VariableForm)
  | macroCall (name : String)
  | term (name : String) (form : TermForm) (plural : Bool)
  | value (text : String)
  deriving Repr, DecidableEq, Inhabited

structure TextElement where
  source : TextSource
  rendering : Rendering
  deriving Repr, DecidableEq, Inhabited

structure DatePart where
  name : DatePartName
  form : Option DatePartForm := none
  rangeDelimiter : Option String := none
  rendering : Rendering := {}
  deriving Repr, DecidableEq, Inhabited

structure DateElement where
  var : String
  form : Option DateForm
  scope : DateScope
  delimiter : Option String
  parts : List DatePart
  rendering : Rendering
  deriving Repr, DecidableEq, Inhabited

structure NumberElement where
  var : String
  form : NumberForm
  rendering : Rendering
  deriving Repr, DecidableEq, Inhabited

structure LabelElement where
  var : String
  form : TermForm
  plural : PluralRule
  rendering : Rendering
  deriving Repr, DecidableEq, Inhabited

structure NamePart where
  name : NamePartName
  rendering : Rendering
  deriving Repr, DecidableEq, Inhabited

/-- How the names of a list look. A list of at least `suppressMin` or at most `suppressMax` names is
not shown; a `suppressMin` of zero drops persons and keeps institutions. -/
structure NameElement where
  options : NameOptions := {}
  suppressMin : Option Nat := none
  suppressMax : Option Nat := none
  parts : List NamePart := []
  rendering : Rendering := {}
  deriving Repr, DecidableEq, Inhabited

def NameElement.part? (e : NameElement) (name : NamePartName) : Option NamePart :=
  e.parts.find? (·.name == name)

structure EtAlElement where
  term : String
  rendering : Rendering
  deriving Repr, DecidableEq, Inhabited

structure InstitutionElement where
  and : Option AndForm
  delimiter : Option String
  useFirst : Option Nat
  useLast : Option Nat
  reverseOrder : Bool
  parts : InstitutionParts
  rendering : Rendering
  deriving Repr, DecidableEq, Inhabited

structure NamesElement where
  roles : List String
  delimiter : Option String
  name : Option NameElement
  etAl : Option EtAlElement
  label : Option LabelElement
  labelBeforeName : Bool
  institution : Option InstitutionElement
  rendering : Rendering
  deriving Repr, DecidableEq, Inhabited

structure GroupElement where
  delimiter : Option String
  require : Option GroupGuard
  reject : Option GroupGuard
  rendering : Rendering
  deriving Repr, DecidableEq, Inhabited

inductive Test
  | type (name : String)
  | present (var : String)
  | isNumeric (var : String)
  | isUncertainDate (var : String)
  | position (test : PositionTest)
  | locator (label : String)
  | disambiguate (expected : Bool)
  | context (target : Target)
  | genre (name : String)
  | hasDay (var : String)
  | hasYearOnly (var : String)
  | hasMonthOrSeason (var : String)
  | isMultiple (var : String)
  deriving Repr, DecidableEq, Inhabited

structure Condition where
  mode : Match
  tests : List Test
  deriving Repr, DecidableEq, Inhabited

inductive BranchCondition
  | simple (condition : Condition)
  | nested (mode : Match) (conditions : List Condition)
  deriving Repr, DecidableEq, Inhabited

mutual

inductive Element
  | text (e : TextElement)
  | date (e : DateElement)
  | number (e : NumberElement)
  | label (e : LabelElement)
  | names (e : NamesElement) (substitute : Option (List Element))
  | group (e : GroupElement) (children : List Element)
  | choose (branches : List Branch) (otherwise : Option (List Element))

inductive Branch
  | mk (condition : BranchCondition) (children : List Element)

end

deriving instance Repr for Element, Branch
deriving instance Inhabited for Element, Branch

namespace Element

mutual

def uses (var : String) : Element → Bool
  | text ⟨.var name _, _⟩ => name == var
  | text _ => false
  | number e => e.var == var
  | date _ => false
  | label _ => false
  | names _ substitute => usesOption var substitute
  | group _ children => usesAny var children
  | choose branches otherwise => usesBranch var branches || usesOption var otherwise

def usesAny (var : String) : List Element → Bool
  | [] => false
  | e :: es => uses var e || usesAny var es

def usesOption (var : String) : Option (List Element) → Bool
  | none => false
  | some es => usesAny var es

def usesBranch (var : String) : List Branch → Bool
  | [] => false
  | ⟨_, children⟩ :: rest => usesAny var children || usesBranch var rest

end

end Element

end Citeproc
