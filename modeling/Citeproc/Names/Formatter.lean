import Citeproc.Entry.Basic
import Citeproc.Names.Initials
import Citeproc.Locale.Basic
import Citeproc.Output.Case

namespace Citeproc

/-- How far names are expanded to tell cites apart: given names in initials (1) or in full (2), and
names shown beyond those that the style shows. -/
structure NameExpansion where
  givenNameLevel : Nat := 0
  namesExpanded : Nat := 0
  rule : GivenNameRule := .byCite
  active : Bool := false
  deriving Repr, DecidableEq, Inhabited

structure NameFormatter where
  locale : Locale
  options : NameOptions
  name : Option NameElement := none
  etAl : Option EtAlElement := none
  institution : Option InstitutionElement := none
  demote : DemoteParticle := .displayAndSort
  initialsWithHyphen : Bool := true
  subsequent : Bool := false
  sortMode : Bool := false
  expansion : NameExpansion := {}
  deriving Inhabited

def GivenNameRule.primaryOnly : GivenNameRule → Bool
  | .primaryName => true
  | .primaryNameWithInitials => true
  | _ => false

def GivenNameRule.withInitials : GivenNameRule → Bool
  | .allNamesWithInitials => true
  | .primaryNameWithInitials => true
  | _ => false

namespace NameFormatter

def form (f : NameFormatter) : NameForm := f.options.form.getD .long

def delimiter (f : NameFormatter) : String := f.options.delimiter.getD ", "

def etAlLimits (f : NameFormatter) : Nat × Nat :=
  let least := f.options.etAlMin.getD 4
  let useFirst := f.options.etAlUseFirst.getD 3
  if f.subsequent then
    (f.options.etAlSubsequentMin.getD least, f.options.etAlSubsequentUseFirst.getD useFirst)
  else (least, useFirst)

def shownCount (f : NameFormatter) (total : Nat) : Nat :=
  let (least, useFirst) := f.etAlLimits
  if least ≤ total && useFirst < total then
    min (useFirst + if f.expansion.active then f.expansion.namesExpanded else 0) total
  else total

theorem shownCount_le (f : NameFormatter) (total : Nat) : f.shownCount total ≤ total := by
  unfold shownCount
  dsimp only
  split
  · exact Nat.min_le_right _ _
  · exact Nat.le_refl _

def isInverted (f : NameFormatter) (index : Nat) : Bool :=
  f.sortMode ||
    match f.options.nameAsSortOrder with
    | some .all => true
    | some .first => index == 0
    | none => false

def givenNameLevel (f : NameFormatter) (index : Nat) : Nat :=
  let e := f.expansion
  if !e.active || (e.rule.primaryOnly && index != 0) then 0
  else min e.givenNameLevel (if e.rule.withInitials then 1 else 2)

def part (f : NameFormatter) (which : NamePartName) (value : Output) : Output :=
  match f.name.bind (·.part? which) with
  | some part => value.decorate part.rendering
  | none => value

def units (n : Name) : List String :=
  ((Text.splitWhere (· == '|') n.familyOrLiteral.toList).map Text.trim).filter (!·.isEmpty)
    |>.map String.ofList

def joinWords (words : List String) : String := " ".intercalate (words.filter (!·.isEmpty))

def formAndMark (f : NameFormatter) (level : Nat) : NameForm × Option String :=
  match f.form, level with
  | .short, 0 => (.short, none)
  | .short, level =>
    if f.expansion.rule.withInitials then (.long, some (f.options.initialsWith.getD "."))
    else if level == 1 then (.long, f.options.initialsWith)
    else if level == 2 then (.long, none)
    else (.short, f.options.initialsWith)
  | _, 2 => (.long, none)
  | form, _ => (form, f.options.initialsWith)

def givenText (f : NameFormatter) (n : Name) (mark : Option String) : String :=
  let given := n.given.getD ""
  match mark with
  | some mark =>
    if f.options.initials == some false then given else initialsOf given mark f.initialsWithHyphen
  | none => given

def invertedFamily (f : NameFormatter) (family particle : String) : String × String :=
  let demote :=
    match f.demote with
    | .displayAndSort => true
    | .sortOnly => f.sortMode
    | .never => false
  if demote then (family, particle) else (joinWords [particle, family], "")

def renderPerson (f : NameFormatter) (n : Name) (index : Nat) : Output :=
  let family := n.family.getD ""
  let particle := n.particle.getD ""
  let suffix := n.suffix.getD ""
  let (form, mark) := f.formAndMark (f.givenNameLevel index)
  let full := joinWords [particle, family]
  if form == .short then f.part .family (.ofText full)
  else
    let given := f.part .given (.ofText (f.givenText n mark))
    if f.isInverted index then
      let (familyText, trailing) := f.invertedFamily family particle
      let rest := Output.join [given, .ofText trailing, .ofText suffix] " "
      .join [f.part .family (.ofText familyText), rest] (f.options.sortSeparator.getD ", ")
    else .join [given, f.part .family (.ofText full), .ofText suffix] " "

def renderName (f : NameFormatter) (n : Name) (index : Nat) : Output :=
  if n.isInstitution then f.part .family (.ofText (", ".intercalate (units n)))
  else f.renderPerson n index

end NameFormatter

end Citeproc
