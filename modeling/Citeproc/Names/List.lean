import Citeproc.Names.Formatter

namespace Citeproc

def DelimiterPrecedes.holds (rule : DelimiterPrecedes) (contextual inverted : Bool) : Bool :=
  match rule with
  | .contextual => contextual
  | .afterInvertedName => inverted
  | .always => true
  | .never => false

namespace NameFormatter

def andWord? (f : NameFormatter) : Option String :=
  if f.sortMode then none else f.options.and.map fun form => f.locale.andTerm (form == .symbol)

def joinWithAnd (f : NameFormatter) (rendered : List Output) (inverted : Bool) : Output :=
  match f.andWord?, rendered.getLast? with
  | some word, some last =>
    if rendered.length < 2 then .join rendered f.delimiter
    else
      let precedes := (f.options.delimiterPrecedesLast.getD .contextual).holds
        (3 ≤ rendered.length) inverted
      let separator := (if precedes then f.delimiter else " ") ++ word ++ " "
      .ofList [.join rendered.dropLast f.delimiter, .ofText separator, last]
  | _, _ => .join rendered f.delimiter

def etAlTerm? (f : NameFormatter) : Option String :=
  (f.locale.longTerm? (f.etAl.elim "et-al" (·.term))).filter (!·.isEmpty)

def withHidden (f : NameFormatter) (names : List Name) (shown : Nat) (head : Output) : Output :=
  let hidden := names.length - shown
  match names.getLast?, f.etAlTerm? with
  | some last, term? =>
    if f.sortMode then head
    else if f.options.etAlUseLast.getD false && 2 ≤ hidden then
      .ofList [head, .ofText (f.delimiter ++ "… "), f.renderName last (names.length - 1)]
    else
      match term? with
      | none => head
      | some term =>
        let precedes := (f.options.delimiterPrecedesEtAl.getD .contextual).holds
          (2 ≤ shown) (f.isInverted (shown - 1))
        let etAl := Output.ofText term
        .ofList [
          head, .ofText (if precedes then f.delimiter else " "),
          f.etAl.elim etAl (etAl.decorate ·.rendering)]
  | none, _ => head

def renderNames (f : NameFormatter) (names : List Name) : List Output :=
  names.zipIdx.map fun (n, index) => f.renderName n index

def personList (f : NameFormatter) (names : List Name) : Output :=
  let shown := f.shownCount names.length
  if shown == 0 then .null
  else
    let rendered := f.renderNames (names.take shown)
    if shown == names.length then
      f.joinWithAnd rendered (2 ≤ shown && f.isInverted (shown - 2))
    else f.withHidden names shown (.join rendered f.delimiter)

def shortenUnits (e : InstitutionElement) (units : List String) : List String :=
  let first := e.useFirst.getD 0
  let last := e.useLast.getD 0
  if (e.useFirst.isSome || e.useLast.isSome) && first + last < units.length then
    units.take first ++ units.drop (units.length - last)
  else units

def renderInstitution (e : InstitutionElement) (n : Name) : Output :=
  let units := if e.reverseOrder then (units n).reverse else units n
  (Output.ofText ((e.delimiter.getD ", ").intercalate (shortenUnits e units))).decorate e.rendering

def affiliations (pending : List Name) : List Name → List (List Name × Name) × List Name
  | [] => ([], pending)
  | n :: rest =>
    if n.isInstitution then
      let (groups, left) := affiliations [] rest
      ((pending, n) :: groups, left)
    else affiliations (pending ++ [n]) rest

def institutionList (f : NameFormatter) (e : InstitutionElement) (names : List Name) : Output :=
  let (groups, left) := affiliations [] names
  let rendered := groups.map fun (persons, institution) =>
    let shown := renderInstitution e institution
    if persons.isEmpty then shown else .join [f.personList persons, shown] ", "
  let joiner : NameFormatter := { f with options := { f.options with and := e.and } }
  let affiliated := joiner.joinWithAnd rendered false
  if left.isEmpty then affiliated
  else
    let word := (f.locale.longTerm? "with").getD "with"
    .ofList [f.personList left, .ofText (" " ++ word ++ " "), affiliated]

def countText (f : NameFormatter) (names : List Name) : Output :=
  .ofText (toString (f.shownCount names.length))

def formatKept (f : NameFormatter) (names : List Name) : Output :=
  if names.isEmpty then .null
  else if f.form == .count then f.countText names
  else
    let list :=
      match f.institution with
      | some e =>
        if names.any (·.isInstitution) then f.institutionList e names else f.personList names
      | none => f.personList names
    f.name.elim list (list.decorate ·.rendering)

def format (f : NameFormatter) (names : List Name) : Output :=
  match f.name with
  | none => f.formatKept names
  | some e =>
    let kept := if e.suppressMin == some 0 then names.filter (·.isInstitution) else names
    if e.suppressMin.any fun least => 0 < least && least ≤ kept.length then .null
    else if e.suppressMax.any (kept.length ≤ ·) then
      if f.form == .count then f.countText kept else .null
    else f.formatKept kept

end NameFormatter

end Citeproc
