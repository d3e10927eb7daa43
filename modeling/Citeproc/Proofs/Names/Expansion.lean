import Citeproc.Names.List

namespace Citeproc.NameFormatter

def withExpansion (f : NameFormatter) (x : NameExpansion) : NameFormatter := { f with expansion := x }

structure Idle (f : NameFormatter) (x : NameExpansion) : Prop where
  inactive : f.expansion.active = false
  still_inactive : x.active = false
  rule : x.rule = f.expansion.rule

section

variable {f : NameFormatter} {x : NameExpansion} (h : f.Idle x)
include h

theorem shownCount_withExpansion (total : Nat) :
    (f.withExpansion x).shownCount total = f.shownCount total := by
  simp only [shownCount, withExpansion, h.inactive, h.still_inactive]
  rfl

theorem givenNameLevel_withExpansion (index : Nat) :
    (f.withExpansion x).givenNameLevel index = f.givenNameLevel index := by
  simp only [givenNameLevel, withExpansion, h.inactive, h.still_inactive, Bool.not_false,
    Bool.true_or, if_true]

theorem formAndMark_withExpansion (level : Nat) :
    (f.withExpansion x).formAndMark level = f.formAndMark level := by
  simp only [formAndMark, withExpansion, h.rule]
  rfl

theorem renderName_withExpansion (n : Name) (index : Nat) :
    (f.withExpansion x).renderName n index = f.renderName n index := by
  simp only [renderName, renderPerson, givenNameLevel_withExpansion h, formAndMark_withExpansion h]
  rfl

theorem renderNames_withExpansion (names : List Name) :
    (f.withExpansion x).renderNames names = f.renderNames names := by
  simp only [renderNames, renderName_withExpansion h]

theorem personList_withExpansion (names : List Name) :
    (f.withExpansion x).personList names = f.personList names := by
  simp only [personList, withHidden, shownCount_withExpansion h, renderNames_withExpansion h,
    renderName_withExpansion h]
  rfl

theorem institutionList_withExpansion (e : InstitutionElement) (names : List Name) :
    (f.withExpansion x).institutionList e names = f.institutionList e names := by
  simp only [institutionList, personList_withExpansion h]
  rfl

theorem countText_withExpansion (names : List Name) :
    (f.withExpansion x).countText names = f.countText names := by
  simp only [countText, shownCount_withExpansion h]

theorem formatKept_withExpansion (names : List Name) :
    (f.withExpansion x).formatKept names = f.formatKept names := by
  simp only [formatKept, countText_withExpansion h, institutionList_withExpansion h,
    personList_withExpansion h]
  rfl

theorem format_withExpansion (names : List Name) :
    (f.withExpansion x).format names = f.format names := by
  simp only [format, countText_withExpansion h, formatKept_withExpansion h]
  rfl

end

end Citeproc.NameFormatter
