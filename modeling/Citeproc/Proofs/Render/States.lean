import Citeproc.Proofs.Names.Expansion
import Citeproc.Proofs.Render.Alike
import Citeproc.Proofs.Table

namespace Citeproc

namespace Test

def testsMark : Test → Bool
  | disambiguate _ => true
  | _ => false

end Test

def Condition.testsMark (c : Condition) : Bool := c.tests.any (·.testsMark)

def BranchCondition.testsMark : BranchCondition → Bool
  | simple condition => condition.testsMark
  | nested _ conditions => conditions.any (·.testsMark)

namespace Element

mutual

def testsMark : Element → Bool
  | text _ => false
  | date _ => false
  | number _ => false
  | label _ => false
  | names _ substitute => optionTestsMark substitute
  | group _ children => anyTestsMark children
  | choose branches otherwise => branchesTestMark branches || optionTestsMark otherwise

def anyTestsMark : List Element → Bool
  | [] => false
  | e :: es => testsMark e || anyTestsMark es

def optionTestsMark : Option (List Element) → Bool
  | none => false
  | some es => anyTestsMark es

def branchesTestMark : List Branch → Bool
  | [] => false
  | ⟨condition, children⟩ :: rest =>
    condition.testsMark || anyTestsMark children || branchesTestMark rest

end

end Element

def Style.testsMark (style : Style) : Bool :=
  style.layouts.any (fun layout => Element.anyTestsMark layout.children) ||
    style.macros.any fun entry => Element.anyTestsMark entry.2

namespace RenderContext

def withState (ctx : RenderContext) (state : DisambiguationState) : RenderContext := { ctx with state }

def ExpandsNames (ctx : RenderContext) : Prop := ctx.target = .citation ∧ ctx.sortKey = none

structure Overlooks (ctx : RenderContext) (state : DisambiguationState) (testsMark : Bool) : Prop where
  yearSuffix : state.yearSuffix = ctx.state.yearSuffix
  names : ctx.ExpandsNames → state.namesExpanded = ctx.state.namesExpanded ∧
    state.givenNameLevel = ctx.state.givenNameLevel
  condition : testsMark = true → state.condition = ctx.state.condition

variable {ctx : RenderContext} {state : DisambiguationState}

theorem Overlooks.mono {a b : Bool} (h : ctx.Overlooks state b) (hab : a = true → b = true) :
    ctx.Overlooks state a :=
  { h with condition := fun ha => h.condition (hab ha) }

theorem Overlooks.left {a b : Bool} (h : ctx.Overlooks state (a || b)) : ctx.Overlooks state a :=
  h.mono fun ha => by rw [ha, Bool.true_or]

theorem Overlooks.right {a b : Bool} (h : ctx.Overlooks state (a || b)) : ctx.Overlooks state b :=
  h.mono fun hb => by rw [hb, Bool.or_true]

theorem value?_withState {m : Bool} (h : ctx.Overlooks state m) (var : String) :
    (ctx.withState state).value? var = ctx.value? var := by
  simp only [value?, withState, h.yearSuffix]

end RenderContext

open RenderContext

variable {ctx : RenderContext} {state : DisambiguationState}

theorem Test.holds_withState (test : Test) (h : ctx.Overlooks state test.testsMark) :
    test.holds (ctx.withState state) = test.holds ctx := by
  cases test with
  | disambiguate expected =>
    have hc : state.condition = ctx.state.condition := h.condition rfl
    simp only [holds, withState, hc]
  | type _ | position _ | locator _ | context _ | genre _ => rfl
  | present _ | isMultiple _ =>
    simp only [holds, value?_withState h]
    rfl
  | isNumeric _ | isUncertainDate _ | hasDay _ | hasYearOnly _ | hasMonthOrSeason _ =>
    simp only [holds, value?_withState h]

theorem Condition.holds_withState (c : Condition) (h : ctx.Overlooks state c.testsMark) :
    c.holds (ctx.withState state) = c.holds ctx := by
  have htests : c.tests.map (·.holds (ctx.withState state)) = c.tests.map (·.holds ctx) := by
    apply List.map_congr_left
    intro test ht
    exact test.holds_withState (h.mono fun hm => List.any_eq_true.mpr ⟨test, ht, hm⟩)
  rw [holds, holds, htests]

theorem BranchCondition.holds_withState (c : BranchCondition) (h : ctx.Overlooks state c.testsMark) :
    c.holds (ctx.withState state) = c.holds ctx := by
  cases c with
  | simple condition => exact condition.holds_withState h
  | nested mode conditions =>
    have hconditions :
        conditions.map (·.holds (ctx.withState state)) = conditions.map (·.holds ctx) := by
      apply List.map_congr_left
      intro c hc
      exact c.holds_withState (h.mono fun hm => List.any_eq_true.mpr ⟨c, hc, hm⟩)
    rw [holds, holds, hconditions]

theorem RenderContext.yearSuffix_withState {m : Bool} (h : ctx.Overlooks state m) :
    (ctx.withState state).state.yearSuffix = ctx.state.yearSuffix := h.yearSuffix

namespace Renderer

variable (r : Renderer) {m : Bool} (st : RenderState)

theorem renderText_withState (h : ctx.Overlooks state m) (expand : RenderState → String → Rendered)
    (e : TextElement) :
    r.renderText expand (ctx.withState state) st e = r.renderText expand ctx st e := by
  simp only [renderText, renderVariable, variableText, value?_withState h, yearSuffix_withState h]
  rfl

theorem freeValue?_withState (h : ctx.Overlooks state m) (var : String) :
    freeValue? (ctx.withState state) st var = freeValue? ctx st var := by
  simp only [freeValue?, value?_withState h]

theorem renderDate_withState (h : ctx.Overlooks state m) (e : DateElement) :
    r.renderDate (ctx.withState state) st e = r.renderDate ctx st e := by
  simp only [renderDate, freeValue?_withState st h, yearSuffix_withState h]
  rfl

theorem renderNumber_withState (h : ctx.Overlooks state m) (e : NumberElement) :
    r.renderNumber (ctx.withState state) st e = r.renderNumber ctx st e := by
  simp only [renderNumber, freeValue?_withState st h]
  rfl

theorem renderLabel_withState (h : ctx.Overlooks state m) (e : LabelElement) :
    r.renderLabel (ctx.withState state) st e = r.renderLabel ctx st e := by
  simp only [renderLabel, freeValue?_withState st h]
  rfl

theorem renderLists_withExpansion {f : NameFormatter} {x : NameExpansion} (h : f.Idle x)
    (e : NamesElement) (lists : List (String × List Name)) :
    r.renderLists (f.withExpansion x) e lists = r.renderLists f e lists := by
  simp only [renderLists, renderList, NameFormatter.shownCount_withExpansion h,
    NameFormatter.format_withExpansion h]
  rfl

theorem nameFormatter_withState (e : Option NamesElement) (expand : Bool) :
    r.nameFormatter (ctx.withState state) e expand =
      (r.nameFormatter ctx e expand).withExpansion
        { (r.nameFormatter ctx e expand).expansion with
          givenNameLevel := state.givenNameLevel, namesExpanded := state.namesExpanded } := rfl

theorem namesShown_withState (h : ctx.Overlooks state m) (e : NamesElement)
    (parent : Option NamesElement) :
    r.namesShown (ctx.withState state) st e parent = r.namesShown ctx st e parent := by
  by_cases hexpands : ctx.ExpandsNames
  · obtain ⟨hmore, hlevel⟩ := h.names hexpands
    simp only [namesShown, nameFormatter_withState, hmore, hlevel]
    rfl
  · have hidle : (ctx.target == .citation && !st.firstNamesDone && ctx.sortKey.isNone) = false := by
      rw [Bool.eq_false_iff]
      intro hactive
      simp only [Bool.and_eq_true, beq_iff_eq, Option.isNone_iff_eq_none] at hactive
      exact hexpands ⟨hactive.1.1, hactive.2⟩
    simp only [namesShown, nameFormatter_withState]
    apply r.renderLists_withExpansion
    exact ⟨hidle, hidle, rfl⟩

section Elements

-- Both renders expand macros by one function here, so the recursion is on the elements alone. That a
-- macro expands to the same is an induction on its depth, below.
variable (expand : RenderState → String → Rendered)

mutual

theorem renderParts_withState (st : RenderState) (e : Element)
    (h : ctx.Overlooks state e.testsMark) :
    r.renderParts expand (ctx.withState state) st e = r.renderParts expand ctx st e := by
  match e with
  | .text e => simp only [renderParts, r.renderText_withState st h]
  | .date e => simp only [renderParts, r.renderDate_withState st h]
  | .number e => simp only [renderParts, r.renderNumber_withState st h]
  | .label e => simp only [renderParts, r.renderLabel_withState st h]
  | .group e children =>
    simp only [renderParts, collect_withState st children h]
  | .names e substitute =>
    rw [renderParts_names, renderParts_names, namesShown_withState r st h,
      renderSubstitute_withState (st.push e) substitute h]
    rfl
  | .choose branches otherwise =>
    simp only [renderParts, collectBranch_withState st branches h.left,
      collectOption_withState st otherwise h.right]

theorem collect_withState (st : RenderState) (es : List Element)
    (h : ctx.Overlooks state (Element.anyTestsMark es)) :
    r.collect expand (ctx.withState state) st es = r.collect expand ctx st es := by
  match es with
  | [] => simp only [collect]
  | e :: es =>
    simp only [collect, renderParts_withState st e h.left, fun st => collect_withState st es h.right]

theorem collectOption_withState (st : RenderState) (es : Option (List Element))
    (h : ctx.Overlooks state (Element.optionTestsMark es)) :
    r.collectOption expand (ctx.withState state) st es = r.collectOption expand ctx st es := by
  match es with
  | none => simp only [collectOption]
  | some es => simp only [collectOption, collect_withState st es h]

theorem collectBranch_withState (st : RenderState) (branches : List Branch)
    (h : ctx.Overlooks state (Element.branchesTestMark branches)) :
    r.collectBranch expand (ctx.withState state) st branches =
      r.collectBranch expand ctx st branches := by
  match branches with
  | [] => simp only [collectBranch]
  | ⟨condition, children⟩ :: rest =>
    simp only [collectBranch, condition.holds_withState h.left.left,
      collect_withState st children h.left.right, collectBranch_withState st rest h.right]

theorem renderSubstitute_withState (st : RenderState) (es : Option (List Element))
    (h : ctx.Overlooks state (Element.optionTestsMark es)) :
    r.renderSubstitute expand (ctx.withState state) st es = r.renderSubstitute expand ctx st es := by
  match es with
  | none => simp only [renderSubstitute]
  | some es => simp only [renderSubstitute, firstShown_withState st es h]

theorem firstShown_withState (st : RenderState) (es : List Element)
    (h : ctx.Overlooks state (Element.anyTestsMark es)) :
    r.firstShown expand (ctx.withState state) st es = r.firstShown expand ctx st es := by
  match es with
  | [] => simp only [firstShown]
  | e :: es =>
    simp only [firstShown, renderParts_withState st e h.left,
      fun st => firstShown_withState st es h.right]

end

end Elements

theorem expandMacro_withState
    (h : ctx.Overlooks state (r.style.macros.any fun entry => Element.anyTestsMark entry.2))
    (levels : Nat) : r.expandMacro (ctx.withState state) levels = r.expandMacro ctx levels := by
  induction levels with
  | zero => rfl
  | succ levels ih =>
    funext st name
    cases hbody : r.style.macroBody? name with
    | none => simp only [expandMacro, hbody]
    | some body =>
      have hmem : (name, body) ∈ r.style.macros := Table.mem_of_get? hbody
      have hseen : ctx.Overlooks state (Element.anyTestsMark body) :=
        h.mono fun hm => List.any_eq_true.mpr ⟨(name, body), hmem, hm⟩
      simp only [expandMacro, hbody, ih, collect_withState r _ _ body hseen]

theorem collectLayout_withState (layout : Layout)
    (h : ctx.Overlooks state (Element.anyTestsMark layout.children ||
      r.style.macros.any fun entry => Element.anyTestsMark entry.2)) :
    r.collectLayout layout (ctx.withState state) = r.collectLayout layout ctx := by
  rw [collectLayout, collectLayout, expandMacro_withState r h.right]
  exact r.collect_withState _ _ layout.children h.left

theorem renderLayout_withState (layout : Layout)
    (h : ctx.Overlooks state (Element.anyTestsMark layout.children ||
      r.style.macros.any fun entry => Element.anyTestsMark entry.2)) :
    r.renderLayout layout (ctx.withState state) = r.renderLayout layout ctx := by
  rw [renderLayout, renderLayout, renderLayoutFields, renderLayoutFields,
    r.collectLayout_withState layout h]

theorem sortVariable_withState (h : ctx.Overlooks state m) (var : String) :
    r.sortVariable (ctx.withState state) var = r.sortVariable ctx var := by
  have hidle : (r.nameFormatter ctx none false).Idle
      { (r.nameFormatter ctx none false).expansion with
        givenNameLevel := state.givenNameLevel, namesExpanded := state.namesExpanded } :=
    ⟨rfl, rfl, rfl⟩
  simp only [sortVariable, value?_withState h, nameFormatter_withState,
    NameFormatter.format_withExpansion hidle]
  rfl

end Renderer

end Citeproc
