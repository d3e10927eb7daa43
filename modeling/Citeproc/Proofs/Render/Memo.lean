import Citeproc.Proofs.Render.Expansion
import Citeproc.Proofs.Sample

/-!
When a memo of macro expansions can not be told from expanding each macro afresh: the key of the memo
is all that an expansion depends on, the names elements around the call aside, and what is kept of an
expansion is all that it changes, the last character shown aside.
-/

namespace Citeproc

open RenderState

namespace Renderer

def memoizing (r : Renderer) (memoize : Bool) : Renderer := { r with memoize }

theorem collect_memoizing (r : Renderer) (m n : Bool)
    (expand : RenderState → String → Rendered) (ctx : RenderContext) (s : RenderState)
    (es : List Element) :
    (r.memoizing m).collect expand ctx s es = (r.memoizing n).collect expand ctx s es := by
  delta collect
  rfl

def EndsAsShown (r : Renderer) (ctx : RenderContext) (s : RenderState) (name : String) : Prop :=
  (r.expansion ctx s name).state.afterDigit =
    if (r.expansion ctx s name).output.isEmpty then s.afterDigit
    else (r.expansion ctx s name).output.lastChar?.any Char.isDigit

instance (r : Renderer) (ctx : RenderContext) (s : RenderState) (name : String) :
    Decidable (r.EndsAsShown ctx s name) := inferInstanceAs (Decidable (_ = _))

/-- The expansion for `w` may be taken from that for `v`, if they call the same macro under the same
key: the names elements show the same, and the expansion ends as its output does. -/
def Replayable (r : Renderer) (ctx : RenderContext) (v w : Visit) : Prop :=
  ∀ name ∈ w.macro?, v.macro? = some name → v.state.memoKey name = w.state.memoKey name →
    (∀ u ∈ r.expansionVisits ctx w.state name,
      u.ShowsSame r ctx v.state.inherited w.state.inherited) ∧ r.EndsAsShown ctx w.state name

structure Recorded (r : Renderer) (ctx : RenderContext) (v : Visit) (name : String)
    (result : MacroResult) : Prop where
  calls : v.macro? = some name
  output : result.output = (r.expansion ctx v.state name).output
  stats : result.stats = (r.expansion ctx v.state name).stats
  firstNamesDone :
    result.firstNamesDone = (r.expansion ctx v.state name).state.firstNamesDone
  yearSuffixDone :
    result.yearSuffixDone = (r.expansion ctx v.state name).state.yearSuffixDone
  suppressed :
    (r.expansion ctx v.state name).state.suppressed = v.state.suppressed ++ result.suppressed
  rendered : (r.expansion ctx v.state name).state.rendered = v.state.rendered ++ result.rendered
  depth : v.state.depth < maxMacroDepth
  shallow : ∀ u ∈ r.expansionVisits ctx v.state name, u.Shallow

def MemoFrom (r : Renderer) (ctx : RenderContext) (log : List Visit) (s : RenderState) : Prop :=
  ∀ entry ∈ s.memo, ∃ v ∈ log, ∃ name, entry.1 = v.state.memoKey name ∧
    r.Recorded ctx v name entry.2 ∧ v.state.suppressed <+: s.suppressed

theorem MemoFrom.mono {r : Renderer} {ctx : RenderContext} {log : List Visit} {s s' : RenderState}
    (h : r.MemoFrom ctx log s) (more : List Visit) (hm : s'.memo = s.memo)
    (hs : s.suppressed <+: s'.suppressed) : r.MemoFrom ctx (log ++ more) s' := by
  intro entry hentry
  rw [hm] at hentry
  obtain ⟨v, hv, name, hkey, hrecorded, hpre⟩ := h entry hentry
  exact ⟨v, List.mem_append_left _ hv, name, hkey, hrecorded, hpre.trans hs⟩

variable {r : Renderer} {ctx : RenderContext} {s t : RenderState}

theorem memoKey_of_alike (h : Alike [] [] s t) (name : String) : s.memoKey name = t.memoKey name := by
  obtain ⟨inner, hs, ht⟩ := h.inherited
  rw [memoKey, memoKey, h.afterDigit, h.firstNamesDone, h.yearSuffixDone, h.suppressed, hs, ht]

theorem alike_of_key {name : String} (hkey : s.memoKey name = t.memoKey name)
    (hpre : s.suppressed <+: t.suppressed) : Alike s.inherited t.inherited s t := by
  simp only [memoKey, MemoKey.mk.injEq] at hkey
  obtain ⟨-, hdigit, hnames, hsuffix, hlength, -⟩ := hkey
  have hagrees : s.Agrees t := ⟨hpre.eq_of_length hlength, hnames, hsuffix, hdigit⟩
  exact ⟨hagrees, [], by simp⟩

theorem isEmpty_of_key {name : String} (hkey : s.memoKey name = t.memoKey name) :
    s.inherited.isEmpty = t.inherited.isEmpty := by
  simp only [memoKey, MemoKey.mk.injEq] at hkey
  obtain ⟨-, -, -, -, -, hlength⟩ := hkey
  rw [Bool.eq_iff_iff, List.isEmpty_iff_length_eq_zero, List.isEmpty_iff_length_eq_zero, hlength]

theorem replay_alike (hr : r.memoize = false) {v : Visit} {name : String} {hit : MacroResult}
    (hrecorded : r.Recorded ctx v name hit) (hpre : v.state.suppressed <+: t.suppressed)
    (hkey : v.state.memoKey name = t.memoKey name) (h : Alike [] [] s t) {e : TextElement}
    (he : e.macro? = some name) (hreplay : r.Replayable ctx v ⟨t, .text e⟩)
    (hdepth : t.depth < maxMacroDepth) (hshallow : ∀ u ∈ r.expansionVisits ctx t name, u.Shallow) :
    Rendered.Follows (fun _ t' => t'.depth = t.depth) s t
      { output := hit.output, state := s.replay hit, stats := hit.stats }
      (r.expansion ctx t name) := by
  have hcall : Visit.macro? ⟨t, .text e⟩ = some name := he
  obtain ⟨hsame, hdigit⟩ := hreplay name hcall hrecorded.calls hkey
  -- used-up variables are only ever added, so as many of them are the same ones
  have hlike := alike_of_key hkey hpre
  have hx := expansion_alike hr (isEmpty_of_key hkey) hlike name hrecorded.depth hdepth
    hrecorded.shallow fun u hu => ⟨hshallow u hu, hsame u hu⟩
  obtain ⟨shown, hvshown, htshown⟩ := hx.moves.rendered
  have hshown : hit.rendered = shown :=
    List.append_cancel_left (hrecorded.rendered.symm.trans hvshown)
  have hmoves : Moves s t (s.replay hit) (r.expansion ctx t name).state := {
    suppressed := by
      rw [← hx.moves.suppressed, hrecorded.suppressed, hlike.suppressed, ← h.suppressed]
      rfl
    firstNamesDone := hrecorded.firstNamesDone.trans hx.moves.firstNamesDone
    yearSuffixDone := hrecorded.yearSuffixDone.trans hx.moves.yearSuffixDone
    afterDigit := by
      rw [EndsAsShown] at hdigit
      rw [hdigit, ← hx.output, ← hrecorded.output, ← h.afterDigit]
      simp only [afterDigit, replay]
      split <;> rfl
    inherited := ⟨rfl, hx.moves.inherited.2⟩
    extends_suppressed := ⟨List.prefix_append _ _, hx.moves.extends_suppressed.2⟩
    rendered := ⟨hit.rendered, rfl, by rw [hshown, htshown]⟩ }
  constructor
  · exact ⟨hrecorded.output.trans hx.output, hrecorded.stats.trans hx.stats, hmoves⟩
  · exact hx.rel

def macroResult (s : RenderState) (x : Rendered) : MacroResult where
  output := x.output
  stats := x.stats
  firstNamesDone := x.state.firstNamesDone
  yearSuffixDone := x.state.yearSuffixDone
  suppressed := x.state.suppressed.drop s.suppressed.length
  rendered := x.state.rendered.drop s.rendered.length

theorem recorded_macroResult (h : s.Agrees t) {e : TextElement} {name : String}
    (he : e.macro? = some name) {x : Rendered} (hx : x.Alike s t (r.expansion ctx t name))
    (hdepth : t.depth < maxMacroDepth) (hshallow : ∀ u ∈ r.expansionVisits ctx t name, u.Shallow) :
    r.Recorded ctx ⟨t, .text e⟩ name (macroResult s x) where
  calls := he
  output := hx.output
  stats := hx.stats
  firstNamesDone := hx.moves.firstNamesDone
  yearSuffixDone := hx.moves.yearSuffixDone
  suppressed := by
    obtain ⟨used, hused⟩ := hx.moves.extends_suppressed.1
    simp only [macroResult, ← hx.moves.suppressed, ← hused, List.drop_left, h.suppressed]
  rendered := by
    obtain ⟨shown, hs, ht⟩ := hx.moves.rendered
    simp only [macroResult, hs, ht, List.drop_left]
  depth := hdepth
  shallow := hshallow

section Memo

variable {name : String} {body : List Element}

theorem expandMacro_hit (hr : r.memoize = true) (hbody : r.style.macroBody? name = some body)
    (hs : s.depth < maxMacroDepth) {hit : MacroResult}
    (hhit : s.memo.lookup (s.memoKey name) = some hit) (levels : Nat) :
    r.expandMacro ctx (levels + 1) s name =
      { output := hit.output, state := s.replay hit, stats := hit.stats } := by
  simp only [expandMacro, hbody, Nat.not_le.mpr hs, hr, if_false, if_true, hhit]

theorem expandMacro_miss (hr : r.memoize = true) (hbody : r.style.macroBody? name = some body)
    (hs : s.depth < maxMacroDepth) (hmiss : s.memo.lookup (s.memoKey name) = none) (levels : Nat) :
    r.expandMacro ctx (levels + 1) s name =
      let x : Rendered := { r.expandBody ctx levels s body with
        state := (r.expandBody ctx levels s body).state.leave }
      { x with
        state := { x.state with memo := (s.memoKey name, macroResult s x) :: x.state.memo } } := by
  simp only [expandMacro, hbody, Nat.not_le.mpr hs, hr, if_false, if_true, hmiss]
  rfl

end Memo

def Sound (r : Renderer) (ctx : RenderContext) (log : List Visit) : Prop :=
  (∀ v ∈ log, v.Shallow) ∧ log.Pairwise (r.Replayable ctx)

def InStep (r : Renderer) (ctx : RenderContext) (levels : Nat) (log : List Visit)
    (s t : RenderState) : Prop :=
  Levels levels levels s t ∧ r.MemoFrom ctx log s

theorem InStep.of_keeps {levels : Nat} {log : List Visit} {s' t' : RenderState}
    (h : r.InStep ctx levels log s t) (more : List Visit) (hs : s.Keeps s') (ht : t.Keeps t') :
    r.InStep ctx levels (log ++ more) s' t' := by
  constructor
  · exact ⟨hs.depth ▸ h.1.1, ht.depth ▸ h.1.2⟩
  · exact h.2.mono more hs.memo hs.suppressed

def Transparent (r : Renderer) (ctx : RenderContext) (levels : Nat) : Prop :=
  ∀ ⦃log : List Visit⦄ ⦃s t : RenderState⦄ ⦃e : TextElement⦄ ⦃name : String⦄,
    e.macro? = some name → Alike [] [] s t → (r.memoizing false).InStep ctx levels log s t →
    let visits := log ++ ⟨t, .text e⟩ :: (r.memoizing false).macroVisits ctx levels t name
    (r.memoizing false).Sound ctx visits →
    ((r.memoizing true).expandMacro ctx levels s name).Follows
      ((r.memoizing false).InStep ctx levels visits) s t
      ((r.memoizing false).expandMacro ctx levels t name)

theorem Transparent.lockstep {levels : Nat} (h : r.Transparent ctx levels) :
    Lockstep (r.memoizing false) ctx ((r.memoizing true).expandMacro ctx levels)
      ((r.memoizing false).expandMacro ctx levels) (fun _ _ => [])
      ((r.memoizing false).macroVisits ctx levels) [] [] ((r.memoizing false).InStep ctx levels)
      (fun _ => True) ((r.memoizing false).Sound ctx) where
  late_of_append hsound :=
    ⟨(List.forall_mem_append.mp hsound.1).1, (List.pairwise_append.mp hsound.2).1⟩
  isEmpty := rfl
  rel_of_keeps more hstep hs ht := hstep.of_keeps more hs ht
  shows h _ := by
    obtain ⟨inner, hs, ht⟩ := h.inherited
    rw [hs, ht, namesShown_of_agrees _ _ h.toAgrees]
  expands he halike hstep _ hsound := h he halike hstep hsound

theorem transparent_hit {levels : Nat} {log : List Visit} {e : TextElement} {name : String}
    (he : e.macro? = some name) (h : Alike [] [] s t) (hstep : r.InStep ctx levels log s t)
    (hsound : r.Sound ctx (log ++ ⟨t, .text e⟩ :: r.macroVisits ctx levels t name))
    (hr : r.memoize = false) {hit : MacroResult}
    (hhit : s.memo.lookup (s.memoKey name) = some hit) :
    Rendered.Follows (r.InStep ctx levels (log ++ ⟨t, .text e⟩ :: r.macroVisits ctx levels t name))
      s t { output := hit.output, state := s.replay hit, stats := hit.stats }
      (r.expandMacro ctx levels t name) := by
  have hmem : (s.memoKey name, hit) ∈ s.memo := by
    obtain ⟨before, after, hmemo, -⟩ := List.lookup_eq_some_iff.mp hhit
    rw [hmemo]
    simp
  -- the entry is from a visit before this one, so the two are a pair of the list
  obtain ⟨v, hv, found, hkey, hrecorded, hpre⟩ := hstep.2 _ hmem
  obtain rfl : found = name := (congrArg MemoKey.name hkey).symm
  have hreplay := (List.pairwise_append.mp hsound.2).2.2 v hv _ List.mem_cons_self
  have hshallow := (List.forall_mem_append.mp hsound.1).2
  rw [List.forall_mem_cons] at hshallow
  rw [← expansion_eq hstep.1.2, ← expansionVisits_eq hstep.1.2] at *
  have hx := replay_alike hr hrecorded (h.suppressed ▸ hpre)
    (hkey.symm.trans (memoKey_of_alike h found)) h he hreplay (hshallow.1.depth_lt he) hshallow.2
  constructor
  · exact hx.toAlike
  · constructor
    · exact ⟨hstep.1.1, hx.rel ▸ hstep.1.2⟩
    · exact hstep.2.mono _ rfl hx.moves.extends_suppressed.1

theorem transparent_miss {levels : Nat} (hlevels : r.Transparent ctx levels) {log : List Visit}
    {e : TextElement} {name : String} (he : e.macro? = some name) (h : Alike [] [] s t)
    (hstep : (r.memoizing false).InStep ctx (levels + 1) log s t)
    (hsound : (r.memoizing false).Sound ctx
      (log ++ ⟨t, .text e⟩ :: (r.memoizing false).macroVisits ctx (levels + 1) t name))
    {body : List Element} (hbody : r.style.macroBody? name = some body)
    (hmiss : s.memo.lookup (s.memoKey name) = none) :
    ((r.memoizing true).expandMacro ctx (levels + 1) s name).Follows
      ((r.memoizing false).InStep ctx (levels + 1)
        (log ++ ⟨t, .text e⟩ :: (r.memoizing false).macroVisits ctx (levels + 1) t name)) s t
      ((r.memoizing false).expandMacro ctx (levels + 1) t name) := by
  obtain ⟨⟨hsl, htl⟩, hmemo⟩ := hstep
  have hs : s.depth < maxMacroDepth := by omega
  have ht : t.depth < maxMacroDepth := by omega
  have hshallow : ∀ u ∈ (r.memoizing false).expansionVisits ctx t name, u.Shallow := by
    rw [expansionVisits_eq htl]
    exact (List.forall_mem_cons.mp (List.forall_mem_append.mp hsound.1).2).2
  have henter : Levels levels levels s.enter t.enter := by
    simp only [Levels, enter]
    omega
  rw [macroVisits_fresh (r := r.memoizing false) rfl hbody ht, List.append_cons] at hsound ⊢
  -- Both renders expand the body, one level down, in states that are still alike.
  have hbodies := hlevels.lockstep.collect _ h.enter
    ⟨henter, hmemo.mono _ rfl (List.prefix_refl _)⟩ body (fun _ _ => trivial) hsound
  rw [r.collect_memoizing false true] at hbodies
  obtain ⟨⟨hleft, hright⟩, hafter⟩ := hbodies.rel
  have hfresh := @expandMacro_fresh (r.memoizing false) ctx rfl _ _ hbody _ ht levels
  have hx : Rendered.Alike s t
      { (r.memoizing true).expandBody ctx levels s body with
        state := ((r.memoizing true).expandBody ctx levels s body).state.leave }
      ((r.memoizing false).expandMacro ctx (levels + 1) t name) := by
    rw [hfresh]
    exact ⟨(hbodies.joined "").output, hbodies.stats, hbodies.moves.leave⟩
  have hrecorded := recorded_macroResult h.toAgrees he ((expansion_eq htl name).symm ▸ hx) ht hshallow
  rw [expandMacro_miss (r := r.memoizing true) rfl hbody hs hmiss]
  constructor
  · exact ⟨hx.output, hx.stats, hx.moves.withMemo _⟩
  · refine ⟨⟨?_, ?_⟩, ?_⟩
    · simp only [expandBody, Collected.joined, leave]
      omega
    · simp only [hfresh, expandBody, Collected.joined, leave]
      omega
    · intro entry hentry
      rcases List.mem_cons.mp hentry with rfl | hentry
      · exact ⟨⟨t, .text e⟩, by simp, name, memoKey_of_alike h name, hrecorded,
          h.suppressed ▸ hx.moves.extends_suppressed.1⟩
      · exact hafter entry hentry

theorem transparent_succ {levels : Nat} (hlevels : r.Transparent ctx levels) :
    r.Transparent ctx (levels + 1) := by
  intro log s t e name he h hstep visits hsound
  cases hbody : r.style.macroBody? name with
  | none =>
    rw [expandMacro_unknown (r := r.memoizing true) hbody,
      expandMacro_unknown (r := r.memoizing false) hbody]
    exact ⟨⟨rfl, rfl, h.moves⟩, hstep.of_keeps _ (.refl s) (.refl t)⟩
  | some body =>
    have hs : s.depth < maxMacroDepth := by
      have := hstep.1.1
      omega
    cases hmemo : s.memo.lookup (s.memoKey name) with
    | some hit =>
      rw [expandMacro_hit (r := r.memoizing true) rfl hbody hs hmemo]
      exact transparent_hit he h hstep hsound rfl hmemo
    | none => exact transparent_miss hlevels he h hstep hsound hbody hmemo

theorem transparent (r : Renderer) (ctx : RenderContext) (levels : Nat) :
    r.Transparent ctx levels := by
  induction levels with
  | zero =>
    intro log s t e name _ h hstep visits _
    exact ⟨⟨rfl, rfl, h.moves⟩, hstep.of_keeps _ (.refl s) (.refl t)⟩
  | succ levels ih => exact transparent_succ ih

/-- A layout comes out the same with a memo and without, as long as no macro is cut off for its depth
and what is taken from the memo fits the call. -/
theorem renderLayout_memoizing (r : Renderer) (layout : Layout) (ctx : RenderContext)
    (hshallow : ∀ v ∈ (r.memoizing false).layoutVisits layout ctx, v.Shallow)
    (hreplay : ((r.memoizing false).layoutVisits layout ctx).Pairwise
      ((r.memoizing false).Replayable ctx)) :
    (r.memoizing true).renderLayout layout ctx = (r.memoizing false).renderLayout layout ctx := by
  have hstart : (r.memoizing false).InStep ctx maxMacroDepth [] {} {} :=
    ⟨⟨rfl, rfl⟩, fun _ h => nomatch h⟩
  have hstates : Alike [] [] {} {} := ⟨⟨rfl, rfl, rfl, rfl⟩, [], rfl, rfl⟩
  have hcollect := ((transparent r ctx maxMacroDepth).lockstep.collect [] hstates hstart
    layout.children (fun _ _ => trivial) ⟨hshallow, hreplay⟩).1.outputs
  rw [r.collect_memoizing false true] at hcollect
  exact congrArg Output.ofList hcollect

def withMacro (children body : List Element) : Renderer where
  style := .citing children [("m", body)]
  locale := {}

def roe : Entry where
  id := "a"
  type := "book"
  names := [("translator", [.ofLiteral "Roe"])]

theorem renderLayout_memoizing_thrice :
    let children := [Element.ofMacro "m", .ofMacro "m", .ofMacro "m"]
    let r := withMacro children [.names (.ofRole "translator") none]
    let visits := (r.memoizing false).layoutVisits (.ofElements children) (.citation roe none)
    (∀ v ∈ visits, v.Shallow) ∧
      visits.Pairwise ((r.memoizing false).Replayable (.citation roe none)) ∧
      (r.memoizing true).renderLayout (.ofElements children) (.citation roe none) =
        (r.memoizing false).renderLayout (.ofElements children) (.citation roe none) := by
  intro children r visits
  have hshallow : ∀ v ∈ visits, v.Shallow := by decide
  have hreplay : visits.Pairwise ((r.memoizing false).Replayable (.citation roe none)) := by
    have hsame : visits.Pairwise fun v w =>
        v.state.inherited.getLast? = w.state.inherited.getLast? ∧ ∀ name ∈ w.macro?,
          v.macro? = some name → v.state.memoKey name = w.state.memoKey name →
            (r.memoizing false).EndsAsShown (.citation roe none) w.state name := by
      decide +kernel
    refine hsame.imp fun h name hw hv hkey => ⟨fun u _ e _ _ => ?_, h.2 name hw hv hkey⟩
    rw [h.1]
  exact ⟨hshallow, hreplay, renderLayout_memoizing r _ _ hshallow hreplay⟩

theorem renderLayout_memoizing_differs :
    (let substitute := some [Element.ofMacro "m"]
      let children := [.names (.ofRole "author" (some { suppressMin := some 1 })) substitute,
        .names (.ofRole "author") substitute]
      let r := withMacro children [.names (.ofRole "translator") none]
      let layout := Layout.ofElements children
      let ctx := RenderContext.citation roe none
      (∀ v ∈ (r.memoizing false).layoutVisits layout ctx, v.Shallow) ∧
        ((r.memoizing true).renderLayout layout ctx).plain = "" ∧
        ((r.memoizing false).renderLayout layout ctx).plain = "Roe") ∧
    (let stripped := Element.group
        { delimiter := none, require := none, reject := none, rendering := { stripPeriods := true } }
        [.ofSource (.value ".")]
      let children := [.ofSource (.value "1"), .ofMacro "m", .ofSource (.value "1"), .ofMacro "m",
        .group { delimiter := none, require := some .commaSafe, reject := none, rendering := {} }
          [.ofSource (.value "2")]]
      let r := withMacro children [stripped]
      let layout := Layout.ofElements children
      let ctx := RenderContext.citation roe none
      (∀ v ∈ (r.memoizing false).layoutVisits layout ctx, v.Shallow) ∧
        ((r.memoizing true).renderLayout layout ctx).plain = "11" ∧
        ((r.memoizing false).renderLayout layout ctx).plain = "112") := by
  decide +kernel

end Renderer

end Citeproc
