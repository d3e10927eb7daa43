import Citeproc.Proofs.Date.Tags
import Citeproc.Proofs.Names.Tags
import Citeproc.Proofs.Render.Memo
import Citeproc.Proofs.Sample
import Citeproc.Proofs.Style.Nodes
import Citeproc.Proofs.Table

namespace Citeproc

def RenderContext.mostNames (ctx : RenderContext) : Nat := if ctx.suppressAuthor then 0 else 1

def DateElement.HasOneYear (l : Locale) (e : DateElement) : Prop :=
  (e.resolve l).1.countP (·.name == .year) ≤ 1

instance (l : Locale) (e : DateElement) : Decidable (e.HasOneYear l) :=
  inferInstanceAs (Decidable (_ ≤ _))

structure Element.SuffixesOnce (l : Locale) (e : Element) : Prop where
  shows : e.shows "year-suffix" = false
  hasOneYear : ∀ d, e = .date d → d.HasOneYear l

variable {ctx : RenderContext} {once : Prop} {s s' s'' : RenderState} {tags tags' : List Tag}

namespace RenderState

structure Marks (ctx : RenderContext) (once : Prop) (s : RenderState) (tags : List Tag)
    (s' : RenderState) : Prop where
  inherited : s'.inherited = s.inherited
  names : tags.countP Tag.isNames + ctx.mostNames * s.firstNamesDone.toNat ≤
    ctx.mostNames * s'.firstNamesDone.toNat
  inside : s.inherited ≠ [] → s'.firstNamesDone = s.firstNamesDone
  yearSuffix : once → tags.countP Tag.isYearSuffix + s.yearSuffixDone.toNat ≤ s'.yearSuffixDone.toNat

theorem Marks.refl (s : RenderState) : s.Marks ctx once [] s :=
  ⟨rfl, by simp, fun _ => rfl, fun _ => by simp⟩

theorem Marks.trans (h : s.Marks ctx once tags s') (h' : s'.Marks ctx once tags' s'') :
    s.Marks ctx once (tags ++ tags') s'' where
  inherited := h'.inherited.trans h.inherited
  names := by
    have := h.names
    have := h'.names
    rw [List.countP_append]
    omega
  inside hne := (h'.inside (h.inherited ▸ hne)).trans (h.inside hne)
  yearSuffix ho := by
    have := h.yearSuffix ho
    have := h'.yearSuffix ho
    rw [List.countP_append]
    omega

theorem Marks.mono (h : s.Marks ctx once tags s')
    (hn : tags'.countP Tag.isNames ≤ tags.countP Tag.isNames)
    (hy : tags'.countP Tag.isYearSuffix ≤ tags.countP Tag.isYearSuffix) :
    s.Marks ctx once tags' s' where
  inherited := h.inherited
  names := (Nat.add_le_add_right hn _).trans h.names
  inside := h.inside
  yearSuffix ho := (Nat.add_le_add_right hy _).trans (h.yearSuffix ho)

theorem Marks.sublist (h : s.Marks ctx once tags s') (ht : tags'.Sublist tags) :
    s.Marks ctx once tags' s' := h.mono ht.countP_le ht.countP_le

theorem Marks.pop {e : NamesElement} (h : (s.push e).Marks ctx once tags s') :
    s.Marks ctx once tags s'.pop where
  inherited := by simp [RenderState.pop, h.inherited, push]
  names := h.names
  inside _ := h.inside (by simp [push])
  yearSuffix := h.yearSuffix

def MemoMarks (ctx : RenderContext) (once : Prop) (s : RenderState) : Prop :=
  ∀ entry ∈ s.memo, ∀ (t : RenderState) (name : String), t.memoKey name = entry.1 →
    t.Marks ctx once entry.2.output.tags (t.replay entry.2)

end RenderState

structure Rendered.Marks (ctx : RenderContext) (once : Prop) (s : RenderState) (x : Rendered) :
    Prop where
  marks : s.Marks ctx once x.output.tags x.state
  memo : x.state.MemoMarks ctx once

structure Collected.Marks (ctx : RenderContext) (once : Prop) (s : RenderState) (x : Collected) :
    Prop where
  marks : s.Marks ctx once (x.outputs.flatMap Output.tags) x.state
  memo : x.state.MemoMarks ctx once

theorem Rendered.Marks.one {x : Rendered} (h : x.Marks ctx once s) :
    (Collected.one x).Marks ctx once s :=
  ⟨by simpa [Collected.one] using h.marks, h.memo⟩

namespace Collected.Marks

theorem settle {x : Collected} (h : x.Marks ctx once s) : x.settle.Marks ctx once s :=
  ⟨{ h.marks.sublist (Output.flatMap_tags_filter_sublist x.outputs) with }, h.memo⟩

theorem joined {x : Collected} (h : x.Marks ctx once s) (delimiter : String) :
    (x.joined delimiter).Marks ctx once s :=
  ⟨h.marks.sublist (Output.tags_join_sublist x.outputs delimiter), h.memo⟩

end Collected.Marks

namespace Rendered.Marks

theorem of_state (hs : s.MemoMarks ctx once) {o : Output} (ho : o.tags = []) (stats : VarStats := {}) :
    Marks ctx once s { output := o, state := s, stats } :=
  ⟨ho ▸ .refl s, hs⟩

theorem of_noteShown (hs : s.MemoMarks ctx once) {o : Output} (ho : o.tags = []) (vars : List String)
    (stats : VarStats := {}) : Marks ctx once s { output := o, state := s.noteShown vars, stats } :=
  ⟨ho ▸ { RenderState.Marks.refl s with }, hs⟩

end Rendered.Marks

namespace Renderer

variable (r : Renderer)

theorem marks_renderVariable (hs : s.MemoMarks ctx once) (var : String) (form : VariableForm)
    (hvar : once → (var == "year-suffix") = false) :
    (r.renderVariable ctx s var form).Marks ctx once s := by
  have shown {output : Output} {s' : RenderState} (h : s.Marks ctx once output.tags s')
      (hmemo : s'.memo = s.memo) : Rendered.Marks ctx once s
      { output, state := if output.isEmpty then s' else s'.noteShown [var]
        stats := .one (!output.isEmpty) } := by
    have hs' : s'.MemoMarks ctx once := fun entry he => hs entry (hmemo ▸ he)
    cases output.isEmpty with
    | true => exact ⟨h, hs'⟩
    | false => exact ⟨{ h with }, hs'⟩
  have plain {output : Output} (h : output.tags = []) := shown (h ▸ RenderState.Marks.refl s) rfl
  rw [renderVariable]
  cases s.isSuppressed var with
  | true => exact plain Output.tags_null
  | false =>
    cases hsuffix : var == "year-suffix" with
    | true =>
      cases ctx.state.yearSuffix with
      | none => exact plain Output.tags_null
      | some c =>
        have hmarked : s.Marks ctx once [.yearSuffix c] { s with yearSuffixDone := true } :=
          ⟨rfl, by simp [Tag.isNames], fun _ => rfl, fun ho => by simp [hvar ho] at hsuffix⟩
        refine shown (hmarked.sublist ?_) rfl
        rw [Output.tags_withTag, Output.tags_ofText]
        split
        · exact List.nil_sublist _
        · exact .refl _
    | false =>
      have hvalue (value? : Option String) : (value?.elim Output.null Output.ofText).tags = [] := by
        cases value? <;> simp
      exact plain (hvalue _)

theorem countP_markNumber (p : Tag → Bool) (hp : ∀ n, p (.citationNumber n) = false)
    (source : TextSource) (o : Output) :
    (markNumber ctx source o).tags.countP p ≤ o.tags.countP p := by
  unfold markNumber
  split
  · rw [Output.tags_withTag]
    split
    · exact Nat.zero_le _
    · simp [hp]
  · exact Nat.le_refl _

theorem marks_renderText {expand : RenderState → String → Rendered} (hs : s.MemoMarks ctx once)
    (hexpand : ∀ (s : RenderState) name, s.MemoMarks ctx once → (expand s name).Marks ctx once s)
    (e : TextElement) (he : once → Element.shows "year-suffix" (.text e) = false) :
    (r.renderText expand ctx s e).Marks ctx once s := by
  have decorated {x : Rendered} (h : x.Marks ctx once s) : Rendered.Marks ctx once s
      { x with output := markNumber ctx e.source (x.output.decorate e.rendering) } := by
    refine ⟨h.marks.mono ?_ ?_, h.memo⟩
    · exact (countP_markNumber _ (fun _ => rfl) _ _).trans_eq (by rw [Output.tags_decorate])
    · exact (countP_markNumber _ (fun _ => rfl) _ _).trans_eq (by rw [Output.tags_decorate])
  apply decorated
  obtain ⟨source, rendering⟩ := e
  cases source with
  | var name form => exact r.marks_renderVariable hs name form he
  | macroCall name => exact hexpand s name hs
  | term name form plural => exact .of_state hs (Output.tags_ofText _)
  | value text => exact .of_state hs (Output.tags_ofText _)

theorem marks_renderNumber (hs : s.MemoMarks ctx once) (e : NumberElement) :
    (r.renderNumber ctx s e).Marks ctx once s := by
  rw [renderNumber]
  split
  · exact .of_state hs Output.tags_null _
  · refine .of_noteShown hs ?_ _ _
    split <;> simp

theorem marks_dated (hs : s.MemoMarks ctx once) (dates : DateRenderer)
    (hyear : once → dates.parts.countP (·.name == .year) ≤ 1) (date : DateRange)
    {yearSuffix : Option Char} (hfree : yearSuffix.isSome = true → s.yearSuffixDone = false)
    (rendering : Rendering) (vars : List String) (stats : VarStats) : Rendered.Marks ctx once s
      { output := (dates.render date yearSuffix).decorate rendering
        state := { s.noteShown vars with yearSuffixDone := s.yearSuffixDone || yearSuffix.isSome }
        stats } := by
  refine ⟨⟨rfl, ?_, fun _ => rfl, fun ho => ?_⟩, hs⟩
  · rw [Output.tags_decorate, dates.countP_names_render, Nat.zero_add]
    exact Nat.le_refl _
  · have hcount := dates.countP_yearSuffix_render yearSuffix date
    have hparts := hyear ho
    rw [Output.tags_decorate]
    cases hsome : yearSuffix.isSome with
    | true =>
      rw [hsome, if_pos rfl] at hcount
      rw [hfree hsome]
      exact hcount.trans hparts
    | false =>
      simp only [hsome, Bool.false_eq_true, if_false] at hcount
      rw [Nat.le_zero.mp hcount, Nat.zero_add, Bool.or_false]

theorem marks_renderDate (hs : s.MemoMarks ctx once) (e : DateElement)
    (he : once → e.HasOneYear r.locale) : (r.renderDate ctx s e).Marks ctx once s := by
  rw [renderDate]
  split
  · exact .of_state hs Output.tags_null _
  · dsimp only
    split
    · exact .of_noteShown hs (by simp) _ _
    · next date _ =>
      split
      · exact .of_noteShown hs (Output.tags_ofText _) _ _
      · let dates : DateRenderer :=
          { parts := (e.resolve r.locale).1, delimiter := ((e.resolve r.locale).2).getD "",
            locale := r.locale }
        refine marks_dated hs dates he date (fun hsome => ?_) _ _ _
        split at hsome
        · next hfree =>
          simp only [Bool.and_eq_true, Bool.not_eq_true'] at hfree
          exact hfree.2
        · cases hsome

theorem marks_closeGroup {x : Rendered} (h : x.Marks ctx once s) (t : RenderState) (e : GroupElement) :
    (closeGroup t e x).Marks ctx once s := by
  rw [closeGroup]
  dsimp only
  split
  · exact ⟨{ h.marks.sublist (List.nil_sublist _) with }, h.memo⟩
  · exact ⟨by rw [Output.tags_decorate]; exact h.marks, h.memo⟩

theorem marks_finishNames {o : Output} {e : NamesElement} {first : Bool}
    (h : s.Marks ctx once o.tags s') (hdone : s'.firstNamesDone = s.firstNamesDone)
    (hfirst : first = true → s.firstNamesDone = false ∧ s.inherited = []) :
    s.Marks ctx once (finishNames ctx s' e first o).1.tags (finishNames ctx s' e first o).2 := by
  unfold finishNames
  split
  · exact h.sublist (List.nil_sublist _)
  · split
    · rw [Output.tags_decorate]
      exact h
    · next hf =>
      obtain ⟨hfresh, houter⟩ := hfirst (by simpa using hf)
      -- the flag has not moved, so nothing inside has been marked
      have hunmarked : o.tags.countP Tag.isNames = 0 := by
        have := h.names
        rw [hdone] at this
        omega
      split
      · next hsuppress =>
        exact ⟨h.inherited, by simp [RenderContext.mostNames, hsuppress],
          fun hne => absurd houter hne, (h.sublist (List.nil_sublist _)).yearSuffix⟩
      · next hsuppress =>
        have hmarked : s.Marks ctx once (.names (e.roles.head?.getD "") :: o.tags)
            { s' with firstNamesDone := true } := by
          refine ⟨h.inherited, ?_, fun hne => absurd houter hne, fun ho => ?_⟩
          · rw [List.countP_cons, hunmarked]
            simp [RenderContext.mostNames, hsuppress, hfresh, Tag.isNames]
          · simpa [Tag.isYearSuffix] using h.yearSuffix ho
        refine hmarked.sublist ?_
        dsimp only
        rw [Output.tags_withTag, Output.tags_decorate]
        split
        · exact List.nil_sublist _
        · refine List.Sublist.cons_cons _ ?_
          cases ctx.authorSubstitute <;> simp

theorem marks_names {expand : RenderState → String → Rendered} (hs : s.MemoMarks ctx once)
    (e : NamesElement) (substitute : Option (List Element))
    (hsubstitute : (r.renderSubstitute expand ctx (s.push e) substitute).Marks ctx once (s.push e)) :
    (r.renderParts expand ctx s (.names e substitute)).Marks ctx once s := by
  have hfirst : (!s.firstNamesDone && s.inherited.isEmpty) = true →
      s.firstNamesDone = false ∧ s.inherited = [] := by simp
  have finished {o : Output} {s' : RenderState} (h : s.Marks ctx once o.tags s')
      (hdone : s'.firstNamesDone = s.firstNamesDone) (hmemo : s'.MemoMarks ctx once)
      (stats : VarStats) :
      let finished := finishNames ctx s' e (!s.firstNamesDone && s.inherited.isEmpty) o
      Rendered.Marks ctx once s { output := finished.1, state := finished.2, stats } :=
    ⟨marks_finishNames h hdone hfirst,
      fun entry he => hmemo entry ((keeps_finishNames ctx s' e _ o).memo ▸ he)⟩
  rw [renderParts_names]
  dsimp only
  split
  · apply Rendered.Marks.one
    apply finished hsubstitute.marks.pop
    · exact hsubstitute.marks.inside (by simp [RenderState.push])
    · exact hsubstitute.memo
  · apply Rendered.Marks.one
    have htags : (r.namesShown ctx s e s.inherited.getLast?).tags = [] := r.tags_renderLists _ _ _
    apply finished
    · exact htags ▸ { RenderState.Marks.refl s with }
    · rfl
    · exact hs

section Elements

variable {expand : RenderState → String → Rendered}
  (hexpand : ∀ (s : RenderState) name, s.MemoMarks ctx once → (expand s name).Marks ctx once s)

include hexpand

-- One case for each constructor. Substitutes are tried one after another, and those that show nothing
-- leave their state behind as well.
set_option linter.unusedSectionVars false in
mutual

theorem marks_renderParts {s : RenderState} (hs : s.MemoMarks ctx once) (e : Element)
    (he : once → ∀ node ∈ e.nodes, node.SuffixesOnce r.locale) :
    (r.renderParts expand ctx s e).Marks ctx once s := by
  match e with
  | .text e =>
    rw [renderParts]
    exact (r.marks_renderText hs hexpand e fun ho => (he ho _ (by simp [Element.nodes])).shows).one
  | .date e =>
    rw [renderParts]
    exact (r.marks_renderDate hs e fun ho => (he ho _ (by simp [Element.nodes])).hasOneYear e rfl).one
  | .number e =>
    rw [renderParts]
    exact (r.marks_renderNumber hs e).one
  | .label e =>
    rw [renderParts]
    exact (Rendered.Marks.of_state hs (r.tags_renderLabel ctx s e)).one
  | .group e children =>
    have hchildren := marks_collect hs children fun ho node hnode =>
      he ho node (List.mem_cons_of_mem _ hnode)
    rw [renderParts]
    exact (marks_closeGroup (hchildren.joined (e.delimiter.getD "")) s e).one
  | .names e substitute =>
    have hpush : (s.push e).MemoMarks ctx once := hs
    exact r.marks_names hs e substitute (marks_renderSubstitute hpush substitute fun ho node hnode =>
      he ho node (List.mem_cons_of_mem _ hnode))
  | .choose branches otherwise =>
    rw [renderParts]
    split
    · next collected hbranch =>
      exact marks_collectBranch hs branches (fun ho node hnode =>
        he ho node (List.mem_cons_of_mem _ (List.mem_append_left _ hnode))) hbranch
    · exact marks_collectOption hs otherwise fun ho node hnode =>
        he ho node (List.mem_cons_of_mem _ (List.mem_append_right _ hnode))

theorem marks_collect {s : RenderState} (hs : s.MemoMarks ctx once) (es : List Element)
    (he : once → ∀ node ∈ Element.nodesAll es, node.SuffixesOnce r.locale) :
    (r.collect expand ctx s es).Marks ctx once s := by
  match es with
  | [] =>
    rw [collect]
    exact ⟨.refl s, hs⟩
  | e :: es =>
    have hparts := marks_renderParts hs e fun ho node hnode =>
      he ho node (List.mem_append_left _ hnode)
    have hfirst : (r.collect expand ctx s [e]).Marks ctx once s := by
      rw [collect_singleton]
      cases e with
      | choose branches otherwise => exact hparts
      | _ => exact hparts.settle
    have hrest := marks_collect hfirst.memo es fun ho node hnode =>
      he ho node (List.mem_append_right _ hnode)
    rw [collect_cons]
    exact ⟨by simpa using hfirst.marks.trans hrest.marks, hrest.memo⟩

theorem marks_collectOption {s : RenderState} (hs : s.MemoMarks ctx once)
    (es : Option (List Element))
    (he : once → ∀ node ∈ Element.nodesOption es, node.SuffixesOnce r.locale) :
    (r.collectOption expand ctx s es).Marks ctx once s := by
  match es with
  | none =>
    rw [collectOption]
    exact ⟨.refl s, hs⟩
  | some es =>
    rw [collectOption]
    exact marks_collect hs es he

theorem marks_collectBranch {s : RenderState} (hs : s.MemoMarks ctx once)
    (branches : List Branch)
    (he : once → ∀ node ∈ Element.nodesBranch branches, node.SuffixesOnce r.locale)
    {collected : Collected} (h : r.collectBranch expand ctx s branches = some collected) :
    collected.Marks ctx once s := by
  match branches with
  | [] =>
    rw [collectBranch] at h
    cases h
  | ⟨condition, children⟩ :: rest =>
    rw [collectBranch] at h
    split at h
    · rw [← Option.some.inj h]
      exact marks_collect hs children fun ho node hnode => he ho node (List.mem_append_left _ hnode)
    · exact marks_collectBranch hs rest
        (fun ho node hnode => he ho node (List.mem_append_right _ hnode)) h

theorem marks_renderSubstitute {s : RenderState} (hs : s.MemoMarks ctx once)
    (es : Option (List Element))
    (he : once → ∀ node ∈ Element.nodesOption es, node.SuffixesOnce r.locale) :
    (r.renderSubstitute expand ctx s es).Marks ctx once s := by
  match es with
  | none =>
    rw [renderSubstitute]
    exact .of_state hs Output.tags_null
  | some es =>
    rw [renderSubstitute]
    exact marks_firstShown hs es he

theorem marks_firstShown {s : RenderState} (hs : s.MemoMarks ctx once) (es : List Element)
    (he : once → ∀ node ∈ Element.nodesAll es, node.SuffixesOnce r.locale) :
    (r.firstShown expand ctx s es).Marks ctx once s := by
  match es with
  | [] =>
    rw [firstShown]
    exact .of_state hs Output.tags_null
  | e :: es =>
    have hfound := (marks_renderParts hs e fun ho node hnode =>
      he ho node (List.mem_append_left _ hnode)).joined ""
    rw [firstShown]
    dsimp only
    split
    · have hrest := marks_firstShown hfound.memo es fun ho node hnode =>
        he ho node (List.mem_append_right _ hnode)
      exact ⟨(hfound.marks.trans hrest.marks).sublist (List.sublist_append_right _ _), hrest.memo⟩
    · exact ⟨{ hfound.marks with }, hfound.memo⟩

end

end Elements

theorem marks_replay {t : RenderState} {x : Rendered} {name name' : String}
    (h : s.Marks ctx once x.output.tags x.state) (hkey : t.memoKey name' = s.memoKey name) :
    t.Marks ctx once x.output.tags (t.replay (macroResult s x)) := by
  simp only [RenderState.memoKey, MemoKey.mk.injEq] at hkey
  obtain ⟨-, -, hnames, hsuffix, -, hlength⟩ := hkey
  have hinside : t.inherited ≠ [] → s.inherited ≠ [] := by
    rw [← List.length_pos_iff, ← List.length_pos_iff, hlength]
    exact id
  exact ⟨rfl, hnames ▸ h.names, fun hne => hnames ▸ h.inside (hinside hne), hsuffix ▸ h.yearSuffix⟩

theorem marks_expandMacro
    (hmacros : once → ∀ entry ∈ r.style.macros, ∀ node ∈ Element.nodesAll entry.2,
      node.SuffixesOnce r.locale)
    (levels : Nat) (s : RenderState) (name : String) (hs : s.MemoMarks ctx once) :
    (r.expandMacro ctx levels s name).Marks ctx once s := by
  induction levels generalizing s name with
  | zero => exact .of_state hs Output.tags_null
  | succ levels ih =>
    cases hbody : r.style.macroBody? name with
    | none =>
      rw [expandMacro_unknown hbody]
      exact .of_state hs Output.tags_null
    | some body =>
      have henter : s.enter.MemoMarks ctx once := hs
      have hexpanded : (r.expandBody ctx levels s body).Marks ctx once s.enter :=
        (r.marks_collect ih henter body fun ho => hmacros ho _ (Table.mem_of_get? hbody)).joined ""
      have hleft : Rendered.Marks ctx once s { r.expandBody ctx levels s body with
          state := (r.expandBody ctx levels s body).state.leave } :=
        ⟨{ hexpanded.marks with }, hexpanded.memo⟩
      by_cases hdepth : s.depth < maxMacroDepth
      · cases hmemoize : r.memoize with
        | false =>
          rw [expandMacro_fresh hmemoize hbody hdepth]
          exact hleft
        | true =>
          cases hlookup : s.memo.lookup (s.memoKey name) with
          | some hit =>
            rw [expandMacro_hit hmemoize hbody hdepth hlookup]
            obtain ⟨before, after, hmemo, -⟩ := List.lookup_eq_some_iff.mp hlookup
            have hmem : (s.memoKey name, hit) ∈ s.memo := by simp [hmemo]
            exact ⟨hs _ hmem s name rfl, hs⟩
          | none =>
            rw [expandMacro_miss hmemoize hbody hdepth hlookup]
            refine ⟨{ hleft.marks with }, fun entry hentry t name' hkey => ?_⟩
            rcases List.mem_cons.mp hentry with rfl | hentry
            · -- the new entry may be taken wherever the key is that of the call
              have hreplay := marks_replay hleft.marks hkey
              exact hreplay
            · exact hleft.memo entry hentry t name' hkey
      · simp only [expandMacro, hbody, if_pos (Nat.not_lt.mp hdepth)]
        exact .of_state hs Output.tags_null

theorem marks_collectLayout (layout : Layout) (ctx : RenderContext)
    (hlayout : once → ∀ node ∈ Element.nodesAll layout.children, node.SuffixesOnce r.locale)
    (hmacros : once → ∀ entry ∈ r.style.macros, ∀ node ∈ Element.nodesAll entry.2,
      node.SuffixesOnce r.locale) :
    RenderState.Marks ctx once {} (r.renderLayout layout ctx).tags
      (r.collectLayout layout ctx).state := by
  have hstart : RenderState.MemoMarks ctx once {} := fun _ h => nomatch h
  have hcollect := r.marks_collect (r.marks_expandMacro hmacros maxMacroDepth) hstart layout.children
    hlayout
  exact hcollect.marks.sublist (Output.tags_ofList_sublist _)

/-- A rendered layout marks names at most once, and not at all when the author is left out. Where dates
alone show the year suffix, each behind one year at most, the year suffix is marked at most once. -/
theorem countP_tags_renderLayout (layout : Layout) (ctx : RenderContext) :
    (r.renderLayout layout ctx).tags.countP Tag.isNames ≤ (if ctx.suppressAuthor then 0 else 1) ∧
      (layout ∈ r.style.layouts → r.style.usesVariable "year-suffix" = false →
        (∀ d, .date d ∈ r.style.nodes → d.HasOneYear r.locale) →
        (r.renderLayout layout ctx).tags.countP Tag.isYearSuffix ≤ 1) := by
  constructor
  · have hmarks := r.marks_collectLayout layout ctx (False.elim ·) (False.elim ·)
    have hnames := hmarks.names
    rw [RenderContext.mostNames] at hnames
    split
    · next hsuppress => simpa [hsuppress] using hnames
    · next hsuppress =>
      simp only [hsuppress, Bool.false_eq_true, if_false, Nat.one_mul] at hnames
      have := Bool.toNat_le (r.collectLayout layout ctx).state.firstNamesDone
      omega
  · intro hlayout huses hdates
    have hnodes : ∀ node ∈ r.style.nodes, node.SuffixesOnce r.locale := by
      rw [Style.usesVariable_eq_any, List.any_eq_false] at huses
      exact fun node hnode => ⟨Bool.eq_false_iff.mpr (huses node hnode),
        fun d hd => hdates d (hd ▸ hnode)⟩
    have hmarks := r.marks_collectLayout layout ctx
      (fun (_ : True) node hnode => hnodes node (Style.mem_nodes_of_layout hlayout hnode))
      (fun _ entry hentry node hnode => hnodes node (Style.mem_nodes_of_macro hentry hnode))
    have hsuffix := hmarks.yearSuffix trivial
    have := Bool.toNat_le (r.collectLayout layout ctx).state.yearSuffixDone
    omega

theorem countP_tags_renderLayout_of_two :
    let date : DateElement :=
      { var := "issued", form := none, scope := .year, delimiter := none
        parts := [{ name := .year }], rendering := {} }
    let style := Style.citing [.ofMacro "m", .ofMacro "m"] [("m", [.firstAuthor, .date date])]
    let r : Renderer := { style, locale := {} }
    let e := { Entry.writtenBy "a" [.person "Doe" "John"] with fields := [("issued", "2020")] }
    let ctx := { RenderContext.citation e none with state := { yearSuffix := some 'a' } }
    let layout := style.citation.layouts.head (by decide)
    let tags := (r.renderLayout layout ctx).tags
    (r.renderLayout layout ctx).plain = "Doe2020aDoe2020" ∧ tags = [.names "author", .yearSuffix 'a'] ∧
      tags.countP Tag.isNames ≤ 1 ∧ tags.countP Tag.isYearSuffix ≤ 1 := by
  intro date style r e ctx layout tags
  have h := r.countP_tags_renderLayout layout ctx
  have hdates : ∀ d, .date d ∈ r.style.nodes → d.HasOneYear r.locale := by
    intro d hd
    have hnodes : r.style.nodes = [.ofMacro "m", .ofMacro "m", .firstAuthor, .date date] := rfl
    obtain rfl : d = date := by
      simpa [hnodes, Element.ofMacro, Element.ofSource, Element.firstAuthor] using hd
    decide +kernel
  exact ⟨by decide, by decide +kernel, h.1, h.2 (List.head_mem _) rfl hdates⟩

end Renderer

end Citeproc
