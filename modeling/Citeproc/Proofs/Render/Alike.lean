import Citeproc.Render.Visits

/-!
Two renders of the same elements, side by side. As long as the states in front of them agree in what
rendering can see, the outputs are the same and the states after them agree again.
-/

namespace Citeproc

namespace RenderState

structure Agrees (s t : RenderState) : Prop where
  suppressed : s.suppressed = t.suppressed
  firstNamesDone : s.firstNamesDone = t.firstNamesDone
  yearSuffixDone : s.yearSuffixDone = t.yearSuffixDone
  afterDigit : s.afterDigit = t.afterDigit

structure Alike (a b : List NamesElement) (s t : RenderState) : Prop extends Agrees s t where
  inherited : ∃ inner, s.inherited = a ++ inner ∧ t.inherited = b ++ inner

/-- Two states move on to agreeing states, inside the same names elements as before, and the same
variables are shown on the way. -/
structure Moves (s t s' t' : RenderState) : Prop extends Agrees s' t' where
  inherited : s'.inherited = s.inherited ∧ t'.inherited = t.inherited := by exact ⟨rfl, rfl⟩
  extends_suppressed : s.suppressed <+: s'.suppressed ∧ t.suppressed <+: t'.suppressed := by
    exact ⟨List.prefix_refl _, List.prefix_refl _⟩
  rendered : ∃ shown, s'.rendered = s.rendered ++ shown ∧ t'.rendered = t.rendered ++ shown := by
    exact ⟨[], (List.append_nil _).symm, (List.append_nil _).symm⟩

structure Keeps (s s' : RenderState) : Prop where
  memo : s'.memo = s.memo := by rfl
  depth : s'.depth = s.depth := by rfl
  suppressed : s.suppressed <+: s'.suppressed := by exact List.prefix_refl _

variable {a b : List NamesElement} {s t s' t' : RenderState}

theorem Keeps.refl (s : RenderState) : s.Keeps s := {}

theorem Keeps.trans {s'' : RenderState} (h : s.Keeps s') (h' : s'.Keeps s'') : s.Keeps s'' :=
  ⟨h'.memo.trans h.memo, h'.depth.trans h.depth, h.suppressed.trans h'.suppressed⟩

theorem Agrees.moves (h : s.Agrees t) : Moves s t s t := { h with }

theorem Moves.trans {s'' t'' : RenderState} (h : Moves s t s' t') (h' : Moves s' t' s'' t'') :
    Moves s t s'' t'' where
  toAgrees := h'.toAgrees
  inherited := ⟨h'.inherited.1.trans h.inherited.1, h'.inherited.2.trans h.inherited.2⟩
  extends_suppressed :=
    ⟨h.extends_suppressed.1.trans h'.extends_suppressed.1,
      h.extends_suppressed.2.trans h'.extends_suppressed.2⟩
  rendered := by
    obtain ⟨shown, hs, ht⟩ := h.rendered
    obtain ⟨more, hs', ht'⟩ := h'.rendered
    exact ⟨shown ++ more, by rw [hs', hs, List.append_assoc], by rw [ht', ht, List.append_assoc]⟩

theorem Alike.of_moves (h : Alike a b s t) (hm : Moves s t s' t') : Alike a b s' t' where
  toAgrees := hm.toAgrees
  inherited := by rw [hm.inherited.1, hm.inherited.2]; exact h.inherited

theorem Agrees.noteShown (h : s.Agrees t) (vars : List String) :
    Moves s t (s.noteShown vars) (t.noteShown vars) :=
  { h.moves with rendered := ⟨vars, rfl, rfl⟩ }

theorem Agrees.withYearSuffix (h : s.Agrees t) (done : Bool) :
    Moves s t { s with yearSuffixDone := done } { t with yearSuffixDone := done } :=
  { h.moves with yearSuffixDone := rfl }

theorem Agrees.withFirstNames (h : s.Agrees t) :
    Moves s t { s with firstNamesDone := true } { t with firstNamesDone := true } :=
  { h.moves with firstNamesDone := rfl }

theorem Agrees.withTail (h : s.Agrees t) {c d : Option Char}
    (hc : c.any Char.isDigit = d.any Char.isDigit) :
    Moves s t { s with tail := c } { t with tail := d } :=
  { h.moves with afterDigit := hc }

theorem Agrees.withSuppressed (h : s.Agrees t) (used : List String) :
    Moves s t { s with suppressed := s.suppressed ++ used }
      { t with suppressed := t.suppressed ++ used } :=
  { h.moves with
    suppressed := congrArg (· ++ used) h.suppressed
    extends_suppressed := ⟨List.prefix_append _ _, List.prefix_append _ _⟩ }

theorem keeps_noteShown (s : RenderState) (vars : List String) : s.Keeps (s.noteShown vars) :=
  { Keeps.refl s with }

theorem keeps_push (s : RenderState) (e : NamesElement) : s.Keeps (s.push e) := { Keeps.refl s with }

theorem keeps_pop (s : RenderState) : s.Keeps s.pop := { Keeps.refl s with }

theorem keeps_withSuppressed (s : RenderState) (used : List String) :
    s.Keeps { s with suppressed := s.suppressed ++ used } :=
  { Keeps.refl s with suppressed := List.prefix_append _ _ }

theorem Alike.push (h : Alike a b s t) (e : NamesElement) : Alike a b (s.push e) (t.push e) := by
  obtain ⟨inner, hs, ht⟩ := h.inherited
  have hinner : (s.push e).inherited = a ++ (inner ++ [e]) ∧
      (t.push e).inherited = b ++ (inner ++ [e]) := by
    simp [RenderState.push, hs, ht]
  exact { h with inherited := ⟨inner ++ [e], hinner⟩ }

theorem Moves.pop {e : NamesElement} (h : Moves (s.push e) (t.push e) s' t') :
    Moves s t s'.pop t'.pop := by
  have hinherited : s'.pop.inherited = s.inherited ∧ t'.pop.inherited = t.inherited := by
    simp [RenderState.pop, RenderState.push, h.inherited.1, h.inherited.2]
  exact { h with inherited := hinherited }

theorem Alike.isEmpty_inherited (h : Alike a b s t) (hab : a.isEmpty = b.isEmpty) :
    s.inherited.isEmpty = t.inherited.isEmpty := by
  obtain ⟨inner, hs, ht⟩ := h.inherited
  rw [hs, ht]
  cases a <;> cases b <;> cases inner <;> simp_all

end RenderState

open RenderState

structure Rendered.Alike (s t : RenderState) (x y : Rendered) : Prop where
  output : x.output = y.output
  stats : x.stats = y.stats
  moves : Moves s t x.state y.state

structure Collected.Alike (s t : RenderState) (x y : Collected) : Prop where
  outputs : x.outputs = y.outputs
  stats : x.stats = y.stats
  moves : Moves s t x.state y.state

structure Rendered.Follows (Rel : RenderState → RenderState → Prop) (s t : RenderState)
    (x y : Rendered) : Prop extends Alike s t x y where
  rel : Rel x.state y.state

structure Collected.Follows (Rel : RenderState → RenderState → Prop) (s t : RenderState)
    (x y : Collected) : Prop extends Alike s t x y where
  rel : Rel x.state y.state

variable {s t : RenderState}

theorem Rendered.Alike.one {x y : Rendered} (h : x.Alike s t y) :
    (Collected.one x).Alike s t (.one y) :=
  ⟨congrArg (fun o => [o]) h.output, h.stats, h.moves⟩

namespace Collected

theorem Alike.joined {x y : Collected} (h : x.Alike s t y) (delimiter : String) :
    (x.joined delimiter).Alike s t (y.joined delimiter) :=
  ⟨congrArg (Output.join · delimiter) h.outputs, h.stats, h.moves⟩

theorem keeps_settle (x : Collected) : x.state.Keeps x.settle.state := { Keeps.refl x.state with }

theorem Alike.settle {x y : Collected} (h : x.Alike s t y) : x.settle.Alike s t y.settle where
  outputs := by simp only [Collected.settle, h.outputs]
  stats := h.stats
  moves := by
    apply h.moves.trans
    apply h.moves.toAgrees.withTail
    rw [h.outputs]
    cases (y.outputs.filter (!·.isEmpty)).getLast?.bind (·.lastChar?) with
    | none => exact h.moves.afterDigit
    | some c => rfl

end Collected

structure Rendered.Leaf (s t : RenderState) (x y : Rendered) : Prop extends Alike s t x y where
  keeps₁ : s.Keeps x.state
  keeps₂ : t.Keeps y.state

theorem Rendered.Leaf.of_moves {s' t' : RenderState} (h : Moves s t s' t') (hs : s.Keeps s')
    (ht : t.Keeps t') (output : Output) (stats : VarStats) :
    Leaf s t { output, state := s', stats } { output, state := t', stats } :=
  ⟨⟨rfl, rfl, h⟩, hs, ht⟩

theorem Rendered.Leaf.of_agrees (h : s.Agrees t) (output : Output) (stats : VarStats) :
    Leaf s t { output, state := s, stats } { output, state := t, stats } :=
  of_moves h.moves (.refl s) (.refl t) output stats

namespace Renderer

variable (r : Renderer) (ctx : RenderContext)

theorem collect_singleton (expand : RenderState → String → Rendered) (s : RenderState)
    (e : Element) : r.collect expand ctx s [e] =
      match e with
      | .choose _ _ => r.renderParts expand ctx s e
      | _ => (r.renderParts expand ctx s e).settle := by
  simp only [collect, List.append_nil]
  cases e <;> rfl

theorem collect_cons (expand : RenderState → String → Rendered) (s : RenderState)
    (e : Element) (es : List Element) : r.collect expand ctx s (e :: es) =
      let first := r.collect expand ctx s [e]
      let rest := r.collect expand ctx first.state es
      { outputs := first.outputs ++ rest.outputs, state := rest.state
        stats := first.stats.add rest.stats } := by
  simp only [collect_singleton]
  cases e <;> simp only [collect]

def namesShown (st : RenderState) (e : NamesElement) (parent : Option NamesElement) : Output :=
  let full := inheritFrom e parent
  let f := r.nameFormatter ctx (some full) (ctx.target == .citation && !st.firstNamesDone)
  r.renderLists f full (nameLists ctx st e)

theorem renderParts_names (expand : RenderState → String → Rendered) (s : RenderState)
    (e : NamesElement) (substitute : Option (List Element)) :
    r.renderParts expand ctx s (.names e substitute) =
      let first := !s.firstNamesDone && s.inherited.isEmpty
      let lists := nameLists ctx s e
      if lists.isEmpty then
        let found := r.renderSubstitute expand ctx (s.push e) substitute
        let finished := finishNames ctx found.state.pop e first found.output
        .one { output := finished.1, state := finished.2, stats := .one (!found.output.isEmpty) }
      else
        let finished := finishNames ctx
          (s.noteShown (lists.flatMap fun (role, _) => shownRoles role)) e first
          (r.namesShown ctx s e s.inherited.getLast?)
        .one { output := finished.1, state := finished.2, stats := .one true } := by
  rw [renderParts]
  rfl

theorem leaf_renderVariable (h : s.Agrees t) (var : String) (form : VariableForm) :
    Rendered.Leaf s t (r.renderVariable ctx s var form) (r.renderVariable ctx t var form) := by
  have shown (output : Output) {s' t' : RenderState} (hm : Moves s t s' t') (hs : s.Keeps s')
      (ht : t.Keeps t') : Rendered.Leaf s t
        { output, state := if output.isEmpty then s' else s'.noteShown [var]
          stats := .one (!output.isEmpty) }
        { output, state := if output.isEmpty then t' else t'.noteShown [var]
          stats := .one (!output.isEmpty) } := by
    cases hempty : output.isEmpty with
    | true => exact .of_moves hm hs ht output _
    | false =>
      apply Rendered.Leaf.of_moves
      · exact hm.trans (hm.toAgrees.noteShown [var])
      · exact hs.trans (keeps_noteShown s' [var])
      · exact ht.trans (keeps_noteShown t' [var])
  have plain (output : Output) := shown output h.moves (.refl s) (.refl t)
  have hsup : t.isSuppressed var = s.isSuppressed var := by simp only [isSuppressed, h.suppressed]
  simp only [renderVariable, hsup]
  cases s.isSuppressed var with
  | true => exact plain .null
  | false =>
    by_cases hvar : (var == "year-suffix") = true
    · simp only [hvar, if_true]
      cases ctx.state.yearSuffix with
      | none => exact plain .null
      | some c =>
        exact shown _ (h.withYearSuffix true) { Keeps.refl s with } { Keeps.refl t with }
    · simp only [hvar]
      exact plain _

theorem freeValue?_of_agrees (h : s.Agrees t) (var : String) :
    freeValue? ctx s var = freeValue? ctx t var := by
  rw [freeValue?, freeValue?, isSuppressed, isSuppressed, h.suppressed]

theorem leaf_renderNumber (h : s.Agrees t) (e : NumberElement) :
    Rendered.Leaf s t (r.renderNumber ctx s e) (r.renderNumber ctx t e) := by
  rw [renderNumber, renderNumber, freeValue?_of_agrees ctx h]
  cases freeValue? ctx t e.var with
  | none => exact .of_agrees h _ _
  | some value => exact .of_moves (h.noteShown _) (keeps_noteShown _ _) (keeps_noteShown _ _) _ _

theorem renderLabel_of_agrees (h : s.Agrees t) (e : LabelElement) :
    r.renderLabel ctx s e = r.renderLabel ctx t e := by
  simp only [renderLabel, freeValue?_of_agrees ctx h]

theorem leaf_renderDate (h : s.Agrees t) (e : DateElement) :
    Rendered.Leaf s t (r.renderDate ctx s e) (r.renderDate ctx t e) := by
  rw [renderDate, renderDate, freeValue?_of_agrees ctx h]
  cases freeValue? ctx t e.var with
  | none => exact .of_agrees h _ _
  | some value =>
    have hm := h.noteShown [e.var]
    have hs := keeps_noteShown s [e.var]
    have ht := keeps_noteShown t [e.var]
    simp only
    cases DateRange.parse? value with
    | none => exact .of_moves hm hs ht _ _
    | some date =>
      by_cases hsort : ctx.sortKey.isSome = true
      · simp only [hsort, if_true]
        exact .of_moves hm hs ht _ _
      · simp only [hsort, hm.yearSuffixDone]
        apply Rendered.Leaf.of_moves
        · exact hm.trans (hm.toAgrees.withYearSuffix _)
        · exact { hs with }
        · exact { ht with }

theorem leaf_renderText (h : s.Agrees t) {e : TextElement} (he : e.macro? = none)
    (expand₁ expand₂ : RenderState → String → Rendered) :
    Rendered.Leaf s t (r.renderText expand₁ ctx s e) (r.renderText expand₂ ctx t e) := by
  simp only [TextElement.macro?] at he
  simp only [renderText]
  cases hsource : e.source with
  | macroCall name => simp [hsource] at he
  | var name form =>
    have hl := r.leaf_renderVariable ctx h name form
    exact ⟨⟨by simp only [hl.output], hl.stats, hl.moves⟩, hl.keeps₁, hl.keeps₂⟩
  | term name form plural => exact .of_agrees h _ _
  | value text => exact .of_agrees h _ _

theorem nameLists_of_agrees (h : s.Agrees t) (e : NamesElement) :
    nameLists ctx s e = nameLists ctx t e := by
  simp only [nameLists, isSuppressed, h.suppressed]

theorem namesShown_of_agrees (h : s.Agrees t) (e : NamesElement) (parent : Option NamesElement) :
    r.namesShown ctx s e parent = r.namesShown ctx t e parent := by
  simp only [namesShown, nameLists_of_agrees ctx h, h.firstNamesDone]

theorem moves_finishNames (h : s.Agrees t) (e : NamesElement) (first : Bool) (o : Output) :
    (finishNames ctx s e first o).1 = (finishNames ctx t e first o).1 ∧
      Moves s t (finishNames ctx s e first o).2 (finishNames ctx t e first o).2 := by
  simp only [finishNames]
  split
  · exact ⟨rfl, h.moves⟩
  · split
    · exact ⟨rfl, h.moves⟩
    · split
      · exact ⟨rfl, h.withFirstNames⟩
      · exact ⟨rfl, h.withFirstNames⟩

theorem keeps_finishNames (s : RenderState) (e : NamesElement) (first : Bool) (o : Output) :
    s.Keeps (finishNames ctx s e first o).2 := by
  simp only [finishNames]
  split
  · exact .refl s
  · split
    · exact .refl s
    · split <;> exact { Keeps.refl s with }

theorem alike_closeGroup (h : s.Agrees t) (e : GroupElement) {x y : Rendered}
    (hxy : x.Alike s t y) : (closeGroup s e x).Alike s t (closeGroup t e y) := by
  simp only [closeGroup, hxy.output, hxy.stats, h.afterDigit]
  split
  · exact ⟨rfl, rfl, hxy.moves.trans (hxy.moves.toAgrees.withTail h.afterDigit)⟩
  · exact ⟨rfl, rfl, hxy.moves⟩

theorem keeps_closeGroup (s : RenderState) (e : GroupElement) (x : Rendered) :
    x.state.Keeps (closeGroup s e x).state := by
  simp only [closeGroup]
  split
  · exact { Keeps.refl x.state with }
  · exact .refl _

end Renderer

end Citeproc
