import Citeproc.Proofs.Date.YearSuffix
import Citeproc.Proofs.Output.Decorate
import Citeproc.Proofs.Render.Growth

namespace Citeproc

namespace Element

def rendering : Element → Rendering
  | text e => e.rendering
  | date e => e.rendering
  | number e => e.rendering
  | label e => e.rendering
  | names e _ => e.rendering
  | group e _ => e.rendering
  | choose _ _ => {}

def mayHide (e : Element) : Bool :=
  e.rendering.stripPeriods ||
    match e with
    | group e _ => e.require.isSome || e.reject.isSome
    | _ => false

end Element

namespace RenderState

structure SameMarks (s t : RenderState) : Prop where
  firstNamesDone : t.firstNamesDone = s.firstNamesDone
  yearSuffixDone : t.yearSuffixDone = s.yearSuffixDone
  suppressed : t.suppressed = s.suppressed

instance (s t : RenderState) : Decidable (s.SameMarks t) :=
  decidable_of_iff (t.firstNamesDone = s.firstNamesDone ∧ t.yearSuffixDone = s.yearSuffixDone ∧
    t.suppressed = s.suppressed) ⟨fun h => ⟨h.1, h.2.1, h.2.2⟩, fun h => ⟨h.1, h.2, h.3⟩⟩

variable {s t u : RenderState}

theorem SameMarks.refl (s : RenderState) : s.SameMarks s := ⟨rfl, rfl, rfl⟩

theorem SameMarks.trans (h : s.SameMarks t) (h' : t.SameMarks u) : s.SameMarks u :=
  ⟨h'.firstNamesDone.trans h.firstNamesDone, h'.yearSuffixDone.trans h.yearSuffixDone,
    h'.suppressed.trans h.suppressed⟩

theorem SameMarks.of_grows {once : Prop} {s' t' : RenderState} (h : s.SameMarks t)
    (hs : Grows once s s') (hst : Grows once s' t') (ht : Grows once t' t) : s'.SameMarks t' where
  firstNamesDone := by
    have h₁ := hs.firstNamesDone
    have h₂ := hst.firstNamesDone
    have h₃ := h.firstNamesDone ▸ ht.firstNamesDone
    exact Bool.eq_iff_iff.mpr ⟨fun ht' => h₁ (h₃ ht'), h₂⟩
  yearSuffixDone := by
    have h₁ := hs.yearSuffixDone
    have h₂ := hst.yearSuffixDone
    have h₃ := h.yearSuffixDone ▸ ht.yearSuffixDone
    exact Bool.eq_iff_iff.mpr ⟨fun ht' => h₁ (h₃ ht'), h₂⟩
  suppressed := by
    have h₁ := hs.suppressed.length_le
    have h₃ := (h.suppressed ▸ ht.suppressed).length_le
    exact (hst.suppressed.eq_of_length_le (h₃.trans h₁)).symm

end RenderState

open RenderState

def Visit.isDropped (r : Renderer) (ctx : RenderContext) (v : Visit) : Bool :=
  match v.element, (r.outcome ctx v).outputs with
  | .group _ _, [.null] => true
  | _, _ => false

/-- An element that shows nothing, for its guard or because it strips periods, and leaves marks all the
same. -/
structure Visit.Hides (r : Renderer) (ctx : RenderContext) (v : Visit) : Prop where
  mayHide : v.element.mayHide = true
  empty : ∀ o ∈ (r.outcome ctx v).outputs, o.isEmpty = true
  marks : ¬v.state.SameMarks (r.outcome ctx v).state

def Collected.Accounts (s : RenderState) (c : Collected) : Prop :=
  s.SameMarks c.state ∨ (c.stats.filled ≠ 0 ∧ ∃ o ∈ c.outputs, o.isEmpty = false)

def Rendered.Accounts (s : RenderState) (x : Rendered) : Prop :=
  s.SameMarks x.state ∨ (x.stats.filled ≠ 0 ∧ x.output.isEmpty = false)

variable {r : Renderer} {ctx : RenderContext} {s t : RenderState} {e : Element}

theorem Collected.Accounts.of_one {x : Rendered} (h : (Collected.one x).Accounts s) : x.Accounts s :=
  h.imp_right fun ⟨hfilled, _, ho, hshown⟩ => ⟨hfilled, List.mem_singleton.mp ho ▸ hshown⟩

theorem Collected.Accounts.joined {c : Collected} (h : c.Accounts s) (delimiter : String) :
    (c.joined delimiter).Accounts s := by
  rcases h with hsame | ⟨hfilled, o, ho, hshown⟩
  · exact .inl hsame
  refine .inr ⟨hfilled, ?_⟩
  rw [Collected.joined, Output.isEmpty_join, Bool.eq_false_iff, ne_eq, List.all_eq_true]
  exact fun hall => by simp [hall o ho] at hshown

theorem Rendered.Accounts.formatted {x : Rendered} (h : x.Accounts s) {o : Output}
    (hout : r.outcome ctx ⟨s, e⟩ = .one { x with output := o }) (hhides : ¬Visit.Hides r ctx ⟨s, e⟩)
    (ho : o.isEmpty = (x.output.decorate e.rendering).isEmpty) :
    (Collected.one { x with output := o }).Accounts s := by
  rcases h with hsame | ⟨hfilled, hshown⟩
  · exact .inl hsame
  · cases hstrip : e.rendering.stripPeriods with
    | false =>
      rw [Output.isEmpty_decorate _ hstrip, hshown] at ho
      exact .inr ⟨hfilled, o, List.mem_cons_self, ho⟩
    | true =>
      cases hempty : o.isEmpty with
      | false => exact .inr ⟨hfilled, o, List.mem_cons_self, hempty⟩
      | true =>
        left
        by_contra hmarks
        refine hhides ⟨by simp [Element.mayHide, hstrip], ?_, ?_⟩
        · rw [hout]
          simpa [Collected.one] using hempty
        · rw [hout]
          exact hmarks

namespace Renderer

theorem accounts_renderVariable (s : RenderState) (var : String) (form : VariableForm) :
    (r.renderVariable ctx s var form).Accounts s := by
  have same (o : Output) : Rendered.Accounts s
      { output := o, state := if o.isEmpty then s else s.noteShown [var]
        stats := .one (!o.isEmpty) } := by
    left
    cases o.isEmpty <;> exact ⟨rfl, rfl, rfl⟩
  rw [renderVariable]
  cases s.isSuppressed var with
  | true => exact same .null
  | false =>
    cases hvar : var == "year-suffix" with
    | false => exact same _
    | true =>
      cases ctx.state.yearSuffix with
      | none => exact same .null
      | some c =>
        have hshown : (Output.withTag (.yearSuffix c) (.ofText (String.singleton c))).isEmpty =
            false := by
          rw [Output.isEmpty_withTag, Bool.eq_false_iff, ne_eq, Output.isEmpty_iff_plain,
            Output.plain_ofText]
          simp [← String.toList_inj]
        exact .inr ⟨by simp [VarStats.one, hshown], hshown⟩

theorem isEmpty_markNumber (source : TextSource) (o : Output) :
    (markNumber ctx source o).isEmpty = o.isEmpty := by
  unfold markNumber
  split
  · exact Output.isEmpty_withTag _ _
  · rfl

theorem accounts_textContent (s : RenderState) {e : TextElement} (he : e.macro? = none) :
    ∃ x : Rendered, x.Accounts s ∧ ∃ o, r.renderText noMacro ctx s e = { x with output := o } ∧
      o.isEmpty = (x.output.decorate e.rendering).isEmpty := by
  obtain ⟨source, rendering⟩ := e
  cases source with
  | macroCall name => cases he
  | var name form => exact ⟨_, accounts_renderVariable s name form, _, rfl, isEmpty_markNumber _ _⟩
  | term name form plural =>
    exact ⟨{ output := .ofText ((r.locale.term? name form plural).getD ""), state := s },
      .inl (.refl s), _, rfl, isEmpty_markNumber _ _⟩
  | value text =>
    exact ⟨{ output := .ofText text, state := s }, .inl (.refl s), _, rfl, isEmpty_markNumber _ _⟩

theorem accounts_dated (s : RenderState) (dates : DateRenderer) (date : DateRange)
    {yearSuffix : Option Char} (hyear : yearSuffix.isSome = true →
      dates.parts.any (·.name == .year) = true)
    (vars : List String) : Rendered.Accounts s
      { output := dates.render date yearSuffix
        state := { s.noteShown vars with yearSuffixDone := s.yearSuffixDone || yearSuffix.isSome }
        stats := .one true } := by
  cases yearSuffix with
  | none => exact .inl ⟨rfl, Bool.or_false _, rfl⟩
  | some c => exact .inr ⟨Nat.one_ne_zero, dates.isEmpty_render_some c (hyear rfl) date⟩

theorem accounts_dateContent (s : RenderState) (e : DateElement) :
    s.SameMarks (r.renderDate ctx s e).state ∨
    ∃ x : Rendered, x.Accounts s ∧
      r.renderDate ctx s e = { x with output := x.output.decorate e.rendering } := by
  rw [renderDate]
  split
  · exact .inl (.refl s)
  · dsimp only
    split
    · exact .inl ⟨rfl, rfl, rfl⟩
    · next date hdate =>
      split
      · exact .inl ⟨rfl, rfl, rfl⟩
      · right
        let dates : DateRenderer :=
          { parts := (e.resolve r.locale).1, delimiter := ((e.resolve r.locale).2).getD "",
            locale := r.locale }
        refine ⟨_, accounts_dated s dates date (fun hsome => ?_) [e.var], rfl⟩
        split at hsome
        · next hfree =>
          simp only [Bool.and_eq_true] at hfree
          exact hfree.1.1
        · cases hsome

theorem exists_content_closeNames {x : Rendered} {e : NamesElement}
    (hauthor : ctx.suppressAuthor = false)
    (hreplace : ctx.authorSubstitute = none) (h : x.Accounts s)
    (hfilled : x.output.isEmpty = false → x.stats.filled ≠ 0) :
    ∃ y : Rendered, y.Accounts s ∧ ∃ o, closeNames ctx s e x = { y with output := o } ∧
      o.isEmpty = (y.output.decorate e.rendering).isEmpty := by
  cases hempty : x.output.isEmpty with
  | true =>
    have hsame : s.SameMarks x.state := h.resolve_right fun hshown => by simp [hempty] at hshown
    refine ⟨x, .inl hsame, .null, ?_, ?_⟩
    · simp [closeNames, finishNames, hempty]
    · rw [Output.decorate, if_pos hempty, hempty]
      rfl
  | false =>
    refine ⟨{ x with state := (closeNames ctx s e x).state }, .inr ⟨hfilled hempty, hempty⟩,
      (closeNames ctx s e x).output, rfl, ?_⟩
    simp only [closeNames, finishNames, hempty, hauthor, hreplace, Option.elim_none, Bool.false_eq_true,
      if_false]
    split
    · rfl
    · exact Output.isEmpty_withTag _ _

theorem accounts_closeNames {x : Rendered} {e : NamesElement} {substitute : Option (List Element)}
    (hauthor : ctx.suppressAuthor = false) (hreplace : ctx.authorSubstitute = none)
    (h : x.Accounts s) (hfilled : x.output.isEmpty = false → x.stats.filled ≠ 0)
    (hout : r.outcome ctx ⟨s, .names e substitute⟩ = .one (closeNames ctx s e x))
    (hhides : ¬Visit.Hides r ctx ⟨s, .names e substitute⟩) :
    (Collected.one (closeNames ctx s e x)).Accounts s := by
  obtain ⟨y, hy, o, hclose, ho⟩ := @exists_content_closeNames ctx s x e hauthor hreplace h hfilled
  rw [hclose] at hout ⊢
  exact hy.formatted hout hhides ho

theorem accounts_andThen {c c' : Collected} (h : c.Accounts s) (h' : c'.Accounts (c.settled e).state) :
    ((c.settled e).andThen c').Accounts s := by
  have hmarks : c.state.SameMarks (c.settled e).state := by cases e <;> exact ⟨rfl, rfl, rfl⟩
  have hstats : (c.settled e).stats = c.stats := by cases e <;> rfl
  rcases h with hsame | ⟨hfilled, o, ho, hshown⟩
  · rcases h' with hsame' | ⟨hfilled, o, ho, hshown⟩
    · exact .inl ((hsame.trans hmarks).trans hsame')
    · refine .inr ⟨?_, o, List.mem_append_right _ ho, hshown⟩
      simp only [Collected.andThen, VarStats.add]
      omega
  · have ho' : o ∈ (c.settled e).outputs := by
      cases e with
      | choose _ _ => exact ho
      | _ => exact List.mem_filter.mpr ⟨ho, by simp [hshown]⟩
    refine .inr ⟨?_, o, List.mem_append_left _ ho', hshown⟩
    simp only [Collected.andThen, VarStats.add, hstats]
    omega

theorem closeGroup_cases (s : RenderState) (e : GroupElement) (x : Rendered) :
    ((x.output.isEmpty = true ∨ x.stats.filled = 0 ∨ e.require.isSome = true ∨ e.reject.isSome = true) ∧
      closeGroup s e x = { output := .null, state := { x.state with tail := s.tail }
                           stats := { called := x.stats.called } }) ∨
    (x.output.isEmpty = false ∧
      closeGroup s e x = { x with output := x.output.decorate e.rendering }) := by
  rw [closeGroup]
  dsimp only
  split
  · next hdropped =>
    refine .inl ⟨?_, rfl⟩
    simp only [Bool.or_eq_true, Bool.and_eq_true, beq_iff_eq, Option.any_eq_true] at hdropped
    rcases hdropped with (hempty | ⟨-, hunfilled⟩) | ⟨guard, hguard, -⟩ | ⟨guard, hguard, -⟩
    · exact .inl hempty
    · exact .inr (.inl hunfilled)
    · exact .inr (.inr (.inl (Option.isSome_iff_exists.mpr ⟨guard, hguard⟩)))
    · exact .inr (.inr (.inr (Option.isSome_iff_exists.mpr ⟨guard, hguard⟩)))
  · next hkept =>
    simp only [Bool.or_eq_true, not_or, Bool.not_eq_true] at hkept
    exact .inr ⟨hkept.1.1, rfl⟩

theorem accounts_closeGroup {c : Collected} {e : GroupElement} {children : List Element}
    (h : c.Accounts s) (hout : r.outcome ctx ⟨s, .group e children⟩ =
      .one (closeGroup s e (c.joined (e.delimiter.getD ""))))
    (hhides : ¬Visit.Hides r ctx ⟨s, .group e children⟩) :
    (Collected.one (closeGroup s e (c.joined (e.delimiter.getD "")))).Accounts s := by
  have hcontent := h.joined (e.delimiter.getD "")
  generalize c.joined (e.delimiter.getD "") = content at hcontent hout ⊢
  rcases closeGroup_cases s e content with ⟨hwhy, hclose⟩ | ⟨-, hclose⟩
  · rw [hclose] at hout ⊢
    rcases hcontent with hsame | ⟨hfilled, hshown⟩
    · exact .inl { hsame with }
    · -- there is something to show, so a guard has dropped the group
      left
      by_contra hmarks
      refine hhides ⟨?_, ?_, ?_⟩
      · rcases hwhy with hempty | hunfilled | hguard
        · simp [hempty] at hshown
        · exact absurd hunfilled hfilled
        · simpa [Element.mayHide] using .inr hguard
      · rw [hout]
        simp [Collected.one, Output.isEmpty]
      · rw [hout]
        exact hmarks
  · rw [hclose] at hout ⊢
    exact hcontent.formatted hout hhides rfl

theorem Renders.accounts {task : Task} {log : List Visit} {c : Collected}
    (h : r.Renders ctx s task log c) (hauthor : ctx.suppressAuthor = false)
    (hreplace : ctx.authorSubstitute = none) (hs : s.depth ≤ maxMacroDepth)
    (hmemo : s.Remembers False) (hlog : ∀ v ∈ log, ¬v.Hides r ctx) : c.Accounts s := by
  induction h with
  | nil s => exact .inl (.refl s)
  -- What is behind an element goes by the marks that the element leaves, so it must be known to
  -- leave them or to show.
  | @cons s e es log log' c c' first rest ih ih' =>
    have hfirst := ih hs hmemo fun v hv => hlog v (List.mem_append_left _ hv)
    have hmemo' := (first.tracked hs hmemo False.elim).remembers.settled e
    have hrest := ih' (first.depth_settled e ▸ hs) hmemo'
      fun v hv => hlog v (List.mem_append_right _ hv)
    exact accounts_andThen hfirst hrest
  | @text s e he =>
    obtain ⟨x, hx, o, htext, ho⟩ := @accounts_textContent r ctx s e he
    have hout : r.outcome ctx ⟨s, .text e⟩ = _ := (Renders.text s he).outcome_eq hs
    rw [htext] at hout ⊢
    exact hx.formatted hout (hlog _ List.mem_cons_self) ho
  | date s e =>
    rcases @accounts_dateContent r ctx s e with hsame | ⟨x, hx, hdate⟩
    · exact .inl hsame
    · have hout : r.outcome ctx ⟨s, .date e⟩ = _ := (Renders.date s e).outcome_eq hs
      rw [hdate] at hout ⊢
      exact hx.formatted hout (hlog _ List.mem_cons_self) rfl
  | number s e =>
    left
    rw [renderNumber]
    split
    · exact .refl s
    · exact ⟨rfl, rfl, rfl⟩
  | label s e => exact .inl (.refl s)
  | called he body ih =>
    have hbody := (ih hs hmemo fun v hv => hlog v (List.mem_cons_of_mem _ hv)).of_one
    exact hbody.formatted ((Renders.called he body).outcome_eq hs) (hlog _ List.mem_cons_self) rfl
  | group e inside ih =>
    have hinside := ih hs hmemo fun v hv => hlog v (List.mem_cons_of_mem _ hv)
    exact accounts_closeGroup hinside ((Renders.group e inside).outcome_eq hs)
      (hlog _ List.mem_cons_self)
  | @named s e substitute hlists =>
    let content : Rendered :=
      { output := r.namesShown ctx s e s.inherited.getLast?, state := noteNames ctx s e
        stats := .one true }
    have hcontent : content.Accounts s := .inl ⟨rfl, rfl, rfl⟩
    exact accounts_closeNames hauthor hreplace hcontent (fun _ => Nat.one_ne_zero)
      ((Renders.named substitute hlists).outcome_eq hs) (hlog _ List.mem_cons_self)
  | @substituted s e substitute hlists _ x inside ih =>
    have hinside := (ih hs (hmemo.push e) fun v hv => hlog v (List.mem_cons_of_mem _ hv)).of_one
    let content : Rendered :=
      { x with state := x.state.pop, stats := .one (!x.output.isEmpty) }
    have hcontent : content.Accounts s := by
      rcases hinside with hsame | ⟨-, hshown⟩
      · exact .inl { hsame with }
      · exact .inr ⟨by simp [content, VarStats.one, hshown], hshown⟩
    have hfilled (hshown : content.output.isEmpty = false) : content.stats.filled ≠ 0 := by
      simp [content, VarStats.one, hshown]
    exact accounts_closeNames hauthor hreplace hcontent hfilled
      ((Renders.substituted hlists inside).outcome_eq hs) (hlog _ List.mem_cons_self)
  | choose _ ih => exact ih hs hmemo fun v hv => hlog v (List.mem_cons_of_mem _ hv)
  | exhausted s => exact .inl (.refl s)
  | passed first hempty _ ih ih' =>
    have hfirst := (ih hs hmemo fun v hv => hlog v (List.mem_append_left _ hv)).joined ""
    have hsame := hfirst.resolve_right fun hshown => by simp [hempty] at hshown
    have hrest := ih' (first.restores.1 ▸ hs) (first.tracked hs hmemo False.elim).remembers
      fun v hv => hlog v (List.mem_append_right _ hv)
    exact hrest.imp_left hsame.trans
  | shown _ _ hshown _ => exact .inr ⟨Nat.one_ne_zero, _, List.mem_cons_self, hshown⟩
  | cut => exact .inl (.refl _)
  | replayed _ _ _ hhit =>
    obtain ⟨hused, hnames, hsuffix, -⟩ := hmemo.hit hhit
    exact .inl ⟨hnames, hsuffix, by simp [Collected.one, replay, hused]⟩
  | @expanded s name _ _ hdepth _ _ c _ ih =>
    have hinside := (ih hdepth hmemo.enter hlog).joined ""
    rcases hinside with hsame | ⟨hfilled, hshown⟩
    · left
      simp only [Collected.one, closeMacro]
      split <;> exact { hsame with }
    · exact .inr ⟨hfilled, _, List.mem_cons_self, hshown⟩

def Reaches (r : Renderer) (ctx : RenderContext) (v : Visit) : Prop :=
  (∃ layout, v ∈ r.layoutVisits layout ctx) ∨ ∃ name, v ∈ r.macroVisits ctx maxMacroDepth {} name

theorem Reaches.depth_and_remembers {v : Visit} (h : r.Reaches ctx v) :
    v.state.depth ≤ maxMacroDepth ∧ v.state.Remembers False := by
  have passed {task : Task} {log : List Visit} {c : Collected} (hrender : r.Renders ctx {} task log c)
      (hv : v ∈ log) : v.state.depth ≤ maxMacroDepth ∧ v.state.Remembers False := by
    have hpasses := (hrender.tracked (Nat.zero_le _) (remembers_start False) False.elim).passes v hv
    exact ⟨hpasses.depth, hpasses.remembers⟩
  rcases h with ⟨layout, hv⟩ | ⟨name, hv⟩
  · exact passed (renders_layout r layout ctx) hv
  · exact passed (renders_call maxMacroDepth {} name rfl) hv

theorem exists_group_of_isDropped {v : Visit} (h : v.isDropped r ctx = true) :
    ∃ e children, v.element = .group e children ∧ (r.outcome ctx v).outputs = [.null] := by
  unfold Visit.isDropped at h
  split at h
  · next e children hgroup hnull => exact ⟨e, children, hgroup, hnull⟩
  · cases h

theorem tail_of_isDropped {v : Visit} (h : v.isDropped r ctx = true) :
    (r.outcome ctx v).state.tail = v.state.tail := by
  obtain ⟨e, children, hgroup, hnull⟩ := exists_group_of_isDropped h
  obtain ⟨s, element⟩ := v
  obtain rfl : element = .group e children := hgroup
  rw [outcome, renderParts] at hnull ⊢
  rcases closeGroup_cases s e _ with ⟨-, hclose⟩ | ⟨hshown, hclose⟩
  · rw [hclose]
    rfl
  · rw [hclose, Collected.one, List.cons.injEq] at hnull
    exact absurd hnull.1 (Output.decorate_ne_null hshown _)

/-- A group that is dropped leaves the last character shown as it was. It leaves all marks as they were
exactly when neither the group nor anything in it hides what it has marked. -/
theorem dropped_group_marks {r : Renderer} {ctx : RenderContext} {v : Visit} (hv : r.Reaches ctx v)
    (hauthor : ctx.suppressAuthor = false) (hreplace : ctx.authorSubstitute = none)
    (hdropped : v.isDropped r ctx = true) :
    (r.outcome ctx v).state.tail = v.state.tail ∧
      (v.state.SameMarks (r.outcome ctx v).state ↔ ∀ u ∈ r.visitsFrom ctx v, ¬u.Hides r ctx) := by
  obtain ⟨hdepth, hmemo⟩ := hv.depth_and_remembers
  have hrender : r.Renders ctx v.state (.element v.element) (r.visitsFrom ctx v) (r.outcome ctx v) :=
    renders_outcome v hdepth
  refine ⟨tail_of_isDropped hdropped, fun hsame u hu hhides => ?_, fun hnone => ?_⟩
  · have hu := (hrender.tracked hdepth hmemo False.elim).passes u hu
    exact hhides.marks (hsame.of_grows hu.before hu.during hu.after)
  · rcases hrender.accounts hauthor hreplace hdepth hmemo hnone with hsame | ⟨-, o, ho, hshown⟩
    · exact hsame
    · obtain ⟨e, children, -, hnull⟩ := exists_group_of_isDropped hdropped
      rw [hnull, List.mem_singleton] at ho
      rw [ho] at hshown
      cases hshown

def afterNumber (children : List Element) : List Element :=
  [.ofSource (.value "1"),
    .group { delimiter := none, require := some .commaSafe, reject := none, rendering := {} }
      (.ofSource (.value "2") :: children)]

theorem dropped_group_marks_of_number :
    let layout := Layout.ofElements (afterNumber [])
    let r : Renderer := { style := .citing layout.children, locale := {} }
    let ctx := RenderContext.citation { id := "a", type := "book" } none
    ∃ v ∈ r.layoutVisits layout ctx, v.isDropped r ctx = true ∧
      (r.outcome ctx v).state.tail = some '1' ∧ v.state.tail = some '1' ∧
      (v.state.SameMarks (r.outcome ctx v).state ↔ ∀ u ∈ r.visitsFrom ctx v, ¬u.Hides r ctx) := by
  intro layout r ctx
  obtain ⟨v, hv, hdropped, htail⟩ : ∃ v ∈ r.layoutVisits layout ctx, v.isDropped r ctx = true ∧
      v.state.tail = some '1' := by
    decide +kernel
  have h := dropped_group_marks (.inl ⟨layout, hv⟩) rfl rfl hdropped
  exact ⟨v, hv, hdropped, h.1.trans htail, htail, h.2⟩

theorem dropped_group_uses_up :
    let title := Element.ofSource (.var "title" .long)
    let group := afterNumber [.names (.ofRole "author") (some [title])]
    let layout := Layout.ofElements (group ++ [title])
    let r : Renderer := { style := .citing layout.children, locale := {} }
    let ctx := RenderContext.citation
      { id := "a", type := "book", fields := [("title", "Book")] } none
    (∃ v ∈ r.layoutVisits layout ctx, v.isDropped r ctx = true ∧
      ¬v.state.SameMarks (r.outcome ctx v).state) ∧
      (r.renderLayout layout ctx).plain = "1" ∧
      (r.renderLayout (.ofElements [.ofSource (.value "1"), title]) ctx).plain = "1Book" := by
  decide +kernel

end Renderer

end Citeproc
