import Citeproc.Proofs.Render.Memo

/-!
Rendering as rules, one for each thing that a render can do. What a render goes through is then known by
induction on the rules, over elements, substitutes and macros at once.
-/

namespace Citeproc

inductive Task
  | elements (es : List Element)
  | element (e : Element)
  | attempts (es : List Element)
  | call (name : String)

def RenderState.note (st : RenderState) (shown : List String) (suffixed : Bool) : RenderState :=
  { st with rendered := st.rendered ++ shown, yearSuffixDone := st.yearSuffixDone || suffixed }

def RenderState.useUp (st : RenderState) (used : List String) : RenderState :=
  { st with suppressed := st.suppressed ++ used }

open RenderState

namespace Collected

def settled (c : Collected) : Element → Collected
  | .choose _ _ => c
  | _ => c.settle

theorem one_inj {x y : Rendered} : one x = one y ↔ x = y := by
  cases x
  cases y
  simp [one]

theorem depth_settled (c : Collected) (e : Element) : (c.settled e).state.depth = c.state.depth := by
  cases e <;> rfl

theorem inherited_settled (c : Collected) (e : Element) :
    (c.settled e).state.inherited = c.state.inherited := by
  cases e <;> rfl

theorem memo_settled (c : Collected) (e : Element) : (c.settled e).state.memo = c.state.memo := by
  cases e <;> rfl

def andThen (c rest : Collected) : Collected where
  outputs := c.outputs ++ rest.outputs
  state := rest.state
  stats := c.stats.add rest.stats

end Collected

namespace Renderer

variable (r : Renderer) (ctx : RenderContext)

def chosen (otherwise : Option (List Element)) : List Branch → List Element
  | [] => otherwise.getD []
  | ⟨condition, children⟩ :: rest => if condition.holds ctx then children else chosen otherwise rest

def closeNames (before : RenderState) (e : NamesElement) (content : Rendered) : Rendered :=
  let finished :=
    finishNames ctx content.state e (!before.firstNamesDone && before.inherited.isEmpty) content.output
  { content with output := finished.1, state := finished.2 }

def noteNames (st : RenderState) (e : NamesElement) : RenderState :=
  st.noteShown ((nameLists ctx st e).flatMap fun list => shownRoles list.1)

def closeMacro (before : RenderState) (name : String) (content : Rendered) : Rendered :=
  let left := { content with state := content.state.leave }
  { left with
    state :=
      if r.memoize then
        { left.state with memo := (before.memoKey name, macroResult before left) :: left.state.memo }
      else left.state }

def noMacro (s : RenderState) (_ : String) : Rendered := { output := .null, state := s }

/-- From a state a task makes these visits and comes out as this. The elements of a substitute stand
for one variable, which has a value if one of them shows anything. -/
inductive Renders : RenderState → Task → List Visit → Collected → Prop
  | nil (s : RenderState) : Renders s (.elements []) [] { state := s }
  | cons {s : RenderState} {e : Element} {es : List Element} {log log' : List Visit}
      {c c' : Collected} (first : Renders s (.element e) log c)
      (rest : Renders (c.settled e).state (.elements es) log' c') :
      Renders s (.elements (e :: es)) (log ++ log') ((c.settled e).andThen c')
  | text (s : RenderState) {e : TextElement} (he : e.macro? = none) :
      Renders s (.element (.text e)) [⟨s, .text e⟩]
        (.one (r.renderText noMacro ctx s e))
  | called {s : RenderState} {e : TextElement} {name : String} (he : e.macro? = some name)
      {log : List Visit} {x : Rendered} (body : Renders s (.call name) log (.one x)) :
      Renders s (.element (.text e)) (⟨s, .text e⟩ :: log)
        (.one { x with output := x.output.decorate e.rendering })
  | date (s : RenderState) (e : DateElement) :
      Renders s (.element (.date e)) [⟨s, .date e⟩] (.one (r.renderDate ctx s e))
  | number (s : RenderState) (e : NumberElement) :
      Renders s (.element (.number e)) [⟨s, .number e⟩] (.one (r.renderNumber ctx s e))
  | label (s : RenderState) (e : LabelElement) :
      Renders s (.element (.label e)) [⟨s, .label e⟩]
        (.one { output := r.renderLabel ctx s e, state := s })
  | group {s : RenderState} (e : GroupElement) {children : List Element} {log : List Visit}
      {c : Collected} (inside : Renders s (.elements children) log c) :
      Renders s (.element (.group e children)) (⟨s, .group e children⟩ :: log)
        (.one (closeGroup s e (c.joined (e.delimiter.getD ""))))
  | named {s : RenderState} {e : NamesElement} (substitute : Option (List Element))
      (hlists : (nameLists ctx s e).isEmpty = false) :
      Renders s (.element (.names e substitute)) [⟨s, .names e substitute⟩]
        (.one (closeNames ctx s e
          { output := r.namesShown ctx s e s.inherited.getLast?, state := noteNames ctx s e
            stats := .one true }))
  | substituted {s : RenderState} {e : NamesElement} {substitute : Option (List Element)}
      (hlists : (nameLists ctx s e).isEmpty = true) {log : List Visit} {x : Rendered}
      (inside : Renders (s.push e) (.attempts (substitute.getD [])) log (.one x)) :
      Renders s (.element (.names e substitute)) (⟨s, .names e substitute⟩ :: log)
        (.one (closeNames ctx s e
          { x with state := x.state.pop, stats := .one (!x.output.isEmpty) }))
  | choose {s : RenderState} {branches : List Branch} {otherwise : Option (List Element)}
      {log : List Visit} {c : Collected}
      (inside : Renders s (.elements (chosen ctx otherwise branches)) log c) :
      Renders s (.element (.choose branches otherwise))
        (⟨s, .choose branches otherwise⟩ :: log) c
  | exhausted (s : RenderState) : Renders s (.attempts []) []
      (.one { output := .null, state := s, stats := .one false })
  | passed {s : RenderState} {e : Element} {es : List Element} {log log' : List Visit}
      {c c' : Collected} (first : Renders s (.element e) log c)
      (hempty : (c.joined "").output.isEmpty = true)
      (rest : Renders c.state (.attempts es) log' c') :
      Renders s (.attempts (e :: es)) (log ++ log') c'
  | shown {s : RenderState} {e : Element} (es : List Element) {log : List Visit}
      {c : Collected} (first : Renders s (.element e) log c)
      (hshown : (c.joined "").output.isEmpty = false) :
      Renders s (.attempts (e :: es)) log
        (.one { output := (c.joined "").output
                state := c.state.useUp (c.state.rendered.drop s.rendered.length)
                stats := .one true })
  | cut {s : RenderState} {name : String}
      (hcut : r.style.macroBody? name = none ∨ maxMacroDepth ≤ s.depth) :
      Renders s (.call name) [] (.one { output := .null, state := s })
  | replayed {s : RenderState} {name : String} {body : List Element} (hr : r.memoize = true)
      (hbody : r.style.macroBody? name = some body) (hs : s.depth < maxMacroDepth)
      {hit : MacroResult} (hhit : s.memo.lookup (s.memoKey name) = some hit) :
      Renders s (.call name) []
        (.one { output := hit.output, state := s.replay hit, stats := hit.stats })
  | expanded {s : RenderState} {name : String} {body : List Element}
      (hbody : r.style.macroBody? name = some body) (hs : s.depth < maxMacroDepth)
      (hmiss : r.memoize = true → s.memo.lookup (s.memoKey name) = none) {log : List Visit}
      {c : Collected} (inside : Renders s.enter (.elements body) log c) :
      Renders s (.call name) log (.one (r.closeMacro s name (c.joined "")))

variable {r ctx} {s : RenderState} {log : List Visit} {c : Collected}

theorem renderText_of_macro? {e : TextElement} (he : e.macro? = none)
    (expand₁ expand₂ : RenderState → String → Rendered) :
    r.renderText expand₁ ctx s e = r.renderText expand₂ ctx s e := by
  obtain ⟨source, rendering⟩ := e
  cases source with
  | macroCall name => cases he
  | var _ _ => rfl
  | term _ _ _ => rfl
  | value _ => rfl

theorem exists_note_renderVariable (s : RenderState) (var : String) (form : VariableForm) :
    ∃ shown suffixed, (r.renderVariable ctx s var form).state = s.note shown suffixed ∧
      ∀ v ∈ shown, v ∉ s.suppressed := by
  rw [renderVariable]
  cases hsup : s.isSuppressed var with
  | true => exact ⟨[], false, by simp [note, Output.isEmpty], by simp⟩
  | false =>
    have hfree : ∀ v ∈ [var], v ∉ s.suppressed := by simpa [isSuppressed] using hsup
    have noted (o : Output) (suffixed : Bool) : ∃ shown suffixed',
        (if o.isEmpty then { s with yearSuffixDone := s.yearSuffixDone || suffixed }
          else { s with yearSuffixDone := s.yearSuffixDone || suffixed }.noteShown [var]) =
            s.note shown suffixed' ∧ ∀ v ∈ shown, v ∉ s.suppressed := by
      cases o.isEmpty with
      | true => exact ⟨[], suffixed, by simp [note], by simp⟩
      | false => exact ⟨[var], suffixed, rfl, hfree⟩
    by_cases hvar : (var == "year-suffix") = true
    · simp only [hvar, if_true]
      cases ctx.state.yearSuffix with
      | none => simpa using noted .null false
      | some c => simpa using noted _ true
    · simp only [hvar]
      simpa using noted _ false

theorem exists_note_renderText (s : RenderState) {e : TextElement} (he : e.macro? = none)
    (expand : RenderState → String → Rendered) :
    ∃ shown suffixed, (r.renderText expand ctx s e).state = s.note shown suffixed ∧
      ∀ v ∈ shown, v ∉ s.suppressed := by
  obtain ⟨source, rendering⟩ := e
  cases source with
  | macroCall name => cases he
  | var name form => exact exists_note_renderVariable s name form
  | term _ _ _ => exact ⟨[], false, by simp [renderText, note], by simp⟩
  | value _ => exact ⟨[], false, by simp [renderText, note], by simp⟩

theorem notMem_suppressed_of_freeValue? {var value : String} (h : freeValue? ctx s var = some value) :
    var ∉ s.suppressed := by
  rw [freeValue?] at h
  split at h
  · cases h
  · next hfree => simpa [isSuppressed] using hfree

theorem exists_note_renderNumber (s : RenderState) (e : NumberElement) :
    ∃ shown suffixed, (r.renderNumber ctx s e).state = s.note shown suffixed ∧
      ∀ v ∈ shown, v ∉ s.suppressed := by
  rw [renderNumber]
  split
  · exact ⟨[], false, by simp [note], by simp⟩
  · next value hvalue =>
    exact ⟨[e.var], false, by simp [note, noteShown],
      by simpa using notMem_suppressed_of_freeValue? hvalue⟩

theorem exists_note_renderDate (s : RenderState) (e : DateElement) :
    ∃ shown suffixed, (r.renderDate ctx s e).state = s.note shown suffixed ∧
      ∀ v ∈ shown, v ∉ s.suppressed := by
  rw [renderDate]
  split
  · exact ⟨[], false, by simp [note], by simp⟩
  · next value hvalue =>
    have hfree : ∀ v ∈ [e.var], v ∉ s.suppressed := by
      simpa using notMem_suppressed_of_freeValue? hvalue
    dsimp only
    split
    · exact ⟨[e.var], false, by simp [note, noteShown], hfree⟩
    · split
      · exact ⟨[e.var], false, by simp [note, noteShown], hfree⟩
      · exact ⟨[e.var], _, rfl, hfree⟩

theorem snd_finishNames (s : RenderState) (e : NamesElement) (first : Bool) (o : Output) :
    (finishNames ctx s e first o).2 =
      { s with firstNamesDone := s.firstNamesDone || (first && !o.isEmpty) } := by
  unfold finishNames
  cases ho : o.isEmpty with
  | true => simp
  | false =>
    cases first with
    | false => simp
    | true => simp only [Bool.not_true, Bool.false_eq_true, if_false]; split <;> simp

theorem closeGroup_state (s : RenderState) (e : GroupElement) (x : Rendered) :
    (closeGroup s e x).state = x.state ∨ (closeGroup s e x).state = { x.state with tail := s.tail } := by
  rw [closeGroup]
  dsimp only
  split
  · exact .inr rfl
  · exact .inl rfl

theorem Renders.restores {task : Task} (h : r.Renders ctx s task log c) :
    c.state.depth = s.depth ∧ c.state.inherited = s.inherited := by
  have noted {s s' : RenderState} (h : ∃ shown suffixed, s' = s.note shown suffixed ∧
      ∀ v ∈ shown, v ∉ s.suppressed) : s'.depth = s.depth ∧ s'.inherited = s.inherited := by
    obtain ⟨shown, suffixed, rfl, -⟩ := h
    exact ⟨rfl, rfl⟩
  induction h with
  | nil | label | exhausted | cut | replayed => exact ⟨rfl, rfl⟩
  | text s he => exact noted (exists_note_renderText s he noMacro)
  | date s e => exact noted (exists_note_renderDate s e)
  | number s e => exact noted (exists_note_renderNumber s e)
  | called _ _ ih => exact ih
  | choose _ ih => exact ih
  | shown _ _ _ ih => exact ih
  | @cons _ e _ _ _ c _ _ _ ih ih' =>
    exact ⟨ih'.1.trans ((c.depth_settled e).trans ih.1),
      ih'.2.trans ((c.inherited_settled e).trans ih.2)⟩
  | group e _ ih =>
    simp only [Collected.one]
    rcases closeGroup_state _ e _ with h | h
    · rw [h]
      exact ih
    · rw [h]
      exact ih
  | named =>
    simp only [Collected.one, closeNames, snd_finishNames]
    exact ⟨rfl, rfl⟩
  | substituted _ _ ih =>
    simp only [Collected.one, closeNames, snd_finishNames]
    simp only [Collected.one] at ih
    exact ⟨ih.1, by simp [pop, ih.2, push]⟩
  | passed _ _ _ ih ih' => exact ⟨ih'.1.trans ih.1, ih'.2.trans ih.2⟩
  | expanded _ _ _ _ ih =>
    simp only [Collected.one, closeMacro]
    split
    · exact ⟨by simp [leave, Collected.joined, ih.1, enter], ih.2⟩
    · exact ⟨by simp [leave, Collected.joined, ih.1, enter], ih.2⟩

theorem Renders.depth_settled {task : Task} (h : r.Renders ctx s task log c) (e : Element) :
    (c.settled e).state.depth = s.depth :=
  (c.depth_settled e).trans h.restores.1

theorem not_cut {name : String} {body : List Element} (hbody : r.style.macroBody? name = some body)
    (hs : s.depth < maxMacroDepth) :
    ¬(r.style.macroBody? name = none ∨ maxMacroDepth ≤ s.depth) := by
  rintro (hnone | hdeep)
  · simp [hbody] at hnone
  · omega

theorem Renders.unique {task : Task} (h : r.Renders ctx s task log c) {log' : List Visit}
    {c' : Collected} (h' : r.Renders ctx s task log' c') : log' = log ∧ c' = c := by
  -- Two rules for one task ask for opposite things of the state, so the second derivation ends in
  -- the same rule.
  induction h generalizing log' c' with
  | nil | date | number | label | exhausted =>
    cases h'
    exact ⟨rfl, rfl⟩
  | text s he =>
    cases h' with
    | text => exact ⟨rfl, rfl⟩
    | called he' => simp [he] at he'
  | called he _ ih =>
    cases h' with
    | text _ he' => simp [he] at he'
    | called he' body =>
      obtain rfl := Option.some.inj (he.symm.trans he')
      obtain ⟨rfl, hx⟩ := ih body
      rw [Collected.one_inj.mp hx]
      exact ⟨rfl, rfl⟩
  | cons _ _ ih ih' =>
    cases h' with
    | cons first rest =>
      obtain ⟨rfl, rfl⟩ := ih first
      obtain ⟨rfl, rfl⟩ := ih' rest
      exact ⟨rfl, rfl⟩
  | group e _ ih =>
    cases h' with
    | group _ inside =>
      obtain ⟨rfl, rfl⟩ := ih inside
      exact ⟨rfl, rfl⟩
  | named _ hlists =>
    cases h' with
    | named => exact ⟨rfl, rfl⟩
    | substituted hlists' => simp [hlists] at hlists'
  | substituted hlists _ ih =>
    cases h' with
    | named _ hlists' => simp [hlists] at hlists'
    | substituted _ inside =>
      obtain ⟨rfl, hx⟩ := ih inside
      rw [Collected.one_inj.mp hx]
      exact ⟨rfl, rfl⟩
  | choose _ ih =>
    cases h' with
    | choose inside =>
      obtain ⟨rfl, rfl⟩ := ih inside
      exact ⟨rfl, rfl⟩
  | passed _ hempty _ ih ih' =>
    cases h' with
    | passed first _ rest =>
      obtain ⟨rfl, rfl⟩ := ih first
      obtain ⟨rfl, rfl⟩ := ih' rest
      exact ⟨rfl, rfl⟩
    | shown _ first hshown =>
      obtain ⟨rfl, rfl⟩ := ih first
      simp [hempty] at hshown
  | shown _ _ hshown ih =>
    cases h' with
    | passed first hempty _ =>
      obtain ⟨rfl, rfl⟩ := ih first
      simp [hshown] at hempty
    | shown _ first _ =>
      obtain ⟨rfl, rfl⟩ := ih first
      exact ⟨rfl, rfl⟩
  | cut hcut =>
    cases h' with
    | cut => exact ⟨rfl, rfl⟩
    | replayed _ hbody hs _ => exact absurd hcut (not_cut hbody hs)
    | expanded hbody hs _ _ => exact absurd hcut (not_cut hbody hs)
  | replayed hr hbody hs hhit =>
    cases h' with
    | cut hcut => exact absurd hcut (not_cut hbody hs)
    | replayed _ _ _ hhit' =>
      obtain rfl := Option.some.inj (hhit.symm.trans hhit')
      exact ⟨rfl, rfl⟩
    | expanded _ _ hmiss _ => simp [hmiss hr] at hhit
  | expanded hbody hs hmiss _ ih =>
    cases h' with
    | cut hcut => exact absurd hcut (not_cut hbody hs)
    | replayed hr _ _ hhit => simp [hmiss hr] at hhit
    | expanded hbody' _ _ inside =>
      obtain rfl := Option.some.inj (hbody.symm.trans hbody')
      obtain ⟨rfl, rfl⟩ := ih inside
      exact ⟨rfl, rfl⟩

theorem renderParts_choose (expand : RenderState → String → Rendered) (branches : List Branch)
    (otherwise : Option (List Element)) :
    r.renderParts expand ctx s (.choose branches otherwise) =
      r.collect expand ctx s (chosen ctx otherwise branches) := by
  rw [renderParts]
  induction branches with
  | nil => cases otherwise <;> simp [collectBranch, chosen, collectOption, collect]
  | cons branch rest ih =>
    obtain ⟨condition, children⟩ := branch
    rw [collectBranch, chosen]
    cases condition.holds ctx with
    | true => rfl
    | false => exact ih

theorem within_choose (expand : RenderState → String → Rendered)
    (inside : RenderState → String → List Visit) (branches : List Branch)
    (otherwise : Option (List Element)) :
    r.within expand inside ctx s (.choose branches otherwise) =
      r.visits expand inside ctx s (chosen ctx otherwise branches) := by
  rw [within]
  induction branches with
  | nil => cases otherwise <;> simp [withinBranch, chosen, withinOption, visits]
  | cons branch rest ih =>
    obtain ⟨condition, children⟩ := branch
    rw [withinBranch, chosen]
    cases condition.holds ctx with
    | true => rfl
    | false => exact ih

theorem renderParts_of_names {e : NamesElement} (h : (nameLists ctx s e).isEmpty = false)
    (expand : RenderState → String → Rendered) (substitute : Option (List Element)) :
    r.renderParts expand ctx s (.names e substitute) =
      .one (closeNames ctx s e
        { output := r.namesShown ctx s e s.inherited.getLast?, state := noteNames ctx s e
          stats := .one true }) := by
  simp only [renderParts_names, h, Bool.false_eq_true, if_false]
  rfl

def attempt (r : Renderer) (expand : RenderState → String → Rendered) (ctx : RenderContext)
    (s : RenderState) (es : List Element) : Rendered :=
  let found := r.firstShown expand ctx s es
  { found with stats := .one (!found.output.isEmpty) }

theorem renderParts_of_substitute {e : NamesElement} (h : (nameLists ctx s e).isEmpty = true)
    (expand : RenderState → String → Rendered) (substitute : Option (List Element)) :
    r.renderParts expand ctx s (.names e substitute) =
      let found := r.attempt expand ctx (s.push e) (substitute.getD [])
      .one (closeNames ctx s e { found with state := found.state.pop }) := by
  have hfound : r.renderSubstitute expand ctx (s.push e) substitute =
      r.firstShown expand ctx (s.push e) (substitute.getD []) := by
    cases substitute with
    | none => rw [renderSubstitute, Option.getD_none, firstShown]
    | some es => rw [renderSubstitute, Option.getD_some]
  simp only [renderParts_names, h, if_true, hfound]
  rfl

theorem within_of_substitute {e : NamesElement} (h : (nameLists ctx s e).isEmpty = true)
    (expand : RenderState → String → Rendered) (inside : RenderState → String → List Visit)
    (substitute : Option (List Element)) :
    r.within expand inside ctx s (.names e substitute) =
      r.visitsUntilShown expand inside ctx (s.push e) (substitute.getD []) := by
  rw [within, if_pos h]
  cases substitute with
  | none => rw [withinSubstitute, Option.getD_none, visitsUntilShown]
  | some es => rw [withinSubstitute, Option.getD_some]

theorem collect_eq (expand : RenderState → String → Rendered) (s : RenderState) (e : Element)
    (es : List Element) : r.collect expand ctx s (e :: es) =
      ((r.renderParts expand ctx s e).settled e).andThen
        (r.collect expand ctx ((r.renderParts expand ctx s e).settled e).state es) := by
  cases e <;> rfl

section Elements

variable {levels : Nat}
  (hexpand : ∀ (s : RenderState) name, levels + s.depth = maxMacroDepth →
    r.Renders ctx s (.call name) (r.macroVisits ctx levels s name)
      (.one (r.expandMacro ctx levels s name)))

include hexpand

-- One case for each constructor; the levels that are left fit the depth of every state on the way.
set_option linter.unusedSectionVars false in
mutual

theorem renders_element {s : RenderState} (hs : levels + s.depth = maxMacroDepth) (e : Element) :
    r.Renders ctx s (.element e)
      (⟨s, e⟩ :: r.within (r.expandMacro ctx levels) (r.macroVisits ctx levels) ctx s e)
      (r.renderParts (r.expandMacro ctx levels) ctx s e) := by
  match e with
  | .text e =>
    rw [renderParts, within]
    cases he : e.macro? with
    | none =>
      rw [renderText_of_macro? he _ noMacro]
      exact .text s he
    | some name =>
      have hsource : e.source = .macroCall name := by
        simp only [TextElement.macro?] at he
        split at he <;> simp_all
      have hcalled := Renders.called he (hexpand s name hs)
      simpa only [renderText, hsource, markNumber, Option.elim_some] using hcalled
  | .date e =>
    rw [renderParts, within]
    exact .date s e
  | .number e =>
    rw [renderParts, within]
    exact .number s e
  | .label e =>
    rw [renderParts, within]
    exact .label s e
  | .group e children =>
    rw [renderParts, within]
    exact .group e (renders_elements hs children)
  | .names e substitute =>
    cases hlists : (nameLists ctx s e).isEmpty with
    | true =>
      rw [renderParts_of_substitute hlists, within_of_substitute hlists]
      have hpush : levels + (s.push e).depth = maxMacroDepth := hs
      exact .substituted hlists (renders_substitute hpush substitute)
    | false =>
      rw [renderParts_of_names hlists, within, if_neg (by simp [hlists])]
      exact .named substitute hlists
  | .choose branches otherwise =>
    rw [renderParts_choose, within_choose]
    exact .choose (renders_branches hs branches (renders_option hs otherwise))

theorem renders_elements {s : RenderState} (hs : levels + s.depth = maxMacroDepth)
    (es : List Element) :
    r.Renders ctx s (.elements es)
      (r.visits (r.expandMacro ctx levels) (r.macroVisits ctx levels) ctx s es)
      (r.collect (r.expandMacro ctx levels) ctx s es) := by
  match es with
  | [] =>
    rw [visits, collect]
    exact .nil s
  | e :: es =>
    have first := renders_element hs e
    have hrest : levels + ((r.renderParts (r.expandMacro ctx levels) ctx s e).settled e).state.depth =
        maxMacroDepth := by
      rw [first.depth_settled, hs]
    have hstate : (r.collect (r.expandMacro ctx levels) ctx s [e]).state =
        ((r.renderParts (r.expandMacro ctx levels) ctx s e).settled e).state := by
      rw [collect_eq, collect]
      rfl
    rw [visits, hstate, collect_eq]
    exact .cons first (renders_elements hrest es)

theorem renders_option {s : RenderState} (hs : levels + s.depth = maxMacroDepth)
    (es : Option (List Element)) :
    r.Renders ctx s (.elements (es.getD []))
      (r.visits (r.expandMacro ctx levels) (r.macroVisits ctx levels) ctx s (es.getD []))
      (r.collect (r.expandMacro ctx levels) ctx s (es.getD [])) := by
  match es with
  | none =>
    rw [Option.getD_none, visits, collect]
    exact .nil s
  | some es => exact renders_elements hs es

theorem renders_branches {s : RenderState} (hs : levels + s.depth = maxMacroDepth)
    {otherwise : Option (List Element)} (branches : List Branch)
    (hotherwise : r.Renders ctx s (.elements (otherwise.getD []))
      (r.visits (r.expandMacro ctx levels) (r.macroVisits ctx levels) ctx s (otherwise.getD []))
      (r.collect (r.expandMacro ctx levels) ctx s (otherwise.getD []))) :
    r.Renders ctx s (.elements (chosen ctx otherwise branches))
      (r.visits (r.expandMacro ctx levels) (r.macroVisits ctx levels) ctx s
        (chosen ctx otherwise branches))
      (r.collect (r.expandMacro ctx levels) ctx s (chosen ctx otherwise branches)) := by
  match branches with
  | [] => exact hotherwise
  | ⟨condition, children⟩ :: rest =>
    rw [chosen]
    split
    · exact renders_elements hs children
    · exact renders_branches hs rest hotherwise

theorem renders_substitute {s : RenderState} (hs : levels + s.depth = maxMacroDepth)
    (es : Option (List Element)) :
    r.Renders ctx s (.attempts (es.getD []))
      (r.visitsUntilShown (r.expandMacro ctx levels) (r.macroVisits ctx levels) ctx s (es.getD []))
      (.one (r.attempt (r.expandMacro ctx levels) ctx s (es.getD []))) := by
  match es with
  | none =>
    rw [Option.getD_none, visitsUntilShown, attempt, firstShown]
    exact .exhausted s
  | some es => exact renders_attempts hs es

theorem renders_attempts {s : RenderState} (hs : levels + s.depth = maxMacroDepth)
    (es : List Element) :
    r.Renders ctx s (.attempts es)
      (r.visitsUntilShown (r.expandMacro ctx levels) (r.macroVisits ctx levels) ctx s es)
      (.one (r.attempt (r.expandMacro ctx levels) ctx s es)) := by
  match es with
  | [] =>
    rw [visitsUntilShown, attempt, firstShown]
    exact .exhausted s
  | e :: es =>
    have first := renders_element hs e
    rw [visitsUntilShown, attempt, firstShown]
    dsimp only
    split
    · next hempty =>
      have hrest : levels + (r.renderParts (r.expandMacro ctx levels) ctx s e).state.depth =
          maxMacroDepth := by
        rw [first.restores.1, hs]
      exact .passed first hempty (renders_attempts hrest es)
    · next hshown =>
      rw [Bool.not_eq_true] at hshown
      have hfound := Renders.shown es first hshown
      rw [List.append_nil, hshown]
      exact hfound

end

end Elements

theorem renders_call (levels : Nat) (s : RenderState) (name : String)
    (hs : levels + s.depth = maxMacroDepth) :
    r.Renders ctx s (.call name) (r.macroVisits ctx levels s name)
      (.one (r.expandMacro ctx levels s name)) := by
  induction levels generalizing s name with
  | zero =>
    rw [macroVisits, expandMacro]
    exact .cut (.inr (by omega))
  | succ levels ih =>
    have hdepth : s.depth < maxMacroDepth := by omega
    have henter : levels + s.enter.depth = maxMacroDepth := by
      simp only [enter]
      omega
    cases hbody : r.style.macroBody? name with
    | none =>
      rw [expandMacro_unknown hbody, macroVisits, hbody]
      exact .cut (.inl hbody)
    | some body =>
      have inside := renders_elements ih henter body
      cases hmemoize : r.memoize with
      | false =>
        have hmiss : r.memoize = true → s.memo.lookup (s.memoKey name) = none := by simp [hmemoize]
        have hexpanded := Renders.expanded hbody hdepth hmiss inside
        rw [expandMacro_fresh hmemoize hbody hdepth, macroVisits_fresh hmemoize hbody hdepth]
        simpa only [closeMacro, hmemoize, Bool.false_eq_true, if_false, expandBody] using hexpanded
      | true =>
        cases hlookup : s.memo.lookup (s.memoKey name) with
        | some hit =>
          have hreplayed := @Renders.replayed r ctx s name body hmemoize hbody hdepth hit hlookup
          rw [expandMacro_hit hmemoize hbody hdepth hlookup]
          simpa only [macroVisits, hbody, Nat.not_le.mpr hdepth, hmemoize, hlookup, if_false, if_true]
            using hreplayed
        | none =>
          have hexpanded := Renders.expanded hbody hdepth (fun _ => hlookup) inside
          rw [expandMacro_miss hmemoize hbody hdepth hlookup]
          simpa only [macroVisits, hbody, Nat.not_le.mpr hdepth, hmemoize, hlookup, if_false, if_true,
            closeMacro, expandBody] using hexpanded

theorem renders_layout (r : Renderer) (layout : Layout) (ctx : RenderContext) :
    r.Renders ctx {} (.elements layout.children) (r.layoutVisits layout ctx)
      (r.collectLayout layout ctx) :=
  renders_elements (renders_call maxMacroDepth) rfl layout.children

def outcome (r : Renderer) (ctx : RenderContext) (v : Visit) : Collected :=
  r.renderParts (r.expandMacro ctx (maxMacroDepth - v.state.depth)) ctx v.state v.element

def visitsFrom (r : Renderer) (ctx : RenderContext) (v : Visit) : List Visit :=
  v :: r.within (r.expandMacro ctx (maxMacroDepth - v.state.depth))
    (r.macroVisits ctx (maxMacroDepth - v.state.depth)) ctx v.state v.element

theorem renders_outcome (v : Visit) (hv : v.state.depth ≤ maxMacroDepth) :
    r.Renders ctx v.state (.element v.element) (r.visitsFrom ctx v) (r.outcome ctx v) :=
  renders_element (renders_call _) (Nat.sub_add_cancel hv) v.element

theorem Renders.outcome_eq {e : Element} (h : r.Renders ctx s (.element e) log c)
    (hs : s.depth ≤ maxMacroDepth) : r.outcome ctx ⟨s, e⟩ = c :=
  (h.unique (renders_outcome ⟨s, e⟩ hs)).2

end Renderer

end Citeproc
