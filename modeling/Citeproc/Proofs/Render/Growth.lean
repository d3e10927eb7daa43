import Citeproc.Proofs.Render.Rules

/-!
What a render only ever adds to its state: the variables shown, those that substitutes use up, and the
marks for names and year suffixes. A macro taken from the memo adds no more than the variables it shows,
since it is met in a state with the same marks and the same used-up variables.
-/

namespace Citeproc

/-- A names element that shows a list of its own for editors who are also the translators, when the
editors or the translators are used up. -/
def Visit.Clashes (ctx : RenderContext) (v : Visit) : Prop :=
  ∃ e ∈ v.names?, "editortranslator" ∈ e.roles ∧ "editortranslator" ∉ v.state.suppressed ∧
    (ctx.entry.names? "editortranslator").isSome = true ∧
      ("editor" ∈ v.state.suppressed ∨ "translator" ∈ v.state.suppressed)

namespace RenderState

structure Grows (once : Prop) (s t : RenderState) : Prop where
  suppressed : s.suppressed <+: t.suppressed
  rendered : ∃ shown, t.rendered = s.rendered ++ shown ∧ (once → ∀ var ∈ shown, var ∉ s.suppressed)
  firstNamesDone : s.firstNamesDone = true → t.firstNamesDone = true
  yearSuffixDone : s.yearSuffixDone = true → t.yearSuffixDone = true

def Remembers (once : Prop) (s : RenderState) : Prop :=
  ∀ entry ∈ s.memo, ∃ (before : RenderState) (name : String) (x : Rendered),
    entry = (before.memoKey name, Renderer.macroResult before x) ∧
      Grows once before x.state ∧ Grows once x.state s

variable {once : Prop} {s t u : RenderState}

theorem Grows.refl (s : RenderState) : Grows once s s :=
  ⟨List.prefix_refl _, ⟨[], (List.append_nil _).symm, fun _ _ h => nomatch h⟩, id, id⟩

theorem Grows.trans (h : Grows once s t) (h' : Grows once t u) : Grows once s u where
  suppressed := h.suppressed.trans h'.suppressed
  rendered := by
    obtain ⟨shown, ht, hshown⟩ := h.rendered
    obtain ⟨more, hu, hmore⟩ := h'.rendered
    refine ⟨shown ++ more, by rw [hu, ht, List.append_assoc], fun ho => ?_⟩
    rw [List.forall_mem_append]
    exact ⟨hshown ho, fun var hvar hused => hmore ho var hvar (h.suppressed.subset hused)⟩
  firstNamesDone := h'.firstNamesDone ∘ h.firstNamesDone
  yearSuffixDone := h'.yearSuffixDone ∘ h.yearSuffixDone

theorem grows_note {shown : List String} (suffixed : Bool)
    (h : once → ∀ var ∈ shown, var ∉ s.suppressed) :
    Grows once s (s.note shown suffixed) :=
  ⟨List.prefix_refl _, ⟨shown, rfl, h⟩, id, fun h => by simp [note, h]⟩

theorem grows_useUp (s : RenderState) (used : List String) : Grows once s (s.useUp used) :=
  { Grows.refl s with suppressed := List.prefix_append _ _ }

theorem grows_withFirstNames (s : RenderState) (done : Bool) :
    Grows once s { s with firstNamesDone := s.firstNamesDone || done } :=
  { Grows.refl s with firstNamesDone := fun h => by simp [h] }

theorem Remembers.of_grows (h : s.Remembers once) (hgrows : Grows once s t) (hmemo : t.memo = s.memo) :
    t.Remembers once := by
  intro entry hentry
  obtain ⟨before, name, x, rfl, hx, hs⟩ := h entry (hmemo ▸ hentry)
  exact ⟨before, name, x, rfl, hx, hs.trans hgrows⟩

theorem Remembers.push (h : s.Remembers once) (e : NamesElement) : (s.push e).Remembers once :=
  h.of_grows { Grows.refl s with } rfl

theorem Remembers.enter (h : s.Remembers once) : s.enter.Remembers once :=
  h.of_grows { Grows.refl s with } rfl

theorem grows_settled (c : Collected) (e : Element) : Grows once c.state (c.settled e).state := by
  cases e <;> exact { Grows.refl c.state with }

theorem Remembers.settled {c : Collected} (h : c.state.Remembers once) (e : Element) :
    (c.settled e).state.Remembers once :=
  h.of_grows (grows_settled c e) (c.memo_settled e)

theorem Remembers.hit (h : s.Remembers once) {name : String} {hit : MacroResult}
    (hhit : s.memo.lookup (s.memoKey name) = some hit) :
    hit.suppressed = [] ∧ hit.firstNamesDone = s.firstNamesDone ∧
      hit.yearSuffixDone = s.yearSuffixDone ∧ (once → ∀ var ∈ hit.rendered, var ∉ s.suppressed) := by
  have hmem : (s.memoKey name, hit) ∈ s.memo := by
    obtain ⟨front, back, hmemo, -⟩ := List.lookup_eq_some_iff.mp hhit
    simp [hmemo]
  obtain ⟨before, found, x, heq, hx, hs⟩ := h _ hmem
  obtain ⟨hkey, rfl⟩ := Prod.mk.injEq .. ▸ heq
  simp only [memoKey, MemoKey.mk.injEq] at hkey
  obtain ⟨-, -, hnames, hsuffix, hlength, -⟩ := hkey
  -- as many used-up variables as before the expansion, so none has been added since
  have hsame : before.suppressed = s.suppressed :=
    (hx.suppressed.trans hs.suppressed).eq_of_length hlength.symm
  have hafter : x.state.suppressed = before.suppressed := by
    apply (hx.suppressed.eq_of_length _).symm
    have h₁ := hx.suppressed.length_le
    have h₂ := hs.suppressed.length_le
    omega
  refine ⟨?_, ?_, ?_, fun ho => ?_⟩
  · simp [Renderer.macroResult, hafter]
  · exact Bool.eq_iff_iff.mpr ⟨hs.firstNamesDone, fun h => hx.firstNamesDone (hnames ▸ h)⟩
  · exact Bool.eq_iff_iff.mpr ⟨hs.yearSuffixDone, fun h => hx.yearSuffixDone (hsuffix ▸ h)⟩
  · obtain ⟨shown, hshown, hfree⟩ := hx.rendered
    simp only [Renderer.macroResult, hshown, List.drop_left, ← hsame]
    exact hfree ho

end RenderState

open RenderState

namespace Renderer

section Names

variable {lists : List (String × List Name)} {list : String × List Name}

theorem mergeEditors_cases (lists : List (String × List Name)) :
    mergeEditors lists = lists ∨ ∃ (e t : Nat) (editors translators : List Name),
      lists[e]? = some ("editor", editors) ∧ lists[t]? = some ("translator", translators) ∧
        mergeEditors lists = (lists.set e ("editortranslator", editors)).eraseIdx t := by
  unfold mergeEditors
  split
  · next e t he ht =>
    split
    · next role editors role' translators hlist hlist' =>
      split
      · have hrole : role = "editor" := by
          obtain ⟨hlt, hrole, -⟩ := List.findIdx?_eq_some_iff_getElem.mp he
          rw [List.getElem?_eq_getElem hlt] at hlist
          simpa [Option.some.inj hlist] using hrole
        have hrole' : role' = "translator" := by
          obtain ⟨hlt, hrole, -⟩ := List.findIdx?_eq_some_iff_getElem.mp ht
          rw [List.getElem?_eq_getElem hlt] at hlist'
          simpa [Option.some.inj hlist'] using hrole
        exact .inr ⟨e, t, editors, translators, hrole ▸ hlist, hrole' ▸ hlist', rfl⟩
      · exact .inl rfl
    · exact .inl rfl
  · exact .inl rfl

theorem mem_of_mem_mergeEditors (h : list ∈ mergeEditors lists) :
    list ∈ lists ∨ (list.1 = "editortranslator" ∧ "editor" ∈ lists.map Prod.fst ∧
      "translator" ∈ lists.map Prod.fst) := by
  rcases mergeEditors_cases lists with hsame | ⟨e, t, editors, translators, he, ht, hmerged⟩
  · exact .inl (hsame ▸ h)
  · rw [hmerged] at h
    rcases List.mem_or_eq_of_mem_set (List.mem_of_mem_eraseIdx h) with h | rfl
    · exact .inl h
    · exact .inr ⟨rfl, List.mem_map_of_mem (List.mem_of_getElem? he),
        List.mem_map_of_mem (List.mem_of_getElem? ht)⟩

theorem mem_mergeEditors (h : list ∈ lists) (hlist : list.1 = "editortranslator") :
    list ∈ mergeEditors lists := by
  rcases mergeEditors_cases lists with hsame | ⟨e, t, editors, translators, he, ht, hmerged⟩
  · rw [hsame]
    exact h
  · obtain ⟨i, hi⟩ := List.mem_iff_getElem?.mp h
    have hne : e ≠ i := by
      rintro rfl
      simp [Option.some.inj (hi.symm.trans he)] at hlist
    have hnt : i ≠ t := by
      rintro rfl
      simp [Option.some.inj (hi.symm.trans ht)] at hlist
    rw [hmerged, List.mem_eraseIdx_iff_getElem?]
    exact ⟨i, hnt, by rw [List.getElem?_set_ne hne, hi]⟩

end Names

variable {r : Renderer} {ctx : RenderContext} {once : Prop} {s t u : RenderState}

theorem notMem_suppressed_of_nameLists {e : NamesElement} {list : String × List Name}
    (hlist : list ∈ nameLists ctx s e) {substitute : Option (List Element)}
    (hclash : ¬Visit.Clashes ctx ⟨s, .names e substitute⟩) {role : String}
    (hrole : role ∈ shownRoles list.1) : role ∉ s.suppressed := by
  let shown := (e.roles.filter (!s.isSuppressed ·)).filterMap fun var =>
    (ctx.entry.names? var).map (var, ·)
  have hfree {list : String × List Name} (h : list ∈ shown) : list.1 ∈ e.roles ∧
      list.1 ∉ s.suppressed ∧ ctx.entry.names? list.1 = some list.2 := by
    obtain ⟨var, hvar, heq⟩ := List.mem_filterMap.mp h
    obtain ⟨names, hnames, rfl⟩ := Option.map_eq_some_iff.mp heq
    simpa [isSuppressed, hnames] using hvar
  have hfst {role : String} (h : role ∈ shown.map Prod.fst) : role ∉ s.suppressed := by
    obtain ⟨list, hlist, rfl⟩ := List.mem_map.mp h
    exact (hfree hlist).2.1
  rw [shownRoles] at hrole
  rcases mem_of_mem_mergeEditors hlist with h | ⟨hmerged, hed, htr⟩
  · obtain ⟨hroles, hunused, hnames⟩ := hfree h
    split at hrole
    · next hown =>
      rw [beq_iff_eq] at hown
      rw [hown] at hroles hunused hnames
      intro hused
      refine hclash ⟨e, rfl, hroles, hunused, by simp [hnames], ?_⟩
      simp only [List.mem_cons, List.not_mem_nil, or_false] at hrole
      rcases hrole with rfl | rfl
      · exact .inl hused
      · exact .inr hused
    · rw [List.mem_singleton.mp hrole]
      exact hunused
  · rw [hmerged] at hrole
    simp only [beq_self_eq_true, if_true, List.mem_cons, List.not_mem_nil, or_false] at hrole
    rcases hrole with rfl | rfl
    · exact hfst hed
    · exact hfst htr

theorem exists_shown_of_clashes {v : Visit} (h : v.Clashes ctx) :
    ∃ e ∈ v.names?, ∃ list ∈ nameLists ctx v.state e, ∃ role ∈ shownRoles list.1,
      role ∈ v.state.suppressed := by
  obtain ⟨e, he, hroles, hunused, hnames, hused⟩ := h
  obtain ⟨names, hnames⟩ := Option.isSome_iff_exists.mp hnames
  have hlist : ("editortranslator", names) ∈ nameLists ctx v.state e := by
    apply mem_mergeEditors _ rfl
    rw [List.mem_filterMap]
    refine ⟨"editortranslator", List.mem_filter.mpr ⟨hroles, ?_⟩, by rw [hnames]; rfl⟩
    simpa [isSuppressed] using hunused
  refine ⟨e, he, _, hlist, ?_⟩
  rcases hused with hused | hused
  · exact ⟨"editor", by simp [shownRoles], hused⟩
  · exact ⟨"translator", by simp [shownRoles], hused⟩

structure Passes (r : Renderer) (ctx : RenderContext) (once : Prop) (s : RenderState) (v : Visit)
    (t : RenderState) : Prop where
  before : Grows once s v.state
  during : Grows once v.state (r.outcome ctx v).state
  after : Grows once (r.outcome ctx v).state t
  depth : v.state.depth ≤ maxMacroDepth
  remembers : v.state.Remembers once

structure Tracked (r : Renderer) (ctx : RenderContext) (once : Prop) (s : RenderState)
    (log : List Visit) (t : RenderState) : Prop where
  grows : Grows once s t
  remembers : t.Remembers once
  passes : ∀ v ∈ log, r.Passes ctx once s v t
  ordered : log.Pairwise fun v w => Grows once v.state w.state

variable {log log' : List Visit} {c : Collected}

theorem Passes.mono {s' t' : RenderState} {v : Visit} (h : r.Passes ctx once s v t)
    (hs : Grows once s' s) (ht : Grows once t t') : r.Passes ctx once s' v t' :=
  { h with before := hs.trans h.before, after := h.after.trans ht }

namespace Tracked

theorem step (h : Grows once s t) (hmemo : t.Remembers once) : r.Tracked ctx once s [] t :=
  ⟨h, hmemo, fun _ hv => (List.not_mem_nil hv).elim, List.Pairwise.nil⟩

theorem trans (h : r.Tracked ctx once s log t) (h' : r.Tracked ctx once t log' u) :
    r.Tracked ctx once s (log ++ log') u where
  grows := h.grows.trans h'.grows
  remembers := h'.remembers
  passes := by
    rw [List.forall_mem_append]
    exact ⟨fun v hv => (h.passes v hv).mono (.refl s) h'.grows,
      fun v hv => (h'.passes v hv).mono h.grows (.refl u)⟩
  ordered := by
    refine List.pairwise_append.mpr ⟨h.ordered, h'.ordered, fun v hv w hw => ?_⟩
    have hv := h.passes v hv
    exact (hv.during.trans hv.after).trans (h'.passes w hw).before

theorem within {s' t' : RenderState} (h : r.Tracked ctx once s log t) (hs : Grows once s' s)
    (ht : Grows once t t') (hmemo : t'.Remembers once) : r.Tracked ctx once s' log t' where
  grows := (hs.trans h.grows).trans ht
  remembers := hmemo
  passes v hv := (h.passes v hv).mono hs ht
  ordered := h.ordered

end Tracked

theorem Renders.visited {e : Element} (h : r.Renders ctx s (.element e) (⟨s, e⟩ :: log) c)
    (hs : s.depth ≤ maxMacroDepth) (hmemo : s.Remembers once)
    (hinside : r.Tracked ctx once s log c.state) : r.Tracked ctx once s (⟨s, e⟩ :: log) c.state where
  grows := hinside.grows
  remembers := hinside.remembers
  passes := by
    have hout := h.outcome_eq hs
    rw [List.forall_mem_cons]
    exact ⟨⟨.refl s, hout ▸ hinside.grows, hout ▸ .refl _, hs, hmemo⟩, hinside.passes⟩
  ordered := List.pairwise_cons.mpr ⟨fun v hv => (hinside.passes v hv).before, hinside.ordered⟩

theorem Renders.noted {e : Element} (h : r.Renders ctx s (.element e) [⟨s, e⟩] c)
    (hs : s.depth ≤ maxMacroDepth) (hmemo : s.Remembers once)
    (hnote : ∃ shown suffixed, c.state = s.note shown suffixed ∧ ∀ var ∈ shown, var ∉ s.suppressed) :
    r.Tracked ctx once s [⟨s, e⟩] c.state := by
  obtain ⟨shown, suffixed, hstate, hfree⟩ := hnote
  have hgrows : Grows once s c.state := hstate ▸ grows_note suffixed fun _ => hfree
  exact h.visited hs hmemo (.step hgrows (hmemo.of_grows hgrows (by rw [hstate]; rfl)))

theorem grows_closeNames (before : RenderState) (e : NamesElement) (x : Rendered) :
    Grows once x.state (closeNames ctx before e x).state := by
  simp only [closeNames, snd_finishNames]
  exact grows_withFirstNames _ _

theorem grows_closeGroup (before : RenderState) (e : GroupElement) (x : Rendered) :
    Grows once x.state (closeGroup before e x).state := by
  rcases closeGroup_state before e x with h | h
  · rw [h]
    exact .refl _
  · rw [h]
    exact { Grows.refl x.state with }

theorem remembers_closeMacro {name : String} {x : Rendered} (h : Grows once s x.state)
    (hmemo : x.state.Remembers once) : (r.closeMacro s name x).state.Remembers once := by
  have hleft : Grows once s x.state.leave := { h with }
  unfold closeMacro
  split
  · intro entry hentry
    rcases List.mem_cons.mp hentry with rfl | hentry
    · exact ⟨s, name, { x with state := x.state.leave }, rfl, hleft, { Grows.refl x.state.leave with }⟩
    · obtain ⟨before, found, y, heq, hy, hx⟩ := hmemo entry hentry
      exact ⟨before, found, y, heq, hy, { hx with }⟩
  · exact hmemo.of_grows { Grows.refl x.state with } rfl

theorem Renders.tracked {task : Task} (h : r.Renders ctx s task log c) (hs : s.depth ≤ maxMacroDepth)
    (hmemo : s.Remembers once) (hlog : once → ∀ v ∈ log, ¬v.Clashes ctx) :
    r.Tracked ctx once s log c.state := by
  -- What is taken from the memo adds to the state no more than expanding it would, because the memo
  -- only holds what has been expanded on the way here: so that goes along in `hmemo`.
  induction h with
  | nil s => exact .step (.refl s) hmemo
  | @cons s e es log log' c c' first rest ih ih' =>
    have hfirst := ih hs hmemo fun ho v hv => hlog ho v (List.mem_append_left _ hv)
    have hstep := hfirst.within (.refl s) (grows_settled c e) (hfirst.remembers.settled e)
    have hrest := ih' (first.depth_settled e ▸ hs) hstep.remembers
      fun ho v hv => hlog ho v (List.mem_append_right _ hv)
    exact hstep.trans hrest
  | text s he => exact (Renders.text s he).noted hs hmemo (exists_note_renderText s he noMacro)
  | date s e => exact (Renders.date s e).noted hs hmemo (exists_note_renderDate s e)
  | number s e => exact (Renders.number s e).noted hs hmemo (exists_note_renderNumber s e)
  | label s e => exact (Renders.label s e).visited hs hmemo (.step (.refl s) hmemo)
  | called he body ih =>
    have hbody := ih hs hmemo fun ho v hv => hlog ho v (List.mem_cons_of_mem _ hv)
    exact (Renders.called he body).visited hs hmemo hbody
  | @group s e _ _ c inside ih =>
    have hinside := ih hs hmemo fun ho v hv => hlog ho v (List.mem_cons_of_mem _ hv)
    let content := c.joined (e.delimiter.getD "")
    have hclose : Grows once c.state (closeGroup s e content).state := grows_closeGroup s e content
    have hclosed := hinside.remembers.of_grows hclose (keeps_closeGroup s e content).memo
    exact (Renders.group e inside).visited hs hmemo (hinside.within (.refl s) hclose hclosed)
  | @named s e substitute hlists =>
    let content : Rendered :=
      { output := r.namesShown ctx s e s.inherited.getLast?, state := noteNames ctx s e
        stats := .one true }
    have hshown : Grows once s content.state := by
      refine ⟨List.prefix_refl _, ⟨_, rfl, fun ho role hrole => ?_⟩, id, id⟩
      obtain ⟨list, hlist, hrole⟩ := List.mem_flatMap.mp hrole
      exact notMem_suppressed_of_nameLists hlist (hlog ho _ List.mem_cons_self) hrole
    have hclose : Grows once s (closeNames ctx s e content).state :=
      hshown.trans (grows_closeNames s e content)
    refine (Renders.named substitute hlists).visited hs hmemo (.step hclose (hmemo.of_grows hclose ?_))
    exact (keeps_finishNames ctx content.state e _ content.output).memo
  | @substituted s e _ hlists _ x inside ih =>
    have hinside := ih hs (hmemo.push e) fun ho v hv => hlog ho v (List.mem_cons_of_mem _ hv)
    let content : Rendered := { x with state := x.state.pop }
    have hclose : Grows once x.state (closeNames ctx s e content).state :=
      { grows_closeNames s e content with }
    have hclosed := hinside.remembers.of_grows hclose
      (keeps_finishNames ctx content.state e _ content.output).memo
    exact (Renders.substituted hlists inside).visited hs hmemo
      (hinside.within { Grows.refl s with } hclose hclosed)
  | choose inside ih =>
    have hinside := ih hs hmemo fun ho v hv => hlog ho v (List.mem_cons_of_mem _ hv)
    exact (Renders.choose inside).visited hs hmemo hinside
  | exhausted s => exact .step (.refl s) hmemo
  | passed first _ _ ih ih' =>
    have hfirst := ih hs hmemo fun ho v hv => hlog ho v (List.mem_append_left _ hv)
    exact hfirst.trans (ih' (first.restores.1 ▸ hs) hfirst.remembers
      fun ho v hv => hlog ho v (List.mem_append_right _ hv))
  | @shown s _ _ _ c _ _ ih =>
    have hfirst := ih hs hmemo hlog
    have hused : Grows once c.state (c.state.useUp (c.state.rendered.drop s.rendered.length)) :=
      grows_useUp c.state _
    exact hfirst.within (.refl s) hused (hfirst.remembers.of_grows hused rfl)
  | cut => exact .step (.refl _) hmemo
  | @replayed s name _ _ _ _ hit hhit =>
    obtain ⟨hused, hnames, hsuffix, hfree⟩ := hmemo.hit hhit
    have hgrows : Grows once s (s.replay hit) :=
      ⟨List.prefix_append _ _, ⟨hit.rendered, rfl, hfree⟩, hnames.trans, hsuffix.trans⟩
    exact .step hgrows (hmemo.of_grows hgrows rfl)
  | @expanded s name _ _ hdepth _ _ c inside ih =>
    have hinside := ih hdepth hmemo.enter hlog
    have hgrows : Grows once s c.state := { hinside.grows with }
    have hclose : Grows once c.state (r.closeMacro s name (c.joined "")).state := by
      unfold closeMacro
      split <;> exact { Grows.refl c.state with }
    exact hinside.within { Grows.refl s with } hclose (remembers_closeMacro hgrows hinside.remembers)

theorem remembers_start (once : Prop) : RenderState.Remembers once {} := fun _ h => nomatch h

theorem tracked_layout (r : Renderer) (layout : Layout) (ctx : RenderContext)
    (hlog : once → ∀ v ∈ r.layoutVisits layout ctx, ¬v.Clashes ctx) :
    r.Tracked ctx once {} (r.layoutVisits layout ctx) (r.collectLayout layout ctx).state :=
  (renders_layout r layout ctx).tracked (Nat.zero_le _) (remembers_start once) hlog

end Renderer

end Citeproc
