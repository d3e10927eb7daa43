import Citeproc.Proofs.Render.Dropped
import Citeproc.Proofs.Render.UsedUp

/-!
The states that a render goes through, in front of and behind everything that it begins. Whatever is
rendered in such a state leaves the macros and names elements around it as they were and only adds
to the rest, and a macro that is taken from the memo there leaves all marks alone.
-/

namespace Citeproc

structure RenderState.Frames (s t : RenderState) : Prop where
  depth : t.depth = s.depth
  inherited : t.inherited = s.inherited
  suppressed : s.suppressed <+: t.suppressed
  rendered : s.rendered <+: t.rendered
  firstNamesDone : s.firstNamesDone = true → t.firstNamesDone = true
  yearSuffixDone : s.yearSuffixDone = true → t.yearSuffixDone = true

open RenderState

namespace Renderer

def run (r : Renderer) (ctx : RenderContext) (s : RenderState) : Task → Collected
  | .elements es => r.collect (r.expandMacro ctx (maxMacroDepth - s.depth)) ctx s es
  | .element e => r.outcome ctx ⟨s, e⟩
  | .attempts es => .one (r.attempt (r.expandMacro ctx (maxMacroDepth - s.depth)) ctx s es)
  | .call name => .one (r.expansion ctx s name)

/-- From the origin, which is a layout's elements or the macro of a sort key, this task is begun in
this state at some point. -/
inductive Begins (r : Renderer) (ctx : RenderContext) (origin : Task) : RenderState → Task → Prop
  | start : Begins r ctx origin {} origin
  | first {s : RenderState} {e : Element} {es : List Element}
      (h : Begins r ctx origin s (.elements (e :: es))) : Begins r ctx origin s (.element e)
  | rest {s : RenderState} {e : Element} {es : List Element}
      (h : Begins r ctx origin s (.elements (e :: es))) :
      Begins r ctx origin ((r.run ctx s (.element e)).settled e).state (.elements es)
  | call {s : RenderState} {e : TextElement} {name : String} (he : e.macro? = some name)
      (h : Begins r ctx origin s (.element (.text e))) : Begins r ctx origin s (.call name)
  | body {s : RenderState} {name : String} {body : List Element}
      (hbody : r.style.macroBody? name = some body) (hs : s.depth < maxMacroDepth)
      (hmiss : r.memoize = true → s.memo.lookup (s.memoKey name) = none)
      (h : Begins r ctx origin s (.call name)) : Begins r ctx origin s.enter (.elements body)
  | children {s : RenderState} {e : GroupElement} {children : List Element}
      (h : Begins r ctx origin s (.element (.group e children))) :
      Begins r ctx origin s (.elements children)
  | substitute {s : RenderState} {e : NamesElement} {substitute : Option (List Element)}
      (hlists : (nameLists ctx s e).isEmpty = true)
      (h : Begins r ctx origin s (.element (.names e substitute))) :
      Begins r ctx origin (s.push e) (.attempts (substitute.getD []))
  | branch {s : RenderState} {branches : List Branch} {otherwise : Option (List Element)}
      (h : Begins r ctx origin s (.element (.choose branches otherwise))) :
      Begins r ctx origin s (.elements (chosen ctx otherwise branches))
  | attempt {s : RenderState} {e : Element} {es : List Element}
      (h : Begins r ctx origin s (.attempts (e :: es))) : Begins r ctx origin s (.element e)
  | retry {s : RenderState} {e : Element} {es : List Element}
      (hempty : ((r.run ctx s (.element e)).joined "").output.isEmpty = true)
      (h : Begins r ctx origin s (.attempts (e :: es))) :
      Begins r ctx origin (r.run ctx s (.element e)).state (.attempts es)

def Reached (r : Renderer) (ctx : RenderContext) (origin : Task) (s : RenderState) : Prop :=
  ∃ before task, r.Begins ctx origin before task ∧ (s = before ∨ s = (r.run ctx before task).state)

variable {r : Renderer} {ctx : RenderContext} {origin task : Task} {s : RenderState}

theorem exists_renders_run (hs : s.depth ≤ maxMacroDepth) (task : Task) :
    ∃ log, r.Renders ctx s task log (r.run ctx s task) := by
  have hlevels : maxMacroDepth - s.depth + s.depth = maxMacroDepth := Nat.sub_add_cancel hs
  cases task with
  | elements es => exact ⟨_, renders_elements (renders_call _) hlevels es⟩
  | element e => exact ⟨_, renders_outcome ⟨s, e⟩ hs⟩
  | attempts es => exact ⟨_, renders_attempts (renders_call _) hlevels es⟩
  | call name => exact ⟨_, renders_call _ s name hlevels⟩

structure Sane (s : RenderState) : Prop where
  depth : s.depth ≤ maxMacroDepth
  remembers : s.Remembers False

namespace Sane

theorem run (h : Sane s) (task : Task) : Sane (r.run ctx s task).state := by
  obtain ⟨log, hrun⟩ := @exists_renders_run r ctx s h.depth task
  exact ⟨hrun.restores.1 ▸ h.depth, (hrun.tracked h.depth h.remembers False.elim).remembers⟩

theorem frames_run (h : Sane s) (task : Task) : s.Frames (r.run ctx s task).state := by
  obtain ⟨log, hrun⟩ := @exists_renders_run r ctx s h.depth task
  have hgrows := (hrun.tracked h.depth h.remembers False.elim).grows
  obtain ⟨shown, hshown, -⟩ := hgrows.rendered
  exact {
    depth := hrun.restores.1
    inherited := hrun.restores.2
    suppressed := hgrows.suppressed
    rendered := hshown ▸ List.prefix_append _ _
    firstNamesDone := hgrows.firstNamesDone
    yearSuffixDone := hgrows.yearSuffixDone }

theorem settled (h : Sane s) (e : Element) :
    Sane ((r.run ctx s (.element e)).settled e).state := by
  have hrun : Sane (r.run ctx s (.element e)).state := h.run _
  exact ⟨Nat.le_trans (Nat.le_of_eq (Collected.depth_settled _ e)) hrun.depth, hrun.remembers.settled e⟩

end Sane

-- Macros and names elements are gone into with the memo that was there; all else begins in front of
-- or behind what has been begun before.
theorem Begins.sane (h : r.Begins ctx origin s task) : Sane s := by
  induction h with
  | start => exact ⟨Nat.zero_le _, remembers_start False⟩
  | first _ ih | call _ _ ih | children _ ih | branch _ ih | attempt _ ih => exact ih
  | rest _ ih => exact ih.settled _
  | body _ hs _ _ ih => exact ⟨hs, ih.remembers.enter⟩
  | substitute _ _ ih => exact ⟨ih.depth, ih.remembers.push _⟩
  | retry _ _ ih => exact ih.run _

theorem Reached.sane (h : r.Reached ctx origin s) : Sane s := by
  obtain ⟨before, task, hbegins, rfl | rfl⟩ := h
  · exact hbegins.sane
  · exact hbegins.sane.run task

section Visits

variable {log : List Visit} {c : Collected}

theorem Renders.run_eq (h : r.Renders ctx s task log c) (hs : s.depth ≤ maxMacroDepth) :
    r.run ctx s task = c := by
  obtain ⟨log', hrun⟩ := @exists_renders_run r ctx s hs task
  exact (h.unique hrun).2

theorem Renders.begins (h : r.Renders ctx s task log c) (hbegins : r.Begins ctx origin s task) :
    ∀ v ∈ log, r.Begins ctx origin v.state (.element v.element) := by
  induction h with
  | nil | exhausted | cut | replayed => exact fun v hv => (List.not_mem_nil hv).elim
  | text | date | number | label | named => exact List.forall_mem_singleton.mpr hbegins
  | cons first _ ih ih' =>
    have hrun := first.run_eq hbegins.sane.depth
    exact List.forall_mem_append.mpr ⟨ih hbegins.first, ih' (hrun ▸ hbegins.rest)⟩
  | called he _ ih => exact List.forall_mem_cons.mpr ⟨hbegins, ih (hbegins.call he)⟩
  | group _ _ ih => exact List.forall_mem_cons.mpr ⟨hbegins, ih hbegins.children⟩
  | substituted hlists _ ih =>
    exact List.forall_mem_cons.mpr ⟨hbegins, ih (hbegins.substitute hlists)⟩
  | choose _ ih => exact List.forall_mem_cons.mpr ⟨hbegins, ih hbegins.branch⟩
  | passed first hempty _ ih ih' =>
    have hrun := first.run_eq hbegins.sane.depth
    refine List.forall_mem_append.mpr ⟨ih hbegins.attempt, ih' ?_⟩
    exact hrun ▸ hbegins.retry (hrun ▸ hempty)
  | shown _ _ _ ih => exact ih hbegins.attempt
  | expanded hbody hs hmiss _ ih => exact ih (hbegins.body hbody hs hmiss)

theorem reached_of_mem_moments {layout : Layout} (hs : s ∈ r.moments layout ctx) :
    r.Reached ctx (.elements layout.children) s := by
  rcases List.mem_append.mp hs with hs | hs
  · obtain ⟨v, hv, rfl⟩ := List.mem_map.mp hs
    exact ⟨v.state, _, (renders_layout r layout ctx).begins .start v hv, .inl rfl⟩
  · exact ⟨{}, _, .start, .inr (List.mem_singleton.mp hs)⟩

end Visits

section Hit

variable {name : String} {hit : MacroResult}

theorem Sane.sameMarks_replay (h : Sane s) (hhit : s.memo.lookup (s.memoKey name) = some hit) :
    s.SameMarks (s.replay hit) := by
  obtain ⟨hused, hnames, hsuffix, -⟩ := h.remembers.hit hhit
  exact ⟨hnames, hsuffix, by simp only [replay, hused, List.append_nil]⟩

theorem Sane.sameMarks_call (h : Sane s) (hr : r.memoize = true)
    (hhit : s.memo.lookup (s.memoKey name) = some hit) :
    s.SameMarks (r.run ctx s (.call name)).state := by
  obtain ⟨log, hrun⟩ := @exists_renders_run r ctx s h.depth (.call name)
  generalize r.run ctx s (.call name) = c at hrun
  cases hrun with
  | cut => exact .refl s
  | replayed _ _ _ hfound => exact h.sameMarks_replay hfound
  | expanded _ _ hmiss _ => simp [hmiss hr] at hhit

end Hit

/-- Whatever is rendered in a state that a render reaches keeps the frame of the state. An entry
that the memo has for a macro there has been made without using up variables and without a new mark,
so that taking it changes none of these. -/
theorem reached_frames (h : r.Reached ctx origin s) :
    (∀ task, s.Frames (r.run ctx s task).state) ∧
      ∀ name hit, s.memo.lookup (s.memoKey name) = some hit →
        hit.suppressed = [] ∧ hit.firstNamesDone = s.firstNamesDone ∧
          hit.yearSuffixDone = s.yearSuffixDone ∧
          (r.memoize = true → s.SameMarks (r.run ctx s (.call name)).state) := by
  refine ⟨h.sane.frames_run, fun name hit hhit => ?_⟩
  obtain ⟨hused, hnames, hsuffix, -⟩ := h.sane.remembers.hit hhit
  exact ⟨hused, hnames, hsuffix, fun hr => h.sane.sameMarks_call hr hhit⟩

theorem reached_frames_thrice :
    let children := [Element.ofMacro "m", .ofMacro "m", .ofMacro "m"]
    let title := Element.ofSource (.var "title" .long)
    let r := withMacro children [.names (.ofRole "author") (some [title]), .ofSource (.value "!")]
    let ctx := RenderContext.citation { id := "a", type := "book", fields := [("title", "Book")] } none
    ∃ s ∈ r.moments (.ofElements children) ctx, s.suppressed = ["title"] ∧ s.firstNamesDone = true ∧
      (∀ task, s.Frames (r.run ctx s task).state) ∧
      ∃ hit, s.memo.lookup (s.memoKey "m") = some hit ∧ hit.output.plain = "!" ∧
        hit.suppressed = [] ∧ hit.firstNamesDone = true ∧ hit.yearSuffixDone = false ∧
        s.SameMarks (r.run ctx s (.call "m")).state := by
  intro children title r ctx
  obtain ⟨s, hs, hused, hnames, hsuffix, hfound⟩ :
      ∃ s ∈ r.moments (.ofElements children) ctx, s.suppressed = ["title"] ∧ s.firstNamesDone = true ∧
        s.yearSuffixDone = false ∧
        ((s.memo.lookup (s.memoKey "m")).map fun hit => hit.output.plain) = some "!" := by
    decide +kernel
  obtain ⟨hit, hhit, hplain⟩ := Option.map_eq_some_iff.mp hfound
  obtain ⟨hframes, hhits⟩ := reached_frames (reached_of_mem_moments hs)
  obtain ⟨hnone, hfirst, hlast, hsame⟩ := hhits "m" hit hhit
  exact ⟨s, hs, hused, hnames, hframes, hit, hhit, hplain, hnone, hfirst.trans hnames,
    hlast.trans hsuffix, hsame rfl⟩

end Renderer

end Citeproc
