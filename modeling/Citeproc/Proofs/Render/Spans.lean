import Citeproc.Proofs.Date.Tags
import Citeproc.Proofs.Names.Tags
import Citeproc.Proofs.Render.Growth
import Citeproc.Proofs.Style.Nodes

/-!
Where the spans of a render come from. An element marks spans of its own only if it is a text, a
date or a names element. All others are those of the elements that it visits, or of a macro taken
from the memo, and what the memo holds is what macros have shown before.
-/

namespace Citeproc

open RenderState

def Tag.var? : Tag → Option String
  | citationNumber _ => some "citation-number"
  | yearSuffix _ => some "year-suffix"
  | names _ => none

def RenderState.recalled (s : RenderState) (name : String) : List Tag :=
  (s.memo.lookup (s.memoKey name)).elim [] (·.output.tags)

def Visit.marks (r : Renderer) (ctx : RenderContext) (v : Visit) : List Tag :=
  match v.element with
  | .text e => e.macro?.elim (r.renderText Renderer.noMacro ctx v.state e).output.tags v.state.recalled
  | .date e => (r.renderDate ctx v.state e).output.tags
  | .names e _ => [.names (e.roles.head?.getD "")]
  | _ => []

def Task.recalled (s : RenderState) : Task → List Tag
  | .call name => s.recalled name
  | _ => []

theorem Visit.marks_of_macro? {r : Renderer} {ctx : RenderContext} {v : Visit} {name : String}
    (h : v.macro? = some name) : v.marks r ctx = v.state.recalled name := by
  obtain ⟨s, element⟩ := v
  cases element with
  | text e =>
    replace h : e.macro? = some name := h
    simp [marks, h]
  | _ => cases h

def Collected.tags (c : Collected) : List Tag := c.outputs.flatMap Output.tags

namespace Collected

@[simp] theorem tags_one (x : Rendered) : (one x).tags = x.output.tags :=
  List.flatMap_singleton _ _

theorem tags_joined (c : Collected) (delimiter : String) :
    (c.joined delimiter).output.tags.Sublist c.tags :=
  Output.tags_join_sublist c.outputs delimiter

theorem tags_settled (c : Collected) (e : Element) : (c.settled e).tags.Sublist c.tags := by
  cases e with
  | choose _ _ => exact .refl _
  | _ => exact Output.flatMap_tags_filter_sublist c.outputs

theorem tags_andThen (c rest : Collected) : (c.andThen rest).tags = c.tags ++ rest.tags :=
  List.flatMap_append

end Collected

namespace Renderer

variable {r : Renderer} {ctx : RenderContext} {s : RenderState} {log : List Visit} {c : Collected}
  {tag : Tag}

theorem mem_recalled {name : String} (h : tag ∈ s.recalled name) :
    ∃ entry ∈ s.memo, entry.1 = s.memoKey name ∧ s.memo.lookup (s.memoKey name) = some entry.2 ∧
      tag ∈ entry.2.output.tags := by
  rw [recalled] at h
  cases hhit : s.memo.lookup (s.memoKey name) with
  | none => simp [hhit] at h
  | some hit =>
    obtain ⟨front, back, hmemo, -⟩ := List.lookup_eq_some_iff.mp hhit
    refine ⟨(s.memoKey name, hit), by simp [hmemo], rfl, rfl, ?_⟩
    simpa [hhit] using h

theorem mem_tags_renderVariable {var : String} {form : VariableForm}
    (h : tag ∈ (r.renderVariable ctx s var form).output.tags) :
    var = "year-suffix" ∧ ∃ c, tag = .yearSuffix c := by
  rw [renderVariable] at h
  cases hsup : s.isSuppressed var with
  | true => simp [hsup] at h
  | false =>
    cases hvar : var == "year-suffix" with
    | false =>
      have hvalue (value? : Option String) : (value?.elim Output.null Output.ofText).tags = [] := by
        cases value? <;> simp
      simp [hsup, hvar, variableText, hvalue] at h
    | true =>
      refine ⟨eq_of_beq hvar, ?_⟩
      cases hletter : ctx.state.yearSuffix with
      | none => simp [hsup, hvar, hletter] at h
      | some c =>
        replace h : tag ∈ (Output.withTag (.yearSuffix c) (.ofText (String.singleton c))).tags := by
          simpa only [hsup, hvar, hletter, Bool.false_eq_true, if_false, if_true] using h
        rw [Output.tags_withTag, Output.tags_ofText] at h
        split at h
        · cases h
        · exact ⟨c, List.mem_singleton.mp h⟩

theorem mem_tags_markNumber {source : TextSource} {o : Output}
    (h : tag ∈ (markNumber ctx source o).tags) :
    tag ∈ o.tags ∨ ∃ form n, source = .var "citation-number" form ∧ ctx.citationNumber = some n ∧
      tag = .citationNumber n := by
  unfold markNumber at h
  split at h
  · next form n hnumber =>
    rw [Output.tags_withTag] at h
    split at h
    · cases h
    · exact (List.mem_cons.mp h).symm.imp_right fun htag => ⟨form, n, rfl, hnumber, htag⟩
  · exact .inl h

theorem mem_tags_renderText {e : TextElement} (he : e.macro? = none)
    (h : tag ∈ (r.renderText noMacro ctx s e).output.tags) :
    ∃ var, tag.var? = some var ∧ Element.shows var (.text e) = true ∧
      ∀ n, tag = .citationNumber n → ctx.citationNumber = some n := by
  obtain ⟨source, rendering⟩ := e
  rcases mem_tags_markNumber h with h | ⟨form, n, rfl, hnumber, rfl⟩
  · rw [Output.tags_decorate] at h
    cases source with
    | macroCall name => cases he
    | var name form =>
      obtain ⟨rfl, c, rfl⟩ := mem_tags_renderVariable h
      exact ⟨"year-suffix", rfl, rfl, fun n hn => nomatch hn⟩
    | term _ _ _ | value _ => simp at h
  · refine ⟨"citation-number", rfl, rfl, ?_⟩
    rintro k hk
    rw [hnumber, Tag.citationNumber.inj hk]

theorem mem_tags_dated {dates : DateRenderer} {date : DateRange} {letter : Option Char}
    (h : tag ∈ (dates.render date letter).tags) : tag.isYearSuffix = true ∧ letter.isSome = true := by
  obtain ⟨p, -, hp⟩ := List.mem_flatMap.mp ((dates.tags_render letter date).subset h)
  rw [DatePart.marks] at hp
  split at hp
  · cases letter with
    | none => cases hp
    | some c => exact ⟨List.mem_singleton.mp hp ▸ rfl, rfl⟩
  · cases hp

theorem mem_tags_renderDate (e : DateElement) : ∀ tag ∈ (r.renderDate ctx s e).output.tags,
    tag.isYearSuffix = true ∧ s.yearSuffixDone = false ∧
      (r.renderDate ctx s e).state.yearSuffixDone = true := by
  rw [renderDate]
  split
  · simp
  · dsimp only
    split
    · simp
    · split
      · simp
      · intro tag htag
        rw [Output.tags_decorate] at htag
        obtain ⟨htag, hsome⟩ := mem_tags_dated htag
        refine ⟨htag, ?_, by rw [hsome, Bool.or_true]⟩
        split at hsome
        · next hfree =>
          simp only [Bool.and_eq_true, Bool.not_eq_true'] at hfree
          exact hfree.2
        · cases hsome

@[simp] theorem tags_renderNumber (s : RenderState) (e : NumberElement) :
    (r.renderNumber ctx s e).output.tags = [] := by
  rw [renderNumber]
  split
  · rfl
  · dsimp only
    split <;> simp

theorem tags_closeGroup (s : RenderState) (e : GroupElement) (x : Rendered) :
    (closeGroup s e x).output.tags.Sublist x.output.tags := by
  rw [closeGroup]
  dsimp only
  split
  · exact List.nil_sublist _
  · rw [Output.tags_decorate]

theorem tags_closeNames (s : RenderState) (e : NamesElement) (x : Rendered) :
    (closeNames ctx s e x).output.tags.Sublist (.names (e.roles.head?.getD "") :: x.output.tags) := by
  simp only [closeNames, finishNames]
  split
  · exact List.nil_sublist _
  · split
    · rw [Output.tags_decorate]
      exact List.sublist_cons_self _ _
    · split
      · exact List.nil_sublist _
      · rw [Output.tags_withTag, Output.tags_decorate]
        split
        · exact List.nil_sublist _
        · apply List.Sublist.cons_cons
          cases ctx.authorSubstitute with
          | none => exact .refl _
          | some substitute => simp

theorem Renders.tags_sublist {task : Task} (h : r.Renders ctx s task log c) :
    c.tags.Sublist (task.recalled s ++ log.flatMap (·.marks r ctx)) := by
  induction h with
  | nil | exhausted | cut => exact List.nil_sublist _
  | @cons _ e _ log log' c c' _ _ ih ih' =>
    rw [Collected.tags_andThen, List.flatMap_append]
    exact ((c.tags_settled e).trans ih).append ih'
  | text s he => simp [Visit.marks, Task.recalled, he]
  | called he _ ih =>
    simp only [Collected.tags_one, Output.tags_decorate] at ih ⊢
    simpa only [List.flatMap_cons, Visit.marks, he, Option.elim_some, Task.recalled, List.nil_append]
      using ih
  | date | number | label => simp [Visit.marks, Task.recalled]
  | group e _ ih =>
    rw [Collected.tags_one]
    exact (tags_closeGroup _ e _).trans ((Collected.tags_joined _ _).trans ih)
  | named =>
    rw [Collected.tags_one]
    refine (tags_closeNames _ _ _).trans ?_
    simp [Visit.marks, Task.recalled, namesShown]
  | substituted _ _ ih =>
    rw [Collected.tags_one] at ih ⊢
    exact (tags_closeNames _ _ _).trans (ih.cons_cons _)
  | choose _ ih => exact ih
  -- Of the attempts the last one only is shown.
  | passed _ _ _ _ ih' =>
    rw [List.flatMap_append]
    exact ih'.trans (List.sublist_append_right _ _)
  | shown _ _ _ ih =>
    rw [Collected.tags_one]
    exact (Collected.tags_joined _ _).trans ih
  | replayed _ _ _ hhit => simp [Task.recalled, recalled, hhit]
  | expanded _ _ _ _ ih =>
    rw [Collected.tags_one]
    exact ((Collected.tags_joined _ _).trans ih).trans (List.sublist_append_right _ _)

theorem memo_of_note {x : Rendered} (h : ∃ shown suffixed, x.state = s.note shown suffixed ∧
    ∀ v ∈ shown, v ∉ s.suppressed) : x.state.memo = s.memo := by
  obtain ⟨shown, suffixed, hstate, -⟩ := h
  rw [hstate]
  rfl

theorem memo_closeNames (s : RenderState) (e : NamesElement) (x : Rendered) :
    (closeNames ctx s e x).state.memo = x.state.memo :=
  (keeps_finishNames ctx x.state e _ x.output).memo

def Memoizes (r : Renderer) (ctx : RenderContext) (K : MemoKey × MacroResult → Prop) (log : List Visit) :
    Prop :=
  ∀ {before : RenderState} {name : String} {body : List Element} {inside : List Visit} {c : Collected},
    r.Renders ctx before.enter (.elements body) inside c → before.depth < maxMacroDepth →
    before.Remembers False → inside ⊆ log → (∀ v ∈ inside, ∀ entry ∈ v.state.memo, K entry) →
    K (before.memoKey name, macroResult before { c.joined "" with state := (c.joined "").state.leave })

variable {K : MemoKey × MacroResult → Prop}

theorem Memoizes.mono {log' : List Visit} (h : r.Memoizes ctx K log') (hsub : log ⊆ log') :
    r.Memoizes ctx K log :=
  fun hinside hdepth hbefore hlog => h hinside hdepth hbefore (List.Subset.trans hlog hsub)

theorem Renders.memo_entries {task : Task} (h : r.Renders ctx s task log c)
    (hs : s.depth ≤ maxMacroDepth)
    (hmemo : s.Remembers False) (hentries : ∀ entry ∈ s.memo, K entry) (hlog : r.Memoizes ctx K log) :
    (∀ v ∈ log, ∀ entry ∈ v.state.memo, K entry) ∧ ∀ entry ∈ c.state.memo, K entry := by
  induction h with
  | nil | exhausted | cut => exact ⟨by simp, hentries⟩
  | replayed => exact ⟨by simp, hentries⟩
  | @cons s e _ log log' c _ first rest ih ih' =>
    have hmemo' := (first.tracked hs hmemo False.elim).remembers.settled e
    obtain ⟨hfirst, hc⟩ := ih hs hmemo hentries (hlog.mono (List.subset_append_left _ _))
    obtain ⟨hrest, hc'⟩ := ih' (first.depth_settled e ▸ hs) hmemo' (c.memo_settled e ▸ hc)
      (hlog.mono (List.subset_append_right _ _))
    exact ⟨List.forall_mem_append.mpr ⟨hfirst, hrest⟩, hc'⟩
  | text s he =>
    have hkept := memo_of_note (@exists_note_renderText r ctx s _ he noMacro)
    exact ⟨by simpa using hentries, by rwa [Collected.one, hkept]⟩
  | date s e =>
    have hkept := memo_of_note (@exists_note_renderDate r ctx s e)
    exact ⟨by simpa using hentries, by rwa [Collected.one, hkept]⟩
  | number s e =>
    have hkept := memo_of_note (@exists_note_renderNumber r ctx s e)
    exact ⟨by simpa using hentries, by rwa [Collected.one, hkept]⟩
  | label => exact ⟨by simpa using hentries, hentries⟩
  | called _ _ ih | choose _ ih =>
    obtain ⟨hinside, hc⟩ := ih hs hmemo hentries (hlog.mono (List.subset_cons_self _ _))
    exact ⟨List.forall_mem_cons.mpr ⟨hentries, hinside⟩, hc⟩
  | @group s e _ _ c _ ih =>
    obtain ⟨hinside, hc⟩ := ih hs hmemo hentries (hlog.mono (List.subset_cons_self _ _))
    have hkept := (keeps_closeGroup s e (c.joined (e.delimiter.getD ""))).memo
    exact ⟨List.forall_mem_cons.mpr ⟨hentries, hinside⟩, hkept ▸ hc⟩
  | named => exact ⟨by simpa using hentries, by rwa [Collected.one, memo_closeNames]⟩
  | @substituted s e _ _ _ x _ ih =>
    obtain ⟨hinside, hc⟩ := ih hs (hmemo.push e) hentries (hlog.mono (List.subset_cons_self _ _))
    exact ⟨List.forall_mem_cons.mpr ⟨hentries, hinside⟩, by rwa [Collected.one, memo_closeNames]⟩
  | passed first _ _ ih ih' =>
    have hmemo' := (first.tracked hs hmemo False.elim).remembers
    obtain ⟨hfirst, hc⟩ := ih hs hmemo hentries (hlog.mono (List.subset_append_left _ _))
    obtain ⟨hrest, hc'⟩ := ih' (first.restores.1 ▸ hs) hmemo' hc
        (hlog.mono (List.subset_append_right _ _))
    exact ⟨List.forall_mem_append.mpr ⟨hfirst, hrest⟩, hc'⟩
  | shown _ _ _ ih => exact ih hs hmemo hentries hlog
  -- Only here an entry is added, and `hlog` takes it up.
  | @expanded s name _ _ hdepth _ _ c inside ih =>
    obtain ⟨hinside, hc⟩ := ih hdepth hmemo.enter hentries hlog
    refine ⟨hinside, ?_⟩
    rw [Collected.one, closeMacro]
    split
    · exact List.forall_mem_cons.mpr ⟨hlog inside hdepth hmemo (List.Subset.refl _) hinside, hc⟩
    · exact hc

theorem Renders.forall_tags {P : Tag → Prop} {task : Task} (h : r.Renders ctx {} task log c)
    (hmarks : ∀ v ∈ log, v.macro? = none → ∀ tag ∈ v.marks r ctx, P tag) : ∀ tag ∈ c.tags, P tag := by
  let K (entry : MemoKey × MacroResult) : Prop := ∀ tag ∈ entry.2.output.tags, P tag
  have hvisit {v : Visit} (hv : v ∈ log) (hmemo : ∀ entry ∈ v.state.memo, K entry) :
      ∀ tag ∈ v.marks r ctx, P tag := by
    intro tag htag
    cases hcall : v.macro? with
    | none => exact hmarks v hv hcall tag htag
    | some name =>
      rw [Visit.marks_of_macro? hcall] at htag
      obtain ⟨entry, hentry, -, -, htag⟩ := mem_recalled htag
      exact hmemo entry hentry tag htag
  have hlog : r.Memoizes ctx K log := by
    intro before name body inside c hinside _ _ hsub hmemo tag htag
    have hsublist := (c.tags_joined "").trans hinside.tags_sublist
    obtain ⟨v, hv, htag⟩ := List.mem_flatMap.mp (hsublist.subset htag)
    exact hvisit (hsub hv) (hmemo v hv) tag htag
  have hentries := (h.memo_entries (Nat.zero_le _) (remembers_start False) (by simp) hlog).1
  have htask : task.recalled {} = [] := by
    cases task <;> rfl
  intro tag htag
  have htag := h.tags_sublist.subset htag
  rw [htask, List.nil_append] at htag
  obtain ⟨v, hv, htag⟩ := List.mem_flatMap.mp htag
  exact hvisit hv (hentries v hv) tag htag

end Renderer

end Citeproc
