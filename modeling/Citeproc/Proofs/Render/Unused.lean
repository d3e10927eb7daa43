import Citeproc.Proofs.Render.Spans
import Citeproc.Proofs.Sample
import Citeproc.Proofs.Table

namespace Citeproc

open RenderState

namespace Element

@[simp] theorem mem_nodes_self (e : Element) : e ∈ e.nodes := by
  cases e <;> simp [nodes]

theorem nodesOption_eq (es : Option (List Element)) : nodesOption es = nodesAll (es.getD []) := by
  cases es <;> rfl

end Element

def Task.nodes : Task → List Element
  | .elements es => Element.nodesAll es
  | .element e => e.nodes
  | .attempts es => Element.nodesAll es
  | .call _ => []

def Visit.dateTags (r : Renderer) (ctx : RenderContext) (v : Visit) : List Tag :=
  match v.element with
  | .date e => (r.renderDate ctx v.state e).output.tags
  | _ => []

namespace Renderer

variable {r : Renderer} {ctx : RenderContext} {s : RenderState} {log : List Visit} {c : Collected}
  {var : String}

theorem nodes_chosen_subset (otherwise : Option (List Element)) (branches : List Branch) :
    Element.nodesAll (chosen ctx otherwise branches) ⊆
      Element.nodesBranch branches ++ Element.nodesOption otherwise := by
  induction branches with
  | nil =>
    rw [chosen, Element.nodesOption_eq]
    exact List.subset_append_right _ _
  | cons branch rest ih =>
    obtain ⟨condition, children⟩ := branch
    rw [chosen, Element.nodesBranch, List.append_assoc]
    split
    · exact List.subset_append_left _ _
    · exact List.Subset.trans ih (List.subset_append_right _ _)

theorem Renders.nodes_subset {task : Task} (h : r.Renders ctx s task log c)
    (htask : task.nodes ⊆ r.style.nodes) : ∀ v ∈ log, v.element.nodes ⊆ r.style.nodes := by
  induction h with
  | nil | exhausted | cut | replayed => simp
  | cons _ _ ih ih' =>
    rw [Task.nodes, Element.nodesAll, List.append_subset] at htask
    exact List.forall_mem_append.mpr ⟨ih htask.1, ih' htask.2⟩
  | passed _ _ _ ih ih' =>
    rw [Task.nodes, Element.nodesAll, List.append_subset] at htask
    exact List.forall_mem_append.mpr ⟨ih htask.1, ih' htask.2⟩
  | shown _ _ _ ih =>
    rw [Task.nodes, Element.nodesAll, List.append_subset] at htask
    exact ih htask.1
  | text | date | number | label | named => simpa [Task.nodes] using htask
  | called _ _ ih => exact List.forall_mem_cons.mpr ⟨htask, ih (List.nil_subset _)⟩
  | group _ _ ih =>
    refine List.forall_mem_cons.mpr ⟨htask, ih ?_⟩
    exact List.Subset.trans (List.subset_cons_self _ _) htask
  | substituted _ _ ih =>
    refine List.forall_mem_cons.mpr ⟨htask, ih ?_⟩
    rw [Task.nodes, ← Element.nodesOption_eq]
    exact List.Subset.trans (List.subset_cons_self _ _) htask
  | @choose _ branches otherwise _ _ _ ih =>
    refine List.forall_mem_cons.mpr ⟨htask, ih ?_⟩
    have hchosen := @nodes_chosen_subset ctx otherwise branches
    exact List.Subset.trans (List.Subset.trans hchosen (List.subset_cons_self _ _)) htask
  | expanded hbody _ _ _ ih =>
    exact ih fun e he => Style.mem_nodes_of_macro (Table.mem_of_get? hbody) he

theorem shows_eq_false_of_nodes_subset (hvar : r.style.usesVariable var = false) {e : Element}
    (he : e.nodes ⊆ r.style.nodes) : e.shows var = false := by
  rw [Style.usesVariable_eq_any, List.any_eq_false] at hvar
  simpa using hvar e (he e.mem_nodes_self)

def MarksOnce (var : String) (entry : MemoKey × MacroResult) : Prop :=
  ∀ tag ∈ entry.2.output.tags, tag.var? = some var →
    entry.1.yearSuffixDone = false ∧ entry.2.yearSuffixDone = true

variable {tag : Tag} {v : Visit}

theorem notMem_recalled (hmemo : s.Remembers False) (hentries : ∀ entry ∈ s.memo, MarksOnce var entry)
    (hvar : tag.var? = some var) (name : String) : tag ∉ s.recalled name := by
  intro htag
  obtain ⟨entry, hentry, hkey, hhit, htag⟩ := mem_recalled htag
  obtain ⟨hfresh, hdone⟩ := hentries entry hentry tag htag hvar
  obtain ⟨-, -, hsuffix, -⟩ := hmemo.hit hhit
  rw [hkey] at hfresh
  rw [hsuffix] at hdone
  exact Bool.false_ne_true (hfresh.symm.trans hdone)

theorem mem_dateTags_of_marks (hmemo : v.state.Remembers False)
    (hentries : ∀ entry ∈ v.state.memo, MarksOnce var entry) (hshows : v.element.shows var = false)
    (hvar : tag.var? = some var) (h : tag ∈ v.marks r ctx) : tag ∈ v.dateTags r ctx := by
  obtain ⟨s, element⟩ := v
  cases element with
  | text e =>
    cases he : e.macro? with
    | some name =>
      simp only [Visit.marks, he, Option.elim_some] at h
      exact absurd h (notMem_recalled hmemo hentries hvar name)
    | none =>
      simp only [Visit.marks, he, Option.elim_none] at h
      obtain ⟨var', hvar', hshown, -⟩ := mem_tags_renderText he h
      obtain rfl := Option.some.inj (hvar'.symm.trans hvar)
      exact absurd hshown (by simp [hshows])
  | date e => exact h
  | names e substitute =>
    obtain rfl := List.mem_singleton.mp h
    cases hvar
  | number _ | label _ | group _ _ | choose _ _ => cases h

theorem suffix_of_mem_dateTags (h : tag ∈ v.dateTags r ctx) :
    tag.isYearSuffix = true ∧ v.state.yearSuffixDone = false ∧
      (r.outcome ctx v).state.yearSuffixDone = true := by
  obtain ⟨s, element⟩ := v
  cases element with
  | date e =>
    rw [outcome, renderParts]
    exact mem_tags_renderDate e tag h
  | _ => cases h

theorem memoizes_marksOnce (hlog : ∀ v ∈ log, v.element.shows var = false) :
    r.Memoizes ctx (MarksOnce var) log := by
  intro before name body inside c hinside hdepth hbefore hsub hentries tag htag hvar
  have hmarks := (c.tags_joined "").trans hinside.tags_sublist
  obtain ⟨v, hv, hmark⟩ := List.mem_flatMap.mp (hmarks.subset htag)
  have hpasses := (hinside.tracked hdepth hbefore.enter False.elim).passes v hv
  have hdate := mem_dateTags_of_marks hpasses.remembers (hentries v hv) (hlog v (hsub hv)) hvar hmark
  obtain ⟨-, hfresh, hdone⟩ := suffix_of_mem_dateTags hdate
  constructor
  · cases hbegun : before.yearSuffixDone with
    | false => exact hbegun
    | true => exact absurd (hpasses.before.yearSuffixDone hbegun) (by simp [hfresh])
  · exact hpasses.after.yearSuffixDone hdone

theorem Renders.filter_tags_sublist {task : Task} (h : r.Renders ctx s task log c)
    (hs : s.depth ≤ maxMacroDepth) (hmemo : s.Remembers False)
    (hentries : ∀ entry ∈ s.memo, MarksOnce var entry) (hlog : ∀ v ∈ log, v.element.shows var = false) :
    (c.tags.filter (·.var? == some var)).Sublist (log.flatMap (·.dateTags r ctx)) := by
  have htask : (task.recalled s).filter (·.var? == some var) = [] := by
    cases task with
    | call name =>
      rw [List.filter_eq_nil_iff]
      intro tag htag hvar
      exact notMem_recalled hmemo hentries (eq_of_beq hvar) name htag
    | _ => rfl
  have hpassed := (h.tracked hs hmemo False.elim).passes
  have hmemo' := (h.memo_entries hs hmemo hentries (memoizes_marksOnce hlog)).1
  have hvisit : ∀ v ∈ log, ((v.marks r ctx).filter (·.var? == some var)).Sublist (v.dateTags r ctx) := by
    intro v hv
    have hdates : (v.marks r ctx).filter (·.var? == some var) ⊆ v.dateTags r ctx := by
      intro tag htag
      rw [List.mem_filter, beq_iff_eq] at htag
      exact mem_dateTags_of_marks (hpassed v hv).remembers (hmemo' v hv) (hlog v hv) htag.2 htag.1
    obtain ⟨s, element⟩ := v
    cases element with
    | date e => exact List.filter_sublist
    | _ => exact List.sublist_nil.mpr (List.subset_nil.mp hdates)
  have hmarks := h.tags_sublist.filter (·.var? == some var)
  rw [List.filter_append, htask, List.nil_append, List.filter_flatMap] at hmarks
  exact hmarks.trans (List.Sublist.flatMap_right log hvisit)

structure ShownWithout (r : Renderer) (ctx : RenderContext) (var : String) (log : List Visit)
    (outputs : List Output) : Prop where
  visits : ∀ v ∈ log, v.element.shows var = false
  numbers : var = "citation-number" → ∀ o ∈ outputs, ∀ n, .citationNumber n ∉ o.tags
  suffixes : var = "year-suffix" →
    ((outputs.flatMap Output.tags).filter Tag.isYearSuffix).Sublist (log.flatMap (·.dateTags r ctx))

theorem ShownWithout.of_sublist {outputs : List Output} (hlog : ∀ v ∈ log, v.element.shows var = false)
    (h : ((outputs.flatMap Output.tags).filter (·.var? == some var)).Sublist
      (log.flatMap (·.dateTags r ctx))) : r.ShownWithout ctx var log outputs where
  visits := hlog
  numbers := by
    rintro rfl o ho n hn
    have hmem : Tag.citationNumber n ∈ (outputs.flatMap Output.tags).filter
        (·.var? == some "citation-number") :=
      List.mem_filter.mpr ⟨List.mem_flatMap.mpr ⟨o, ho, hn⟩, rfl⟩
    obtain ⟨v, -, hv⟩ := List.mem_flatMap.mp (h.subset hmem)
    exact Bool.false_ne_true (suffix_of_mem_dateTags hv).1
  suffixes := by
    rintro rfl
    have hsame : (fun tag : Tag => tag.var? == some "year-suffix") = Tag.isYearSuffix := by
      funext tag
      cases tag <;> rfl
    exact hsame ▸ h

theorem ShownWithout.of_tags_sublist {outputs outputs' : List Output}
    (h : r.ShownWithout ctx var log outputs)
    (htags : (outputs'.flatMap Output.tags).Sublist (outputs.flatMap Output.tags)) :
    r.ShownWithout ctx var log outputs' where
  visits := h.visits
  numbers := by
    intro hvar o' ho' n hn
    obtain ⟨o, ho, hn⟩ := List.mem_flatMap.mp (htags.subset (List.mem_flatMap.mpr ⟨o', ho', hn⟩))
    exact h.numbers hvar o ho n hn
  suffixes hvar := (htags.filter _).trans (h.suffixes hvar)

theorem Renders.shown_without {task : Task} (h : r.Renders ctx {} task log c)
    (htask : task.nodes ⊆ r.style.nodes) (hvar : r.style.usesVariable var = false) :
    r.ShownWithout ctx var log c.outputs ∧
      ∀ v ∈ log, r.ShownWithout ctx var (r.visitsFrom ctx v) (r.outcome ctx v).outputs := by
  have hnodes := h.nodes_subset htask
  have hlog : ∀ v ∈ log, v.element.shows var = false :=
    fun v hv => shows_eq_false_of_nodes_subset hvar (hnodes v hv)
  have hempty : ∀ entry ∈ ({} : RenderState).memo, MarksOnce var entry := fun _ hentry => nomatch hentry
  have hpassed := (h.tracked (Nat.zero_le _) (remembers_start False) False.elim).passes
  have hmemo :=
    (h.memo_entries (Nat.zero_le _) (remembers_start False) hempty (memoizes_marksOnce hlog)).1
  constructor
  · exact .of_sublist hlog (h.filter_tags_sublist (Nat.zero_le _) (remembers_start False) hempty hlog)
  · intro v hv
    have hdepth := (hpassed v hv).depth
    have hrender := @renders_outcome r ctx v hdepth
    have hinside : ∀ w ∈ r.visitsFrom ctx v, w.element.shows var = false :=
      fun w hw => shows_eq_false_of_nodes_subset hvar (hrender.nodes_subset (hnodes v hv) w hw)
    exact .of_sublist hinside
      (hrender.filter_tags_sublist hdepth (hpassed v hv).remembers (hmemo v hv) hinside)

/-- A variable that the style does not use is not shown by a text or number element, neither in a
layout nor in a macro. -/
theorem shown_without_unused (r : Renderer) {var : String} (hvar : r.style.usesVariable var = false)
    (ctx : RenderContext) :
    (∀ layout ∈ r.style.layouts,
      r.ShownWithout ctx var (r.layoutVisits layout ctx) (r.renderLayoutFields layout ctx) ∧
      r.ShownWithout ctx var (r.layoutVisits layout ctx) [r.renderLayout layout ctx] ∧
      ∀ v ∈ r.layoutVisits layout ctx,
        r.ShownWithout ctx var (r.visitsFrom ctx v) (r.outcome ctx v).outputs) ∧
    ∀ name,
      r.ShownWithout ctx var (r.macroVisits ctx maxMacroDepth {} name)
        [(r.expandMacro ctx maxMacroDepth {} name).output] ∧
      ∀ v ∈ r.macroVisits ctx maxMacroDepth {} name,
        r.ShownWithout ctx var (r.visitsFrom ctx v) (r.outcome ctx v).outputs := by
  constructor
  · intro layout hlayout
    have htask : (Task.elements layout.children).nodes ⊆ r.style.nodes :=
      fun _ he => Style.mem_nodes_of_layout hlayout he
    obtain ⟨hfields, hvisits⟩ := (renders_layout r layout ctx).shown_without htask hvar
    refine ⟨hfields, hfields.of_tags_sublist ?_, hvisits⟩
    rw [List.flatMap_singleton]
    exact Output.tags_ofList_sublist _
  · intro name
    exact (renders_call maxMacroDepth {} name rfl).shown_without (List.nil_subset _) hvar

theorem shown_without_unused_of_year :
    let date : Element := .date
      { var := "issued", form := none, scope := .year, delimiter := none
        parts := [{ name := .year }], rendering := {} }
    let style := Style.citing [.ofMacro "m", .choose [] (some [date])] [("m", [date])]
    let r : Renderer := { style, locale := {} }
    let e : Entry := { id := "a", type := "book", fields := [("issued", "2020")] }
    let ctx := { RenderContext.citation e none with state := { yearSuffix := some 'a' } }
    let layout := style.citation.layouts.head (by decide)
    style.usesVariable "year-suffix" = false ∧
      (r.renderLayout layout ctx).tags = [.yearSuffix 'a'] ∧
      r.ShownWithout ctx "year-suffix" (r.layoutVisits layout ctx) [r.renderLayout layout ctx] := by
  intro date style r e ctx layout
  have hvar : r.style.usesVariable "year-suffix" = false := by decide +kernel
  have hlayout : layout ∈ r.style.layouts := List.mem_append_left _ (List.head_mem _)
  exact ⟨hvar, by decide +kernel, ((shown_without_unused r hvar ctx).1 layout hlayout).2.1⟩

end Renderer

end Citeproc
