import Citeproc.Proofs.Disambiguation.Progress
import Citeproc.Proofs.Render.States

/-!
A run that has converged is at a fixed point, unless the style makes cites look different once their
entries are marked.
-/

namespace Citeproc

open RenderContext

def DisambiguationState.marked (s : DisambiguationState) (mark : Bool) : DisambiguationState :=
  { s with condition := mark }

theorem mem_of_selectLayout? {layouts : List Layout} {lang : Option String} {layout : Layout}
    (h : selectLayout? layouts lang = some layout) : layout ∈ layouts := by
  obtain ⟨i, -, hi⟩ := Option.bind_eq_some_iff.mp h
  exact List.mem_of_getElem? hi

namespace Renderer

variable {r : Renderer} (hmark : r.style.testsMark = false)
include hmark

theorem layout_blind {e : Entry} {layout : Layout} (h : r.citationLayout? e = some layout) :
    (Element.anyTestsMark layout.children ||
      r.style.macros.any fun entry => Element.anyTestsMark entry.2) = false := by
  rw [Style.testsMark, Bool.or_eq_false_iff] at hmark
  have hmem : layout ∈ r.style.layouts := List.mem_append_left _ (mem_of_selectLayout? h)
  have hlayout := List.any_eq_false.mp hmark.1 layout hmem
  rw [Bool.or_eq_false_iff]
  exact ⟨by simpa using hlayout, hmark.2⟩

theorem firstCite_marked (e : Entry) (state : DisambiguationState) (mark : Bool) :
    r.firstCite e (state.marked mark) = r.firstCite e state := by
  cases h : r.citationLayout? e with
  | none => simp only [firstCite, h, Option.elim_none]
  | some layout =>
    simp only [firstCite, h, Option.elim_some]
    have hsame : ((RenderContext.citation e none).withState state).Overlooks (state.marked mark)
        (Element.anyTestsMark layout.children ||
          r.style.macros.any fun entry => Element.anyTestsMark entry.2) := by
      rw [layout_blind hmark h]
      exact ⟨rfl, fun _ => ⟨rfl, rfl⟩, fun htests => by cases htests⟩
    have hlayout := r.renderLayout_withState layout hsame
    exact hlayout

theorem citeNames_marked (e : Entry) (state : DisambiguationState) (mark : Bool) :
    r.citeNames e (state.marked mark) = r.citeNames e state := by
  rw [citeNames, citeNames, firstCite_marked hmark]

theorem citeText_marked (e : Entry) (state : DisambiguationState) (mark : Bool) :
    r.citeText e (state.marked mark) = r.citeText e state := by
  rw [citeText, citeText, firstCite_marked hmark]

end Renderer

namespace Disambiguation

def MarkedFrom (states marked : States) : Prop :=
  ∀ id, ∃ mark, marked.of id = (states.of id).marked mark

theorem markedFrom_markRemaining (r : Renderer) (entries : List Entry) (states : States) :
    MarkedFrom states (markRemaining r entries states) := by
  intro id
  rw [markRemaining, of_mark]
  split
  · exact ⟨true, rfl⟩
  · exact ⟨(states.of id).condition, rfl⟩

theorem candidates_marked (options : CitationOptions) (total : Nat) (state : DisambiguationState)
    (mark : Bool) : candidates options total (state.marked mark) =
      (candidates options total state).map (·.marked mark) := by
  have hlast (more : Bool) (next : DisambiguationState) :
      (if more then [next.marked mark] else []) =
        (if more then [next] else []).map (·.marked mark) := by
    cases more <;> rfl
  simp only [candidates, List.map_append, List.map_map]
  congr 1
  exact hlast (options.disambiguateAddNames && state.namesExpanded < total)
    { state with namesExpanded := state.namesExpanded + 1 }

variable {r : Renderer} {entries : List Entry} {states marked : States}

section Blind

variable (hmark : r.style.testsMark = false)
include hmark

theorem expand?_marked (e : Entry) (state : DisambiguationState) (mark : Bool) :
    expand? r e (state.marked mark) = (expand? r e state).map (·.marked mark) := by
  simp only [expand?, candidates_marked, List.find?_map, Function.comp_def,
    Renderer.citeNames_marked hmark]

variable (hm : MarkedFrom states marked)
include hm

theorem namesKey_marked : namesKey r marked = namesKey r states := by
  funext e
  obtain ⟨mark, he⟩ := hm e.id
  rw [namesKey, namesKey, he, Renderer.citeNames_marked hmark]

theorem isSome_step?_marked (e : Entry) :
    (step? r entries marked e).isSome = (step? r entries states e).isSome := by
  obtain ⟨mark, he⟩ := hm e.id
  rw [step?, step?, namesKey_marked hmark hm, he, expand?_marked hmark]
  split
  · exact Option.isSome_map
  · rfl

theorem changed_marked (hids : (entries.map (·.id)).Nodup) :
    (expandPass r entries marked).changed = (expandPass r entries states).changed := by
  rw [Bool.eq_iff_iff, changed_expandPass hids, changed_expandPass hids]
  simp only [isSome_step?_marked hmark hm]

theorem wholeKey_marked : wholeKey r marked = wholeKey r states := by
  funext e
  obtain ⟨mark, he⟩ := hm e.id
  rw [wholeKey, wholeKey, he, Renderer.citeText_marked hmark]
  rfl

end Blind

theorem foldl_reaches {α β : Type} {f : β → α → β} {P : β → Prop} {l : List α} {a : α}
    (ha : a ∈ l) (hreach : ∀ b, P (f b a)) (hkeep : ∀ b a, P b → P (f b a)) (b : β) :
    P (l.foldl f b) := by
  obtain ⟨before, after, rfl⟩ := List.append_of_mem ha
  rw [List.foldl_append, List.foldl_cons]
  exact List.foldlRecOn after f (hreach _) fun b hb a _ => hkeep b a hb

def Lettered (entries : List Entry) (states : States) : Prop :=
  ∀ group ∈ Grouping.byKey (fun e => (authorKey e, e.year?)) entries, ¬group.length < 2 →
    ∀ m ∈ group.zip suffixLetters, (states.of m.1.id).yearSuffix.isSome

theorem isSome_giveSuffix {states : States} {id : String} (other : String) (letter : Char)
    (h : id = other ∨ (states.of id).yearSuffix.isSome) :
    ((giveSuffix states other letter).of id).yearSuffix.isSome := by
  rw [giveSuffix, States.of_put]
  split
  · cases hs : (states.of other).yearSuffix <;> rfl
  · next hne => exact h.resolve_left hne

theorem lettered_assignYearSuffixes (entries : List Entry) (states : States) :
    Lettered entries (assignYearSuffixes entries states) := by
  intro group hgroup hlen m hm
  apply foldl_reaches (P := fun states : States => (states.of m.1.id).yearSuffix.isSome) hgroup
  · intro states
    rw [suffixGroup, if_neg hlen]
    refine foldl_reaches (P := fun states : States => (states.of m.1.id).yearSuffix.isSome) hm ?_ ?_ _
    · intro states
      exact isSome_giveSuffix _ _ (.inl rfl)
    · intro states other h
      exact isSome_giveSuffix _ _ (.inr h)
  · intro states group h
    rw [suffixGroup]
    split
    · exact h
    · exact List.foldlRecOn (motive := fun states : States => (states.of m.1.id).yearSuffix.isSome)
        _ _ h fun states h _ _ => isSome_giveSuffix _ _ (.inr h)

theorem Lettered.of_grows {later : States} (h : Lettered entries states)
    (hg : ∀ id, (states.of id).Grows (later.of id)) : Lettered entries later := by
  intro group hgroup hlen m hm
  obtain ⟨letter, hletter⟩ := Option.isSome_iff_exists.mp (h group hgroup hlen m hm)
  rw [(hg _).yearSuffix letter hletter]
  rfl

theorem giveSuffix_again (hc : states.Covers entries) {e : Entry} (he : e ∈ entries)
    (h : (states.of e.id).yearSuffix.isSome) (letter : Char) :
    giveSuffix states e.id letter = states := by
  obtain ⟨given, hgiven⟩ := Option.isSome_iff_exists.mp h
  apply hc.put_of he
  rw [hgiven]
  change { states.of e.id with yearSuffix := some given } = states.of e.id
  rw [← hgiven]

theorem assignYearSuffixes_again (hc : states.Covers entries) (h : Lettered entries states) :
    assignYearSuffixes entries states = states := by
  refine List.foldlRecOn (motive := (· = states)) _ _ rfl fun later hlater group hgroup => ?_
  subst hlater
  rw [suffixGroup]
  split
  · rfl
  · next hlen =>
    refine List.foldlRecOn (motive := (· = later)) _ _ rfl fun same hsame m hm => ?_
    subst hsame
    have hletter := h group hgroup hlen m hm
    obtain ⟨x, _, rfl⟩ := Grouping.mem_byKey.mp hgroup
    exact giveSuffix_again hc (List.mem_filter.mp (List.of_mem_zip hm).1).1 hletter m.2

theorem expandNames_again (h : (expandPass r entries states).changed = false) :
    expandNames r entries maxPasses states = (.converged, states) := by
  rw [maxPasses, expandNames, h]
  rfl

theorem disambiguate_of_settled (hc : states.Covers entries)
    (hletters : r.style.citation.options.disambiguateAddYearSuffix = true → Lettered entries states)
    (hpass : (expandPass r entries states).changed = false)
    (hmarks : markRemaining r entries states = states) :
    r.disambiguate entries states = (.converged, states) := by
  have hsuffixes : (if r.style.citation.options.disambiguateAddYearSuffix then
      assignYearSuffixes entries states else states) = states := by
    split
    · next hon => exact assignYearSuffixes_again hc (hletters hon)
    · rfl
  have hentered := entered_of_covers hc
  rw [entered] at hentered
  simp only [Renderer.disambiguate, hentered, hsuffixes, expandNames_again hpass, ite_self, hmarks]

-- A pass that changes nothing is at a fixed point, so the last pass begins with the final states.
theorem unchanged_of_converged (h : (r.disambiguate entries []).1 = .converged) :
    (expandPass r entries (afterPasses r entries maxPasses)).changed = false := by
  obtain ⟨n, hn, hunchanged⟩ := disambiguate_converged.mp h
  have hlast : afterPasses r entries maxPasses = afterPasses r entries n := by
    have hsplit : maxPasses = (maxPasses - n) + n := by omega
    rw [hsplit, afterPasses, Function.iterate_add_apply, ← afterPasses]
    exact Function.iterate_fixed (advance_of_unchanged hunchanged) _
  rw [hlast, hunchanged]

theorem markRemaining_again (hmark : r.style.testsMark = false) (hids : (entries.map (·.id)).Nodup)
    (hc : states.Covers entries) :
    markRemaining r entries (markRemaining r entries states) = markRemaining r entries states := by
  have hkey := wholeKey_marked hmark (markedFrom_markRemaining r entries states)
  have hcovers := covers_markRemaining r hc
  refine List.foldlRecOn (motive := (· = markRemaining r entries states)) _ _ rfl
    fun later hlater e he => ?_
  subst hlater
  change e ∈ (collisions (wholeKey r (markRemaining r entries states)) entries).flatten at he
  rw [hkey, mem_collisions _ hids.of_map] at he
  apply hcovers.put_of he.1
  rw [of_markRemaining r hids _ he.1, if_pos he.2]

theorem grows_afterPasses (hids : (entries.map (·.id)).Nodup) (n : Nat) (id : String) :
    ((suffixed r entries).of id).Grows ((afterPasses r entries n).of id) := by
  induction n with
  | zero => exact .refl _
  | succ n ih =>
    rw [afterPasses_succ]
    exact ih.trans (grows_advance hids id)

theorem lettered_markRemaining (hids : (entries.map (·.id)).Nodup)
    (hon : r.style.citation.options.disambiguateAddYearSuffix = true) (n : Nat) :
    Lettered entries (markRemaining r entries (afterPasses r entries n)) := by
  have hlettered : Lettered entries (suffixed r entries) := by
    rw [suffixed, if_pos hon]
    exact lettered_assignYearSuffixes entries _
  exact hlettered.of_grows fun id => (grows_afterPasses hids n id).trans (grows_markRemaining id)

end Disambiguation

open Disambiguation

/-- A run that has converged changes nothing when it is made again on its own result, provided that no
condition of the style tests the mark. -/
theorem Renderer.disambiguate_again (r : Renderer) (hmark : r.style.testsMark = false)
    {entries : List Entry} (hids : (entries.map (·.id)).Nodup)
    (h : (r.disambiguate entries []).1 = .converged) :
    r.disambiguate entries (r.disambiguate entries []).2 =
      (.converged, (r.disambiguate entries []).2) := by
  rw [disambiguate_states]
  have hc := covers_afterPasses r entries maxPasses
  apply disambiguate_of_settled (covers_markRemaining r hc)
  · intro hon
    exact lettered_markRemaining hids hon maxPasses
  · rw [changed_marked hmark (markedFrom_markRemaining r entries _) hids]
    exact unchanged_of_converged h
  · exact markRemaining_again hmark hids hc

theorem disambiguate_again_of_three :
    let r := firstAuthors { disambiguateAddGivenName := true, disambiguateAddNames := true }
    let run := r.disambiguate Entry.threeByDoe []
    r.style.testsMark = false ∧ (Entry.threeByDoe.map (·.id)).Nodup ∧ run.1 = .converged ∧
      (run.2.of "a").condition = true ∧
      r.disambiguate Entry.threeByDoe run.2 = (.converged, run.2) := by
  intro r run
  have hmark : r.style.testsMark = false := rfl
  have hids : (Entry.threeByDoe.map (·.id)).Nodup := by decide
  have hconverged : run.1 = .converged := by decide
  exact ⟨hmark, hids, hconverged, by decide, r.disambiguate_again hmark hids hconverged⟩

end Citeproc
