import Citeproc.Disambiguation.Cited
import Citeproc.Proofs.Disambiguation.Pass

namespace Citeproc

theorem find?_congr_take {α : Type} {p q : α → Bool} {as : List α}
    (h : ∀ a ∈ as.take (as.findIdx p + 1), q a = p a) :
    as.find? q = as.find? p ∧ as.findIdx q = as.findIdx p := by
  induction as with
  | nil => exact ⟨rfl, rfl⟩
  | cons a as ih =>
    have ha : q a = p a := h a (by simp)
    rw [List.find?_cons, List.find?_cons, List.findIdx_cons, List.findIdx_cons, ha]
    cases hp : p a with
    | true => exact ⟨rfl, rfl⟩
    | false =>
      have hrest := ih fun b hb => h b (by simpa [List.findIdx_cons, hp] using .inr hb)
      exact ⟨hrest.1, congrArg (· + 1) hrest.2⟩

namespace Disambiguation

variable {r r' : Renderer} {entries : List Entry}

theorem expand?_congr (hoptions : r'.style.citation.options = r.style.citation.options)
    {e : Entry} {state : DisambiguationState}
    (h : ∀ shown ∈ expandCites r e state, r'.firstCite e shown = r.firstCite e shown) :
    expand? r' e state = expand? r e state ∧ expandCites r' e state = expandCites r e state := by
  have hnames : ∀ shown ∈ expandCites r e state, r'.citeNames e shown = r.citeNames e shown :=
    fun shown hshown => by rw [Renderer.citeNames, Renderer.citeNames, h shown hshown]
  obtain ⟨hcurrent, hnext⟩ := List.forall_mem_cons.mp hnames
  have hfound := find?_congr_take (q := fun next => r'.citeNames e next != r.citeNames e state)
    fun next hmem => by rw [hnext next hmem]
  simp only [expand?, expandCites, hoptions, hcurrent, hfound, and_self]

theorem expandMember_congr (hoptions : r'.style.citation.options = r.style.citation.options)
    {group : List Entry} {pass : Pass} {e : Entry}
    (h : ∀ shown ∈ if distinguishable group e then expandCites r e (pass.states.of e.id) else [],
      r'.firstCite e shown = r.firstCite e shown) :
    expandMember r' group pass e = expandMember r group pass e ∧
      (if distinguishable group e then expandCites r' e (pass.states.of e.id) else []) =
        if distinguishable group e then expandCites r e (pass.states.of e.id) else [] := by
  rw [expandMember, expandMember]
  split
  · next hgroup =>
    rw [if_pos hgroup] at h
    obtain ⟨hexpand, hcites⟩ := expand?_congr hoptions h
    exact ⟨by rw [hexpand], hcites⟩
  · exact ⟨rfl, rfl⟩

theorem memberCites_congr (hoptions : r'.style.citation.options = r.style.citation.options)
    {members : List (List Entry × Entry)} {pass : Pass}
    (h : ∀ cite ∈ memberCites r pass members, r'.firstCite cite.1 cite.2 = r.firstCite cite.1 cite.2) :
    members.foldl (fun pass m => expandMember r' m.1 pass m.2) pass =
        members.foldl (fun pass m => expandMember r m.1 pass m.2) pass ∧
      memberCites r' pass members = memberCites r pass members := by
  induction members generalizing pass with
  | nil => simp only [List.foldl_nil, memberCites, and_self]
  | cons m members ih =>
    obtain ⟨group, e⟩ := m
    simp only [memberCites, List.forall_mem_append, List.forall_mem_map] at h
    obtain ⟨hpass, hcites⟩ := expandMember_congr hoptions h.1
    obtain ⟨hfold, hrest⟩ := ih h.2
    simp only [List.foldl_cons, memberCites, hpass, hcites, hfold, hrest, and_self]

theorem collisions_congr {κ : Type} [DecidableEq κ] {key key' : Entry → κ}
    (h : ∀ e ∈ entries, key' e = key e) : collisions key' entries = collisions key entries := by
  have hmap : (entries.map fun e => (key' e, e)) = entries.map fun e => (key e, e) :=
    List.map_congr_left fun e he => by rw [h e he]
  rw [collisions, collisions, Grouping.byKey, Grouping.byKey, hmap]

theorem passCites_eq (r : Renderer) (entries : List Entry) (states : States) :
    passCites r entries states =
      currentCites entries states ++ memberCites r { states } (members r entries states) :=
  rfl

theorem expandPass_congr (hoptions : r'.style.citation.options = r.style.citation.options)
    {states : States}
    (h : ∀ cite ∈ passCites r entries states, r'.firstCite cite.1 cite.2 = r.firstCite cite.1 cite.2) :
    expandPass r' entries states = expandPass r entries states ∧
      passCites r' entries states = passCites r entries states := by
  obtain ⟨hcurrent, hmembers⟩ := List.forall_mem_append.mp h
  have hkeys : ∀ e ∈ entries, namesKey r' states e = namesKey r states e := by
    intro e he
    have hcite := List.forall_mem_map.mp hcurrent e he
    rw [namesKey, namesKey, Renderer.citeNames, Renderer.citeNames, hcite]
  have hsame : members r' entries states = members r entries states := by
    rw [members, members, collisions_congr hkeys]
  obtain ⟨hfold, hcites⟩ := memberCites_congr hoptions hmembers
  rw [expandPass_eq, expandPass_eq, passCites_eq, passCites_eq, hsame]
  exact ⟨hfold, congrArg _ hcites⟩

theorem namesCites_congr (hoptions : r'.style.citation.options = r.style.citation.options)
    {passes : Nat} {states : States}
    (h : ∀ cite ∈ namesCites r entries passes states,
      r'.firstCite cite.1 cite.2 = r.firstCite cite.1 cite.2) :
    expandNames r' entries passes states = expandNames r entries passes states ∧
      namesCites r' entries passes states = namesCites r entries passes states := by
  induction passes generalizing states with
  | zero => exact ⟨rfl, rfl⟩
  | succ passes ih =>
    obtain ⟨hpass, hmore⟩ := List.forall_mem_append.mp h
    obtain ⟨hstates, hcites⟩ := expandPass_congr hoptions hpass
    rw [expandNames, expandNames, namesCites, namesCites, hstates, hcites]
    split
    · next hchanged =>
      rw [if_pos hchanged] at hmore
      obtain ⟨hrest, hcites⟩ := ih hmore
      exact ⟨hrest, congrArg _ hcites⟩
    · exact ⟨rfl, rfl⟩

theorem markRemaining_congr {states : States} (h : ∀ cite ∈ currentCites entries states,
    r'.firstCite cite.1 cite.2 = r.firstCite cite.1 cite.2) :
    markRemaining r' entries states = markRemaining r entries states := by
  have hkeys : ∀ e ∈ entries, wholeKey r' states e = wholeKey r states e := by
    intro e he
    have hcite := List.forall_mem_map.mp h e he
    rw [wholeKey, wholeKey, Renderer.citeText, Renderer.citeText, hcite]
  change (collisions (wholeKey r' states) entries).flatten.foldl _ states =
    (collisions (wholeKey r states) entries).flatten.foldl _ states
  rw [collisions_congr hkeys]

theorem mem_of_mem_memberCites {members : List (List Entry × Entry)} {pass : Pass}
    {cite : Entry × DisambiguationState} (h : cite ∈ memberCites r pass members) :
    cite.1 ∈ members.map (·.2) := by
  induction members generalizing pass with
  | nil => cases h
  | cons m members ih =>
    simp only [memberCites, List.mem_append, List.mem_map] at h
    rw [List.map_cons, List.mem_cons]
    rcases h with ⟨_, _, rfl⟩ | h
    · exact .inl rfl
    · exact .inr (ih h)

theorem mem_of_mem_currentCites {states : States} {cite : Entry × DisambiguationState}
    (h : cite ∈ currentCites entries states) : cite.1 ∈ entries := by
  obtain ⟨e, he, rfl⟩ := List.mem_map.mp h
  exact he

theorem mem_of_mem_namesCites {passes : Nat} {states : States}
    {cite : Entry × DisambiguationState} (h : cite ∈ namesCites r entries passes states) :
    cite.1 ∈ entries := by
  induction passes generalizing states with
  | zero => cases h
  | succ passes ih =>
    rw [namesCites, passCites_eq, List.append_assoc, List.mem_append, List.mem_append] at h
    rcases h with hcurrent | hmember | hmore
    · exact mem_of_mem_currentCites hcurrent
    · obtain ⟨m, hm, he⟩ := List.mem_map.mp (mem_of_mem_memberCites hmember)
      exact he ▸ (mem_of_mem_members hm).1
    · split at hmore
      · exact ih hmore
      · cases hmore

end Disambiguation

open Disambiguation

theorem Renderer.mem_of_mem_disambiguationCites {r : Renderer} {entries : List Entry}
    {states : States} {cite : Entry × DisambiguationState}
    (h : cite ∈ r.disambiguationCites entries states) : cite.1 ∈ entries := by
  simp only [disambiguationCites] at h
  split at h
  · exact (List.mem_append.mp h).elim mem_of_mem_namesCites mem_of_mem_currentCites
  · exact mem_of_mem_currentCites h

/-- A run depends on nothing that is not among the cites it is said to render. -/
theorem Renderer.disambiguate_congr {r r' : Renderer} {entries : List Entry} {states : States}
    (hoptions : r'.style.citation.options = r.style.citation.options)
    (h : ∀ cite ∈ r.disambiguationCites entries states,
      r'.firstCite cite.1 cite.2 = r.firstCite cite.1 cite.2) :
    r'.disambiguate entries states = r.disambiguate entries states ∧
      r'.disambiguationCites entries states = r.disambiguationCites entries states := by
  simp only [disambiguate, disambiguationCites, hoptions] at h ⊢
  split at h
  · next hnames =>
    obtain ⟨hexpand, hremaining⟩ := List.forall_mem_append.mp h
    obtain ⟨hrun, hcites⟩ := namesCites_congr hoptions hexpand
    simp only [if_pos hnames, hrun, hcites, markRemaining_congr hremaining, and_self]
  · next hnames => simp only [if_neg hnames, markRemaining_congr h, and_self]

end Citeproc
