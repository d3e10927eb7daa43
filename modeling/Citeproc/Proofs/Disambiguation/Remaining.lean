import Citeproc.Disambiguation.Run
import Citeproc.Proofs.Grouping
import Citeproc.Proofs.Sample

namespace Citeproc

namespace States

theorem of_put (states : States) (key id : String) (state : DisambiguationState) :
    States.of (Table.put states key state) id = if id = key then state else states.of id := by
  rw [States.of, Table.get?_put]
  split <;> rfl

def Unmarked (states : States) : Prop := ∀ id, (states.of id).condition = false

theorem Unmarked.put {states : States} (h : states.Unmarked) (id : String)
    {state : DisambiguationState} (hs : state.condition = false) :
    States.Unmarked (Table.put states id state) := by
  intro other
  rw [of_put]
  split
  · exact hs
  · exact h other

theorem unmarked_nil : Unmarked [] := fun _ => rfl

end States

namespace Disambiguation

theorem mem_collisions {κ : Type} [DecidableEq κ] (key : Entry → κ) {entries : List Entry}
    (hn : entries.Nodup) (e : Entry) :
    e ∈ (collisions key entries).flatten ↔
      e ∈ entries ∧ ∃ other ∈ entries, other ≠ e ∧ key other = key e := by
  have other_iff (he : e ∈ entries) : 1 < (entries.filter fun y => key y == key e).length ↔
      ∃ other ∈ entries, other ≠ e ∧ key other = key e := by
    have hmem : e ∈ entries.filter fun y => key y == key e := by simp [he]
    have hlen := List.length_erase_of_mem hmem
    have hpos : 0 < (entries.filter fun y => key y == key e).length := List.length_pos_of_mem hmem
    have hlt : 1 < (entries.filter fun y => key y == key e).length ↔
        0 < ((entries.filter fun y => key y == key e).erase e).length := by omega
    rw [hlt, List.length_pos_iff_exists_mem]
    simp only [(hn.filter _).mem_erase_iff, List.mem_filter, beq_iff_eq]
    exact exists_congr fun _ => by tauto
  simp only [collisions, List.mem_flatten, List.mem_filter, Grouping.mem_byKey, decide_eq_true_eq]
  constructor
  · rintro ⟨_, ⟨⟨x, hx, rfl⟩, hlen⟩, he⟩
    obtain ⟨he, hkey⟩ := List.mem_filter.mp he
    have hkey : key e = key x := by simpa using hkey
    rw [← hkey] at hlen
    exact ⟨he, (other_iff he).mp hlen⟩
  · rintro ⟨he, hother⟩
    exact ⟨_, ⟨⟨e, he, rfl⟩, (other_iff he).mpr hother⟩, by simp [he]⟩

theorem unmarked_giveSuffix {states : States} (h : states.Unmarked) (id : String) (letter : Char) :
    (giveSuffix states id letter).Unmarked :=
  h.put id (h id)

theorem unmarked_assignYearSuffixes {states : States} (h : states.Unmarked)
    (entries : List Entry) : (assignYearSuffixes entries states).Unmarked := by
  refine List.foldlRecOn _ _ h fun states h group _ => ?_
  rw [suffixGroup]
  split
  · exact h
  · exact List.foldlRecOn _ _ h fun _ h member _ => unmarked_giveSuffix h member.1.id member.2

theorem condition_of_mem_candidates {options : CitationOptions} {total : Nat}
    {state next : DisambiguationState} (h : next ∈ candidates options total state) :
    next.condition = state.condition := by
  rw [candidates] at h
  rcases List.mem_append.mp h with h | h
  · obtain ⟨level, _, rfl⟩ := List.mem_map.mp h
    rfl
  · split at h
    · rw [List.mem_singleton.mp h]
    · simp at h

theorem unmarked_expandMember (r : Renderer) (group : List Entry) {pass : Pass}
    (h : pass.states.Unmarked) (e : Entry) : (expandMember r group pass e).states.Unmarked := by
  rw [expandMember]
  split
  · split
    · next next hnext =>
      exact h.put e.id ((condition_of_mem_candidates (List.mem_of_find?_eq_some hnext)).trans (h e.id))
    · exact h
  · exact h

theorem unmarked_expandPass (r : Renderer) (entries : List Entry) {states : States}
    (h : states.Unmarked) : (expandPass r entries states).states.Unmarked := by
  refine List.foldlRecOn (motive := fun pass : Pass => pass.states.Unmarked) _ _ h
    fun pass h group _ => ?_
  exact List.foldlRecOn (motive := fun pass : Pass => pass.states.Unmarked) _ _ h
    fun pass h e _ => unmarked_expandMember r group h e

theorem unmarked_expandNames (r : Renderer) (entries : List Entry) (left : Nat) {states : States}
    (h : states.Unmarked) : (expandNames r entries left states).2.Unmarked := by
  induction left generalizing states with
  | zero => exact h
  | succ left ih =>
    simp only [expandNames]
    split
    · exact ih (unmarked_expandPass r entries h)
    · exact h

theorem of_mark (marked : List Entry) (states : States) (id : String) :
    States.of (marked.foldl (fun states e =>
      Table.put states e.id { states.of e.id with condition := true }) states) id =
      if id ∈ marked.map (·.id) then { states.of id with condition := true } else states.of id := by
  induction marked generalizing states with
  | nil => rfl
  | cons e marked ih =>
    rw [List.foldl_cons, ih, States.of_put]
    by_cases he : id = e.id <;> by_cases hm : id ∈ marked.map (·.id) <;> simp [he, hm]

def started (entries : List Entry) : States :=
  entries.foldl (fun (states : States) e => states.put e.id (states.of e.id)) []

def suffixed (r : Renderer) (entries : List Entry) : States :=
  if r.style.citation.options.disambiguateAddYearSuffix then
    assignYearSuffixes entries (started entries)
  else started entries

def settled (r : Renderer) (entries : List Entry) : States :=
  if r.style.citation.options.disambiguateAddGivenName ||
      r.style.citation.options.disambiguateAddNames then
    (expandNames r entries maxPasses (suffixed r entries)).2
  else suffixed r entries

theorem disambiguate_eq (r : Renderer) (entries : List Entry) :
    (r.disambiguate entries []).2 = markRemaining r entries (settled r entries) := by
  simp only [Renderer.disambiguate, settled, suffixed, started]
  split <;> rfl

theorem unmarked_settled (r : Renderer) (entries : List Entry) : (settled r entries).Unmarked := by
  have hstarted : (started entries).Unmarked :=
    List.foldlRecOn _ _ States.unmarked_nil fun _ h e _ => h.put e.id (h e.id)
  have hsuffixed : (suffixed r entries).Unmarked := by
    rw [suffixed]
    split
    · exact unmarked_assignYearSuffixes hstarted entries
    · exact hstarted
  rw [settled]
  split
  · exact unmarked_expandNames r entries maxPasses hsuffixed
  · exact hsuffixed

def wholeKey (r : Renderer) (states : States) (e : Entry) : String × Option Int × Option Char :=
  (r.citeText e (states.of e.id), e.year?, (states.of e.id).yearSuffix)

theorem of_markRemaining (r : Renderer) {entries : List Entry} (hids : (entries.map (·.id)).Nodup)
    (states : States) {e : Entry} (he : e ∈ entries) :
    (markRemaining r entries states).of e.id =
      if ∃ other ∈ entries, other ≠ e ∧ wholeKey r states other = wholeKey r states e then
        { states.of e.id with condition := true }
      else states.of e.id := by
  have hinj := List.inj_on_of_nodup_map hids
  have hmem : e.id ∈ (collisions (wholeKey r states) entries).flatten.map (·.id) ↔
      ∃ other ∈ entries, other ≠ e ∧ wholeKey r states other = wholeKey r states e := by
    rw [List.mem_map]
    constructor
    · rintro ⟨found, hfound, hid⟩
      have hfound := (mem_collisions _ hids.of_map found).mp hfound
      rw [← hinj hfound.1 he hid]
      exact hfound.2
    · intro h
      exact ⟨e, (mem_collisions _ hids.of_map e).mpr ⟨he, h⟩, rfl⟩
  rw [← if_congr hmem rfl rfl]
  exact of_mark _ states e.id

end Disambiguation

open Disambiguation

/-- An entry is marked exactly when another one shares the text of the whole cite, the year and the
year suffix, whether or not the cite shows the last two. -/
theorem Renderer.condition_disambiguate_iff (r : Renderer) {entries : List Entry}
    (hids : (entries.map (·.id)).Nodup) {e : Entry} (he : e ∈ entries) :
    let states := (r.disambiguate entries []).2
    let unmarked (e : Entry) : DisambiguationState := { states.of e.id with condition := false }
    (states.of e.id).condition = true ↔ ∃ other ∈ entries, other ≠ e ∧
      r.citeText other (unmarked other) = r.citeText e (unmarked e) ∧ other.year? = e.year? ∧
      (states.of other.id).yearSuffix = (states.of e.id).yearSuffix := by
  intro states unmarked
  have hstates : states = markRemaining r entries (settled r entries) := disambiguate_eq r entries
  have hplain := unmarked_settled r entries
  have hof {e : Entry} (he : e ∈ entries) : unmarked e = (settled r entries).of e.id := by
    have hc := hplain e.id
    simp only [unmarked, hstates, of_markRemaining r hids _ he]
    split <;> simp [← hc]
  have hsuffix {e : Entry} (he : e ∈ entries) :
      (states.of e.id).yearSuffix = ((settled r entries).of e.id).yearSuffix := by
    rw [← hof he]
  have hcond : (states.of e.id).condition = true ↔ ∃ other ∈ entries, other ≠ e ∧
      wholeKey r (settled r entries) other = wholeKey r (settled r entries) e := by
    rw [hstates, of_markRemaining r hids _ he]
    split
    · next h => simpa using h
    · next h => simpa [hplain e.id] using h
  rw [hcond]
  refine exists_congr fun other => and_congr_right fun ho => and_congr_right fun _ => ?_
  rw [hof he, hof ho, hsuffix he, hsuffix ho, wholeKey, wholeKey, Prod.mk.injEq, Prod.mk.injEq]

namespace Disambiguation

def namesOnly (options : CitationOptions) : Renderer where
  style := .citing [.names (.ofRole "author") none] [] options
  locale := {}

def issuedIn (id author year : String) : Entry where
  id
  type := "book"
  fields := [("issued", year)]
  names := [("author", [.ofLiteral author])]

theorem condition_of_three :
    let entries := [issuedIn "a" "Doe" "2020", issuedIn "b" "Roe" "2020", issuedIn "c" "Doe" "2020"]
    (entries.map (·.id)).Nodup ∧ issuedIn "a" "Doe" "2020" ∈ entries ∧
      (((namesOnly {}).disambiguate entries []).2.of "a").condition = true := by
  intro entries
  have hids : (entries.map (·.id)).Nodup := by decide
  have he : issuedIn "a" "Doe" "2020" ∈ entries := by decide
  refine ⟨hids, he, ?_⟩
  apply ((namesOnly {}).condition_disambiguate_iff hids he).mpr
  exact ⟨issuedIn "c" "Doe" "2020", by decide, by decide, by decide, rfl, by decide⟩

theorem same_cites_unmarked :
    (let entries := [issuedIn "a" "Doe" "2020", issuedIn "b" "Doe" "2021"]
      let states := ((namesOnly {}).disambiguate entries []).2
      (namesOnly {}).citeText (issuedIn "a" "Doe" "2020") (states.of "a") =
          (namesOnly {}).citeText (issuedIn "b" "Doe" "2021") (states.of "b") ∧
        (states.of "a").condition = false ∧ (states.of "b").condition = false) ∧
    (let r := namesOnly { disambiguateAddYearSuffix := true }
      let entries := [issuedIn "a" "Doe" "2020", issuedIn "b" "Doe" "2020"]
      let states := (r.disambiguate entries []).2
      r.citeText (issuedIn "a" "Doe" "2020") (states.of "a") =
          r.citeText (issuedIn "b" "Doe" "2020") (states.of "b") ∧
        (states.of "a").condition = false ∧ (states.of "b").condition = false) := by
  decide +kernel

end Disambiguation

end Citeproc
