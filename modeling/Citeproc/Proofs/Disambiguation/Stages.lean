import Citeproc.Proofs.Disambiguation.Pass
import Citeproc.Proofs.Table

namespace Citeproc

variable {entries : List Entry} {states : States}

namespace States

def Covers (states : States) (entries : List Entry) : Prop :=
  ∀ id, id ∈ Table.keys states ↔ id ∈ entries.map (·.id)

theorem Covers.put (h : states.Covers entries) {e : Entry} (he : e ∈ entries)
    (state : DisambiguationState) : Covers (Table.put states e.id state) entries := by
  intro id
  rw [Table.mem_keys_put, h id]
  constructor
  · rintro (hid | rfl)
    · exact hid
    · exact List.mem_map_of_mem he
  · exact .inl

theorem Covers.get?_eq (h : states.Covers entries) (id : String) :
    Table.get? states id = if id ∈ entries.map (·.id) then some (states.of id) else none := by
  rw [← if_congr (h id) rfl rfl, ← if_congr (Table.get?_isSome_iff states id) rfl rfl, States.of]
  cases Table.get? states id <;> rfl

theorem Covers.put_of (h : states.Covers entries) {e : Entry} (he : e ∈ entries)
    {state : DisambiguationState} (hstate : state = states.of e.id) :
    Table.put states e.id state = states := by
  apply Table.put_of_get?
  rw [h.get?_eq, if_pos (List.mem_map_of_mem he), hstate]

end States

namespace Disambiguation

def entered (entries : List Entry) (states : States) : States :=
  entries.foldl (fun (states : States) e => states.put e.id (states.of e.id)) states

theorem of_entered (entries : List Entry) (states : States) (id : String) :
    (entered entries states).of id = states.of id := by
  refine List.foldlRecOn (motive := fun later => States.of later id = states.of id) _ _ rfl
    fun later hlater e _ => ?_
  rw [States.of_put]
  split
  · next he => rw [← he, hlater]
  · exact hlater

theorem mem_keys_entered {id : String} :
    id ∈ Table.keys (entered entries states) ↔
      id ∈ Table.keys states ∨ id ∈ entries.map (·.id) := by
  induction entries generalizing states with
  | nil => simp [entered]
  | cons e entries ih =>
    have hrest := @ih (states.put e.id (states.of e.id))
    rw [Table.mem_keys_put, or_assoc] at hrest
    rw [List.map_cons, List.mem_cons]
    exact hrest

theorem entered_of_covers (hc : states.Covers entries) : entered entries states = states := by
  refine List.foldlRecOn (motive := (· = states)) _ _ rfl fun later hlater e he => ?_
  subst hlater
  exact hc.put_of he rfl

theorem of_started (id : String) : (started entries).of id = {} := of_entered entries [] id

theorem covers_started : (started entries).Covers entries := by
  intro id
  exact mem_keys_entered.trans (or_iff_right List.not_mem_nil)

theorem assignYearSuffixes_keeps {motive : States → Prop} (h : motive states)
    (hstep : ∀ states e letter, e ∈ entries → motive states →
      motive (giveSuffix states e.id letter)) :
    motive (assignYearSuffixes entries states) := by
  refine List.foldlRecOn _ _ h fun states h group hgroup => ?_
  obtain ⟨x, hx, rfl⟩ := Grouping.mem_byKey.mp hgroup
  rw [suffixGroup]
  split
  · exact h
  · refine List.foldlRecOn _ _ h fun states h m hm => ?_
    exact hstep states m.1 m.2 (List.mem_filter.mp (List.of_mem_zip hm).1).1 h

theorem suffixed_of {motive : States → Prop} (r : Renderer) (h : motive (started entries))
    (hstep : ∀ states e letter, e ∈ entries → motive states →
      motive (giveSuffix states e.id letter)) :
    motive (suffixed r entries) := by
  rw [suffixed]
  split
  · exact assignYearSuffixes_keeps h hstep
  · exact h

variable (r : Renderer)

theorem covers_suffixed (entries : List Entry) : (suffixed r entries).Covers entries := by
  apply suffixed_of (motive := fun states => states.Covers entries) r covers_started
  intro states e letter he h
  exact h.put he _

theorem unexpanded_suffixed (entries : List Entry) (id : String) :
    ((suffixed r entries).of id).givenNameLevel = 0 ∧
      ((suffixed r entries).of id).namesExpanded = 0 := by
  apply suffixed_of (motive := fun states =>
    (states.of id).givenNameLevel = 0 ∧ (states.of id).namesExpanded = 0)
  · rw [of_started]
    exact ⟨rfl, rfl⟩
  · intro states e letter _ h
    rw [giveSuffix, States.of_put]
    split
    · next he => exact he ▸ h
    · exact h

theorem covers_advance (h : states.Covers entries) : (advance r entries states).Covers entries := by
  rw [advance, expandPass_eq]
  refine List.foldlRecOn (motive := fun pass : Pass => pass.states.Covers entries) _ _ h
    fun pass hpass m hm => ?_
  rw [expandMember_eq]
  cases memberStep? r m.1 m.2 (pass.states.of m.2.id) with
  | none => exact hpass
  | some next => exact hpass.put (mem_of_mem_members hm).1 next

theorem covers_afterPasses (entries : List Entry) (n : Nat) :
    (afterPasses r entries n).Covers entries := by
  induction n with
  | zero => exact covers_suffixed r entries
  | succ n ih =>
    rw [afterPasses_succ]
    exact covers_advance r ih

theorem covers_markRemaining (h : states.Covers entries) :
    (markRemaining r entries states).Covers entries := by
  refine List.foldlRecOn (motive := fun states : States => states.Covers entries) _ _ h
    fun states h e he => ?_
  obtain ⟨group, hgroup, he⟩ := List.mem_flatten.mp he
  obtain ⟨x, _, rfl⟩ := Grouping.mem_byKey.mp (List.mem_filter.mp hgroup).1
  exact h.put (List.mem_filter.mp he).1 _

end Disambiguation

end Citeproc
