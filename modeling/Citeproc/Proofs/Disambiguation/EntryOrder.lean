import Citeproc.Proofs.Disambiguation.Progress

namespace Citeproc

namespace Disambiguation

variable {r : Renderer} {entries entries' : List Entry} {states states' : States}

section Perm

variable (hp : entries.Perm entries') (hs : ∀ id, states.of id = states'.of id)
include hp hs

theorem step?_perm (e : Entry) : step? r entries states e = step? r entries' states' e := by
  have hkey : namesKey r states = namesKey r states' := by
    funext e
    rw [namesKey, namesKey, hs]
  rw [step?, step?, hs, hkey]
  simp only [hp.mem_iff]

variable (hids : (entries.map (·.id)).Nodup)
include hids

theorem advance_perm (id : String) :
    (advance r entries states).of id = (advance r entries' states').of id := by
  have hids' : (entries'.map (·.id)).Nodup := (hp.map _).nodup_iff.mp hids
  rw [advance, advance]
  by_cases hid : id ∈ entries.map (·.id)
  · obtain ⟨e, he, rfl⟩ := List.mem_map.mp hid
    rw [of_expandPass hids he, of_expandPass hids' (hp.mem_iff.mp he), step?_perm hp hs, hs]
  · rw [of_expandPass_of_notMem hid, of_expandPass_of_notMem, hs]
    rwa [(hp.map _).mem_iff] at hid

theorem changed_perm :
    (expandPass r entries states).changed = (expandPass r entries' states').changed := by
  have hids' : (entries'.map (·.id)).Nodup := (hp.map _).nodup_iff.mp hids
  rw [Bool.eq_iff_iff, changed_expandPass hids, changed_expandPass hids']
  simp only [hp.mem_iff, step?_perm hp hs]

theorem markRemaining_perm (id : String) :
    (markRemaining r entries states).of id = (markRemaining r entries' states').of id := by
  have hids' : (entries'.map (·.id)).Nodup := (hp.map _).nodup_iff.mp hids
  have hkey : wholeKey r states = wholeKey r states' := by
    funext e
    rw [wholeKey, wholeKey, hs]
  have hmarked : id ∈ (collisions (wholeKey r states) entries).flatten.map (·.id) ↔
      id ∈ (collisions (wholeKey r states') entries').flatten.map (·.id) := by
    simp only [List.mem_map, mem_collisions _ hids.of_map, mem_collisions _ hids'.of_map, hkey,
      hp.mem_iff]
  have hof := of_mark (collisions (wholeKey r states) entries).flatten states id
  have hof' := of_mark (collisions (wholeKey r states') entries').flatten states' id
  rw [if_congr hmarked rfl rfl, hs id] at hof
  exact hof.trans hof'.symm

end Perm

variable (hp : entries.Perm entries') (hids : (entries.map (·.id)).Nodup)
  (hsuffix : r.style.citation.options.disambiguateAddYearSuffix = false)
include hp hids hsuffix

theorem afterPasses_perm (n : Nat) (id : String) :
    (afterPasses r entries n).of id = (afterPasses r entries' n).of id := by
  induction n generalizing id with
  | zero =>
    have hzero (entries : List Entry) : (afterPasses r entries 0).of id = {} := by
      change (suffixed r entries).of id = {}
      rw [suffixed, hsuffix, if_neg Bool.false_ne_true, of_started]
    rw [hzero, hzero]
  | succ n ih =>
    rw [afterPasses_succ, afterPasses_succ]
    exact advance_perm hp ih hids id

theorem convergence_perm :
    (r.disambiguate entries []).1 = (r.disambiguate entries' []).1 := by
  have hiff : (r.disambiguate entries []).1 = .converged ↔
      (r.disambiguate entries' []).1 = .converged := by
    rw [disambiguate_converged, disambiguate_converged]
    refine exists_congr fun n => and_congr_right fun _ => ?_
    rw [changed_perm hp (afterPasses_perm hp hids hsuffix n) hids]
  rcases disambiguate_capped r entries with h | h
  · rw [h, hiff.mp h]
  · rcases disambiguate_capped r entries' with h' | h'
    · rw [hiff.mpr h', h']
    · rw [h, h']

end Disambiguation

open Disambiguation

/-- Without year suffixes, entries in any other order are told apart in the same way. -/
theorem Renderer.disambiguate_perm (r : Renderer)
    (hsuffix : r.style.citation.options.disambiguateAddYearSuffix = false)
    {entries entries' : List Entry} (hids : (entries.map (·.id)).Nodup)
    (hp : entries.Perm entries') :
    (r.disambiguate entries []).1 = (r.disambiguate entries' []).1 ∧
      ∀ id, Table.get? (r.disambiguate entries []).2 id =
        Table.get? (r.disambiguate entries' []).2 id := by
  refine ⟨convergence_perm hp hids hsuffix, fun id => ?_⟩
  have hcovers := covers_markRemaining r (covers_afterPasses r entries maxPasses)
  have hcovers' := covers_markRemaining r (covers_afterPasses r entries' maxPasses)
  rw [disambiguate_states, disambiguate_states, hcovers.get?_eq, hcovers'.get?_eq,
    if_congr (hp.map _).mem_iff rfl rfl,
    markRemaining_perm hp (afterPasses_perm hp hids hsuffix maxPasses) hids]

theorem disambiguate_perm_of_three :
    let r := firstAuthors { disambiguateAddGivenName := true, disambiguateAddNames := true }
    let rotated := Entry.threeByDoe.rotate 1
    r.style.citation.options.disambiguateAddYearSuffix = false ∧
      (Entry.threeByDoe.map (·.id)).Nodup ∧ Entry.threeByDoe.Perm rotated ∧
      (r.disambiguate rotated []).1 = .converged ∧
      Table.get? (r.disambiguate rotated []).2 "c" =
        some { givenNameLevel := 1, namesExpanded := 1, condition := true } := by
  intro r rotated
  have hids : (Entry.threeByDoe.map (·.id)).Nodup := by decide
  have hp : Entry.threeByDoe.Perm rotated := by decide
  obtain ⟨hconvergence, hstates⟩ := r.disambiguate_perm rfl hids hp
  refine ⟨rfl, hids, hp, ?_, ?_⟩
  · rw [← hconvergence]
    decide +kernel
  · rw [← hstates]
    decide +kernel

end Citeproc
