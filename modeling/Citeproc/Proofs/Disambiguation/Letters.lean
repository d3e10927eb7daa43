import Citeproc.Proofs.Disambiguation.Progress

namespace Citeproc

namespace Disambiguation

variable {r : Renderer} {entries : List Entry} {states : States}

def suffixKey (e : Entry) : String × Option Int := (authorKey e, e.year?)

def letters (entries : List Entry) : List (Entry × Char) :=
  (Grouping.byKey suffixKey entries).flatMap fun group =>
    if group.length < 2 then [] else group.zip suffixLetters

theorem assignYearSuffixes_eq (entries : List Entry) (states : States) :
    assignYearSuffixes entries states =
      (letters entries).foldl (fun states m => giveSuffix states m.1.id m.2) states := by
  have hgroup (states : States) (group : List Entry) : suffixGroup states group =
      (if group.length < 2 then [] else group.zip suffixLetters).foldl
        (fun states m => giveSuffix states m.1.id m.2) states := by
    rw [suffixGroup]
    split <;> rfl
  rw [letters, List.foldl_flatMap, ← funext₂ hgroup]
  rfl

def sharing (entries : List Entry) (key : String × Option Int) : List Entry :=
  entries.filter fun e => suffixKey e = key

theorem mem_letters {m : Entry × Char} : m ∈ letters entries ↔
    ∃ e ∈ entries, 2 ≤ (sharing entries (suffixKey e)).length ∧
      m ∈ (sharing entries (suffixKey e)).zip suffixLetters := by
  simp only [letters, List.mem_flatMap, Grouping.mem_byKey, beq_eq_decide]
  constructor
  · rintro ⟨group, ⟨e, he, rfl⟩, hmem⟩
    split at hmem
    · cases hmem
    · next hlen => exact ⟨e, he, Nat.le_of_not_lt hlen, hmem⟩
  · rintro ⟨e, he, hlen, hmem⟩
    refine ⟨sharing entries (suffixKey e), ⟨e, he, rfl⟩, ?_⟩
    rwa [if_neg (Nat.not_lt.mpr hlen)]

theorem nodup_letters (hids : (entries.map (·.id)).Nodup) :
    ((letters entries).map (·.1.id)).Nodup := by
  have hsub (groups : List (List Entry)) :
      ((groups.flatMap fun group => if group.length < 2 then [] else group.zip suffixLetters).map
        (·.1)).Sublist groups.flatten := by
    induction groups with
    | nil => exact .slnil
    | cons group groups ih =>
      rw [List.flatMap_cons, List.map_append, List.flatten_cons]
      refine List.Sublist.append ?_ ih
      split
      · exact List.nil_sublist _
      · rw [List.zip_eq_zip_take_min, List.map_fst_zip (by simp)]
        exact List.take_sublist _ _
  have hperm := (Grouping.byKey_perm suffixKey entries).map (·.id)
  have hnodup := hperm.nodup_iff.mpr hids
  have hletters := ((hsub (Grouping.byKey suffixKey entries)).map (·.id)).nodup hnodup
  rwa [List.map_map] at hletters

theorem yearSuffix_giveSuffix (states : States) (other : String) (letter : Char) (id : String) :
    ((giveSuffix states other letter).of id).yearSuffix =
      if id = other then (states.of id).yearSuffix <|> some letter
      else (states.of id).yearSuffix := by
  rw [giveSuffix, States.of_put]
  split
  · next h => rw [h]
  · rfl

section Given

variable {given : List (Entry × Char)}

theorem yearSuffix_foldl_of_notMem {id : String} (h : id ∉ given.map (·.1.id)) (states : States) :
    ((given.foldl (fun states m => giveSuffix states m.1.id m.2) states).of id).yearSuffix =
      (states.of id).yearSuffix := by
  induction given generalizing states with
  | nil => rfl
  | cons m given ih =>
    rw [List.map_cons, List.mem_cons, not_or] at h
    rw [List.foldl_cons, ih h.2, yearSuffix_giveSuffix, if_neg h.1]

theorem yearSuffix_foldl_of_mem (hn : (given.map (·.1.id)).Nodup) {e : Entry} {letter : Char}
    (hm : (e, letter) ∈ given) {states : States} (hs : (states.of e.id).yearSuffix = none) :
    ((given.foldl (fun states m => giveSuffix states m.1.id m.2) states).of e.id).yearSuffix =
      some letter := by
  induction given generalizing states with
  | nil => cases hm
  | cons m given ih =>
    obtain ⟨hfirst, hn⟩ := List.nodup_cons.mp hn
    rw [List.foldl_cons]
    rcases List.mem_cons.mp hm with rfl | hm
    · rw [yearSuffix_foldl_of_notMem hfirst, yearSuffix_giveSuffix, if_pos rfl, hs]
      rfl
    · apply ih hn hm
      rw [yearSuffix_giveSuffix, if_neg, hs]
      intro hid
      exact hfirst (List.mem_map.mpr ⟨_, hm, hid⟩)

end Given

theorem getElem?_suffixLetters (k : Nat) :
    suffixLetters[k]? = if k < 26 then some (Char.ofNat ('a'.toNat + k)) else none := by
  split
  · next h =>
    have hall : ∀ k < 26, suffixLetters[k]? = some (Char.ofNat ('a'.toNat + k)) := by decide
    exact hall k h
  · next h =>
    have hlen : suffixLetters.length = 26 := rfl
    rw [List.getElem?_eq_none_iff, hlen]
    omega

theorem mem_zip_iff {group : List Entry} (hn : group.Nodup) {k : Nat} (hk : k < group.length)
    (letter : Char) : (group[k], letter) ∈ group.zip suffixLetters ↔
      suffixLetters[k]? = some letter := by
  simp only [List.mem_iff_getElem?, List.getElem?_zip_eq_some]
  constructor
  · rintro ⟨i, hi, hletter⟩
    rw [← List.getElem?_eq_getElem hk] at hi
    rwa [(List.getElem?_inj hk hn).mp hi.symm]
  · intro hletter
    exact ⟨k, List.getElem?_eq_getElem hk, hletter⟩

theorem mem_letters_getElem (hn : entries.Nodup) {key : String × Option Int} {k : Nat}
    (hk : k < (sharing entries key).length) (letter : Char) :
    ((sharing entries key)[k], letter) ∈ letters entries ↔
      2 ≤ (sharing entries key).length ∧ suffixLetters[k]? = some letter := by
  obtain ⟨he, hkey⟩ := List.mem_filter.mp (List.getElem_mem hk)
  have hkey : suffixKey (sharing entries key)[k] = key := of_decide_eq_true hkey
  rw [mem_letters, ← mem_zip_iff (hn.filter _) hk]
  constructor
  · rintro ⟨e, -, hlen, hmem⟩
    have hmember := (List.mem_filter.mp (List.of_mem_zip hmem).1).2
    have hsame : suffixKey e = key := (of_decide_eq_true hmember).symm.trans hkey
    rw [hsame] at hlen hmem
    exact ⟨hlen, hmem⟩
  · intro h
    refine ⟨_, he, ?_⟩
    rwa [hkey]

theorem yearSuffix_assignYearSuffixes (hids : (entries.map (·.id)).Nodup)
    {key : String × Option Int} {k : Nat} (hk : k < (sharing entries key).length) :
    ((assignYearSuffixes entries (started entries)).of (sharing entries key)[k].id).yearSuffix =
      if 2 ≤ (sharing entries key).length then suffixLetters[k]? else none := by
  have hgiven := mem_letters_getElem hids.of_map hk
  have hnone (id : String) : ((started entries).of id).yearSuffix = none := by rw [of_started]
  rw [assignYearSuffixes_eq]
  by_cases h : ∃ letter, ((sharing entries key)[k], letter) ∈ letters entries
  · obtain ⟨letter, hmem⟩ := h
    obtain ⟨hlen, hletter⟩ := (hgiven letter).mp hmem
    rw [yearSuffix_foldl_of_mem (nodup_letters hids) hmem (hnone _), if_pos hlen, hletter]
  · rw [yearSuffix_foldl_of_notMem, hnone]
    · split
      · next hlen =>
        refine (Option.eq_none_iff_forall_ne_some.mpr fun letter hletter => h ?_).symm
        exact ⟨letter, (hgiven letter).mpr ⟨hlen, hletter⟩⟩
      · rfl
    · intro hmem
      obtain ⟨⟨e, letter⟩, hm, hid⟩ := List.mem_map.mp hmem
      obtain ⟨x, -, -, hzip⟩ := mem_letters.mp hm
      have he : e ∈ entries := (List.mem_filter.mp (List.of_mem_zip hzip).1).1
      have hsame : e = (sharing entries key)[k] :=
        List.inj_on_of_nodup_map hids he (List.mem_filter.mp (List.getElem_mem hk)).1 hid
      exact h ⟨letter, hsame ▸ hm⟩

theorem yearSuffix_advance (hids : (entries.map (·.id)).Nodup) (id : String) :
    ((advance r entries states).of id).yearSuffix = (states.of id).yearSuffix := by
  rcases of_advance_cases r states hids id with hsame | ⟨e, -, rfl, hstep⟩
  · rw [hsame]
  · obtain ⟨level, -, -, hnext⟩ | ⟨-, hnext⟩ := step?_cases hstep
    · rw [hnext]
    · rw [hnext]

theorem yearSuffix_disambiguate (hids : (entries.map (·.id)).Nodup) (id : String) :
    ((r.disambiguate entries []).2.of id).yearSuffix = ((suffixed r entries).of id).yearSuffix := by
  have hpasses (n : Nat) : ((afterPasses r entries n).of id).yearSuffix =
      ((suffixed r entries).of id).yearSuffix := by
    induction n with
    | zero => rfl
    | succ n ih => rw [afterPasses_succ, yearSuffix_advance hids, ih]
  rw [disambiguate_states, markRemaining, of_mark, ← hpasses maxPasses]
  split <;> rfl

theorem filterMap_range_getElem? {α : Type} (l : List α) (n : Nat) :
    (List.range n).filterMap (l[·]?) = l.take n := by
  induction n with
  | zero => rfl
  | succ n ih =>
    rw [List.range_succ, List.filterMap_append, ih, List.take_add_one]
    cases h : l[n]? <;> simp [h]

theorem yearSuffixes_eq (hsuffix : r.style.citation.options.disambiguateAddYearSuffix = true)
    (hids : (entries.map (·.id)).Nodup) (key : String × Option Int) :
    ((sharing entries key).map fun e => ((r.disambiguate entries []).2.of e.id).yearSuffix) =
      (List.range (sharing entries key).length).map fun k =>
        if 2 ≤ (sharing entries key).length then suffixLetters[k]? else none := by
  refine List.ext_getElem (by simp) fun k hk _ => ?_
  rw [List.length_map] at hk
  rw [List.getElem_map, List.getElem_map, List.getElem_range, yearSuffix_disambiguate hids, suffixed,
    if_pos hsuffix, yearSuffix_assignYearSuffixes hids hk]

end Disambiguation

open Disambiguation

/-- The entries of one author and year have the letters of the alphabet as their year suffixes, in the
order of the bibliography. Those after the twenty-sixth have none, nor has an entry that shares its
author and year with no other. -/
theorem Renderer.yearSuffixes_disambiguate (r : Renderer)
    (hsuffix : r.style.citation.options.disambiguateAddYearSuffix = true) {entries : List Entry}
    (hids : (entries.map (·.id)).Nodup) (author : String) (year : Option Int) :
    let states := (r.disambiguate entries []).2
    let members := entries.filter fun e => authorKey e = author ∧ e.year? = year
    let suffixes := members.map fun e => (states.of e.id).yearSuffix
    suffixes = ((List.range members.length).map fun k =>
        if 2 ≤ members.length ∧ k < 26 then some (Char.ofNat ('a'.toNat + k)) else none) ∧
      suffixes.filterMap id <+: "abcdefghijklmnopqrstuvwxyz".toList ∧
      (suffixes.filterMap id).Pairwise (· < ·) := by
  intro states members suffixes
  have hmembers : members = sharing entries (author, year) := by
    simp only [members, sharing, suffixKey, Prod.mk.injEq]
  have hsuffixes : suffixes = (List.range members.length).map fun k =>
      if 2 ≤ members.length then suffixLetters[k]? else none := by
    simp only [suffixes, states, hmembers, yearSuffixes_eq hsuffix hids]
  have hprefix : suffixes.filterMap id <+: suffixLetters := by
    rw [hsuffixes, List.filterMap_map]
    split
    · rw [Function.id_comp, filterMap_range_getElem?]
      exact List.take_prefix _ _
    · simp
  have hsorted : suffixLetters.Pairwise (· < ·) := by decide
  refine ⟨?_, hprefix, hsorted.sublist hprefix.sublist⟩
  rw [hsuffixes]
  refine List.map_congr_left fun k _ => ?_
  rw [getElem?_suffixLetters, ite_and]

theorem yearSuffixes_of_three :
    let r := namesOnly { disambiguateAddYearSuffix := true }
    let entries := [issuedIn "a" "Doe" "2020", issuedIn "b" "Roe" "2020", issuedIn "c" "DOE" "2020"]
    let states := (r.disambiguate entries []).2
    r.style.citation.options.disambiguateAddYearSuffix = true ∧ (entries.map (·.id)).Nodup ∧
      (states.of "a").yearSuffix = some 'a' ∧ (states.of "b").yearSuffix = none ∧
      (states.of "c").yearSuffix = some 'b' := by
  intro r entries states
  have hids : (entries.map (·.id)).Nodup := by decide
  have hdoe := (r.yearSuffixes_disambiguate rfl hids "doe" (some 2020)).1
  have hroe := (r.yearSuffixes_disambiguate rfl hids "roe" (some 2020)).1
  have hmembers : entries.filter (fun e => authorKey e = "doe" ∧ e.year? = some 2020) =
      [issuedIn "a" "Doe" "2020", issuedIn "c" "DOE" "2020"] := rfl
  have halone : entries.filter (fun e => authorKey e = "roe" ∧ e.year? = some 2020) =
      [issuedIn "b" "Roe" "2020"] := rfl
  rw [hmembers] at hdoe
  rw [halone] at hroe
  obtain ⟨ha, hc⟩ : (states.of "a").yearSuffix = some 'a' ∧ (states.of "c").yearSuffix = some 'b' := by
    simpa [List.range_succ, issuedIn] using hdoe
  have hb : (states.of "b").yearSuffix = none := by simpa [issuedIn] using hroe
  exact ⟨rfl, hids, ha, hb, hc⟩

end Citeproc
