import Citeproc.Cites.Join
import Citeproc.Proofs.Grouping
import Citeproc.Proofs.Output.Plain

namespace Citeproc

def RenderedCite.showsText (cite : RenderedCite) : Bool := !cite.output.isEmpty

namespace CiteJoiner

def groupShowsText (group : List RenderedCite) : Bool := group.any (·.showsText)

variable (j : CiteJoiner)

/-- The delimiters that stand between no two texts: those behind groups without text, and the one behind
the last group with text when others follow. -/
def strays : List (List RenderedCite) → List String
  | [] => []
  | group :: groups =>
    if groups.isEmpty then []
    else if groupShowsText group && groups.any groupShowsText then strays groups
    else j.delimiterAfter group :: strays groups

variable {group : List RenderedCite} {groups : List (List RenderedCite)}

theorem strays_of_between (hshown : groupShowsText group = true)
    (hmore : groups.any groupShowsText = true) : j.strays (group :: groups) = j.strays groups := by
  have hne : groups ≠ [] := by
    rintro rfl
    cases hmore
  rw [strays, if_neg (by simpa using hne), hshown, hmore]
  rfl

theorem strays_of_stray (hne : groups ≠ [])
    (h : (groupShowsText group && groups.any groupShowsText) = false) :
    j.strays (group :: groups) = j.delimiterAfter group :: j.strays groups := by
  rw [strays, if_neg (by simpa using hne), h]
  rfl

theorem length_strays (groups : List (List RenderedCite)) :
    (j.strays groups).length =
      min (groups.countP fun group => !groupShowsText group) (groups.length - 1) := by
  induction groups with
  | nil => rfl
  | cons group groups ih =>
    have hle := List.countP_le_length (p := fun group => !groupShowsText group) (l := groups)
    rw [List.countP_cons, List.length_cons, Nat.add_sub_cancel]
    by_cases hlast : groups = []
    · subst hlast
      simp [strays]
    · have hpos := List.length_pos_iff.mpr hlast
      cases hshown : groupShowsText group with
      | false =>
        rw [j.strays_of_stray hlast (by rw [hshown, Bool.false_and]), List.length_cons, ih,
          Bool.not_false, if_pos rfl]
        omega
      | true =>
        cases hmore : groups.any groupShowsText with
        | true =>
          have hlt : groups.countP (fun group => !groupShowsText group) < groups.length := by
            refine hle.lt_of_ne fun hall => ?_
            obtain ⟨group, hmem, hgroup⟩ := List.any_eq_true.mp hmore
            simpa [hgroup] using List.countP_eq_length.mp hall group hmem
          rw [j.strays_of_between hshown hmore, ih, Bool.not_true, if_neg Bool.false_ne_true]
          omega
        | false =>
          have hall : groups.countP (fun group => !groupShowsText group) = groups.length := by
            simpa using hmore
          rw [j.strays_of_stray hlast (by rw [hmore, Bool.and_false]), List.length_cons, ih,
            Bool.not_true, if_neg Bool.false_ne_true]
          omega

def groupsText (groups : List (List RenderedCite)) : List Char :=
  (j.joinGroups groups).flatMap fun o => o.plain.toList

theorem groupsText_singleton (group : List RenderedCite) :
    j.groupsText [group] = (j.joinGroup group).plain.toList :=
  List.append_nil _

theorem groupsText_cons (group : List RenderedCite) (h : groups ≠ []) :
    j.groupsText (group :: groups) = (j.joinGroup group).plain.toList ++
      ((j.delimiterAfter group).toList ++ j.groupsText groups) := by
  obtain ⟨next, rest, rfl⟩ := List.exists_cons_of_ne_nil h
  rw [groupsText, joinGroups, List.flatMap_cons, List.flatMap_cons, Output.plain_ofText]
  rfl

theorem length_groupsText_cons (group : List RenderedCite) (h : groups ≠ []) :
    (j.groupsText (group :: groups)).length = (j.joinGroup group).plain.length +
      ((j.delimiterAfter group).length + (j.groupsText groups).length) := by
  rw [groupsText_cons j group h, List.length_append, List.length_append, String.length_toList,
    String.length_toList]

theorem groupsText_filter
    (hblank : ∀ group ∈ groups, groupShowsText group = false → (j.joinGroup group).plain = "") :
    (j.groupsText (groups.filter groupShowsText)).Sublist (j.groupsText groups) ∧
      (j.groupsText groups).length = (j.groupsText (groups.filter groupShowsText)).length +
        (String.join (j.strays groups)).length := by
  induction groups with
  | nil => exact ⟨.refl _, rfl⟩
  | cons group groups ih =>
    obtain ⟨hgroup, hgroups⟩ := List.forall_mem_cons.mp hblank
    obtain ⟨hsub, hlength⟩ := ih hgroups
    by_cases hlast : groups = []
    · subst hlast
      cases hshown : groupShowsText group with
      | true =>
        rw [List.filter_cons_of_pos hshown]
        exact ⟨.refl _, rfl⟩
      | false =>
        rw [List.filter_cons_of_neg (Bool.not_eq_true _ ▸ hshown), groupsText_singleton, hgroup hshown]
        exact ⟨.refl _, rfl⟩
    · rw [length_groupsText_cons j group hlast, groupsText_cons j group hlast]
      cases hshown : groupShowsText group with
      | false =>
        rw [List.filter_cons_of_neg (Bool.not_eq_true _ ▸ hshown), hgroup hshown, hlength,
          j.strays_of_stray hlast (by rw [hshown, Bool.false_and]), String.join_cons,
          String.length_append, String.length_empty]
        exact ⟨hsub.trans (List.sublist_append_right _ _), by omega⟩
      | true =>
        rw [List.filter_cons_of_pos hshown]
        cases hmore : groups.any groupShowsText with
        | true =>
          have hne : groups.filter groupShowsText ≠ [] := by
            simpa [List.any_eq_true] using hmore
          rw [length_groupsText_cons j group hne, groupsText_cons j group hne, hlength,
            j.strays_of_between hshown hmore]
          exact ⟨.append_left (.append_left hsub _) _, by omega⟩
        | false =>
          -- the last group with text: nothing is left of the others but their delimiters and its own
          have hnil : groups.filter groupShowsText = [] := by
            simpa [List.any_eq_false] using hmore
          have hnone : (j.groupsText []).length = 0 := rfl
          rw [hnil, hnone] at hlength
          rw [hnil, groupsText_singleton, String.length_toList, hlength,
            j.strays_of_stray hlast (by rw [hmore, Bool.and_false]), String.join_cons,
            String.length_append]
          exact ⟨List.sublist_append_left _ _, by omega⟩

variable {cites : List RenderedCite}

def Nameless (cites : List RenderedCite) : Prop :=
  ∀ cite ∈ cites, cite.showsText = false → cite.author? = none

instance : Decidable (Nameless cites) :=
  inferInstanceAs (Decidable (∀ cite ∈ cites, cite.showsText = false → cite.author? = none))

theorem Nameless.lone (h : Nameless cites) {cite : RenderedCite} (hcite : cite ∈ cites)
    (hshows : cite.showsText = false) : Grouping.Lone RenderedCite.sameAuthor cites cite := by
  intro other _
  have hnone := h cite hcite hshows
  constructor
  · rw [RenderedCite.sameAuthor, hnone]
    rfl
  · rw [RenderedCite.sameAuthor, hnone]
    cases other.author? <;> rfl

theorem Nameless.groups_filter (h : Nameless cites) :
    j.groups (cites.filter (·.showsText)) = (j.groups cites).filter groupShowsText := by
  rw [groups, groups]
  split
  · exact Grouping.groups_filter fun cite hcite => h.lone hcite
  · rw [List.filter_map]
    congr 2
    funext cite
    exact (Bool.or_false _).symm

theorem Nameless.eq_singleton (h : Nameless cites)
    (hgroup : group ∈ j.groups cites) {cite : RenderedCite} (hcite : cite ∈ group)
    (hshows : cite.showsText = false) : group = [cite] := by
  rw [groups] at hgroup
  split at hgroup
  · exact Grouping.eq_singleton_of_lone
      (h.lone (Grouping.mem_of_mem_groups hgroup hcite) hshows) hgroup hcite
  · obtain ⟨other, -, rfl⟩ := List.mem_map.mp hgroup
    rw [List.mem_singleton.mp hcite]

theorem plain_joinGroup_singleton {cite : RenderedCite} (hshows : cite.showsText = false) :
    (j.joinGroup [cite]).plain = "" := by
  have hjoin : j.joinGroup [cite] = .join [cite.output] j.groupDelimiter := by
    rw [joinGroup]
    cases j.mode <;> rfl
  have hplain : cite.output.plain = "" := by
    rw [← Output.isEmpty_iff_plain]
    simpa [RenderedCite.showsText] using hshows
  rw [hjoin, Output.plain_join, List.map_singleton, hplain]
  rfl

theorem ne_nil_of_mem_groups (h : group ∈ j.groups cites) : group ≠ [] := by
  rw [groups] at h
  split at h
  · exact Grouping.ne_nil_of_mem_groups h
  · obtain ⟨cite, -, rfl⟩ := List.mem_map.mp h
    exact List.cons_ne_nil _ _

theorem groups_perm (cites : List RenderedCite) : (j.groups cites).flatten.Perm cites := by
  rw [groups]
  split
  · exact Grouping.groups_perm _ _
  · rw [← List.flatMap_def, List.flatMap_singleton']

theorem Nameless.exists_of_blank (h : Nameless cites)
    (hgroup : group ∈ j.groups cites) (hshows : groupShowsText group = false) :
    ∃ cite, cite.showsText = false ∧ group = [cite] := by
  obtain ⟨cite, rest, rfl⟩ := List.exists_cons_of_ne_nil (j.ne_nil_of_mem_groups hgroup)
  have hcite : cite.showsText = false := by
    simpa using List.any_eq_false.mp hshows cite List.mem_cons_self
  exact ⟨cite, hcite, h.eq_singleton j hgroup List.mem_cons_self hcite⟩

theorem Nameless.countP_groups (h : Nameless cites) :
    ((j.groups cites).countP fun group => !groupShowsText group) =
      cites.countP fun cite => !cite.showsText := by
  have hcount : ∀ group ∈ j.groups cites,
      (group.countP fun cite => !cite.showsText) = if !groupShowsText group then 1 else 0 := by
    intro group hgroup
    cases hshows : groupShowsText group with
    | false =>
      obtain ⟨cite, hcite, rfl⟩ := h.exists_of_blank j hgroup hshows
      simp [hcite]
    | true =>
      obtain ⟨shown, hmem, hshown⟩ := List.any_eq_true.mp hshows
      refine List.countP_eq_zero.mpr fun cite hcite hblank => ?_
      have hsingle := h.eq_singleton j hgroup hcite (by simpa using hblank)
      rw [hsingle, List.mem_singleton] at hmem
      simp [← hmem, hshown] at hblank
  rw [← (j.groups_perm cites).countP_eq, List.countP_flatten, List.map_congr_left hcount]
  induction j.groups cites with
  | nil => rfl
  | cons group groups ih => rw [List.countP_cons, ih, List.map_cons, List.sum_cons, Nat.add_comm]

theorem mode_eq_citationNumber_iff :
    j.mode = some .citationNumber ↔ j.options.collapse = some .citationNumber := by
  rw [mode]
  split
  · next h => split <;> simp [h]
  · next h => split <;> simp [h]
  · rfl

theorem toList_plain_join (hcollapse : j.options.collapse ≠ some .citationNumber)
    (cites : List RenderedCite) : (j.join cites).plain.toList = j.groupsText (j.groups cites) := by
  have hmode : ¬(j.mode == some .citationNumber) = true := by
    rw [beq_iff_eq, mode_eq_citationNumber_iff]
    exact hcollapse
  rw [join, if_neg hmode, Output.toList_plain_ofList, groupsText]

/-- Each cite without text leaves a delimiter behind, unless it is the only one, and takes nothing else
with it. So the cites are joined to the same text without it only if no delimiter that is left behind
has text. -/
theorem join_filter_showsText (hcollapse : j.options.collapse ≠ some .citationNumber)
    (cites : List RenderedCite) (hnames : Nameless cites) :
    let shown := cites.filter (·.showsText)
    let strays := j.strays (j.groups cites)
    (j.join shown).plain.toList.Sublist (j.join cites).plain.toList ∧
      (j.join cites).plain.length = (j.join shown).plain.length + (String.join strays).length ∧
      strays.length = min (cites.length - shown.length) ((j.groups cites).length - 1) ∧
      ((j.join cites).plain = (j.join shown).plain ↔ ∀ delimiter ∈ strays, delimiter = "") := by
  intro shown strays
  have hblank : ∀ group ∈ j.groups cites, groupShowsText group = false →
      (j.joinGroup group).plain = "" := by
    intro group hgroup hshows
    obtain ⟨cite, hcite, rfl⟩ := hnames.exists_of_blank j hgroup hshows
    exact j.plain_joinGroup_singleton hcite
  obtain ⟨hsub, hlength⟩ := j.groupsText_filter hblank
  rw [← hnames.groups_filter, ← j.toList_plain_join hcollapse, ← j.toList_plain_join hcollapse]
    at hsub hlength
  rw [String.length_toList, String.length_toList] at hlength
  have hcount : strays.length = min (cites.length - shown.length) ((j.groups cites).length - 1) := by
    rw [j.length_strays, hnames.countP_groups, List.countP_eq_length_filter,
      List.length_eq_length_filter_add (l := cites) (·.showsText), Nat.add_sub_cancel_left]
  have hlength : (j.join cites).plain.length =
      (j.join shown).plain.length + (String.join strays).length := hlength
  refine ⟨hsub, hlength, hcount, ?_⟩
  have hnone : (String.join strays).length = 0 ↔ ∀ delimiter ∈ strays, delimiter = "" := by
    rw [String.length_eq_zero_iff, ← String.toList_eq_nil_iff, String.toList_join,
      List.flatMap_eq_nil_iff]
    simp only [String.toList_eq_nil_iff]
  rw [← hnone]
  constructor
  · intro heq
    rw [heq] at hlength
    exact Nat.left_eq_add.mp hlength
  · intro hzero
    refine String.toList_injective (hsub.eq_of_length ?_).symm
    rw [String.length_toList, String.length_toList, hlength, hzero, Nat.add_zero]

def citeOf (id : String) (name : Option String) : RenderedCite where
  id
  output := name.elim .null fun name => .tagged (.names "author") (.text name)
  withoutAuthor := .null

theorem join_filter_showsText_of_three :
    let j : CiteJoiner := { options := {}, delimiter := "; " }
    let cites := [citeOf "a" (some "Doe"), citeOf "b" none, citeOf "c" (some "Roe")]
    (j.join cites).plain = "Doe; ; Roe" ∧ j.strays (j.groups cites) = ["; "] ∧
      (j.join (cites.filter (·.showsText))).plain ≠ (j.join cites).plain := by
  intro j cites
  obtain ⟨-, -, -, hiff⟩ := join_filter_showsText j (by decide) cites (by decide)
  have hstrays : j.strays (j.groups cites) = ["; "] := by decide
  refine ⟨by decide, hstrays, fun heq => ?_⟩
  have hempty := hiff.mp heq.symm "; " (by rw [hstrays]; exact List.mem_singleton_self _)
  exact absurd hempty (by decide)

theorem join_filter_showsText_differs :
    ¬∀ (j : CiteJoiner) (cites : List RenderedCite), j.options.collapse ≠ some .citationNumber →
      (j.join cites).plain = (j.join (cites.filter (·.showsText))).plain := by
  intro h
  have hplain := h { options := {}, delimiter := "; " } [citeOf "a" (some "Doe"), citeOf "b" none]
    (by decide)
  revert hplain
  decide

end CiteJoiner

end Citeproc
