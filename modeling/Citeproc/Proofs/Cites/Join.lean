import Citeproc.Cites.Join
import Citeproc.Proofs.Cites.Years
import Citeproc.Proofs.Grouping

namespace Citeproc.CiteJoiner

variable (j : CiteJoiner) {before after : List RenderedCite} {cite cite' : RenderedCite}

def drops (before : List RenderedCite) (cite : RenderedCite) (after : List RenderedCite) : Bool :=
  if j.mode == some .citationNumber then
    before.getLast?.any (·.follows cite) && after.head?.any cite.follows
  else
    j.mode.any (·.mergesSuffixes) && (before.filter (·.sameAuthor cite)).getLast?.any (·.merges cite)

theorem shows_joinGroup (before after : List RenderedCite)
    (h : (j.mode.any (·.mergesSuffixes) && before.getLast?.any (·.merges cite)) = false) :
    ∃ o ∈ [cite.output, cite.withoutAuthor],
      (j.joinGroup (before ++ cite :: after)).Shows o.plain := by
  have hjoined : (Output.join ((before ++ cite :: after).map (·.output)) j.groupDelimiter).Shows
      cite.output.plain := Output.shows_join (by simp) _
  rw [joinGroup]
  split
  · next mode hmode =>
    split
    · rw [hmode] at h
      exact j.shows_joinYears h
    · exact ⟨cite.output, by simp, hjoined⟩
  · exact ⟨cite.output, by simp, hjoined⟩

theorem joinGroup_mem_joinGroups {groups : List (List RenderedCite)} {group : List RenderedCite}
    (h : group ∈ groups) : j.joinGroup group ∈ j.joinGroups groups := by
  induction groups with
  | nil => cases h
  | cons first groups ih =>
    cases groups with
    | nil =>
      rw [List.mem_singleton.mp h]
      exact List.mem_singleton_self _
    | cons second groups =>
      rw [joinGroups]
      rcases List.mem_cons.mp h with rfl | h
      · exact List.mem_cons_self
      · exact List.mem_cons_of_mem _ (List.mem_cons_of_mem _ (ih h))

theorem joinGroups_congr {group group' : List RenderedCite} (hlength : group.length = group'.length)
    (h : j.joinGroup group = j.joinGroup group') (groups₁ groups₂ : List (List RenderedCite)) :
    j.joinGroups (groups₁ ++ group :: groups₂) = j.joinGroups (groups₁ ++ group' :: groups₂) := by
  have hdelimiter : j.delimiterAfter group = j.delimiterAfter group' := by
    rw [delimiterAfter, delimiterAfter, collapses, collapses, hlength]
  induction groups₁ with
  | nil => cases groups₂ <;> simp only [List.nil_append, joinGroups, h, hdelimiter]
  | cons first groups₁ ih =>
    cases groups₁ with
    | nil =>
      simp only [List.cons_append, List.nil_append] at ih ⊢
      rw [joinGroups, joinGroups, ih]
    | cons second groups₁ =>
      simp only [List.cons_append] at ih ⊢
      rw [joinGroups, joinGroups, ih]

theorem shows_join (h : j.drops before cite after = false) :
    ∃ o ∈ [cite.output, cite.withoutAuthor],
      (j.join (before ++ cite :: after)).Shows o.plain := by
  have of_group (earlier later : List RenderedCite)
      (hgroup : earlier ++ cite :: later ∈ j.groups (before ++ cite :: after))
      (h : (j.mode.any (·.mergesSuffixes) && earlier.getLast?.any (·.merges cite)) = false) :
      ∃ o ∈ [cite.output, cite.withoutAuthor],
        (Output.ofList (j.joinGroups (j.groups (before ++ cite :: after)))).Shows o.plain := by
    obtain ⟨o, ho, hshows⟩ := j.shows_joinGroup earlier later h
    exact ⟨o, ho, (Output.shows_ofList (j.joinGroup_mem_joinGroups hgroup)).trans hshows⟩
  rw [drops] at h
  rw [join]
  split
  · next hmode =>
    rw [if_pos hmode] at h
    exact ⟨cite.output, by simp, j.shows_joinNumbers h⟩
  · next hmode =>
    rw [if_neg hmode] at h
    by_cases hgrouping : (j.mode.isSome || j.options.citeGroupDelimiter.isSome) = true
    · obtain ⟨groups₁, later, groups₂, hgroups⟩ := Grouping.groups_insert RenderedCite.author?
        before after cite.author?
      refine of_group (before.filter (·.sameAuthor cite)) later ?_ h
      rw [groups, if_pos hgrouping]
      exact (hgroups cite rfl).symm ▸ List.mem_append_right _ List.mem_cons_self
    · refine of_group [] [] ?_ (by simp)
      rw [groups, if_neg hgrouping]
      simp

theorem join_congr (halike : cite.Alike cite') (h : j.drops before cite after = true) :
    j.join (before ++ cite :: after) = j.join (before ++ cite' :: after) := by
  rw [drops] at h
  rw [join, join]
  split
  · next hmode =>
    rw [if_pos hmode, Bool.and_eq_true] at h
    exact j.joinNumbers_congr halike h.1 h.2
  · next hmode =>
    rw [if_neg hmode, Bool.and_eq_true, Option.any_eq_true] at h
    obtain ⟨⟨mode, hsome, hmerges⟩, hlast⟩ := h
    obtain ⟨groups₁, later, groups₂, hgroups⟩ := Grouping.groups_insert RenderedCite.author?
      before after cite.author?
    -- The cite has another one of its author in front of it, so its group is one that collapses.
    have hbefore : 0 < (before.filter (·.sameAuthor cite)).length := by
      cases hcites : before.filter (·.sameAuthor cite) with
      | nil => simp [hcites] at hlast
      | cons first cites => simp
    have hjoined : j.joinGroup (before.filter (·.sameAuthor cite) ++ cite :: later) =
        j.joinGroup (before.filter (·.sameAuthor cite) ++ cite' :: later) := by
      have hlong (x : RenderedCite) :
          1 < (before.filter (·.sameAuthor cite) ++ x :: later).length := by
        simp only [List.length_append, List.length_cons]
        omega
      simp only [joinGroup, hsome, if_pos (hlong _)]
      exact j.joinYears_congr halike hmerges hlast
    have hgrouping : (j.mode.isSome || j.options.citeGroupDelimiter.isSome) = true := by simp [hsome]
    rw [groups, groups, if_pos hgrouping, if_pos hgrouping]
    apply congrArg Output.ofList
    calc j.joinGroups (Grouping.groups RenderedCite.sameAuthor (before ++ cite :: after))
      _ = j.joinGroups (groups₁ ++ (before.filter (·.sameAuthor cite) ++ cite :: later) :: groups₂) :=
        congrArg j.joinGroups (hgroups cite rfl)
      _ = j.joinGroups (groups₁ ++ (before.filter (·.sameAuthor cite) ++ cite' :: later) :: groups₂) :=
        j.joinGroups_congr (by simp) hjoined groups₁ groups₂
      _ = j.joinGroups (Grouping.groups RenderedCite.sameAuthor (before ++ cite' :: after)) :=
        (congrArg j.joinGroups (hgroups cite' halike.author.symm)).symm

end Citeproc.CiteJoiner
