import Citeproc.Date.Rendering
import Citeproc.Proofs.Output.Tags
import Mathlib.Data.List.Pairwise
import Mathlib.Order.Basic

namespace Citeproc

def DatePart.marks (yearSuffix : Option Char) (p : DatePart) : List Tag :=
  if p.name == .year then yearSuffix.toList.map .yearSuffix else []

namespace DateRenderer

variable (r : DateRenderer) (date start stop : DateParts) (yearSuffix : Option Char)

theorem tags_value (p : DatePart) : (r.value date yearSuffix p).tags.Sublist (p.marks yearSuffix) := by
  cases hname : p.name with
  | year =>
    cases yearSuffix with
    | none => simp [value, hname]
    | some c =>
      have hsuffix : (Output.withTag (.yearSuffix c) (.ofText (String.singleton c))).tags.Sublist
          [.yearSuffix c] := by
        rw [Output.tags_withTag, Output.tags_ofText]
        split
        · exact List.nil_sublist _
        · exact .refl _
      simp only [value, hname, Option.elim_some, DatePart.marks, beq_self_eq_true, if_true]
      exact (Output.tags_ofList_sublist _).trans (by simpa using hsuffix)
  | month => cases h : date.month <;> simp [value, hname, h]
  | day =>
    simp only [value, hname]
    split <;> simp

theorem tags_decorate (o : Output) (rendering : Rendering) (after : Option String) :
    (decorate o rendering after).tags = o.tags := by
  rw [decorate]
  split <;> simp

theorem tags_part (p : DatePart) : (r.part date yearSuffix p).tags.Sublist (p.marks yearSuffix) := by
  rw [part, tags_decorate]
  exact r.tags_value date yearSuffix p

theorem flatMap_tags_decorateAll (dropLast : Bool) (shown : List (DatePart × Output)) :
    (decorateAll dropLast shown).flatMap Output.tags = shown.flatMap (·.2.tags) := by
  induction shown with
  | nil => rfl
  | cons first rest ih =>
    cases rest with
    | nil => simp [decorateAll, tags_decorate]
    | cons second rest =>
      rw [decorateAll, List.flatMap_cons, List.flatMap_cons, ih, tags_decorate]
      exact List.cons_ne_nil second rest

theorem tags_segment (parts : List DatePart) (dropLast : Bool) :
    (r.segment parts date yearSuffix dropLast).tags.Sublist (parts.flatMap (·.marks yearSuffix)) := by
  refine (Output.tags_join_sublist _ _).trans ?_
  rw [flatMap_tags_decorateAll]
  refine (List.filter_sublist.flatMap _).trans ?_
  rw [List.flatMap_map]
  exact List.Sublist.flatMap_right parts fun p _ => r.tags_value date yearSuffix p

theorem tags_segment_none (parts : List DatePart) (dropLast : Bool) :
    (r.segment parts date none dropLast).tags = [] := by
  have h := r.tags_segment date none parts dropLast
  rwa [List.flatMap_eq_nil_iff.mpr fun p _ => by simp [DatePart.marks], List.sublist_nil] at h

theorem tags_fullRange (delimiter : String) :
    (r.fullRange start stop delimiter yearSuffix).tags.Sublist
      (r.parts.flatMap (·.marks yearSuffix)) := by
  refine (Output.tags_ofList_sublist _).trans ?_
  simpa [tags_segment_none] using r.tags_segment stop yearSuffix r.parts false

theorem head?_le_getLast? (parts : List DatePart) (p : DatePart × Nat → Bool) {first last : Nat}
    (hfirst : ((parts.zipIdx.filter p).map (·.2)).head? = some first)
    (hlast : ((parts.zipIdx.filter p).map (·.2)).getLast? = some last) : first ≤ last := by
  have hsorted : ((parts.zipIdx.filter p).map (·.2)).Pairwise (· ≤ ·) := by
    refine List.Pairwise.sublist (List.filter_sublist.map _) ?_
    rw [List.zipIdx_map_snd]
    exact List.pairwise_le_range' 1
  rw [← (List.head_eq_iff_head?_eq_some (by rintro h; simp [h] at hfirst)).mpr hfirst]
  exact hsorted.rel_head (List.mem_of_getLast? hlast)

theorem tags_range : (r.range start stop yearSuffix).tags.Sublist
    (r.parts.flatMap (·.marks yearSuffix)) := by
  have hparts (parts : List DatePart) :
      ((parts.map (r.part start yearSuffix)).flatMap Output.tags).Sublist
      (parts.flatMap (·.marks yearSuffix)) := by
    rw [List.flatMap_map]
    exact List.Sublist.flatMap_right parts fun p _ => r.tags_part start yearSuffix p
  rw [range]
  dsimp only
  split
  · next first last hfirst hlast _ =>
    have hle := head?_le_getLast? _ _ hfirst hlast
    have hboth (a b : List DatePart) (delimiter : String) : (Output.ofList [r.segment a start none true,
        .ofText delimiter, r.segment b stop none false]).tags = [] := by
      simp [Output.tags_ofList_eq_nil, tags_segment_none]
    refine (Output.tags_join_sublist _ _).trans ?_
    rw [List.flatMap_append, List.flatMap_cons, hboth, List.nil_append]
    refine ((hparts _).append (hparts _)).trans ?_
    rw [← List.flatMap_append]
    apply List.Sublist.flatMap
    conv_rhs => rw [← List.take_append_drop first r.parts]
    exact (List.drop_sublist_drop_left _ (by omega)).append_left _
  · exact r.tags_fullRange start stop yearSuffix _

theorem tags_render (date : DateRange) : (r.render date yearSuffix).tags.Sublist
    (r.parts.flatMap (·.marks yearSuffix)) := by
  rw [render]
  split
  · exact r.tags_range _ _ yearSuffix
  · have hsingle := r.tags_segment date.start yearSuffix r.parts false
    dsimp only
    split
    · exact (Output.tags_ofList_sublist _).trans (by simpa using hsingle)
    · exact hsingle

theorem countP_names_render (date : DateRange) :
    (r.render date yearSuffix).tags.countP Tag.isNames = 0 := by
  refine Nat.le_zero.mp ((r.tags_render yearSuffix date).countP_le.trans_eq ?_)
  rw [List.countP_eq_zero]
  intro tag htag
  obtain ⟨p, -, hp⟩ := List.mem_flatMap.mp htag
  rw [DatePart.marks] at hp
  split at hp
  · obtain ⟨c, -, rfl⟩ := List.mem_map.mp hp
    exact Bool.false_ne_true
  · cases hp

theorem countP_yearSuffix_render (date : DateRange) :
    (r.render date yearSuffix).tags.countP Tag.isYearSuffix ≤
      if yearSuffix.isSome then r.parts.countP (·.name == .year) else 0 := by
  refine (r.tags_render yearSuffix date).countP_le.trans ?_
  cases yearSuffix with
  | none => simp [DatePart.marks]
  | some c =>
    induction r.parts with
    | nil => exact Nat.le_refl _
    | cons p parts ih =>
      rw [List.flatMap_cons, List.countP_append, List.countP_cons, DatePart.marks]
      simp only [Option.isSome_some, if_true] at ih ⊢
      split <;> simp [Tag.isYearSuffix] <;> omega

end DateRenderer

end Citeproc
