import Citeproc.Proofs.Output.Tags
import Mathlib.Data.List.Forall2

namespace Citeproc.Output

mutual

def leavesWithout (tag : Tag) : Output → List String
  | null => []
  | text s => [s]
  | seq items => leavesAllWithout tag items
  | formatted _ _ _ child => leavesWithout tag child
  | tagged t child => if t = tag then [] else leavesWithout tag child

def leavesAllWithout (tag : Tag) : List Output → List String
  | [] => []
  | o :: os => leavesWithout tag o ++ leavesAllWithout tag os

end

def plainWithout (tag : Tag) (o : Output) : String := String.join (o.leavesWithout tag)

variable (tag : Tag)

theorem leavesAllWithout_eq_flatMap (items : List Output) :
    leavesAllWithout tag items = items.flatMap (leavesWithout tag) := by
  induction items with
  | nil => rfl
  | cons o os ih => rw [leavesAllWithout, ih, List.flatMap_cons]

theorem toList_plainWithout (o : Output) :
    (o.plainWithout tag).toList = (o.leavesWithout tag).flatMap String.toList := by
  rw [plainWithout, String.toList_join]

mutual

theorem leavesWithout_sublist (o : Output) : (o.leavesWithout tag).Sublist o.leaves := by
  match o with
  | null => exact .refl _
  | text s => exact .refl _
  | seq items => exact leavesAllWithout_sublist items
  | formatted _ _ _ child => exact leavesWithout_sublist child
  | tagged t child =>
    rw [leavesWithout]
    split
    · exact List.nil_sublist _
    · exact leavesWithout_sublist child

theorem leavesAllWithout_sublist (items : List Output) :
    (leavesAllWithout tag items).Sublist (leavesAll items) := by
  match items with
  | [] => exact .refl _
  | o :: os => exact (leavesWithout_sublist o).append (leavesAllWithout_sublist os)

end

mutual

theorem leavesWithout_of_notMem (o : Output) (h : tag ∉ o.tags) : o.leavesWithout tag = o.leaves := by
  match o with
  | null => rfl
  | text s => rfl
  | seq items => exact leavesAllWithout_of_notMem items h
  | formatted _ _ _ child => exact leavesWithout_of_notMem child h
  | tagged t child =>
    rw [tags, List.mem_cons, not_or] at h
    rw [leavesWithout, if_neg (Ne.symm h.1)]
    exact leavesWithout_of_notMem child h.2

theorem leavesAllWithout_of_notMem (items : List Output) (h : tag ∉ tagsAll items) :
    leavesAllWithout tag items = leavesAll items := by
  match items with
  | [] => rfl
  | o :: os =>
    rw [tagsAll, List.mem_append, not_or] at h
    rw [leavesAllWithout, leavesAll, leavesWithout_of_notMem o h.1, leavesAllWithout_of_notMem os h.2]

end

theorem plainWithout_of_isEmpty {o : Output} (h : o.isEmpty = true) : o.plainWithout tag = "" := by
  rw [← String.toList_eq_nil_iff, toList_plainWithout, List.flatMap_eq_nil_iff]
  intro s hs
  rw [String.toList_eq_nil_iff]
  exact (isEmpty_iff_leaves o).mp h s ((leavesWithout_sublist tag o).subset hs)

theorem toList_plainWithout_ofList (items : List Output) :
    ((ofList items).plainWithout tag).toList = items.flatMap fun o => (o.plainWithout tag).toList := by
  have hseq (items : List Output) : ((seq items).plainWithout tag).toList =
      items.flatMap fun o => (o.plainWithout tag).toList := by
    simp only [toList_plainWithout, leavesWithout, leavesAllWithout_eq_flatMap, List.flatMap_assoc]
  have hempty (o : Output) (h : o.isEmpty = true) : (o.plainWithout tag).toList = [] :=
    String.toList_eq_nil_iff.mpr (plainWithout_of_isEmpty tag h)
  exact apply_ofList (f := fun o => (o.plainWithout tag).toList) hseq hempty items

/-- `o` shows the text of `bare` and, apart from it, only spans with the tag. Both are empty or none is,
so that no delimiter or affix tells them apart. -/
structure Extends (o bare : Output) : Prop where
  isEmpty : o.isEmpty = bare.isEmpty
  plain : o.plainWithout tag = bare.plain

variable {tag}

namespace Extends

theorem refl {o : Output} (h : tag ∉ o.tags) : Extends tag o o :=
  ⟨rfl, congrArg String.join (leavesWithout_of_notMem tag o h)⟩

theorem of_tags_eq_nil {o : Output} (h : o.tags = []) : Extends tag o o := refl (by simp [h])

theorem ofList {items bare : List Output} (h : List.Forall₂ (Extends tag) items bare) :
    Extends tag (Output.ofList items) (Output.ofList bare) := by
  constructor
  · rw [isEmpty_ofList, isEmpty_ofList]
    induction h with
    | nil => rfl
    | cons ho _ ih => rw [List.all_cons, List.all_cons, ho.isEmpty, ih]
  · apply String.toList_injective
    rw [toList_plainWithout_ofList, toList_plain_ofList]
    induction h with
    | nil => rfl
    | cons ho _ ih => rw [List.flatMap_cons, List.flatMap_cons, ho.plain, ih]

theorem join {items bare : List Output} (h : List.Forall₂ (Extends tag) items bare)
    (delimiter : String) : Extends tag (Output.join items delimiter) (Output.join bare delimiter) := by
  have hkept : List.Forall₂ (Extends tag) (items.filter (!·.isEmpty)) (bare.filter (!·.isEmpty)) :=
    List.rel_filter (fun o o' ho => by simp [ho.isEmpty]) h
  have hdelimiter : Extends tag (text delimiter) (text delimiter) := of_tags_eq_nil rfl
  have hdelimited {os os' : List Output} (h : List.Forall₂ (Extends tag) os os') : List.Forall₂
      (Extends tag) (os.intersperse (text delimiter)) (os'.intersperse (text delimiter)) := by
    induction h with
    | nil => exact .nil
    | cons ho hos ih =>
      cases hos with
      | nil => exact .cons ho .nil
      | cons ho' hos => exact .cons ho (.cons hdelimiter ih)
  rw [Output.join, Output.join]
  apply Extends.ofList
  split
  · exact hkept
  · exact hdelimited hkept

theorem withFormat {o bare : Output} (h : Extends tag o bare) (formatting : Formatting)
    (quotes : Bool) (display : Option Display) :
    Extends tag (o.withFormat formatting quotes display)
      (bare.withFormat formatting quotes display) := by
  have hformatted : Extends tag (formatted formatting quotes display o)
      (formatted formatting quotes display bare) := ⟨h.isEmpty, h.plain⟩
  rw [Output.withFormat, Output.withFormat, h.isEmpty]
  split
  · exact h
  · exact hformatted

theorem withAffixes {o bare : Output} (h : Extends tag o bare) (before after : Option String) :
    Extends tag (o.withAffixes before after) (bare.withAffixes before after) := by
  rw [Output.withAffixes, Output.withAffixes, h.isEmpty]
  split
  · exact h
  · exact ofList (.cons (of_tags_eq_nil (tags_ofText _))
      (.cons h (.cons (of_tags_eq_nil (tags_ofText _)) .nil)))

theorem transformed_seq {o : Output} (h : tag ∉ o.tags) (suffix : Output) (r : Rendering)
    (hne : (o.transformed r).isEmpty = false) :
    Extends tag ((seq [o, tagged tag suffix]).transformed r) (o.transformed r) := by
  have htransformed : ∃ suffix', (seq [o, tagged tag suffix]).transformed r =
      seq [o.transformed r, tagged tag suffix'] := by
    rw [transformed, transformed]
    cases r.stripPeriods <;> cases r.textCase <;> exact ⟨_, rfl⟩
  obtain ⟨suffix', htransformed⟩ := htransformed
  rw [htransformed]
  constructor
  · rw [Output.isEmpty, allEmpty, hne, Bool.false_and]
  · apply String.toList_injective
    have htags : tag ∉ (o.transformed r).tags := by rwa [tags_transformed]
    rw [toList_plainWithout, toList_plain]
    simp [leavesWithout, leavesAllWithout, leavesWithout_of_notMem tag _ htags]

end Extends

end Citeproc.Output
