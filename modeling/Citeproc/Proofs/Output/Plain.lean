import Citeproc.Output.Basic
import Mathlib.Data.List.Infix

namespace Citeproc

theorem flatMap_filter_of_nil {α β : Type} {p : α → Bool} {f : α → List β}
    (h : ∀ x, p x = false → f x = []) (l : List α) : (l.filter p).flatMap f = l.flatMap f := by
  induction l with
  | nil => rfl
  | cons x l ih =>
    cases hp : p x with
    | false => simp [hp, ih, h x hp]
    | true => simp [hp, ih]

namespace Output

theorem leavesAll_eq_flatMap (items : List Output) : leavesAll items = items.flatMap leaves := by
  induction items with
  | nil => rfl
  | cons o os ih => rw [leavesAll, ih, List.flatMap_cons]

theorem toList_plain (o : Output) : o.plain.toList = o.leaves.flatMap String.toList := by
  rw [plain, String.toList_join]

mutual

theorem isEmpty_iff_leaves (o : Output) : o.isEmpty = true ↔ ∀ s ∈ o.leaves, s = "" := by
  match o with
  | null => simp [isEmpty, leaves]
  | text s => simp [isEmpty, leaves]
  | seq items => simpa only [isEmpty, leaves] using allEmpty_iff_leaves items
  | formatted _ _ _ child => simpa only [isEmpty, leaves] using isEmpty_iff_leaves child
  | tagged _ child => simpa only [isEmpty, leaves] using isEmpty_iff_leaves child

theorem allEmpty_iff_leaves (items : List Output) :
    allEmpty items = true ↔ ∀ s ∈ leavesAll items, s = "" := by
  match items with
  | [] => simp [allEmpty, leavesAll]
  | o :: os =>
    rw [allEmpty, leavesAll, Bool.and_eq_true, isEmpty_iff_leaves o, allEmpty_iff_leaves os,
      List.forall_mem_append]

end

theorem isEmpty_iff_plain (o : Output) : o.isEmpty = true ↔ o.plain = "" := by
  rw [isEmpty_iff_leaves, ← String.toList_eq_nil_iff, toList_plain, List.flatMap_eq_nil_iff]
  simp only [String.toList_eq_nil_iff]

section Members

variable {α : Type} {f : Output → List α} (hseq : ∀ items, f (seq items) = items.flatMap f)

include hseq

theorem apply_ofList_eq_filter (hnull : f null = []) (items : List Output) :
    f (ofList items) = (items.filter (!·.isEmpty)).flatMap f := by
  rw [ofList]
  split
  · next h => rw [h, hnull, List.flatMap_nil]
  · next h => rw [h, List.flatMap_singleton]
  · exact hseq _

theorem apply_ofList (hempty : ∀ o : Output, o.isEmpty = true → f o = []) (items : List Output) :
    f (ofList items) = items.flatMap f := by
  rw [apply_ofList_eq_filter hseq (hempty null rfl)]
  exact flatMap_filter_of_nil (fun o ho => hempty o (by simpa using ho)) items

end Members

theorem toList_plain_seq (items : List Output) :
    (seq items).plain.toList = items.flatMap fun o => o.plain.toList := by
  simp only [toList_plain, leaves, leavesAll_eq_flatMap, List.flatMap_assoc]

theorem plain_ofText (s : String) : (ofText s).plain = s := by
  unfold ofText
  split
  · next h => exact (String.isEmpty_iff.mp h).symm
  · exact String.toList_injective (by simp [toList_plain, leaves])

theorem toList_plain_ofList (items : List Output) :
    (ofList items).plain.toList = items.flatMap fun o => o.plain.toList :=
  apply_ofList (f := fun o => o.plain.toList) toList_plain_seq
    (fun o ho => String.toList_eq_nil_iff.mpr ((isEmpty_iff_plain o).mp ho)) items

theorem isEmpty_ofList (items : List Output) : (ofList items).isEmpty = items.all isEmpty := by
  rw [Bool.eq_iff_iff, isEmpty_iff_plain, ← String.toList_eq_nil_iff, toList_plain_ofList,
    List.flatMap_eq_nil_iff, List.all_eq_true]
  simp only [String.toList_eq_nil_iff, isEmpty_iff_plain]

theorem withAffixes_cases (o : Output) (before after : Option String) :
    o.withAffixes before after = o ∨ o.isEmpty = false ∧
      o.withAffixes before after = ofList [ofText (before.getD ""), o, ofText (after.getD "")] := by
  rw [withAffixes]
  split
  · exact .inl rfl
  · next h =>
    rw [Bool.or_eq_true, not_or, Bool.not_eq_true] at h
    exact .inr ⟨h.1, rfl⟩

theorem plain_withAffixes {o : Output} (h : o.isEmpty = false) (before after : Option String) :
    (o.withAffixes before after).plain = before.getD "" ++ o.plain ++ after.getD "" := by
  apply String.toList_injective
  unfold withAffixes
  simp only [h, Bool.false_or]
  split
  · next hnone =>
    simp only [Bool.and_eq_true, String.isEmpty_iff] at hnone
    simp [hnone]
  · simp [toList_plain_ofList, plain_ofText]

theorem plain_withFormat (o : Output) (formatting : Formatting) (quotes : Bool)
    (display : Option Display) : (o.withFormat formatting quotes display).plain = o.plain := by
  rw [withFormat]
  split <;> rfl

theorem isEmpty_withFormat (o : Output) (formatting : Formatting) (quotes : Bool)
    (display : Option Display) : (o.withFormat formatting quotes display).isEmpty = o.isEmpty := by
  rw [Bool.eq_iff_iff, isEmpty_iff_plain, isEmpty_iff_plain, plain_withFormat]

theorem isEmpty_withAffixes (o : Output) (before after : Option String) :
    (o.withAffixes before after).isEmpty = o.isEmpty := by
  rcases o.withAffixes_cases before after with h | ⟨ho, h⟩
  · rw [h]
  · simp [h, isEmpty_ofList, ho]

theorem plain_join (items : List Output) (delimiter : String) :
    (join items delimiter).plain =
      delimiter.intercalate ((items.map (·.plain)).filter (!·.isEmpty)) := by
  have hdelimited (os : List Output) :
      ((os.intersperse (text delimiter)).flatMap fun o => o.plain.toList) =
        delimiter.toList.intercalate (os.map (·.plain.toList)) := by
    induction os with
    | nil => rfl
    | cons first os ih =>
      cases os with
      | nil => simp
      | cons second os => simp_all [toList_plain, leaves]
  have hbare (texts : List (List Char)) : List.intercalate [] texts = texts.flatten := by
    induction texts with
    | nil => rfl
    | cons first texts ih =>
      cases texts with
      | nil => simp
      | cons second texts => simp_all
  have hkept : (items.map (·.plain)).filter (!·.isEmpty) =
      (items.filter (!·.isEmpty)).map (·.plain) := by
    have hempty (o : Output) : o.plain.isEmpty = o.isEmpty := by
      rw [Bool.eq_iff_iff, String.isEmpty_iff, isEmpty_iff_plain]
    simp only [List.filter_map, Function.comp_def, hempty]
  apply String.toList_injective
  rw [join, toList_plain_ofList, hkept, String.toList_intercalate, List.map_map]
  split
  · next h =>
    rw [String.isEmpty_iff.mp h, String.toList_empty, hbare, ← List.flatMap_def]
    rfl
  · exact hdelimited _

def Shows (o : Output) (s : String) : Prop := s.toList <:+: o.plain.toList

instance (o : Output) (s : String) : Decidable (o.Shows s) :=
  inferInstanceAs (Decidable (s.toList <:+: o.plain.toList))

theorem shows_plain (o : Output) : o.Shows o.plain := List.infix_refl _

theorem Shows.trans {o p : Output} {s : String} (h : o.Shows p.plain) (hs : p.Shows s) : o.Shows s :=
  List.IsInfix.trans hs h

theorem shows_ofList {items : List Output} {o : Output} (h : o ∈ items) :
    (ofList items).Shows o.plain := by
  rw [Shows, toList_plain_ofList, List.flatMap]
  exact List.infix_of_mem_flatten (List.mem_map_of_mem h)

theorem shows_join {items : List Output} {o : Output} (h : o ∈ items) (delimiter : String) :
    (join items delimiter).Shows o.plain := by
  have mem_intersperse (sep : Output) {os : List Output} (h : o ∈ os) : o ∈ os.intersperse sep := by
    induction os with
    | nil => cases h
    | cons first os ih =>
      cases os with
      | nil => exact h
      | cons second os =>
        rw [List.intersperse_cons_cons]
        rcases List.mem_cons.mp h with rfl | h
        · exact List.mem_cons_self
        · exact List.mem_cons_of_mem _ (List.mem_cons_of_mem _ (ih h))
  cases hempty : o.isEmpty with
  | true =>
    rw [Shows, (isEmpty_iff_plain o).mp hempty]
    exact List.nil_infix
  | false =>
    have hkept : o ∈ items.filter (!·.isEmpty) := List.mem_filter.mpr ⟨h, by simp [hempty]⟩
    apply shows_ofList
    split
    · exact hkept
    · exact mem_intersperse _ hkept

end Output

end Citeproc
