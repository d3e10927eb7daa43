import Citeproc.Output.Unnumbered
import Citeproc.Proofs.Output.Tags

/-!
Removing citation numbers from outputs. Where no span marks a number, nothing is removed; elsewhere
the text of the numbers goes, and only delimiters behind a removed number that began a sequence go
with it.
-/

namespace Citeproc.Output

mutual

theorem findTag?_eq_none {p : Tag → Bool} {o : Output} (h : ∀ tag ∈ o.tags, p tag = false) :
    o.findTag? p = none := by
  match o with
  | null => rfl
  | text s => rfl
  | seq items => exact findTagIn?_eq_none h
  | formatted _ _ _ child => exact findTag?_eq_none (o := child) h
  | tagged tag child =>
    rw [tags, List.forall_mem_cons] at h
    rw [findTag?, if_neg (by simp [h.1])]
    exact findTag?_eq_none h.2

theorem findTagIn?_eq_none {p : Tag → Bool} {items : List Output}
    (h : ∀ tag ∈ tagsAll items, p tag = false) : findTagIn? p items = none := by
  match items with
  | [] => rfl
  | o :: os =>
    rw [tagsAll, List.forall_mem_append] at h
    rw [findTagIn?, findTag?_eq_none h.1, findTagIn?_eq_none h.2]
    rfl

end

mutual

theorem plain_withoutCitationNumber {o : Output} (h : ∀ n, .citationNumber n ∉ o.tags) :
    o.withoutCitationNumber.plain = o.plain := by
  match o with
  | null => rfl
  | text s => rfl
  | seq items =>
    apply String.toList_injective
    rw [withoutCitationNumber, toList_plain_ofList, toList_plain_seq]
    exact flatMap_plain_keptItems false items h
  | formatted _ _ _ child =>
    rw [withoutCitationNumber, plain_withFormat]
    exact plain_withoutCitationNumber (o := child) h
  | tagged tag child =>
    have hchild : ∀ n, .citationNumber n ∉ child.tags := fun n hn => h n (List.mem_cons_of_mem _ hn)
    cases tag with
    | citationNumber n => exact absurd List.mem_cons_self (h n)
    | yearSuffix _ | names _ => exact plain_withoutCitationNumber (o := child) hchild

theorem flatMap_plain_keptItems (begun : Bool) (items : List Output)
    (h : ∀ n, .citationNumber n ∉ tagsAll items) :
    (keptItems false begun items).flatMap (fun o => o.plain.toList) =
      items.flatMap fun o => o.plain.toList := by
  match items with
  | [] => rfl
  | o :: os =>
    have ho := plain_withoutCitationNumber (o := o) fun n hn => h n (List.mem_append_left _ hn)
    have hos := flatMap_plain_keptItems true os fun n hn => h n (List.mem_append_right _ hn)
    have hempty : o.withoutCitationNumber.isEmpty = o.isEmpty := by
      rw [Bool.eq_iff_iff, isEmpty_iff_plain, isEmpty_iff_plain, ho]
    rw [keptItems]
    simp only [hempty, Bool.and_not_self, Bool.false_and, Bool.false_eq_true, if_false,
      List.flatMap_cons]
    rw [ho, hos]

end

mutual

def unnumberedLeaves : Output → List String
  | null => []
  | text s => [s]
  | seq items => unnumberedLeavesIn items
  | formatted _ _ _ child => unnumberedLeaves child
  | tagged (.citationNumber _) _ => []
  | tagged _ child => unnumberedLeaves child

def unnumberedLeavesIn : List Output → List String
  | [] => []
  | o :: os => unnumberedLeaves o ++ unnumberedLeavesIn os

end

mutual

/-- The texts of an output, in order, can be deleted down to the given ones: those inside citation
numbers all go, and delimiters that then begin a sequence may go when the whole text of its first
member went. That member holds a number, since nothing else is deleted where no number is. -/
inductive Unnumbers : Output → List String → Prop
  | null : Unnumbers null []
  | blank : Unnumbers (text "") []
  | text {s : String} (hs : s ≠ "") : Unnumbers (text s) [s]
  | number (n : Nat) (child : Output) : Unnumbers (tagged (.citationNumber n) child) []
  | tagged {tag : Tag} {child : Output} {texts : List String} (htag : ∀ n, tag ≠ .citationNumber n)
      (hchild : Unnumbers child texts) : Unnumbers (tagged tag child) texts
  | formatted {formatting : Formatting} {quotes : Bool} {display : Option Display} {child : Output}
      {texts : List String} (hchild : Unnumbers child texts) :
      Unnumbers (formatted formatting quotes display child) texts
  | seq {items : List Output} {texts : List String} (hitems : UnnumbersIn items texts) :
      Unnumbers (seq items) texts
  | delimiters {first : Output} {rest : List Output} {delimiters texts : List String}
      (hshown : first.isEmpty = false) (hfirst : Unnumbers first [])
      (hdelimiters : ∀ s ∈ delimiters, (Output.text s).isDelimiter = true)
      (hrest : UnnumbersIn rest (delimiters ++ texts)) : Unnumbers (seq (first :: rest)) texts

inductive UnnumbersIn : List Output → List String → Prop
  | nil : UnnumbersIn [] []
  | cons {o : Output} {os : List Output} {texts more : List String} (ho : Unnumbers o texts)
      (hos : UnnumbersIn os more) : UnnumbersIn (o :: os) (texts ++ more)

end

def shownLeaves (o : Output) : List String := o.leaves.filter (!·.isEmpty)

theorem plain_eq_join_shownLeaves (o : Output) : o.plain = String.join o.shownLeaves := by
  apply String.toList_injective
  rw [toList_plain, String.toList_join, shownLeaves, flatMap_filter_of_nil]
  intro s hs
  exact String.toList_eq_nil_iff.mpr (String.isEmpty_iff.mp (by simpa using hs))

theorem filter_leaves_of_isEmpty {p : String → Bool} (hp : p "" = false) {o : Output}
    (h : o.isEmpty = true) : o.leaves.filter p = [] := by
  rw [List.filter_eq_nil_iff]
  intro s hs
  simp [(isEmpty_iff_leaves o).mp h s hs, hp]

theorem shownLeaves_of_isEmpty {o : Output} (h : o.isEmpty = true) : o.shownLeaves = [] :=
  filter_leaves_of_isEmpty rfl h

theorem filter_leaves_ofList {p : String → Bool} (hp : p "" = false) (items : List Output) :
    (ofList items).leaves.filter p = items.flatMap fun o => o.leaves.filter p := by
  have hseq (items : List Output) :
      (seq items).leaves.filter p = items.flatMap fun o => o.leaves.filter p := by
    rw [leaves, leavesAll_eq_flatMap, List.filter_flatMap]
  exact apply_ofList (f := fun o => o.leaves.filter p) hseq (fun _ => filter_leaves_of_isEmpty hp) items

theorem leaves_withFormat (o : Output) (formatting : Formatting) (quotes : Bool)
    (display : Option Display) : (o.withFormat formatting quotes display).leaves = o.leaves := by
  rw [withFormat]
  split <;> rfl

mutual

theorem number_notMem_withoutCitationNumber (n : Nat) (o : Output) :
    .citationNumber n ∉ o.withoutCitationNumber.tags := by
  match o with
  | null => exact List.not_mem_nil
  | text s => exact List.not_mem_nil
  | seq items =>
    rw [withoutCitationNumber]
    intro h
    have hkept := (tags_ofList_sublist _).subset h
    exact number_notMem_keptItems n false false items hkept
  | formatted _ _ _ child =>
    rw [withoutCitationNumber, tags_withFormat]
    exact number_notMem_withoutCitationNumber n child
  | tagged tag child =>
    cases tag with
    | citationNumber m => exact List.not_mem_nil
    | yearSuffix _ | names _ =>
      simp only [withoutCitationNumber, tags, List.mem_cons, not_or]
      exact ⟨(nomatch ·), number_notMem_withoutCitationNumber n child⟩

theorem number_notMem_keptItems (n : Nat) (removed begun : Bool) (items : List Output) :
    .citationNumber n ∉ (keptItems removed begun items).flatMap tags := by
  match items with
  | [] => exact List.not_mem_nil
  | o :: os =>
    rw [keptItems]
    split
    · exact number_notMem_keptItems n _ _ os
    · split
      · exact number_notMem_keptItems n _ _ os
      · rw [List.flatMap_cons, List.mem_append, not_or]
        exact ⟨number_notMem_withoutCitationNumber n o, number_notMem_keptItems n _ _ os⟩

end

section Survivors

variable {p : String → Bool} (hp : ∀ s, (text s).isDelimiter = true → p s = false)

include hp

mutual

theorem filter_leaves_withoutCitationNumber (o : Output) :
    o.withoutCitationNumber.leaves.filter p = o.unnumberedLeaves.filter p := by
  match o with
  | null => rfl
  | text s => rfl
  | seq items =>
    rw [withoutCitationNumber, filter_leaves_ofList (hp "" rfl)]
    exact filter_leaves_keptItems false false items
  | formatted _ _ _ child =>
    rw [withoutCitationNumber, leaves_withFormat]
    exact filter_leaves_withoutCitationNumber child
  | tagged tag child =>
    cases tag with
    | citationNumber n => rfl
    | yearSuffix _ | names _ => exact filter_leaves_withoutCitationNumber child

theorem filter_leaves_keptItems (removed begun : Bool) (items : List Output) :
    ((keptItems removed begun items).flatMap fun o => o.leaves.filter p) =
      (unnumberedLeavesIn items).filter p := by
  match items with
  | [] => rfl
  | o :: os =>
    have ho := filter_leaves_withoutCitationNumber o
    rw [keptItems, unnumberedLeavesIn, List.filter_append, ← ho]
    split
    · next hremoved =>
      rw [Bool.and_eq_true] at hremoved
      rw [filter_leaves_of_isEmpty (hp "" rfl) hremoved.1, List.nil_append]
      exact filter_leaves_keptItems _ _ os
    · split
      · next hdelimiter =>
        rw [Bool.and_eq_true] at hdelimiter
        have hnone : o.withoutCitationNumber.leaves.filter p = [] := by
          cases h : o.withoutCitationNumber with
          | text s => simp [leaves, hp s (h ▸ hdelimiter.2)]
          | _ => simp [h, isDelimiter] at hdelimiter
        rw [hnone, List.nil_append]
        exact filter_leaves_keptItems _ _ os
      · rw [List.flatMap_cons, filter_leaves_keptItems _ _ os]

end

end Survivors

mutual

theorem unnumbers_withoutCitationNumber (o : Output) :
    Unnumbers o o.withoutCitationNumber.shownLeaves := by
  match o with
  | null => exact .null
  | text s =>
    by_cases hs : s = ""
    · subst hs
      exact .blank
    · have hshown : (text s).shownLeaves = [s] := by simp [shownLeaves, leaves, hs]
      rw [withoutCitationNumber, hshown]
      exact .text hs
  | seq items => exact unnumbers_seq items
  | formatted _ _ _ child =>
    rw [withoutCitationNumber, shownLeaves, leaves_withFormat]
    exact .formatted (unnumbers_withoutCitationNumber child)
  | tagged tag child =>
    cases tag with
    | citationNumber n => exact .number n child
    | yearSuffix _ | names _ => exact .tagged (by simp) (unnumbers_withoutCitationNumber child)

theorem unnumbers_seq (items : List Output) :
    Unnumbers (seq items) (seq items).withoutCitationNumber.shownLeaves := by
  rw [withoutCitationNumber, shownLeaves, filter_leaves_ofList rfl]
  match items with
  | [] => exact .seq .nil
  | o :: os =>
    have ho := unnumbers_withoutCitationNumber o
    rw [keptItems]
    split
    · next hremoved =>
      obtain ⟨hnone, hshown⟩ : o.withoutCitationNumber.isEmpty = true ∧ o.isEmpty = false := by
        simpa using hremoved
      obtain ⟨delimiters, hdelimiters, hrest⟩ := unnumbersIn_removed os
      rw [shownLeaves_of_isEmpty hnone] at ho
      exact .delimiters hshown ho hdelimiters hrest
    · rw [if_neg (by simp)]
      exact .seq (.cons ho (unnumbersIn_begun false os))

theorem unnumbersIn_removed (items : List Output) : ∃ delimiters : List String,
    (∀ s ∈ delimiters, (text s).isDelimiter = true) ∧
      UnnumbersIn items (delimiters ++ (keptItems true false items).flatMap shownLeaves) := by
  match items with
  | [] => exact ⟨[], by simp, .nil⟩
  | o :: os =>
    have ho := unnumbers_withoutCitationNumber o
    rw [keptItems]
    split
    · next hremoved =>
      obtain ⟨delimiters, hdelimiters, hrest⟩ := unnumbersIn_removed os
      rw [Bool.and_eq_true] at hremoved
      rw [shownLeaves_of_isEmpty hremoved.1] at ho
      have hitems := UnnumbersIn.cons ho hrest
      exact ⟨delimiters, hdelimiters, hitems⟩
    · split
      · next hdelimiter =>
        obtain ⟨delimiters, hdelimiters, hrest⟩ := unnumbersIn_removed os
        refine ⟨o.withoutCitationNumber.shownLeaves ++ delimiters, ?_, ?_⟩
        · intro s hs
          rcases List.mem_append.mp hs with hs | hs
          · cases h : o.withoutCitationNumber with
            | text t =>
              rw [h] at hs hdelimiter
              obtain rfl : s = t := by simpa [leaves] using List.mem_of_mem_filter hs
              simpa using hdelimiter
            | _ => simp [h, isDelimiter] at hdelimiter
          · exact hdelimiters s hs
        · rw [List.append_assoc]
          exact .cons ho hrest
      · refine ⟨[], by simp, ?_⟩
        rw [List.nil_append, List.flatMap_cons]
        exact .cons ho (unnumbersIn_begun true os)

theorem unnumbersIn_begun (removed : Bool) (items : List Output) :
    UnnumbersIn items ((keptItems removed true items).flatMap shownLeaves) := by
  match items with
  | [] => exact .nil
  | o :: os =>
    have ho := unnumbers_withoutCitationNumber o
    rw [keptItems]
    split
    · next hremoved =>
      rw [Bool.and_eq_true] at hremoved
      rw [shownLeaves_of_isEmpty hremoved.1] at ho
      have hitems := UnnumbersIn.cons ho (unnumbersIn_begun removed os)
      simpa using hitems
    · rw [if_neg (by simp), List.flatMap_cons]
      exact .cons ho (unnumbersIn_begun removed os)

end

/-- Removing the citation numbers leaves no number behind and keeps every text outside the numbers
that is not a delimiter; an output without numbers keeps its text. -/
theorem only_numbers_removed (o : Output) :
    (∀ n, .citationNumber n ∉ o.withoutCitationNumber.tags) ∧
      ((∀ n, .citationNumber n ∉ o.tags) → o.withoutCitationNumber.plain = o.plain) ∧
      o.withoutCitationNumber.leaves.filter (fun s => !(text s).isDelimiter) =
        o.unnumberedLeaves.filter (fun s => !(text s).isDelimiter) ∧
      ∃ texts, Unnumbers o texts ∧ o.withoutCitationNumber.plain = String.join texts := by
  refine ⟨fun n => number_notMem_withoutCitationNumber n o, plain_withoutCitationNumber, ?_, ?_⟩
  · apply filter_leaves_withoutCitationNumber
    intro s hs
    rw [hs]
    rfl
  · exact ⟨_, unnumbers_withoutCitationNumber o, plain_eq_join_shownLeaves _⟩

theorem only_numbers_removed_of_names :
    let o := seq [tagged (.names "author") (text "Doe"), text ", ", text "2020"]
    (∀ n, .citationNumber n ∉ o.tags) ∧ o.withoutCitationNumber.plain = o.plain := by
  have hnone (n : Nat) : Tag.citationNumber n ∉
      (seq [tagged (.names "author") (text "Doe"), text ", ", text "2020"]).tags := by
    simp [tags, tagsAll]
  exact ⟨hnone, (only_numbers_removed _).2.1 hnone⟩

end Citeproc.Output
