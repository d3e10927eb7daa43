import Citeproc.Output.Case
import Citeproc.Proofs.Output.Plain
import Mathlib.Data.List.Flatten

namespace Citeproc

namespace Tag

def isNames : Tag → Bool
  | names _ => true
  | _ => false

def isYearSuffix : Tag → Bool
  | yearSuffix _ => true
  | _ => false

end Tag

namespace Output

mutual

def tags : Output → List Tag
  | null => []
  | text _ => []
  | seq items => tagsAll items
  | formatted _ _ _ child => tags child
  | tagged tag child => tag :: tags child

def tagsAll : List Output → List Tag
  | [] => []
  | o :: os => tags o ++ tagsAll os

end

theorem tagsAll_eq_flatMap (items : List Output) : tagsAll items = items.flatMap tags := by
  induction items with
  | nil => rfl
  | cons o os ih => rw [tagsAll, ih, List.flatMap_cons]

@[simp] theorem tags_null : null.tags = [] := rfl

@[simp] theorem tags_ofText (s : String) : (ofText s).tags = [] := by
  unfold ofText
  split <;> rfl

theorem tags_withTag (tag : Tag) (o : Output) :
    (o.withTag tag).tags = if o.isEmpty then [] else tag :: o.tags := by
  unfold withTag
  split <;> rfl

def shownTags (o : Output) : List Tag := if o.isEmpty then [] else o.tags

theorem shownTags_eq_nil {o : Output} (h : o.tags = []) : o.shownTags = [] := by
  rw [shownTags, h, ite_self]

theorem shownTags_eq_tags {o : Output} (h : o.isEmpty = true → o.tags = []) : o.shownTags = o.tags :=
  ite_eq_right_iff.mpr fun hempty => (h hempty).symm

theorem flatMap_tags_filter (items : List Output) :
    (items.filter (!·.isEmpty)).flatMap tags = items.flatMap shownTags := by
  induction items with
  | nil => rfl
  | cons o os ih =>
    rw [List.filter_cons, List.flatMap_cons, ← ih, shownTags]
    cases o.isEmpty <;> simp

theorem flatMap_tags_filter_sublist (items : List Output) :
    ((items.filter (!·.isEmpty)).flatMap tags).Sublist (items.flatMap tags) :=
  List.filter_sublist.flatMap tags

theorem flatMap_shownTags_sublist (items : List Output) :
    (items.flatMap shownTags).Sublist (items.flatMap tags) :=
  flatMap_tags_filter items ▸ flatMap_tags_filter_sublist items

theorem tags_ofList (items : List Output) : (ofList items).tags = items.flatMap shownTags := by
  rw [← flatMap_tags_filter]
  exact apply_ofList_eq_filter tagsAll_eq_flatMap rfl items

theorem tags_join (items : List Output) (delimiter : String) :
    (join items delimiter).tags = items.flatMap shownTags := by
  have hdelimited (os : List Output) :
      (os.intersperse (text delimiter)).flatMap shownTags = os.flatMap shownTags := by
    have hdelimiter : (text delimiter).shownTags = [] := shownTags_eq_nil rfl
    induction os with
    | nil => rfl
    | cons o os ih =>
      cases os with
      | nil => rfl
      | cons o' os =>
        rw [List.intersperse_cons_cons, List.flatMap_cons, List.flatMap_cons, hdelimiter, ih,
          List.nil_append, ← List.flatMap_cons]
  have hkept : (items.filter (!·.isEmpty)).flatMap shownTags = items.flatMap shownTags := by
    rw [← flatMap_tags_filter, ← flatMap_tags_filter, List.filter_filter]
    simp only [Bool.and_self]
  rw [join, tags_ofList]
  split
  · exact hkept
  · rw [hdelimited, hkept]

theorem tags_ofList_of_isEmpty {items : List Output} (h : (ofList items).isEmpty = true) :
    (ofList items).tags = [] := by
  rw [isEmpty_ofList, List.all_eq_true] at h
  rw [tags_ofList, List.flatMap_eq_nil_iff]
  exact fun o ho => if_pos (h o ho)

theorem tags_join_of_isEmpty {items : List Output} {delimiter : String}
    (h : (join items delimiter).isEmpty = true) : (join items delimiter).tags = [] :=
  tags_ofList_of_isEmpty h

theorem tags_ofList_sublist (items : List Output) :
    (ofList items).tags.Sublist (items.flatMap tags) :=
  tags_ofList items ▸ flatMap_shownTags_sublist items

theorem tags_join_sublist (items : List Output) (delimiter : String) :
    (join items delimiter).tags.Sublist (items.flatMap tags) :=
  tags_join items delimiter ▸ flatMap_shownTags_sublist items

theorem tags_ofList_eq_nil {items : List Output} (h : ∀ o ∈ items, o.tags = []) :
    (ofList items).tags = [] :=
  List.sublist_nil.mp (List.flatMap_eq_nil_iff.mpr h ▸ tags_ofList_sublist items)

theorem tags_join_eq_nil {items : List Output} (h : ∀ o ∈ items, o.tags = []) (delimiter : String) :
    (join items delimiter).tags = [] :=
  List.sublist_nil.mp (List.flatMap_eq_nil_iff.mpr h ▸ tags_join_sublist items delimiter)

@[simp] theorem tags_withFormat (o : Output) (formatting : Formatting) (quotes : Bool)
    (display : Option Display) : (o.withFormat formatting quotes display).tags = o.tags := by
  unfold withFormat
  split <;> rfl

@[simp] theorem tags_withAffixes (o : Output) (before after : Option String) :
    (o.withAffixes before after).tags = o.tags := by
  rcases o.withAffixes_cases before after with h | ⟨ho, h⟩
  · rw [h]
  · simp [h, tags_ofList, shownTags, ho]

mutual

theorem tags_mapTexts {σ : Type} (f : σ → String → String × σ) (st : σ) (o : Output) :
    (o.mapTexts f st).1.tags = o.tags := by
  match o with
  | null => rfl
  | text s => rfl
  | seq items => exact tagsAll_mapTextsIn f st items
  | formatted _ _ _ child => exact tags_mapTexts f st child
  | tagged tag child => exact congrArg (tag :: ·) (tags_mapTexts f st child)

theorem tagsAll_mapTextsIn {σ : Type} (f : σ → String → String × σ) (st : σ) (items : List Output) :
    tagsAll (mapTextsIn f st items).1 = tagsAll items := by
  match items with
  | [] => rfl
  | o :: os =>
    simp only [mapTextsIn, tagsAll, tags_mapTexts f st o, tagsAll_mapTextsIn f _ os]

end

mutual

theorem tags_caseFrom (case : TextCase) (atStart : Bool) (o : Output) :
    (o.caseFrom case atStart).1.tags = o.tags := by
  match o with
  | null => rfl
  | text s => rfl
  | seq items => exact tagsAll_caseFromIn case atStart items
  | formatted formatting _ _ child =>
    rw [caseFrom]
    split
    · exact tags_caseFrom case atStart child
    · rfl
  | tagged tag child => exact congrArg (tag :: ·) (tags_caseFrom case atStart child)

theorem tagsAll_caseFromIn (case : TextCase) (atStart : Bool) (items : List Output) :
    tagsAll (caseFromIn case atStart items).1 = tagsAll items := by
  match items with
  | [] => rfl
  | o :: os =>
    simp only [caseFromIn, tagsAll, tags_caseFrom case atStart o, tagsAll_caseFromIn case _ os]

end

@[simp] theorem tags_transformed (o : Output) (r : Rendering) : (o.transformed r).tags = o.tags := by
  have hstrip : (if r.stripPeriods then o.stripPeriods else o).tags = o.tags := by
    split
    · exact tags_mapTexts _ _ o
    · rfl
  rw [transformed]
  cases r.textCase with
  | none => exact hstrip
  | some case => exact (tags_caseFrom case true _).trans hstrip

@[simp] theorem tags_decorate (o : Output) (r : Rendering) : (o.decorate r).tags = o.tags := by
  rw [decorate]
  split
  · rfl
  · rw [tags_withFormat, tags_withAffixes, tags_withFormat, tags_transformed]

theorem findTag?_ofList (p : Tag → Bool) (items : List Output) :
    (ofList items).findTag? p = findTagIn? p (items.filter (!·.isEmpty)) := by
  rw [ofList]
  split
  · next h => rw [h]; rfl
  · next h => rw [h]; simp [findTagIn?]
  · rfl

theorem findTag?_withAffixes (p : Tag → Bool) (o : Output) (before after : Option String) :
    (o.withAffixes before after).findTag? p = o.findTag? p := by
  have htext (s : String) : (ofText s).findTag? p = none := by
    unfold ofText
    split <;> rfl
  rcases o.withAffixes_cases before after with h | ⟨ho, h⟩
  · rw [h]
  · rw [h, findTag?_ofList]
    cases hb : (ofText (before.getD "")).isEmpty <;> cases ha : (ofText (after.getD "")).isEmpty <;>
      simp [hb, ha, ho, findTagIn?, htext]

end Output

end Citeproc
