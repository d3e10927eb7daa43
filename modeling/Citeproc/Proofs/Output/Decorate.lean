import Citeproc.Output.Case
import Citeproc.Proofs.Output.Plain
import Citeproc.Proofs.Text.CaseMaps

namespace Citeproc

namespace Text

variable {cs : List Char}

theorem lower_eq_nil_iff : lower cs = [] ↔ cs = [] := by
  cases cs with
  | nil => exact ⟨fun _ => rfl, fun _ => rfl⟩
  | cons c cs =>
    rw [lower, lowerFrom, List.append_eq_nil_iff]
    split
    · split <;> simp
    · simp [lowerChars_ne_nil]

theorem upper_eq_nil_iff : upper cs = [] ↔ cs = [] := by
  cases cs with
  | nil => exact ⟨fun _ => rfl, fun _ => rfl⟩
  | cons c cs => simp [upper, upperChars_ne_nil]

theorem capitalize_eq_nil_iff : capitalize cs = [] ↔ cs = [] := by
  cases cs with
  | nil => exact ⟨fun _ => rfl, fun _ => rfl⟩
  | cons c cs =>
    rw [capitalize]
    split <;> simp [upperChars_ne_nil]

theorem mapWordsFrom_eq_nil_iff {f : Nat → List Char → List Char}
    (hf : ∀ index word, f index word = [] ↔ word = []) (index : Nat) (word : List Char) :
    mapWordsFrom f index word cs = [] ↔ word = [] ∧ cs = [] := by
  induction cs generalizing index word with
  | nil =>
    rw [mapWordsFrom]
    split
    · next h => simp [List.isEmpty_iff.mp h]
    · simp [hf]
  | cons c cs ih =>
    rw [mapWordsFrom]
    split
    · split <;> simp
    · simp [ih]

theorem withCase_eq_nil_iff (case : TextCase) (atStart : Bool) :
    withCase case cs atStart = [] ↔ cs = [] := by
  cases case with
  | lowercase => exact lower_eq_nil_iff
  | uppercase => exact upper_eq_nil_iff
  | capitalizeFirst =>
    rw [withCase]
    split
    · exact capitalize_eq_nil_iff
    · exact .rfl
  | capitalizeAll =>
    exact (mapWordsFrom_eq_nil_iff (fun _ _ => capitalize_eq_nil_iff) 0 []).trans (and_iff_right rfl)
  | sentence =>
    have hbase : (if cs.any isLetter && !cs.any isLowercase then lower cs else cs) = [] ↔ cs = [] := by
      split
      · exact lower_eq_nil_iff
      · exact .rfl
    rw [withCase, sentenceCase]
    split
    · exact capitalize_eq_nil_iff.trans hbase
    · exact hbase
  | title =>
    refine (mapWordsFrom_eq_nil_iff (fun index word => ?_) 0 []).trans (and_iff_right rfl)
    split
    · exact .rfl
    · split
      · exact .rfl
      · exact capitalize_eq_nil_iff

end Text

namespace Output

mutual

theorem isEmpty_caseFrom (case : TextCase) (atStart : Bool) (o : Output) :
    (o.caseFrom case atStart).1.isEmpty = o.isEmpty := by
  match o with
  | null => rfl
  | text s =>
    simp only [caseFrom, Text.applyCase, isEmpty]
    rw [Bool.eq_iff_iff, String.isEmpty_iff, String.isEmpty_iff, ← String.toList_eq_nil_iff,
      String.toList_ofList, Text.withCase_eq_nil_iff, String.toList_eq_nil_iff]
  | seq items => exact allEmpty_caseFromIn case atStart items
  | formatted formatting _ _ child =>
    rw [caseFrom]
    split
    · exact isEmpty_caseFrom case atStart child
    · rfl
  | tagged _ child => exact isEmpty_caseFrom case atStart child

theorem allEmpty_caseFromIn (case : TextCase) (atStart : Bool) (items : List Output) :
    allEmpty (caseFromIn case atStart items).1 = allEmpty items := by
  match items with
  | [] => rfl
  | o :: os =>
    simp only [caseFromIn, allEmpty]
    rw [isEmpty_caseFrom case atStart o, allEmpty_caseFromIn case _ os]

end

theorem isEmpty_transformed (o : Output) {r : Rendering} (h : r.stripPeriods = false) :
    (o.transformed r).isEmpty = o.isEmpty := by
  rw [transformed, h]
  cases r.textCase with
  | none => rfl
  | some case => exact isEmpty_caseFrom case true o

theorem isEmpty_decorate (o : Output) {r : Rendering} (h : r.stripPeriods = false) :
    (o.decorate r).isEmpty = o.isEmpty := by
  rw [decorate]
  split
  · rfl
  · rw [isEmpty_withFormat, isEmpty_withAffixes, isEmpty_withFormat, isEmpty_transformed o h]

theorem transformed_ne_null {o : Output} (h : o ≠ null) (r : Rendering) : o.transformed r ≠ null := by
  have hcase {o : Output} (h : o ≠ null) : r.textCase.elim o o.withCase ≠ null := by
    cases r.textCase with
    | none => exact h
    | some case =>
      cases o with
      | null => exact absurd rfl h
      | formatted formatting quotes display child =>
        rw [Option.elim_some, withCase, caseFrom]
        split <;> simp
      | _ => simp [withCase, caseFrom]
  rw [transformed]
  split
  · refine hcase ?_
    cases o with
    | null => exact absurd rfl h
    | _ => simp [stripPeriods, mapTexts]
  · exact hcase h

theorem withFormat_ne_null {o : Output} (h : o ≠ null) (formatting : Formatting) (quotes : Bool)
    (display : Option Display) : o.withFormat formatting quotes display ≠ null := by
  rw [withFormat]
  split
  · exact h
  · simp

theorem withAffixes_ne_null {o : Output} (h : o ≠ null) (before after : Option String) :
    o.withAffixes before after ≠ null := by
  cases hempty : o.isEmpty with
  | true => simpa [withAffixes, hempty] using h
  | false =>
    intro hnull
    have hshown := isEmpty_withAffixes o before after
    rw [hnull, hempty] at hshown
    cases hshown

theorem decorate_ne_null {o : Output} (h : o.isEmpty = false) (r : Rendering) : o.decorate r ≠ null := by
  have ho : o ≠ null := by
    rintro rfl
    cases h
  rw [decorate, if_neg (by simp [h])]
  exact withFormat_ne_null (withAffixes_ne_null (withFormat_ne_null (transformed_ne_null ho r) _ _ _) _ _)
    _ _ _

theorem isEmpty_withTag (tag : Tag) (o : Output) : (o.withTag tag).isEmpty = o.isEmpty := by
  rw [withTag]
  split
  · next h => rw [h]; rfl
  · rfl

theorem isEmpty_join (items : List Output) (delimiter : String) :
    (join items delimiter).isEmpty = items.all isEmpty := by
  rw [Bool.eq_iff_iff, List.all_eq_true]
  constructor
  · intro h o ho
    have hshows := shows_join ho delimiter
    rw [Shows, (isEmpty_iff_plain _).mp h] at hshows
    rw [isEmpty_iff_plain, ← String.toList_eq_nil_iff]
    exact List.infix_nil.mp hshows
  · intro h
    have hnone : items.filter (!·.isEmpty) = [] := by simpa using h
    simp [join, hnone, ofList, isEmpty]

end Output

end Citeproc
