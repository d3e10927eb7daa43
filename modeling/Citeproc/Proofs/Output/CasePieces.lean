import Citeproc.Output.Case
import Citeproc.Proofs.Output.Plain
import Citeproc.Proofs.Text.CasePieces

namespace Citeproc.Output

mutual

def isUnformatted : Output → Bool
  | null => true
  | text _ => true
  | seq items => areUnformatted items
  | formatted formatting _ _ child => formatting.isEmpty && isUnformatted child
  | tagged _ child => isUnformatted child

def areUnformatted : List Output → Bool
  | [] => true
  | o :: os => isUnformatted o && areUnformatted os

end

def leafTexts (o : Output) : List (List Char) := o.leaves.map String.toList

def leafTextsAll (items : List Output) : List (List Char) := (leavesAll items).map String.toList

theorem toList_plain_eq_flatten (o : Output) : o.plain.toList = o.leafTexts.flatten := by
  rw [toList_plain, leafTexts, List.flatMap_def]

mutual

theorem leafTexts_caseFrom (case : TextCase) (atStart : Bool) (o : Output) (h : o.isUnformatted = true) :
    (o.caseFrom case atStart).1.leafTexts = Text.casePieces case atStart o.leafTexts ∧
      (o.caseFrom case atStart).2 = (atStart && Text.silent o.leafTexts) := by
  cases o with
  | null => exact ⟨rfl, by simp [caseFrom, leafTexts, leaves, Text.silent]⟩
  | text s => simp [caseFrom, Text.applyCase, leafTexts, leaves, Text.casePieces, Text.silent]
  | seq items => exact leafTextsAll_caseFromIn case atStart items h
  | formatted formatting quotes display child =>
    obtain ⟨hformatting, hchild⟩ := Bool.and_eq_true_iff.mp h
    rw [caseFrom, hformatting, if_pos rfl]
    exact leafTexts_caseFrom case atStart child hchild
  | tagged tag child => exact leafTexts_caseFrom case atStart child h

theorem leafTextsAll_caseFromIn (case : TextCase) (atStart : Bool) (items : List Output)
    (h : areUnformatted items = true) :
    leafTextsAll (caseFromIn case atStart items).1 = Text.casePieces case atStart (leafTextsAll items) ∧
      (caseFromIn case atStart items).2 = (atStart && Text.silent (leafTextsAll items)) := by
  cases items with
  | nil => exact ⟨rfl, by simp [caseFromIn, leafTextsAll, leavesAll, Text.silent]⟩
  | cons o os =>
    obtain ⟨ho, hos⟩ := Bool.and_eq_true_iff.mp h
    obtain ⟨hpieces, hstart⟩ := leafTexts_caseFrom case atStart o ho
    obtain ⟨hrest, hend⟩ := leafTextsAll_caseFromIn case (o.caseFrom case atStart).2 os hos
    have hsplit (o : Output) (os : List Output) :
        leafTextsAll (o :: os) = o.leafTexts ++ leafTextsAll os := by
      rw [leafTextsAll, leavesAll, List.map_append, leafTexts, leafTextsAll]
    rw [caseFromIn, hsplit, hsplit, hpieces, hrest, hend, hstart, Text.casePieces_append, Bool.and_assoc]
    exact ⟨rfl, by rw [Text.silent, Text.silent, Text.silent, List.all_append]⟩

end

theorem toList_plain_withCase {o : Output} (h : o.isUnformatted = true) (case : TextCase) :
    (o.withCase case).plain.toList = (Text.casePieces case true o.leafTexts).flatten := by
  rw [toList_plain_eq_flatten, withCase, (leafTexts_caseFrom case true o h).1]

theorem toList_plain_withCase_text (s : String) (case : TextCase) :
    ((text s).withCase case).plain.toList = Text.withCase case s.toList true := by
  rw [toList_plain_withCase (o := text s) rfl]
  simp [leafTexts, leaves, Text.casePieces]

/-- An output without formatting that is cut at blanks only shows in lowercase, in uppercase and
with each word capitalized what one leaf with its text shows. -/
theorem plain_withCase_iff {o : Output} (hplain : o.isUnformatted = true)
    (hcut : Text.CutAtBlanks o.leafTexts) :
    (∀ case ∈ [TextCase.lowercase, .uppercase, .capitalizeAll],
      (o.withCase case).plain = ((text o.plain).withCase case).plain) ∧
    ((o.withCase .capitalizeFirst).plain = ((text o.plain).withCase .capitalizeFirst).plain ↔
      Text.OpensWithLetter o.leafTexts ∨ Text.capitalize o.plain.toList = o.plain.toList) ∧
    ((o.withCase .title).plain = ((text o.plain).withCase .title).plain ↔
      ∀ opening ∈ Text.opening? o.leafTexts, ∀ word ∈ (Text.wordsFrom [] opening).head?,
        Text.IsMinor word →
        ∀ piece ∈ Text.ahead o.leafTexts, ∀ c ∈ piece, Text.isBlank c = true) ∧
    ((o.withCase .sentence).plain = ((text o.plain).withCase .sentence).plain ↔
      (Text.OpensWithLetter o.leafTexts ∨
          Text.capitalize (Text.sentenceBase o.plain.toList) = Text.sentenceBase o.plain.toList) ∧
        (Text.isShouting o.plain.toList = true ∨
          (∀ opening ∈ Text.opening? o.leafTexts,
              Text.capitalize (Text.sentenceBase opening) = Text.capitalize opening) ∧
            ∀ piece ∈ Text.behind o.leafTexts, Text.sentenceBase piece = piece)) := by
  have hsame (case : TextCase) : (o.withCase case).plain = ((text o.plain).withCase case).plain ↔
      (Text.casePieces case true o.leafTexts).flatten = Text.withCase case o.leafTexts.flatten true := by
    rw [← String.toList_inj, toList_plain_withCase hplain, toList_plain_withCase_text,
      toList_plain_eq_flatten]
  simp only [hsame, toList_plain_eq_flatten]
  refine ⟨fun case hcase => Text.flatten_casePieces_of_uniform hcut (by simpa using hcase),
    Text.flatten_casePieces_capitalizeFirst _, Text.flatten_casePieces_title hcut,
    Text.flatten_casePieces_sentence hcut⟩

theorem plain_withCase_of_art :
    (seq [text "the ", text "art of war"]).isUnformatted = true ∧
      Text.CutAtBlanks (seq [text "the ", text "art of war"]).leafTexts ∧
      ((seq [text "the ", text "art of war"]).withCase .title).plain =
        ((text "the art of war").withCase .title).plain :=
  ⟨rfl, by decide,
    (plain_withCase_iff (o := seq [text "the ", text "art of war"]) rfl (by decide)).2.2.1.mpr
      (by decide)⟩

theorem plain_withCase_capitals :
    (seq [text "ALL ", text "caps"]).isUnformatted = true ∧
      Text.CutAtBlanks (seq [text "ALL ", text "caps"]).leafTexts ∧
      ((seq [text "ALL ", text "caps"]).withCase .sentence).plain = "All caps" ∧
      ((text "ALL caps").withCase .sentence).plain = "ALL caps" := by
  decide +kernel

end Citeproc.Output
