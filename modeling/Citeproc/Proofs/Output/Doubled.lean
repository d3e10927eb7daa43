import Citeproc.Output.Punctuation
import Citeproc.Proofs.Output.Plain
import Mathlib.Data.List.Chain
import Mathlib.Data.List.Forall2

/-!
Doubled punctuation where the texts of an output meet. The clean-up is one pass over the texts that
remembers the last character shown; afterwards no two texts meet in a doubled pair, so a second pass
finds nothing.
-/

namespace Citeproc.Output

section Texts

variable {σ : Type} (f : σ → String → String × σ)

def mapTextList (st : σ) : List String → List String × σ
  | [] => ([], st)
  | s :: texts =>
    let (s, st) := f st s
    let (texts, st) := mapTextList st texts
    (s :: texts, st)

theorem mapTextList_append (st : σ) (texts more : List String) :
    mapTextList f st (texts ++ more) =
      let (texts, st) := mapTextList f st texts
      let (more, st) := mapTextList f st more
      (texts ++ more, st) := by
  induction texts generalizing st with
  | nil => rfl
  | cons s texts ih => simp only [List.cons_append, mapTextList, ih]

mutual

theorem mapTextList_leaves (st : σ) (o : Output) :
    mapTextList f st o.leaves = ((o.mapTexts f st).1.leaves, (o.mapTexts f st).2) := by
  match o with
  | null => rfl
  | text s => rfl
  | seq items => exact mapTextList_leavesAll st items
  | formatted _ _ _ child => exact mapTextList_leaves st child
  | tagged _ child => exact mapTextList_leaves st child

theorem mapTextList_leavesAll (st : σ) (items : List Output) :
    mapTextList f st (leavesAll items) =
      (leavesAll (mapTextsIn f st items).1, (mapTextsIn f st items).2) := by
  match items with
  | [] => rfl
  | o :: os =>
    rw [leavesAll, mapTextList_append, mapTextList_leaves st o]
    simp only [mapTextsIn, leavesAll, mapTextList_leavesAll _ os]

end

theorem leaves_mapTexts (st : σ) (o : Output) :
    (o.mapTexts f st).1.leaves = (mapTextList f st o.leaves).1 := by
  rw [mapTextList_leaves]

end Texts

def outline (o : Output) : Output := (o.mapTexts (fun _ _ => ("", ())) ()).1

mutual

theorem outline_mapTexts {σ : Type} (f : σ → String → String × σ) (st : σ) (o : Output) :
    (o.mapTexts f st).1.outline = o.outline := by
  match o with
  | null => rfl
  | text s => rfl
  | seq items => exact congrArg seq (outline_mapTextsIn f st items)
  | formatted _ _ _ child => exact congrArg (formatted _ _ _) (outline_mapTexts f st child)
  | tagged tag child => exact congrArg (tagged tag) (outline_mapTexts f st child)

theorem outline_mapTextsIn {σ : Type} (f : σ → String → String × σ) (st : σ) (items : List Output) :
    (mapTextsIn (fun _ _ => ("", ())) () (mapTextsIn f st items).1).1 =
      (mapTextsIn (fun _ _ => ("", ())) () items).1 := by
  match items with
  | [] => rfl
  | o :: os =>
    have ho := outline_mapTexts f st o
    simp only [outline] at ho
    simp only [mapTextsIn, ho, outline_mapTextsIn f _ os]

end

def doubledPairs : List (Char × Char) :=
  [('.', '.'), ('!', '.'), ('?', '.'), (',', ','), (';', ';'), (':', ':'), (' ', ' ')]

theorem doubles_eq_true_iff (previous c : Char) :
    doubles previous c = true ↔ (previous, c) ∈ doubledPairs := by
  simp only [doubles, doubledPairs, List.mem_cons, Prod.mk.injEq, List.not_mem_nil, or_false]
  by_cases hc : c = '.'
  · simp [hc, or_assoc]
  · simp only [beq_eq_false_iff_ne.mpr hc]
    grind

def Doubles (s t : String) : Prop :=
  ∃ previous ∈ s.toList.getLast?, ∃ c ∈ t.toList.head?, (previous, c) ∈ doubledPairs

def BeginsDoubled (s : String) : Prop := ∃ c ∈ ['.', ',', ';', ':', ' '], [c, c] <+: s.toList

instance (s : String) : Decidable (BeginsDoubled s) :=
  List.decidableBEx (fun c => [c, c] <+: s.toList) ['.', ',', ';', ':', ' ']

def Trimmed (s t : String) : Prop := t = s ∨ ∃ c, s.toList = c :: t.toList

def Undoubled (previous : Option Char) : List String → Prop
  | [] => True
  | s :: texts =>
    (∀ p ∈ previous, ∀ c ∈ s.toList.head?, (p, c) ∉ doubledPairs) ∧
      Undoubled (s.toList.getLast? <|> previous) texts

theorem notMem_doubledPairs {previous c d : Char} (h : (previous, c) ∈ doubledPairs) (hd : d ≠ c) :
    (previous, d) ∉ doubledPairs := by
  revert h
  simp only [doubledPairs, List.mem_cons, Prod.mk.injEq, List.not_mem_nil, or_false]
  aesop

theorem snd_dedupeText (previous : Option Char) (s : String) :
    (dedupeText previous s).2 = ((dedupeText previous s).1.toList.getLast? <|> previous) := by
  simp [dedupeText]

theorem dedupeText_cases (previous : Option Char) (s : String) :
    ((dedupeText previous s).1 = s ∧ ∀ p ∈ previous, ∀ c ∈ s.toList.head?, (p, c) ∉ doubledPairs) ∨
      ∃ p ∈ previous, ∃ c, s.toList = c :: (dedupeText previous s).1.toList ∧ (p, c) ∈ doubledPairs := by
  cases previous with
  | none => simp [dedupeText]
  | some p =>
    cases hs : s.toList with
    | nil =>
      left
      simp [dedupeText, hs, ← String.toList_eq_nil_iff]
    | cons c cs =>
      by_cases hdoubles : doubles p c = true
      · right
        exact ⟨p, rfl, c, by simp [dedupeText, hs, hdoubles], (doubles_eq_true_iff p c).mp hdoubles⟩
      · left
        have hkept : (dedupeText (some p) s).1 = s :=
          String.toList_injective (by simp [dedupeText, hs, hdoubles])
        refine ⟨hkept, ?_⟩
        rintro _ ⟨⟩ _ ⟨⟩
        rwa [← doubles_eq_true_iff]

theorem trimmed_dedupeText (previous : Option Char) (s : String) :
    Trimmed s (dedupeText previous s).1 := by
  obtain ⟨hkept, -⟩ | ⟨-, -, c, hs, -⟩ := dedupeText_cases previous s
  · exact .inl hkept
  · exact .inr ⟨c, hs⟩

theorem not_doubles_dedupeText {previous : Option Char} {s : String} (h : ¬BeginsDoubled s) :
    ∀ p ∈ previous, ∀ c ∈ (dedupeText previous s).1.toList.head?, (p, c) ∉ doubledPairs := by
  obtain ⟨hkept, hs⟩ | ⟨p, hp, c, hs, hpair⟩ := dedupeText_cases previous s
  · rwa [hkept]
  · intro q hq d hd
    obtain rfl : p = q := Option.mem_unique hp hq
    apply notMem_doubledPairs hpair
    rintro rfl
    refine h ⟨d, ?_, ?_⟩
    · revert hpair
      simp only [doubledPairs, List.mem_cons, Prod.mk.injEq, List.not_mem_nil, or_false]
      aesop
    · obtain ⟨rest, hrest⟩ := List.head?_eq_some_iff.mp hd
      rw [hs, hrest]
      exact ⟨rest, rfl⟩

variable {previous : Option Char} {texts : List String}

theorem mapTextList_dedupeText_cons (s : String) :
    (mapTextList dedupeText previous (s :: texts)).1 = (dedupeText previous s).1 ::
      (mapTextList dedupeText ((dedupeText previous s).1.toList.getLast? <|> previous) texts).1 := by
  rw [← snd_dedupeText]
  rfl

theorem undoubled_mapTextList (h : ∀ s ∈ texts, ¬BeginsDoubled s) :
    Undoubled previous (mapTextList dedupeText previous texts).1 := by
  induction texts generalizing previous with
  | nil => trivial
  | cons s texts ih =>
    obtain ⟨hs, htexts⟩ := List.forall_mem_cons.mp h
    rw [mapTextList_dedupeText_cons]
    exact ⟨not_doubles_dedupeText hs, ih htexts⟩

theorem mapTextList_of_undoubled (h : Undoubled previous texts) :
    (mapTextList dedupeText previous texts).1 = texts := by
  induction texts generalizing previous with
  | nil => rfl
  | cons s texts ih =>
    obtain ⟨hs, htexts⟩ := h
    have hkept : (dedupeText previous s).1 = s := by
      obtain ⟨hkept, -⟩ | ⟨p, hp, c, hcs, hpair⟩ := dedupeText_cases previous s
      · exact hkept
      · exact absurd hpair (hs p hp c (by simp [hcs]))
    rw [mapTextList_dedupeText_cons, hkept, ih htexts]

theorem forall₂_trimmed_mapTextList (texts : List String) :
    List.Forall₂ Trimmed texts (mapTextList dedupeText previous texts).1 := by
  induction texts generalizing previous with
  | nil => exact .nil
  | cons s texts ih => exact .cons (trimmed_dedupeText previous s) ih

theorem isChain_of_undoubled (h : Undoubled previous texts) :
    (texts.filter (!·.isEmpty)).IsChain (fun s t => ¬Doubles s t) ∧
      ∀ p ∈ previous, ∀ s ∈ (texts.filter (!·.isEmpty)).head?, ∀ c ∈ s.toList.head?,
        (p, c) ∉ doubledPairs := by
  induction texts generalizing previous with
  | nil => simp
  | cons s texts ih =>
    obtain ⟨hs, htexts⟩ := h
    obtain ⟨hchain, hhead⟩ := ih htexts
    by_cases hempty : s = ""
    · subst hempty
      exact ⟨hchain, hhead⟩
    · rw [List.filter_cons_of_pos (by simpa using hempty)]
      refine ⟨List.isChain_cons.mpr ⟨?_, hchain⟩, ?_⟩
      · rintro t ht ⟨p, hp, c, hc, hpair⟩
        have hshown : p ∈ (s.toList.getLast? <|> previous) := by
          rw [Option.mem_def.mp hp]
          rfl
        exact hhead p hshown t ht c hc hpair
      · rintro p hp _ ⟨⟩
        exact hs p hp

theorem length_mapTextList {σ : Type} (f : σ → String → String × σ) (st : σ) (texts : List String) :
    (mapTextList f st texts).1.length = texts.length := by
  induction texts generalizing st with
  | nil => rfl
  | cons s texts ih => simp only [mapTextList, List.length_cons, ih]

mutual

theorem mapTexts_eq_self {σ : Type} {f : σ → String → String × σ} {st : σ} {o : Output}
    (h : (mapTextList f st o.leaves).1 = o.leaves) : (o.mapTexts f st).1 = o := by
  match o with
  | null => rfl
  | text s => exact congrArg text (List.singleton_inj.mp h)
  | seq items => exact congrArg seq (mapTextsIn_eq_self h)
  | formatted _ _ _ child => exact congrArg (formatted _ _ _) (mapTexts_eq_self (o := child) h)
  | tagged tag child => exact congrArg (tagged tag) (mapTexts_eq_self (o := child) h)

theorem mapTextsIn_eq_self {σ : Type} {f : σ → String → String × σ} {st : σ} {items : List Output}
    (h : (mapTextList f st (leavesAll items)).1 = leavesAll items) :
    (mapTextsIn f st items).1 = items := by
  match items with
  | [] => rfl
  | o :: os =>
    rw [leavesAll, mapTextList_append] at h
    obtain ⟨ho, hos⟩ := List.append_inj h (length_mapTextList f st _)
    rw [mapTextList_leaves f st o] at hos
    have ho := mapTexts_eq_self ho
    have hos := mapTextsIn_eq_self hos
    simp only [mapTextsIn, ho, hos]

end

/-- The clean-up leaves no doubled pair where two texts meet, takes at most the first character of
each text and nothing else, and has nothing left to do. -/
theorem dedupePunctuation_of_leaves {o : Output} (h : ∀ s ∈ o.leaves, ¬BeginsDoubled s) :
    (o.dedupePunctuation.leaves.filter (!·.isEmpty)).IsChain (fun s t => ¬Doubles s t) ∧
      o.dedupePunctuation.outline = o.outline ∧
      List.Forall₂ Trimmed o.leaves o.dedupePunctuation.leaves ∧
      o.dedupePunctuation.dedupePunctuation = o.dedupePunctuation := by
  have hleaves : o.dedupePunctuation.leaves = (mapTextList dedupeText none o.leaves).1 :=
    leaves_mapTexts dedupeText none o
  have hundoubled : Undoubled none o.dedupePunctuation.leaves := hleaves ▸ undoubled_mapTextList h
  refine ⟨(isChain_of_undoubled hundoubled).1, outline_mapTexts dedupeText none o, ?_, ?_⟩
  · rw [hleaves]
    exact forall₂_trimmed_mapTextList o.leaves
  · exact mapTexts_eq_self (mapTextList_of_undoubled hundoubled)

theorem dedupePunctuation_of_question :
    let o := seq [text "Why?", formatted {} true none (text "."), seq [text ". ", text " So"]]
    (∀ s ∈ o.leaves, ¬BeginsDoubled s) ∧ o.dedupePunctuation.leaves = ["Why?", "", " ", "So"] ∧
      o.dedupePunctuation.dedupePunctuation = o.dedupePunctuation := by
  have hleaves : ∀ s ∈ (seq [text "Why?", formatted {} true none (text "."),
      seq [text ". ", text " So"]]).leaves, ¬BeginsDoubled s := by decide
  exact ⟨hleaves, by decide, (dedupePunctuation_of_leaves hleaves).2.2.2⟩

end Citeproc.Output
