import Citeproc.Proofs.Text.Cuts
import Citeproc.Proofs.Text.Letters
import Citeproc.Text.Cased

namespace Citeproc.Text

variable {cs ds : List Char} {b c : Char}

def MeetsAtBlank (cs ds : List Char) : Prop :=
  ∀ c ∈ cs.getLast?, ∀ d ∈ ds.head?, isBlank c = true ∨ isBlank d = true

instance (cs ds : List Char) : Decidable (MeetsAtBlank cs ds) :=
  inferInstanceAs (Decidable (∀ c ∈ cs.getLast?, ∀ d ∈ ds.head?, isBlank c = true ∨ isBlank d = true))

def CutAtBlanks : List (List Char) → Prop
  | [] => True
  | piece :: pieces => MeetsAtBlank piece pieces.flatten ∧ CutAtBlanks pieces

instance decidableCutAtBlanks : DecidablePred CutAtBlanks
  | [] => isTrue trivial
  | _ :: pieces => @instDecidableAnd _ _ _ (decidableCutAtBlanks pieces)

/-- A change of a text that goes on afresh behind each blank. -/
structure RestartsAtBlanks (change : List Char → List Char) : Prop where
  nil : change [] = []
  append_blank : ∀ cs b ds, isBlank b = true → change (cs ++ b :: ds) = change cs ++ b :: change ds

namespace RestartsAtBlanks

variable {change : List Char → List Char} (h : RestartsAtBlanks change)

include h

theorem append (hmeet : MeetsAtBlank cs ds) : change (cs ++ ds) = change cs ++ change ds := by
  rcases List.eq_nil_or_concat' cs with rfl | ⟨front, c, rfl⟩
  · rw [List.nil_append, h.nil, List.nil_append]
  cases ds with
  | nil => rw [List.append_nil, h.nil, List.append_nil]
  | cons d ds =>
    obtain hc | hd := hmeet c (by simp) d (by simp)
    · have hfront := h.append_blank front c [] hc
      rw [h.nil] at hfront
      rw [List.append_assoc, List.singleton_append, h.append_blank front c (d :: ds) hc, hfront,
        List.append_assoc, List.singleton_append]
    · have hback := h.append_blank [] d ds hd
      rw [h.nil, List.nil_append, List.nil_append] at hback
      rw [h.append_blank _ d ds hd, hback]

theorem flatten {pieces : List (List Char)} (hcut : CutAtBlanks pieces) :
    change pieces.flatten = (pieces.map change).flatten := by
  induction pieces with
  | nil => exact h.nil
  | cons piece pieces ih =>
    rw [List.flatten_cons, h.append hcut.1, ih hcut.2, List.map_cons, List.flatten_cons]

end RestartsAtBlanks

theorem cutAtBlanks_append {before after : List (List Char)} (h : CutAtBlanks (before ++ after)) :
    MeetsAtBlank before.flatten after.flatten ∧ CutAtBlanks after := by
  induction before with
  | nil => exact ⟨fun c hc => by simp at hc, h⟩
  | cons piece before ih =>
    rw [List.cons_append] at h
    obtain ⟨hpiece, hrest⟩ := h
    obtain ⟨hbefore, hafter⟩ := ih hrest
    refine ⟨fun c hc d hd => ?_, hafter⟩
    rw [List.flatten_append] at hpiece
    rw [List.flatten_cons] at hc
    cases hflatten : before.flatten with
    | nil =>
      rw [hflatten, List.append_nil] at hc
      exact hpiece c hc d (by rwa [hflatten, List.nil_append])
    | cons e rest =>
      rw [List.getLast?_append_of_ne_nil piece (hflatten ▸ List.cons_ne_nil e rest)] at hc
      exact hbefore c hc d hd

section Lower

theorem lowerChars_of_not_isLetter (h : isLetter c = false) : lowerChars c = [c] := by
  by_contra hne
  exact Bool.false_ne_true (h.symm.trans (isLetter_of_lowerChars_ne c hne))

theorem isLetter_of_isBlank (h : isBlank b = true) : isLetter b = false :=
  (Bool.or_eq_false_iff.mp (isAlphanumeric_of_isBlank h)).1

theorem meetsCased_append_blank (h : isBlank b = true) (cs ds : List Char) :
    meetsCased (cs ++ b :: ds) = meetsCased cs := by
  induction cs with
  | nil => simp [meetsCased, isCaseIgnorable_of_isBlank h, isCased_of_isBlank h]
  | cons c cs ih =>
    cases hc : isCaseIgnorable c with
    | true => simpa [meetsCased, hc] using ih
    | false => simp [meetsCased, hc]

theorem lowerFrom_append_blank (h : isBlank b = true) (before older cs : List Char) :
    lowerFrom (before ++ b :: older) cs = lowerFrom before cs := by
  induction cs generalizing before with
  | nil => rfl
  | cons c cs ih =>
    rw [lowerFrom, lowerFrom, meetsCased_append_blank h, ← List.cons_append, ih]

theorem lowerFrom_blank (h : isBlank b = true) (before ds : List Char) :
    lowerFrom before (b :: ds) = b :: lower ds := by
  have hsigma : (b == 'Σ') = false := by
    rw [beq_eq_false_iff_ne]
    rintro rfl
    exact absurd h (by decide +kernel)
  rw [lowerFrom, hsigma, if_neg Bool.false_ne_true, lowerChars_of_not_isLetter (isLetter_of_isBlank h),
    List.singleton_append, ← List.nil_append (b :: before), lowerFrom_append_blank h, lower]

theorem restartsAtBlanks_lower : RestartsAtBlanks lower where
  nil := rfl
  append_blank cs b ds hb := by
    suffices ∀ before, lowerFrom before (cs ++ b :: ds) =
        lowerFrom before cs ++ b :: lower ds from this []
    intro before
    induction cs generalizing before with
    | nil => exact lowerFrom_blank hb before ds
    | cons c cs ih =>
      rw [List.cons_append, lowerFrom, lowerFrom, meetsCased_append_blank hb, ih, List.append_assoc]

end Lower

section Words

theorem mapWordsFrom_append_blank (h : isBlank b = true) (f : Nat → List Char → List Char) (index : Nat)
    (word cs ds : List Char) : mapWordsFrom f index word (cs ++ b :: ds) =
      mapWordsFrom f index word cs ++
        b :: mapWordsFrom f (index + (wordsFrom word cs).length) [] ds := by
  induction cs generalizing index word with
  | nil => cases word <;> simp [mapWordsFrom, wordsFrom, h]
  | cons c cs ih =>
    rw [List.cons_append, mapWordsFrom, mapWordsFrom, wordsFrom]
    split
    · split
      · rw [ih, List.cons_append]
      · rw [ih, List.append_assoc, List.cons_append, List.length_cons, Nat.add_assoc, Nat.add_comm 1]
    · rw [ih]

theorem mapWordsFrom_congr {f g : Nat → List Char → List Char} {i j : Nat}
    (h : ∀ k word, f (i + k) word = g (j + k) word) (word cs : List Char) :
    mapWordsFrom f i word cs = mapWordsFrom g j word cs := by
  induction cs generalizing i j word with
  | nil =>
    have hword := h 0 word.reverse
    simp only [Nat.add_zero] at hword
    rw [mapWordsFrom, mapWordsFrom, hword]
  | cons c cs ih =>
    have hword := h 0 word.reverse
    have hnext : ∀ k word, f (i + 1 + k) word = g (j + 1 + k) word := fun k word => by
      rw [Nat.add_assoc, Nat.add_assoc, Nat.add_comm 1, h]
    simp only [Nat.add_zero] at hword
    rw [mapWordsFrom, mapWordsFrom, hword, ih h, ih hnext, ih h]

theorem restartsAtBlanks_mapWords (f : List Char → List Char) :
    RestartsAtBlanks (mapWords fun _ => f) where
  nil := rfl
  append_blank cs b ds hb := by
    have hrest := mapWordsFrom_congr (f := fun _ => f) (g := fun _ => f)
      (i := 0 + (wordsFrom [] cs).length) (j := 0) (fun _ _ => rfl) [] ds
    rw [mapWords, mapWordsFrom_append_blank hb, hrest]
    rfl

end Words

section Capitals

theorem capitalize_append_of_any (h : cs.any isLetter = true) (ds : List Char) :
    capitalize (cs ++ ds) = capitalize cs ++ ds := by
  induction cs with
  | nil => cases h
  | cons c cs ih =>
    rw [List.cons_append, capitalize, capitalize]
    split
    · rw [List.append_assoc]
    · next hc => rw [ih (by simpa [hc] using h), List.cons_append]

theorem capitalize_append_of_not_any (h : cs.any isLetter = false) (ds : List Char) :
    capitalize (cs ++ ds) = cs ++ capitalize ds := by
  induction cs with
  | nil => rfl
  | cons c cs ih =>
    obtain ⟨hc, hcs⟩ : isLetter c = false ∧ cs.any isLetter = false := by simpa using h
    rw [List.cons_append, capitalize, hc, if_neg Bool.false_ne_true, ih hcs, List.cons_append]

theorem capitalize_of_not_any (h : cs.any isLetter = false) : capitalize cs = cs := by
  have hnil := capitalize_append_of_not_any h []
  rwa [List.append_nil, capitalize, List.append_nil] at hnil

theorem exists_first_letter (h : cs.any isLetter = true) : ∃ before c after, cs = before ++ c :: after ∧
    before.any isLetter = false ∧ isLetter c = true ∧
      capitalize cs = before ++ (upperChars c ++ after) := by
  obtain ⟨c, hc⟩ := Option.isSome_iff_exists.mp (List.find?_isSome.mpr (List.any_eq_true.mp h))
  obtain ⟨hletter, before, after, rfl, hbefore⟩ := List.find?_eq_some_iff_append.mp hc
  have hnone : before.any isLetter = false := by simpa using hbefore
  refine ⟨before, c, after, rfl, hnone, hletter, ?_⟩
  rw [capitalize_append_of_not_any hnone, capitalize, hletter, if_pos rfl]

end Capitals

section Title

def titleWord (first : Bool) (word : List Char) : List Char :=
  if word.any isUppercase then word
  else if !first && minorWords.contains (word.filter isAlphanumeric) then word
  else capitalize word

structure IsMinor (word : List Char) : Prop where
  lowercase : word.any isUppercase = false
  contains : minorWords.contains (word.filter isAlphanumeric) = true

instance (word : List Char) : Decidable (IsMinor word) :=
  decidable_of_iff (word.any isUppercase = false ∧
    minorWords.contains (word.filter isAlphanumeric) = true)
    ⟨fun h => ⟨h.1, h.2⟩, fun h => ⟨h.1, h.2⟩⟩

theorem titleCase_eq (cs : List Char) (atStart : Bool) :
    titleCase cs atStart = mapWords (fun index => titleWord (index == 0 && atStart)) cs := by
  have hwords : ∀ index word, (if word.any isUppercase then word
      else if (index != 0 || !atStart) && minorWords.contains (word.filter isAlphanumeric) then word
      else capitalize word) = titleWord (index == 0 && atStart) word := by
    intro index word
    rw [titleWord, Bool.not_and, bne]
  exact congrArg (mapWords · cs) (funext fun index => funext (hwords index))

theorem titleCase_false (cs : List Char) :
    titleCase cs false = mapWords (fun _ => titleWord false) cs := by
  rw [titleCase_eq]
  simp only [Bool.and_false]

theorem restartsAtBlanks_titleCase : RestartsAtBlanks (titleCase · false) := by
  have h := restartsAtBlanks_mapWords (titleWord false)
  refine ⟨rfl, fun cs b ds hb => ?_⟩
  rw [titleCase_false, titleCase_false, titleCase_false, h.append_blank cs b ds hb]

theorem mapWordsFrom_titleWord (atStart : Bool) (index : Nat) (word cs : List Char) :
    mapWordsFrom (fun index => titleWord (index == 0 && atStart)) (index + 1) word cs =
      mapWordsFrom (fun _ => titleWord false) (index + 1) word cs := by
  have hlater : ∀ k word, titleWord (index + 1 + k == 0 && atStart) word = titleWord false word := by
    intro k word
    rw [beq_eq_false_iff_ne.mpr (by omega), Bool.false_and]
  exact mapWordsFrom_congr (f := fun index => titleWord (index == 0 && atStart))
    (g := fun _ => titleWord false) hlater word cs

theorem capitalize_ne_of_isMinor {word : List Char} (h : IsMinor word) : capitalize word ≠ word := by
  have hminor : ∀ minor ∈ minorWords, ∃ c ∈ minor.head?, isLetter c = true ∧ upperChars c ≠ [c] := by
    decide +kernel
  obtain ⟨c, hc, hletter, hupper⟩ := hminor _ (List.contains_iff_mem.mp h.contains)
  rw [List.head?_filter] at hc
  obtain ⟨-, before, after, rfl, hbefore⟩ := List.find?_eq_some_iff_append.mp hc
  have hnone : before.any isLetter = false := by
    rw [List.any_eq_false]
    intro d hd hletter
    have hd := hbefore d hd
    simp [isAlphanumeric, hletter] at hd
  rw [capitalize_append_of_not_any hnone, capitalize, hletter, if_pos rfl]
  intro hsame
  have hforms : upperChars c ++ after = [c] ++ after := List.append_cancel_left hsame
  exact hupper (List.append_cancel_right hforms)

theorem titleWord_true_eq_iff {word : List Char} :
    titleWord true word = titleWord false word ↔ ¬IsMinor word := by
  constructor
  · intro hsame hminor
    rw [titleWord, titleWord, hminor.lowercase, hminor.contains] at hsame
    exact capitalize_ne_of_isMinor hminor hsame
  · intro hminor
    rw [titleWord, titleWord]
    split
    · rfl
    · next hcase =>
      have hcontains : minorWords.contains (word.filter isAlphanumeric) = false := by
        rw [Bool.eq_false_iff]
        exact fun hcontains => hminor ⟨Bool.eq_false_iff.mpr hcase, hcontains⟩
      rw [hcontains]
      rfl

theorem mapWordsFrom_titleWord_eq_iff (word cs : List Char) :
    mapWordsFrom (fun index => titleWord (index == 0 && true)) 0 word cs =
        mapWordsFrom (fun _ => titleWord false) 0 word cs ↔
      ∀ first ∈ (wordsFrom word cs).head?, ¬IsMinor first := by
  induction cs generalizing word with
  | nil =>
    rw [mapWordsFrom, mapWordsFrom, wordsFrom]
    cases word with
    | nil => simp
    | cons c word => simpa using titleWord_true_eq_iff
  | cons c cs ih =>
    rw [mapWordsFrom, mapWordsFrom, wordsFrom]
    split
    · split
      · rw [List.cons_inj_right, ih]
      · rw [mapWordsFrom_titleWord, List.append_left_inj]
        simpa using titleWord_true_eq_iff
    · exact ih (c :: word)

theorem titleCase_true_eq_iff : titleCase cs true = titleCase cs false ↔
    ∀ word ∈ (wordsFrom [] cs).head?, ¬IsMinor word := by
  rw [titleCase_eq, titleCase_false]
  exact mapWordsFrom_titleWord_eq_iff [] cs

theorem mapWordsFrom_of_not_any {f : Nat → List Char → List Char}
    (hf : ∀ index word, word.any isAlphanumeric = false → f index word = word) (index : Nat)
    {word : List Char} (hword : word.any isAlphanumeric = false) (hcs : cs.any isAlphanumeric = false) :
    mapWordsFrom f index word cs = word.reverse ++ cs := by
  induction cs generalizing index word with
  | nil =>
    rw [mapWordsFrom, hf index word.reverse (by simpa using hword), List.append_nil]
    cases word <;> rfl
  | cons c cs ih =>
    obtain ⟨hc, hcs⟩ : isAlphanumeric c = false ∧ cs.any isAlphanumeric = false := by simpa using hcs
    rw [mapWordsFrom, hf index word.reverse (by simpa using hword), ih index rfl hcs,
      ih (index + 1) rfl hcs,
      ih index (by rw [List.any_cons, hc, hword]; rfl) hcs]
    cases word <;> simp

theorem not_any_isLetter (h : cs.any isAlphanumeric = false) : cs.any isLetter = false := by
  rw [List.any_eq_false] at h ⊢
  intro c hc hletter
  have halphanumeric := h c hc
  rw [isAlphanumeric, hletter] at halphanumeric
  exact halphanumeric rfl

theorem titleCase_of_not_any (h : cs.any isAlphanumeric = false) (atStart : Bool) :
    titleCase cs atStart = cs := by
  rw [titleCase_eq]
  refine mapWordsFrom_of_not_any (fun index word hword => ?_) 0 rfl h
  rw [titleWord, capitalize_of_not_any (not_any_isLetter hword), ite_self, ite_self]

theorem wordsFrom_eq_nil_iff {word : List Char} :
    wordsFrom word cs = [] ↔ word = [] ∧ cs.all isBlank = true := by
  induction cs generalizing word with
  | nil => cases word <;> simp [wordsFrom]
  | cons c cs ih =>
    rw [wordsFrom]
    split
    · next hc => cases word <;> simp [ih, hc]
    · next hc => simp [ih, hc]

theorem mapWordsFrom_eq_titleCase (atStart : Bool) (words ds : List Char) :
    mapWordsFrom (fun index => titleWord (index == 0 && atStart)) (wordsFrom [] words).length [] ds =
      titleCase ds (atStart && words.all isBlank) := by
  rw [titleCase_eq, mapWords]
  cases hlength : (wordsFrom [] words).length with
  | zero =>
    rw [(wordsFrom_eq_nil_iff.mp (List.length_eq_zero_iff.mp hlength)).2, Bool.and_true]
  | succ n =>
    have hblank : words.all isBlank = false := by
      rw [Bool.eq_false_iff]
      intro hblank
      rw [wordsFrom_eq_nil_iff.mpr ⟨rfl, hblank⟩] at hlength
      cases hlength
    rw [mapWordsFrom_titleWord, hblank]
    simp only [Bool.and_false]
    exact mapWordsFrom_congr (f := fun _ => titleWord false) (g := fun _ => titleWord false)
      (fun _ _ => rfl) [] ds

theorem titleCase_append_blank (hb : isBlank b = true) (cs ds : List Char) (atStart : Bool) :
    titleCase (cs ++ b :: ds) atStart =
      titleCase cs atStart ++ b :: titleCase ds (atStart && cs.all isBlank) := by
  rw [titleCase_eq, mapWords, mapWordsFrom_append_blank hb, Nat.zero_add, mapWordsFrom_eq_titleCase,
    titleCase_eq cs, mapWords]

theorem titleCase_append (hmeet : MeetsAtBlank cs ds) (atStart : Bool) :
    titleCase (cs ++ ds) atStart = titleCase cs atStart ++ titleCase ds (atStart && cs.all isBlank) := by
  have hnil : ∀ atStart, titleCase [] atStart = [] := fun _ => rfl
  rcases List.eq_nil_or_concat' cs with rfl | ⟨front, c, rfl⟩
  · rw [List.all_nil, Bool.and_true]
    rfl
  cases ds with
  | nil => rw [List.append_nil, hnil, List.append_nil]
  | cons d ds =>
    obtain hc | hd := hmeet c (by simp) d (by simp)
    · rw [List.append_assoc, List.singleton_append, titleCase_append_blank hc, titleCase_append_blank hc,
        List.append_assoc, List.all_append, List.all_cons, hc]
      simp [hnil]
    · have hcons := titleCase_append_blank hd [] ds (atStart && (front ++ [c]).all isBlank)
      rw [List.all_nil, Bool.and_true, hnil, List.nil_append, List.nil_append] at hcons
      rw [titleCase_append_blank hd, hcons]

end Title

end Citeproc.Text
