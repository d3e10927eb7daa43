import Citeproc.Names.Initials
import Citeproc.Proofs.Text.CaseMaps
import Citeproc.Proofs.Text.Cuts
import Mathlib.Data.List.DropRight

/-!
Initials made of initials. A mark that is a period leaves a name of initials as it is just when
blanks and hyphens part them; of initials that are run together only the first is kept.
-/

namespace Citeproc

namespace Initials

open Text

variable {mark part word : List Char} {c d : Char} {hyphen : Bool} {ending : String}

def IsDotted (part : List Char) : Prop := ∃ d, d ≠ '.' ∧ part = [d, '.']

theorem ofPart_of_ne_period (hc : c ≠ '.') (rest : List Char) :
    ofPart mark (c :: rest) = upperChars c ++ mark := by
  rw [ofPart, List.reverse_cons, List.dropWhile_append]
  cases rest.reverse.dropWhile (· == '.') <;> simp [hc]

theorem ofPart_cases (mark part : List Char) :
    ofPart mark part = [] ∨ ∃ c ∈ part.head?, ofPart mark part = upperChars c ++ mark := by
  have hprefix : (part.reverse.dropWhile (· == '.')).reverse <+: part :=
    List.rdropWhile_prefix (· == '.') part
  rw [ofPart]
  split
  · exact .inl rfl
  · next c rest hcut =>
    obtain ⟨suffix, rfl⟩ := hcut ▸ hprefix
    exact .inr ⟨c, rfl, rfl⟩

theorem ofPart_of_isDotted (h : IsDotted part) (hupper : ∀ c ∈ part, upperChars c = [c]) :
    ofPart ['.'] part = part := by
  obtain ⟨d, hd, rfl⟩ := h
  rw [ofPart_of_ne_period hd, hupper d List.mem_cons_self, List.singleton_append]

theorem isDotted_of_ofPart_eq_self (h : ofPart ['.'] part = part) (hne : part ≠ []) : IsDotted part := by
  obtain hnil | ⟨c, hc, hinitial⟩ := ofPart_cases ['.'] part
  · exact absurd (h.symm.trans hnil) hne
  obtain ⟨rest, rfl⟩ := List.head?_eq_some_iff.mp hc
  -- The first of the characters that stand for the letter is the letter itself.
  have hupper : upperChars c = [c] := by
    obtain ⟨d, forms, hupper⟩ := List.exists_cons_of_ne_nil (upperChars_ne_nil c)
    obtain ⟨rfl, -⟩ := List.cons_eq_cons.mp
      (h.symm.trans (hinitial.trans (congrArg (· ++ ['.']) hupper)))
    exact upperChars_eq_self_of_head? (by rw [hupper, List.head?_cons])
  rw [h, hupper, List.singleton_append] at hinitial
  refine ⟨c, ?_, hinitial⟩
  rintro rfl
  rw [hinitial] at h
  exact absurd h (by decide)

structure IsPlain (c : Char) : Prop where
  upperChars : upperChars c = [c]
  isBlank : isBlank c = false

theorem isPlain_of_mem_ofPart (hpart : ∀ c ∈ part, isBlank c = false ∧ c ≠ '-')
    (hd : d ∈ ofPart ['.'] part) : IsPlain d ∧ d ≠ '-' := by
  obtain hnil | ⟨c, hc, hinitial⟩ := ofPart_cases ['.'] part
  · simp [hnil] at hd
  rw [hinitial, List.mem_append, List.mem_singleton] at hd
  obtain ⟨hblank, hhyphen⟩ := hpart c (List.mem_of_mem_head? hc)
  obtain hd | rfl := hd
  · obtain hself | hforms := upperChars_eq_self_or c
    · obtain rfl : d = c := by simpa [hself] using hd
      exact ⟨⟨hself, hblank⟩, hhyphen⟩
    · exact ⟨⟨(hforms d hd).upperChars, (hforms d hd).isBlank⟩, (hforms d hd).ne_hyphen⟩
  · exact ⟨⟨by decide, by decide⟩, by decide⟩

def parts (word : List Char) : List (List Char) := (splitWhere (· == '-') word).filter (!·.isEmpty)

theorem of_mem_parts (h : part ∈ parts word) : part ≠ [] ∧ ∀ c ∈ part, c ≠ '-' ∧ c ∈ word := by
  obtain ⟨hmem, hne⟩ := List.mem_filter.mp h
  refine ⟨by simpa using hne, fun c hc => ?_⟩
  have hcut := eq_false_of_mem_splitWhere hmem c hc
  exact ⟨by simpa using hcut.1, hcut.2⟩

def hyphens (hyphen : Bool) : List Char := if hyphen then ['-'] else []

theorem ofWord_eq (mark : List Char) (hyphen : Bool) (word : List Char) :
    ofWord mark hyphen word = (hyphens hyphen).intercalate ((parts word).map (ofPart mark)) := rfl

theorem intercalate_splitWhere (h : hyphen = true ∨ '-' ∉ word) :
    (hyphens hyphen).intercalate (splitWhere (· == '-') word) = word := by
  rw [splitWhere_beq]
  cases hyphen with
  | true => exact List.intercalate_splitOn '-'
  | false =>
    have hword : '-' ∉ word := by simpa using h
    rw [List.splitOn_eq_singleton hword, List.intercalate_singleton]

theorem splitWhere_intercalate {parts : List (List Char)} (h : hyphen = true ∨ parts.length ≤ 1)
    (hne : parts ≠ []) (hparts : ∀ part ∈ parts, '-' ∉ part) :
    splitWhere (· == '-') ((hyphens hyphen).intercalate parts) = parts := by
  rw [splitWhere_beq]
  cases hyphen with
  | true => exact List.splitOn_intercalate '-' hparts hne
  | false =>
    obtain ⟨part, rest, rfl⟩ := List.exists_cons_of_ne_nil hne
    obtain rfl : rest = [] := by simpa using h
    rw [List.intercalate_singleton, List.splitOn_eq_singleton (hparts part List.mem_cons_self)]

theorem isPlain_of_mem_ofWord (hword : ∀ c ∈ word, isBlank c = false)
    (hd : d ∈ ofWord ['.'] hyphen word) : IsPlain d ∧ (hyphen = true ∨ d ≠ '-') := by
  rw [ofWord_eq] at hd
  obtain hd | ⟨initial, hinitial, hd⟩ := mem_of_mem_intercalate hd
  · cases hyphen with
    | true =>
      obtain rfl := List.mem_singleton.mp hd
      exact ⟨⟨by decide, by decide⟩, .inl rfl⟩
    | false => cases hd
  · obtain ⟨part, hpart, rfl⟩ := List.mem_map.mp hinitial
    have hpart := (of_mem_parts hpart).2
    exact (isPlain_of_mem_ofPart (fun c hc =>
      ⟨hword c (hpart c hc).2, (hpart c hc).1⟩) hd).imp_right .inr

theorem eq_self_of_map_filter {α : Type} {l : List α} {p : α → Bool} {f : α → α}
    (h : (l.filter p).map f = l) : ∀ x ∈ l, p x = true ∧ f x = x := by
  have hkept : ∀ x ∈ l, p x = true := by
    rw [← List.length_filter_eq_length_iff, ← List.length_map f, h]
  rw [List.filter_eq_self.mpr hkept] at h
  have hfixed : ∀ x ∈ l, f x = id x := List.map_inj_left.mp (h.trans (List.map_id l).symm)
  exact fun x hx => ⟨hkept x hx, hfixed x hx⟩

theorem ofWord_eq_self_iff (hne : word ≠ []) (hword : ∀ c ∈ word, IsPlain c)
    (hhyphen : hyphen = true ∨ '-' ∉ word) :
    ofWord ['.'] hyphen word = word ↔ ∀ part ∈ splitWhere (· == '-') word, IsDotted part := by
  rw [ofWord_eq]
  constructor
  · intro h
    have hlength : hyphen = true ∨ ((parts word).map (ofPart ['.'])).length ≤ 1 := by
      refine hhyphen.imp_right fun hnone => ?_
      rw [parts, splitWhere_beq, List.splitOn_eq_singleton hnone, List.length_map]
      exact List.length_filter_le _ [word]
    have hinitials : (parts word).map (ofPart ['.']) ≠ [] := by
      intro hnil
      rw [hnil] at h
      exact hne h.symm
    have hparts : ∀ initial ∈ (parts word).map (ofPart ['.']), '-' ∉ initial := by
      intro initial hinitial hmem
      obtain ⟨part, hpart, rfl⟩ := List.mem_map.mp hinitial
      have hpart := (of_mem_parts hpart).2
      exact (isPlain_of_mem_ofPart (fun c hc =>
        ⟨(hword c (hpart c hc).2).isBlank, (hpart c hc).1⟩) hmem).2
        rfl
    have hsplit := splitWhere_intercalate hlength hinitials hparts
    rw [h] at hsplit
    intro part hpart
    obtain ⟨hpartne, hpart⟩ := eq_self_of_map_filter hsplit.symm part hpart
    exact isDotted_of_ofPart_eq_self hpart (by simpa using hpartne)
  · intro h
    have hdotted : ∀ part ∈ splitWhere (· == '-') word, part ≠ [] ∧ ofPart ['.'] part = part := by
      intro part hpart
      refine ⟨?_, ofPart_of_isDotted (h part hpart) fun c hc =>
        (hword c (eq_false_of_mem_splitWhere hpart c hc).2).upperChars⟩
      obtain ⟨d, -, rfl⟩ := h part hpart
      exact List.cons_ne_nil _ _
    rw [parts, List.filter_eq_self.mpr fun part hpart => by simpa using (hdotted part hpart).1,
      List.map_congr_left fun part hpart => (hdotted part hpart).2, List.map_id',
      intercalate_splitWhere hhyphen]

def spaces (ending : String) : List Char := if ending.toList.getLast?.any isBlank then [' '] else []

theorem toList_initialsOf (hmark : trimRight ending.toList = ['.']) (given : String) (hyphen : Bool) :
    (initialsOf given ending hyphen).toList = (spaces ending).intercalate
      (((wordsFrom [] given.toList).map (ofWord ['.'] hyphen)).filter (!·.isEmpty)) := by
  rw [initialsOf, String.toList_ofList, hmark]
  rfl

theorem isPlain_of_mem_words {given : String}
    (hword : word ∈ ((wordsFrom [] given.toList).map (ofWord ['.'] hyphen)).filter (!·.isEmpty)) :
    word ≠ [] ∧ ∀ c ∈ word, IsPlain c ∧ (hyphen = true ∨ c ≠ '-') := by
  obtain ⟨hmem, hne⟩ := List.mem_filter.mp hword
  obtain ⟨written, hwritten, rfl⟩ := List.mem_map.mp hmem
  exact ⟨by simpa using hne, fun c hc => isPlain_of_mem_ofWord
    (fun c hc => ((eq_false_of_mem_wordsFrom hwritten).2 c hc).1) hc⟩

theorem exists_words (hmark : trimRight ending.toList = ['.']) (given : String) (hyphen : Bool) :
    ∃ words : List (List Char),
      (initialsOf given ending hyphen).toList = (spaces ending).intercalate words ∧
      (spaces ending = [' '] ∨ words.length ≤ 1) ∧
      ∀ word ∈ words, word ≠ [] ∧ ∀ c ∈ word, IsPlain c ∧ (hyphen = true ∨ c ≠ '-') := by
  rw [toList_initialsOf hmark]
  by_cases hspaced : ending.toList.getLast?.any isBlank = true
  · exact ⟨_, rfl, .inl (if_pos hspaced), fun word hword => isPlain_of_mem_words hword⟩
  · -- Without spaces all initials are one word, if there are any.
    rw [spaces, if_neg hspaced]
    generalize hwords : ((wordsFrom [] given.toList).map (ofWord ['.'] hyphen)).filter (!·.isEmpty) =
      words
    refine ⟨[([] : List Char).intercalate words].filter (!·.isEmpty), ?_, .inr ?_, ?_⟩
    · cases ([] : List Char).intercalate words with
      | nil => rfl
      | cons c initials => exact List.intercalate_singleton.symm
    · exact List.length_filter_le _ [_]
    · intro word hword
      obtain ⟨hmem, hne⟩ := List.mem_filter.mp hword
      obtain rfl := List.mem_singleton.mp hmem
      refine ⟨by simpa using hne, fun c hc => ?_⟩
      obtain hc | ⟨word, hword, hc⟩ := mem_of_mem_intercalate hc
      · cases hc
      · exact (isPlain_of_mem_words (hwords ▸ hword)).2 c hc

theorem initialsOf_eq_self_iff (hmark : trimRight ending.toList = ['.']) (given : String)
    (hyphen : Bool) :
    initialsOf (initialsOf given ending hyphen) ending hyphen = initialsOf given ending hyphen ↔
      ∀ word ∈ wordsFrom [] (initialsOf given ending hyphen).toList,
        ∀ part ∈ splitWhere (· == '-') word, IsDotted part := by
  obtain ⟨words, hjoined, hspaces, hwords⟩ := exists_words hmark given hyphen
  have hblank : ∀ word ∈ words, word ≠ [] ∧ ∀ c ∈ word, isBlank c = false :=
    fun word hword => (hwords word hword).imp_right fun h c hc => (h c hc).1.isBlank
  have hagain : wordsFrom [] (initialsOf given ending hyphen).toList = words := by
    rw [hjoined, wordsFrom_intercalate hspaces hblank]
  have hfixed : ∀ word ∈ words, ofWord ['.'] hyphen word = word ↔
      ∀ part ∈ splitWhere (· == '-') word, IsDotted part := by
    intro word hword
    obtain ⟨hne, hplain⟩ := hwords word hword
    refine ofWord_eq_self_iff hne (fun c hc => (hplain c hc).1) ?_
    cases hyphen with
    | true => exact .inl rfl
    | false => exact .inr fun hmem => by simpa using (hplain '-' hmem).2
  rw [← String.toList_inj, toList_initialsOf hmark, hagain, hjoined]
  constructor
  · intro h word hword
    have hinitials : ∀ initial ∈ (words.map (ofWord ['.'] hyphen)).filter (!·.isEmpty),
        initial ≠ [] ∧ ∀ c ∈ initial, isBlank c = false := by
      intro initial hinitial
      rw [← hagain] at hinitial
      exact (isPlain_of_mem_words hinitial).imp_right fun h c hc => (h c hc).1.isBlank
    have hlength : spaces ending = [' '] ∨
        ((words.map (ofWord ['.'] hyphen)).filter (!·.isEmpty)).length ≤ 1 :=
      hspaces.imp_right ((List.length_filter_le _ _).trans (List.length_map _).le).trans
    have hsame := congrArg (wordsFrom []) h
    rw [wordsFrom_intercalate hlength hinitials, wordsFrom_intercalate hspaces hblank,
      List.filter_map] at hsame
    exact (hfixed word hword).mp (eq_self_of_map_filter hsame word hword).2
  · intro h
    rw [List.map_congr_left fun word hword => (hfixed word hword).mpr (h word hword), List.map_id',
      List.filter_eq_self.mpr fun word hword => by simpa using (hblank word hword).1]

def partsOf (given : String) : List (List (List Char)) :=
  ((wordsFrom [] given.toList).map parts).filter (!·.isEmpty)

structure IsNamed (part : List Char) : Prop where
  ne_nil : part ≠ []
  ne_period : ∀ c ∈ part, part.head? = some c → c ≠ '.'
  isBlank : ∀ c ∈ part, isBlank c = false
  ne_hyphen : ∀ c ∈ part, c ≠ '-'

theorem ne_nil_of_mem_partsOf {given : String} {word : List (List Char)} (h : word ∈ partsOf given) :
    word ≠ [] := by
  simpa using (List.mem_filter.mp h).2

theorem isNamed_of_mem_partsOf {given : String} {word : List (List Char)} (hword : word ∈ partsOf given)
    (hpart : part ∈ word) (hperiod : part.head? ≠ some '.') : IsNamed part := by
  obtain ⟨hmem, -⟩ := List.mem_filter.mp hword
  obtain ⟨written, hwritten, rfl⟩ := List.mem_map.mp hmem
  obtain ⟨hne, hcs⟩ := of_mem_parts hpart
  refine ⟨hne, fun c _ hhead heq => hperiod (heq ▸ hhead), fun c hc => ?_, fun c hc => (hcs c hc).1⟩
  exact ((eq_false_of_mem_wordsFrom hwritten).2 c (hcs c hc).2).1

theorem IsNamed.exists_ofPart (h : IsNamed part) : ∃ c d rest, part.head? = some c ∧
    upperChars c = d :: rest ∧ ofPart ['.'] part = d :: rest ++ ['.'] ∧
    ∀ e ∈ d :: rest, e ≠ '.' ∧ e ≠ '-' ∧ Text.isBlank e = false := by
  obtain ⟨c, tail, rfl⟩ := List.exists_cons_of_ne_nil h.ne_nil
  have hperiod := h.ne_period c List.mem_cons_self rfl
  obtain ⟨d, rest, hupper⟩ := List.exists_cons_of_ne_nil (upperChars_ne_nil c)
  refine ⟨c, d, rest, rfl, hupper, by rw [ofPart_of_ne_period hperiod, hupper], ?_⟩
  rw [← hupper]
  intro e he
  obtain hself | hforms := upperChars_eq_self_or c
  · obtain rfl : e = c := by simpa [hself] using he
    exact ⟨hperiod, h.ne_hyphen e List.mem_cons_self, h.isBlank e List.mem_cons_self⟩
  · exact ⟨(hforms e he).ne_period, (hforms e he).ne_hyphen, (hforms e he).isBlank⟩

def ofParts (hyphen : Bool) (parts : List (List Char)) : List Char :=
  (hyphens hyphen).intercalate (parts.map (ofPart ['.']))

theorem exists_ofParts {word : List (List Char)} (hne : word ≠ []) (hnamed : ∀ part ∈ word, IsNamed part)
    (hyphen : Bool) : (∃ d, [d] <+: ofParts hyphen word ∧ d ≠ '-' ∧ Text.isBlank d = false) ∧
      ['.'] <:+ ofParts hyphen word := by
  constructor
  · obtain ⟨part, parts, rfl⟩ := List.exists_cons_of_ne_nil hne
    obtain ⟨c, d, forms, -, -, hinitial, hforms⟩ := (hnamed part List.mem_cons_self).exists_ofPart
    obtain ⟨rest, hrest⟩ :=
      exists_intercalate_cons (hyphens hyphen) (ofPart ['.'] part) (parts.map (ofPart ['.']))
    rw [ofParts, List.map_cons, hrest, hinitial]
    exact ⟨d, ⟨forms ++ ['.'] ++ rest, rfl⟩, (hforms d List.mem_cons_self).2⟩
  · refine suffix_intercalate (by simpa using hne) fun initial hinitial => ?_
    obtain ⟨part, hpart, rfl⟩ := List.mem_map.mp hinitial
    obtain ⟨c, d, forms, -, -, hinitial, -⟩ := (hnamed part hpart).exists_ofPart
    exact hinitial ▸ List.suffix_append _ _

theorem toList_initialsOf_partsOf (hmark : trimRight ending.toList = ['.']) {given : String}
    (hnamed : ∀ word ∈ partsOf given, ∀ part ∈ word, IsNamed part) (hyphen : Bool) :
    (initialsOf given ending hyphen).toList =
      (spaces ending).intercalate ((partsOf given).map (ofParts hyphen)) := by
  have hempty : ∀ word ∈ wordsFrom [] given.toList,
      (!(ofWord ['.'] hyphen word).isEmpty) = !(parts word).isEmpty := by
    intro word hword
    by_cases hparts : parts word = []
    · rw [ofWord_eq, hparts]
      rfl
    · have hmem : parts word ∈ partsOf given :=
        List.mem_filter.mpr ⟨List.mem_map_of_mem hword, by simpa using hparts⟩
      obtain ⟨⟨d, ⟨rest, hword⟩, -⟩, -⟩ := exists_ofParts hparts (hnamed _ hmem) hyphen
      have hcons : ofWord ['.'] hyphen word = d :: rest := hword.symm
      rw [hcons, Bool.eq_iff_iff]
      simpa using hparts
  rw [toList_initialsOf hmark, partsOf, List.filter_map, List.filter_map, List.map_map]
  exact congrArg (fun words => (spaces ending).intercalate (words.map (ofWord ['.'] hyphen)))
    (List.filter_congr hempty)

theorem alternate_of_isDotted {cs : List Char} {a b : Char}
    (h : ∀ word ∈ wordsFrom [] cs, ∀ part ∈ splitWhere (· == '-') word, IsDotted part)
    (hmeet : [a, b] <:+: cs) (ha : a ≠ '-' ∧ Text.isBlank a = false)
    (hb : b ≠ '-' ∧ Text.isBlank b = false) : a ≠ '.' ∧ b = '.' := by
  obtain ⟨word, hword, hinword⟩ := exists_infix_splitWhere hmeet ha.2 hb.2
  have hwords : word ∈ wordsFrom [] cs := by
    rw [wordsFrom_nil, ← splitWhere_eq_splitOnP]
    refine List.mem_filter.mpr ⟨hword, ?_⟩
    cases word with
    | nil => simp at hinword
    | cons c word => rfl
  obtain ⟨part, hpart, hinpart⟩ :=
    exists_infix_splitWhere (p := (· == '-')) hinword (by simpa using ha.1) (by simpa using hb.1)
  obtain ⟨d, hd, rfl⟩ := h word hwords part hpart
  obtain ⟨rfl, rfl⟩ : a = d ∧ b = '.' := by simpa using hinpart.eq_of_length rfl
  exact ⟨hd, rfl⟩

theorem isPlain_of_mem_ofParts {word : List (List Char)} (hnamed : ∀ part ∈ word, IsNamed part)
    (hd : d ∈ ofParts hyphen word) : IsPlain d := by
  obtain hd | ⟨initial, hinitial, hd⟩ := mem_of_mem_intercalate hd
  · cases hyphen with
    | true => exact List.mem_singleton.mp hd ▸ ⟨by decide, by decide⟩
    | false => cases hd
  · obtain ⟨part, hpart, rfl⟩ := List.mem_map.mp hinitial
    have hpart := hnamed part hpart
    exact (isPlain_of_mem_ofPart (fun c hc => ⟨hpart.isBlank c hc, hpart.ne_hyphen c hc⟩) hd).1

section Parts

variable {given : String} (hmark : trimRight ending.toList = ['.'])
  (hnamed : ∀ word ∈ partsOf given, ∀ part ∈ word, IsNamed part)

include hmark hnamed

theorem infix_initialsOf {word : List (List Char)} (hword : word ∈ partsOf given) :
    ofParts hyphen word <:+: (initialsOf given ending hyphen).toList := by
  rw [toList_initialsOf_partsOf hmark hnamed]
  exact infix_intercalate (List.mem_map_of_mem hword)

theorem length_upperChars_of_isDotted (h : ∀ word ∈ wordsFrom [] (initialsOf given ending hyphen).toList,
    ∀ part ∈ splitWhere (· == '-') word, IsDotted part) {word : List (List Char)}
    (hword : word ∈ partsOf given) (hpart : part ∈ word) (hc : part.head? = some c) :
    (upperChars c).length = 1 := by
  obtain ⟨c', d, forms, hhead, hupper, hinitial, hforms⟩ := (hnamed word hword part hpart).exists_ofPart
  obtain rfl : c' = c := Option.some.inj (hhead.symm.trans hc)
  rw [hupper]
  cases forms with
  | nil => rfl
  | cons e forms =>
    -- The second of the characters that stand for the letter is no period.
    have hneighbours : [d, e] <:+: ofPart ['.'] part := ⟨[], forms ++ ['.'], by simp [hinitial]⟩
    have hmeet : [d, e] <:+: (initialsOf given ending hyphen).toList :=
      (hneighbours.trans (infix_intercalate (List.mem_map_of_mem hpart))).trans
        (infix_initialsOf hmark hnamed hword)
    have he := hforms e (List.mem_cons_of_mem _ List.mem_cons_self)
    exact absurd (alternate_of_isDotted h hmeet (hforms d List.mem_cons_self).2 he.2).2 he.1

theorem spaces_of_isDotted (h : ∀ word ∈ wordsFrom [] (initialsOf given ending hyphen).toList,
    ∀ part ∈ splitWhere (· == '-') word, IsDotted part) :
    spaces ending = [' '] ∨ (partsOf given).length ≤ 1 := by
  rw [or_iff_not_imp_left]
  intro hspaces
  have hnone : spaces ending = [] := if_neg fun hspaced => hspaces (if_pos hspaced)
  rw [toList_initialsOf_partsOf hmark hnamed, hnone] at h
  match hparts : partsOf given with
  | [] => exact Nat.zero_le 1
  | [_] => exact Nat.le_refl 1
  | first :: second :: rest =>
    have hfirst : first ∈ partsOf given := hparts ▸ List.mem_cons_self
    have hsecond : second ∈ partsOf given := hparts ▸ List.mem_cons_of_mem _ List.mem_cons_self
    obtain ⟨-, hend⟩ := exists_ofParts (ne_nil_of_mem_partsOf hfirst) (hnamed first hfirst) hyphen
    obtain ⟨⟨d, hbegin, hd⟩, -⟩ :=
      exists_ofParts (ne_nil_of_mem_partsOf hsecond) (hnamed second hsecond) hyphen
    rw [hparts] at h
    exact absurd rfl (alternate_of_isDotted h (infix_intercalate_nil hend hbegin _) (by decide) hd).1

theorem hyphens_of_isDotted (h : ∀ word ∈ wordsFrom [] (initialsOf given ending false).toList,
    ∀ part ∈ splitWhere (· == '-') word, IsDotted part) {word : List (List Char)}
    (hword : word ∈ partsOf given) : word.length ≤ 1 := by
  match word, hword with
  | [], _ => exact Nat.zero_le 1
  | [_], _ => exact Nat.le_refl 1
  | first :: second :: rest, hword =>
    obtain ⟨_, _, _, _, _, hfirst, -⟩ := (hnamed _ hword first List.mem_cons_self).exists_ofPart
    obtain ⟨_, d, forms, _, _, hsecond, hforms⟩ :=
      (hnamed _ hword second (List.mem_cons_of_mem _ List.mem_cons_self)).exists_ofPart
    have hend : ['.'] <:+ ofPart ['.'] first := hfirst ▸ List.suffix_append _ _
    have hbegin : [d] <+: ofPart ['.'] second := ⟨forms ++ ['.'], hsecond.symm⟩
    have hneighbours : ['.', d] <:+: ofParts false (first :: second :: rest) :=
      infix_intercalate_nil hend hbegin _
    have hmeet := hneighbours.trans (infix_initialsOf hmark hnamed hword)
    exact absurd rfl (alternate_of_isDotted h hmeet (by decide) (hforms d List.mem_cons_self).2).1

theorem isDotted_of_parted
    (hsingle : ∀ word ∈ partsOf given, ∀ part ∈ word, ∀ c ∈ part.head?, (upperChars c).length = 1)
    (hspaces : spaces ending = [' '] ∨ (partsOf given).length ≤ 1)
    (hhyphen : hyphen = true ∨ ∀ word ∈ partsOf given, word.length ≤ 1) :
    ∀ word ∈ wordsFrom [] (initialsOf given ending hyphen).toList,
      ∀ part ∈ splitWhere (· == '-') word, IsDotted part := by
  have hwords : ∀ initials ∈ (partsOf given).map (ofParts hyphen),
      initials ≠ [] ∧ ∀ c ∈ initials, Text.isBlank c = false := by
    intro initials hinitials
    obtain ⟨word, hword, rfl⟩ := List.mem_map.mp hinitials
    obtain ⟨-, hend⟩ := exists_ofParts (ne_nil_of_mem_partsOf hword) (hnamed word hword) hyphen
    exact ⟨hend.ne_nil (List.cons_ne_nil _ _),
      fun c hc => (isPlain_of_mem_ofParts (hnamed word hword) hc).isBlank⟩
  rw [toList_initialsOf_partsOf hmark hnamed,
    wordsFrom_intercalate (hspaces.imp_right (List.length_map _).le.trans) hwords]
  intro initials hinitials part hpart
  obtain ⟨word, hword, rfl⟩ := List.mem_map.mp hinitials
  have hparts : ∀ initial ∈ word.map (ofPart ['.']), '-' ∉ initial ∧ IsDotted initial := by
    intro initial hinitial
    obtain ⟨part, hpart, rfl⟩ := List.mem_map.mp hinitial
    obtain ⟨c, d, forms, hhead, hupper, hinitial, hforms⟩ := (hnamed word hword part hpart).exists_ofPart
    obtain rfl : forms = [] := by simpa [hupper] using hsingle word hword part hpart c hhead
    obtain ⟨hperiod, hhyphen, -⟩ := hforms d List.mem_cons_self
    rw [hinitial]
    exact ⟨by simpa using hhyphen.symm, d, hperiod, rfl⟩
  have hlength : hyphen = true ∨ (word.map (ofPart ['.'])).length ≤ 1 :=
    hhyphen.imp_right fun h => (List.length_map _).trans_le (h word hword)
  rw [ofParts, splitWhere_intercalate hlength (by simpa using ne_nil_of_mem_partsOf hword)
    fun initial hinitial => (hparts initial hinitial).1] at hpart
  exact (hparts part hpart).2

end Parts

end Initials

open Initials in
/-- With a period as the mark, a name of initials is left as it is just when each of its parts
between blanks and hyphens is a letter and its period. Of a name whose parts begin with no period
the initials are such a name just when each letter has one uppercase form and the initials stand
apart: those of two words by the blank of the mark, those of two parts of a word by their hyphen. -/
theorem initialsOf_initialsOf_eq_iff (given ending : String) (hyphen : Bool)
    (hmark : Text.trimRight ending.toList = ['.']) :
    (initialsOf (initialsOf given ending hyphen) ending hyphen = initialsOf given ending hyphen ↔
      ∀ word ∈ Text.wordsFrom [] (initialsOf given ending hyphen).toList,
        ∀ part ∈ Text.splitWhere (· == '-') word, IsDotted part) ∧
    ((∀ word ∈ partsOf given, ∀ part ∈ word, part.head? ≠ some '.') →
      (initialsOf (initialsOf given ending hyphen) ending hyphen = initialsOf given ending hyphen ↔
        (∀ word ∈ partsOf given, ∀ part ∈ word, ∀ c ∈ part.head?, (Text.upperChars c).length = 1) ∧
          (ending.toList.getLast?.any Text.isBlank = true ∨ (partsOf given).length ≤ 1) ∧
          (hyphen = true ∨ ∀ word ∈ partsOf given, word.length ≤ 1))) := by
  have hdotted := initialsOf_eq_self_iff hmark given hyphen
  refine ⟨hdotted, fun hperiod => hdotted.trans ?_⟩
  have hnamed : ∀ word ∈ partsOf given, ∀ part ∈ word, IsNamed part :=
    fun word hword part hpart => isNamed_of_mem_partsOf hword hpart (hperiod word hword part hpart)
  have hspaced : ending.toList.getLast?.any Text.isBlank = true ↔ spaces ending = [' '] := by
    rw [spaces]
    split <;> simp_all
  rw [hspaced]
  constructor
  · intro h
    refine ⟨fun word hword part hpart c hc =>
      length_upperChars_of_isDotted hmark hnamed h hword hpart hc,
      spaces_of_isDotted hmark hnamed h, ?_⟩
    cases hyphen with
    | true => exact .inl rfl
    | false => exact .inr fun word hword => hyphens_of_isDotted hmark hnamed h hword
  · rintro ⟨hsingle, hspaces, hhyphen⟩
    exact isDotted_of_parted hmark hnamed hsingle hspaces hhyphen

theorem initialsOf_initialsOf_of_spaced : Text.trimRight ". ".toList = ['.'] ∧
    initialsOf (initialsOf "Jean-Pierre Marie" ". " true) ". " true =
      initialsOf "Jean-Pierre Marie" ". " true :=
  ⟨by decide, ((initialsOf_initialsOf_eq_iff "Jean-Pierre Marie" ". " true (by decide)).2 (by decide)).mpr
    ⟨by decide, .inl (by decide), .inl rfl⟩⟩

theorem initialsOf_initialsOf_unspaced :
    initialsOf (initialsOf "John Ronald" "." true) "." true ≠ initialsOf "John Ronald" "." true ∧
      initialsOf "John Ronald" "." true = "J.R." ∧ initialsOf "J.R." "." true = "J." := by
  decide

end Citeproc
