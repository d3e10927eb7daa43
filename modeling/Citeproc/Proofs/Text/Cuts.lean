import Citeproc.Proofs.Runs
import Citeproc.Text.Blank
import Citeproc.Text.Cut

namespace Citeproc.Text

theorem trimLeft_append {blanks rest : List Char} (hblanks : ∀ c ∈ blanks, isBlank c = true)
    (hrest : ∀ c ∈ rest.head?, isBlank c = false) : trimLeft (blanks ++ rest) = rest :=
  List.dropWhile_append_stop hblanks hrest

theorem trimLeft_blanks {blanks : List Char} (hblanks : ∀ c ∈ blanks, isBlank c = true) :
    trimLeft blanks = [] := by
  rw [← List.append_nil blanks]
  exact trimLeft_append hblanks (by simp)

theorem trim_around {before cs after : List Char} (hbefore : ∀ c ∈ before, isBlank c = true)
    (hne : cs ≠ []) (hcs : ∀ c ∈ cs, isBlank c = false) (hafter : ∀ c ∈ after, isBlank c = true) :
    trim (before ++ (cs ++ after)) = cs := by
  have hreverse : ((cs ++ after).reverse).dropWhile isBlank = cs.reverse := by
    rw [List.reverse_append]
    apply List.dropWhile_append_stop
    · exact fun c hc => hafter c (List.mem_reverse.mp hc)
    · intro c hc
      exact hcs c (List.mem_reverse.mp (List.mem_of_mem_head? hc))
  rw [trim, trimLeft_append hbefore (List.forall_mem_head?_append hne hcs after), trimRight, hreverse,
    List.reverse_reverse]

theorem exists_eq_around_trim (cs : List Char) : ∃ before after, cs = before ++ trim cs ++ after ∧
    (∀ c ∈ before, isBlank c = true) ∧ ∀ c ∈ after, isBlank c = true := by
  have hfront : cs.takeWhile isBlank ++ trimLeft cs = cs := List.takeWhile_append_dropWhile
  have hback : trim cs ++ ((trimLeft cs).reverse.takeWhile isBlank).reverse = trimLeft cs := by
    rw [trim, trimRight, ← List.reverse_append, List.takeWhile_append_dropWhile, List.reverse_reverse]
  refine ⟨cs.takeWhile isBlank, ((trimLeft cs).reverse.takeWhile isBlank).reverse, ?_, ?_, ?_⟩
  · rw [List.append_assoc, hback, hfront]
  · exact fun c hc => List.mem_takeWhile_imp hc
  · exact fun c hc => List.mem_takeWhile_imp (List.mem_reverse.mp hc)

theorem mem_trim_iff {c : Char} (hc : ¬isBlank c = true) (cs : List Char) : c ∈ trim cs ↔ c ∈ cs := by
  obtain ⟨before, after, heq, hbefore, hafter⟩ := exists_eq_around_trim cs
  constructor
  · intro h
    rw [heq]
    exact List.mem_append_left _ (List.mem_append_right _ h)
  · intro h
    rw [heq, List.mem_append, List.mem_append] at h
    obtain (h | h) | h := h
    · exact absurd (hbefore c h) hc
    · exact h
    · exact absurd (hafter c h) hc

theorem holds_iff (part cs : List Char) : holds part cs = true ↔ part <:+: cs := by
  induction cs with
  | nil => simp [holds]
  | cons c cs ih => simp [holds, ih, List.infix_cons_iff]

theorem splitWhere_eq_splitOnP (p : Char → Bool) (cs : List Char) : splitWhere p cs = cs.splitOnP p := by
  induction cs with
  | nil => rfl
  | cons c cs ih =>
    rw [splitWhere, List.splitOnP_cons_eq_if_modifyHead, ih]
    cases h : cs.splitOnP p with
    | nil => exact absurd h (List.splitOnP_ne_nil p cs)
    | cons part parts => rfl

theorem splitWhere_beq (d : Char) (cs : List Char) : splitWhere (· == d) cs = cs.splitOn d :=
  splitWhere_eq_splitOnP _ cs

theorem eq_false_of_mem_splitWhere {p : Char → Bool} {cs part : List Char} (h : part ∈ splitWhere p cs) :
    ∀ c ∈ part, p c = false ∧ c ∈ cs := by
  induction cs generalizing part with
  | nil => simp_all [splitWhere]
  | cons d cs ih =>
    rw [splitWhere] at h
    split at h
    · rcases List.mem_cons.mp h with rfl | h
      · simp
      · exact fun c hc => (ih h c hc).imp_right (List.mem_cons_of_mem d)
    · next hd =>
      split at h
      · next hnone => simp_all
      · next part' parts hparts =>
        rcases List.mem_cons.mp h with rfl | h
        · intro c hc
          rcases List.mem_cons.mp hc with rfl | hc
          · exact ⟨by simpa using hd, List.mem_cons_self⟩
          · exact (ih (hparts ▸ List.mem_cons_self) c hc).imp_right (List.mem_cons_of_mem d)
        · exact fun c hc =>
            (ih (hparts ▸ List.mem_cons_of_mem part' h) c hc).imp_right (List.mem_cons_of_mem d)

theorem wordsFrom_eq_filter (word cs : List Char) :
    wordsFrom word cs = ((cs.splitOnP isBlank).modifyHead (word.reverse ++ ·)).filter (!·.isEmpty) := by
  induction cs generalizing word with
  | nil => cases word <;> simp [wordsFrom]
  | cons c cs ih =>
    rw [wordsFrom, List.splitOnP_cons_eq_if_modifyHead]
    split
    · rw [ih []]
      have hid : (cs.splitOnP isBlank).modifyHead (([] : List Char).reverse ++ ·) =
          cs.splitOnP isBlank := by
        cases cs.splitOnP isBlank <;> rfl
      rw [hid]
      cases word <;> simp
    · rw [ih (c :: word), List.modifyHead_modifyHead]
      simp [Function.comp_def]

theorem wordsFrom_nil (cs : List Char) :
    wordsFrom [] cs = (cs.splitOnP isBlank).filter (!·.isEmpty) := by
  rw [wordsFrom_eq_filter]
  cases cs.splitOnP isBlank <;> rfl

theorem eq_false_of_mem_wordsFrom {cs word : List Char} (h : word ∈ wordsFrom [] cs) :
    word ≠ [] ∧ ∀ c ∈ word, isBlank c = false ∧ c ∈ cs := by
  rw [wordsFrom_nil, ← splitWhere_eq_splitOnP] at h
  obtain ⟨hmem, hne⟩ := List.mem_filter.mp h
  exact ⟨by simpa using hne, eq_false_of_mem_splitWhere hmem⟩

theorem wordsFrom_intercalate {separator : List Char} {words : List (List Char)}
    (hseparator : separator = [' '] ∨ words.length ≤ 1)
    (hwords : ∀ word ∈ words, word ≠ [] ∧ ∀ c ∈ word, isBlank c = false) :
    wordsFrom [] (separator.intercalate words) = words := by
  rw [wordsFrom_nil]
  induction words with
  | nil => rfl
  | cons word words ih =>
    obtain ⟨hword, hrest⟩ := List.forall_mem_cons.mp hwords
    have hkept (words : List (List Char)) : (word :: words).filter (!·.isEmpty) =
        word :: words.filter (!·.isEmpty) := List.filter_cons_of_pos (by simpa using hword.1)
    cases words with
    | nil =>
      rw [List.intercalate_singleton, List.splitOnP_eq_singleton hword.2, hkept,
        List.filter_nil]
    | cons next words =>
      obtain rfl | hlength := hseparator
      · rw [List.intercalate_cons_cons, List.append_assoc, List.singleton_append,
          List.splitOnP_append_cons_of_forall_mem hword.2 ' ' (by decide), hkept, ih (.inl rfl) hrest]
      · simp at hlength

theorem exists_infix_splitWhere {p : Char → Bool} {cs : List Char} {a b : Char} (h : [a, b] <:+: cs)
    (ha : p a = false) (hb : p b = false) : ∃ part ∈ splitWhere p cs, [a, b] <:+: part := by
  induction cs with
  | nil => simp at h
  | cons c cs ih =>
    rcases List.infix_cons_iff.mp h with hbegins | hinner
    · obtain ⟨rfl, rest, rfl⟩ := List.cons_prefix_cons.mp hbegins
      rw [List.singleton_append, splitWhere, splitWhere, ha, hb]
      cases splitWhere p rest with
      | nil => exact ⟨_, List.mem_cons_self, List.infix_rfl⟩
      | cons part parts => exact ⟨_, List.mem_cons_self, (List.prefix_append [a, b] part).isInfix⟩
    · obtain ⟨part, hpart, hinpart⟩ := ih hinner
      rw [splitWhere]
      split
      · exact ⟨part, List.mem_cons_of_mem _ hpart, hinpart⟩
      · cases hsplit : splitWhere p cs with
        | nil => simp [hsplit] at hpart
        | cons first parts =>
          rw [hsplit] at hpart
          rcases List.mem_cons.mp hpart with rfl | hpart
          · exact ⟨_, List.mem_cons_self, List.infix_cons hinpart⟩
          · exact ⟨part, List.mem_cons_of_mem _ hpart, hinpart⟩

theorem exists_intercalate_cons (separator word : List Char) (words : List (List Char)) :
    ∃ rest, separator.intercalate (word :: words) = word ++ rest := by
  cases words with
  | nil => exact ⟨[], by simp⟩
  | cons next words => exact ⟨_, by rw [List.intercalate_cons_cons, List.append_assoc]⟩

theorem infix_intercalate {separator word : List Char} {words : List (List Char)}
    (h : word ∈ words) : word <:+: separator.intercalate words := by
  induction words with
  | nil => cases h
  | cons first words ih =>
    rcases List.mem_cons.mp h with rfl | h
    · obtain ⟨rest, hrest⟩ := exists_intercalate_cons separator word words
      exact hrest ▸ List.infix_append_left
    · rw [List.intercalate_cons_of_ne_nil (List.ne_nil_of_mem h)]
      exact List.infix_append_of_infix_right (ih h)

theorem suffix_intercalate {separator part : List Char} {words : List (List Char)} (hne : words ≠ [])
    (h : ∀ word ∈ words, part <:+ word) : part <:+ separator.intercalate words := by
  induction words with
  | nil => exact absurd rfl hne
  | cons word words ih =>
    cases words with
    | nil => exact List.intercalate_singleton ▸ h word List.mem_cons_self
    | cons next words =>
      rw [List.intercalate_cons_cons]
      exact (ih (List.cons_ne_nil _ _) fun w hw => h w (List.mem_cons_of_mem _ hw)).trans
        (List.suffix_append _ _)

theorem infix_intercalate_nil {c d : Char} {first second : List Char} (hfirst : [c] <:+ first)
    (hsecond : [d] <+: second)
    (words : List (List Char)) :
    [c, d] <:+: ([] : List Char).intercalate (first :: second :: words) := by
  obtain ⟨before, rfl⟩ := hfirst
  obtain ⟨after, rfl⟩ := hsecond
  obtain ⟨rest, hrest⟩ := exists_intercalate_cons [] ([d] ++ after) words
  refine ⟨before, after ++ rest, ?_⟩
  rw [List.intercalate_cons_cons, hrest]
  simp

theorem mem_of_mem_intercalate {d : Char} {separator : List Char} {words : List (List Char)}
    (h : d ∈ separator.intercalate words) : d ∈ separator ∨ ∃ word ∈ words, d ∈ word := by
  induction words with
  | nil => simp at h
  | cons word words ih =>
    cases words with
    | nil => exact .inr ⟨word, List.mem_cons_self, by simpa using h⟩
    | cons next words =>
      rw [List.intercalate_cons_cons, List.append_assoc, List.mem_append, List.mem_append] at h
      rcases h with h | h | h
      · exact .inr ⟨word, List.mem_cons_self, h⟩
      · exact .inl h
      · exact (ih h).imp_right fun ⟨word, hword, hd⟩ => ⟨word, List.mem_cons_of_mem _ hword, hd⟩

end Citeproc.Text
