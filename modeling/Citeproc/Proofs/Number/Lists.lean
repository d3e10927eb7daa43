import Citeproc.Number.Basic
import Citeproc.Proofs.Text.Cuts
import Citeproc.Proofs.Text.Numerals

namespace Citeproc.Number

def separators : List (List Char) := [['-'], ['–'], [','], ['&'], ['a', 'n', 'd']]

theorem isBlank_of_mem_separators : ∀ s ∈ separators, ∀ c ∈ s, Text.isBlank c = false := by
  have hall : separators.all (·.all (!Text.isBlank ·)) = true := by decide +kernel
  simpa only [List.all_eq_true, Bool.not_eq_true'] using hall

theorem isDecimalDigit_of_mem_separators : ∀ s ∈ separators, ∀ c ∈ s, Text.isDecimalDigit c = false := by
  have hall : separators.all (·.all (!Text.isDecimalDigit ·)) = true := by decide +kernel
  simpa only [List.all_eq_true, Bool.not_eq_true'] using hall

theorem ne_nil_of_mem_separators : ∀ s ∈ separators, s ≠ [] := by decide

theorem afterSeparator?_eq_some_iff {cs rest : List Char} :
    afterSeparator? cs = some rest ↔ ∃ s ∈ separators, cs = s ++ rest := by
  constructor
  · intro h
    unfold afterSeparator? at h
    split at h
    · obtain rfl := Option.some.inj h
      exact ⟨['a', 'n', 'd'], by decide, rfl⟩
    · next c cs _ =>
      split at h
      · next hc =>
        obtain rfl := Option.some.inj h
        refine ⟨[c], ?_, rfl⟩
        simp only [isSeparator, Bool.or_eq_true, beq_iff_eq] at hc
        rcases hc with ((rfl | rfl) | rfl) | rfl <;> decide
      · cases h
    · cases h
  · rintro ⟨s, hs, rfl⟩
    simp only [separators, List.mem_cons, List.not_mem_nil, or_false] at hs
    rcases hs with rfl | rfl | rfl | rfl | rfl <;> rfl

structure Joint where
  before : List Char
  separator : List Char
  after : List Char

@[mk_iff]
structure Joint.WellFormed (j : Joint) : Prop where
  before : ∀ c ∈ j.before, Text.isBlank c = true
  separator : j.separator ∈ separators
  after : ∀ c ∈ j.after, Text.isBlank c = true

instance (j : Joint) : Decidable j.WellFormed :=
  decidable_of_iff
    (j.before.all Text.isBlank = true ∧ j.separator ∈ separators ∧ j.after.all Text.isBlank = true)
    (by simp only [List.all_eq_true, j.wellFormed_iff])

def Joint.chars (j : Joint) : List Char := j.before ++ (j.separator ++ j.after)

def Joint.shown (j : Joint) : List Char := if j.separator = ['-'] then ['–'] else j.chars

def IsRun (cs : List Char) : Prop := cs ≠ [] ∧ ∀ c ∈ cs, Text.isDecimalDigit c = true

instance (cs : List Char) : Decidable (IsRun cs) :=
  decidable_of_iff (cs ≠ [] ∧ cs.all Text.isDecimalDigit = true) (by rw [IsRun, List.all_eq_true])

structure NumberList where
  leading : List Char
  first : List Char
  others : List (Joint × List Char)
  trailing : List Char

namespace NumberList

@[mk_iff]
structure WellFormed (l : NumberList) : Prop where
  leading : ∀ c ∈ l.leading, Text.isBlank c = true
  first : IsRun l.first
  others : ∀ p ∈ l.others, p.1.WellFormed ∧ IsRun p.2
  trailing : ∀ c ∈ l.trailing, Text.isBlank c = true

instance (l : NumberList) : Decidable l.WellFormed :=
  decidable_of_iff
    (l.leading.all Text.isBlank = true ∧ IsRun l.first ∧ (∀ p ∈ l.others, p.1.WellFormed ∧ IsRun p.2) ∧
      l.trailing.all Text.isBlank = true)
    (by simp only [List.all_eq_true, l.wellFormed_iff])

def runs (l : NumberList) : List (List Char) := l.first :: l.others.map (·.2)

def writeOthers (joint : Joint → List Char) (run : List Char → List Char) (trailing : List Char) :
    List (Joint × List Char) → List Char
  | [] => trailing
  | (j, cs) :: others => joint j ++ (run cs ++ writeOthers joint run trailing others)

def write (joint : Joint → List Char) (run : List Char → List Char) (l : NumberList) : List Char :=
  l.leading ++ (run l.first ++ writeOthers joint run l.trailing l.others)

def chars (l : NumberList) : List Char := l.write Joint.chars id

end NumberList

theorem IsRun.isBlank {run : List Char} (h : IsRun run) : ∀ c ∈ run, Text.isBlank c = false := by
  intro c hc
  by_contra hblank
  have hdigit := Text.isDecimalDigit_of_isBlank (by simpa using hblank)
  rw [h.2 c hc] at hdigit
  cases hdigit

theorem Joint.WellFormed.isDecimalDigit {j : Joint} (h : j.WellFormed) :
    ∀ c ∈ j.chars, Text.isDecimalDigit c = false := by
  intro c hc
  simp only [Joint.chars, List.mem_append] at hc
  rcases hc with hc | hc | hc
  · exact Text.isDecimalDigit_of_isBlank (h.before c hc)
  · exact isDecimalDigit_of_mem_separators _ h.separator c hc
  · exact Text.isDecimalDigit_of_isBlank (h.after c hc)

theorem Joint.WellFormed.chars_ne_nil {j : Joint} (h : j.WellFormed) : j.chars ≠ [] := by
  simp [Joint.chars, ne_nil_of_mem_separators _ h.separator]

theorem isListFrom_append {fuel : Nat} {leading run rest : List Char}
    (hleading : ∀ c ∈ leading, Text.isBlank c = true) (hrun : IsRun run)
    (hrest : ∀ c ∈ rest.head?, Text.isDecimalDigit c = false) :
    isListFrom (fuel + 1) (leading ++ (run ++ rest)) =
      ((Text.trimLeft rest).isEmpty || (afterSeparator? (Text.trimLeft rest)).any (isListFrom fuel)) := by
  have htrim := Text.trimLeft_append hleading (List.forall_mem_head?_append hrun.1 hrun.isBlank rest)
  have hdigit : (run ++ rest).head?.any Text.isDecimalDigit = true := by
    obtain ⟨c, cs, rfl⟩ := List.exists_cons_of_ne_nil hrun.1
    exact hrun.2 c List.mem_cons_self
  rw [isListFrom, htrim, List.dropWhile_append_stop hrun.2 hrest, hdigit, Bool.true_and]

section Written

variable {leading run trailing : List Char} {others : List (Joint × List Char)}
  (hothers : ∀ p ∈ others, p.1.WellFormed ∧ IsRun p.2)
  (htrailing : ∀ c ∈ trailing, Text.isBlank c = true)

include hothers htrailing
theorem isDecimalDigit_head?_writeOthers :
    ∀ c ∈ (NumberList.writeOthers Joint.chars id trailing others).head?,
      Text.isDecimalDigit c = false := by
  cases others with
  | nil =>
    intro c hc
    exact Text.isDecimalDigit_of_isBlank (htrailing c (List.mem_of_mem_head? hc))
  | cons p others =>
    obtain ⟨⟨hj, -⟩, -⟩ := List.forall_mem_cons.mp hothers
    exact List.forall_mem_head?_append hj.chars_ne_nil hj.isDecimalDigit _

theorem isListFrom_write (hleading : ∀ c ∈ leading, Text.isBlank c = true) (hrun : IsRun run)
    {fuel : Nat}
    (hfuel : others.length < fuel) :
    isListFrom fuel (leading ++ (run ++ NumberList.writeOthers Joint.chars id trailing others)) =
      true := by
  induction others generalizing leading run fuel with
  | nil =>
    obtain ⟨fuel, rfl⟩ := Nat.exists_eq_add_one_of_ne_zero (Nat.ne_zero_of_lt hfuel)
    rw [isListFrom_append hleading hrun (isDecimalDigit_head?_writeOthers hothers htrailing),
      NumberList.writeOthers, Text.trimLeft_blanks htrailing, List.isEmpty_nil, Bool.true_or]
  | cons p others ih =>
    obtain ⟨fuel, rfl⟩ := Nat.exists_eq_add_one_of_ne_zero (Nat.ne_zero_of_lt hfuel)
    obtain ⟨⟨hj, hnext⟩, hrest⟩ := List.forall_mem_cons.mp hothers
    rw [isListFrom_append hleading hrun (isDecimalDigit_head?_writeOthers hothers htrailing)]
    obtain ⟨j, next⟩ := p
    have hseparator : ∀ c ∈ (j.separator ++ (j.after ++ (next ++
        NumberList.writeOthers Joint.chars id trailing others))).head?, Text.isBlank c = false :=
      List.forall_mem_head?_append (ne_nil_of_mem_separators _ hj.separator)
        (isBlank_of_mem_separators _ hj.separator) _
    have hbehind (rest : List Char) : afterSeparator? (j.separator ++ rest) = some rest :=
      afterSeparator?_eq_some_iff.mpr ⟨j.separator, hj.separator, rfl⟩
    rw [NumberList.writeOthers, Joint.chars, List.append_assoc, List.append_assoc, id,
      Text.trimLeft_append hj.before hseparator, hbehind, Option.any_some,
      ih hrest hj.after hnext (Nat.lt_of_succ_lt_succ hfuel), Bool.or_true]

end Written

theorem NumberList.length_others_lt {l : NumberList} (h : l.WellFormed) :
    l.others.length < l.chars.length + 1 := by
  have hothers : ∀ others : List (Joint × List Char), (∀ p ∈ others, p.1.WellFormed ∧ IsRun p.2) →
      others.length ≤ (writeOthers Joint.chars id l.trailing others).length := by
    intro others hothers
    induction others with
    | nil => exact Nat.zero_le _
    | cons p others ih =>
      obtain ⟨⟨hj, -⟩, hrest⟩ := List.forall_mem_cons.mp hothers
      have hpos := List.length_pos_of_ne_nil hj.chars_ne_nil
      have hle := ih hrest
      simp only [writeOthers, List.length_append, List.length_cons]
      omega
  have hle := hothers l.others h.others
  simp only [chars, write, List.length_append]
  omega

theorem exists_of_isListFrom {fuel : Nat} {cs : List Char} (h : isListFrom fuel cs = true) :
    ∃ l : NumberList, l.WellFormed ∧ l.chars = cs := by
  induction fuel generalizing cs with
  | zero => cases h
  | succ fuel ih =>
    rw [isListFrom] at h
    -- The text is cut as it is read: blanks, a run, blanks and what is behind them.
    generalize hleadingEq : cs.takeWhile Text.isBlank = leading
    generalize hbodyEq : Text.trimLeft cs = body at h
    generalize hrunEq : body.takeWhile Text.isDecimalDigit = run
    generalize hrestEq : body.dropWhile Text.isDecimalDigit = rest at h
    generalize hbeforeEq : rest.takeWhile Text.isBlank = before
    generalize hbehindEq : Text.trimLeft rest = behind at h
    have hsplit : leading ++ (run ++ (before ++ behind)) = cs := by
      subst hleadingEq hrunEq hbeforeEq hbehindEq hrestEq hbodyEq
      simp only [Text.trimLeft, List.takeWhile_append_dropWhile]
    have hleading : ∀ c ∈ leading, Text.isBlank c = true := by
      rw [← hleadingEq]
      exact fun _ => List.mem_takeWhile_imp
    have hbefore : ∀ c ∈ before, Text.isBlank c = true := by
      rw [← hbeforeEq]
      exact fun _ => List.mem_takeWhile_imp
    have hrun : IsRun run := by
      rw [← hrunEq]
      refine ⟨?_, fun _ => List.mem_takeWhile_imp⟩
      cases body with
      | nil => simp at h
      | cons c body =>
        have hc : Text.isDecimalDigit c = true := by simp_all
        simp [hc]
    obtain ⟨-, hend⟩ := Bool.and_eq_true_iff.mp h
    rw [Bool.or_eq_true, List.isEmpty_iff, Option.any_eq_true] at hend
    rcases hend with rfl | ⟨after, hafter, hlist⟩
    · refine ⟨⟨leading, run, [], before⟩, ⟨hleading, hrun, by simp, hbefore⟩, ?_⟩
      rw [← hsplit, List.append_nil]
      rfl
    · obtain ⟨separator, hseparator, rfl⟩ := afterSeparator?_eq_some_iff.mp hafter
      obtain ⟨l, hl, rfl⟩ := ih hlist
      refine ⟨⟨leading, run, (⟨before, separator, l.leading⟩, l.first) :: l.others, l.trailing⟩, ?_, ?_⟩
      · exact ⟨hleading, hrun,
          List.forall_mem_cons.mpr ⟨⟨⟨hbefore, hseparator, hl.leading⟩, hl.first⟩, hl.others⟩,
            hl.trailing⟩
      · rw [← hsplit]
        simp [NumberList.chars, NumberList.write, NumberList.writeOthers, Joint.chars]

theorem isList_iff {cs : List Char} :
    isList cs = true ↔ ∃ l : NumberList, l.WellFormed ∧ l.chars = cs := by
  constructor
  · exact exists_of_isListFrom
  · rintro ⟨l, h, rfl⟩
    exact isListFrom_write h.others h.trailing h.leading h.first (NumberList.length_others_lt h)

section Pieces

variable {run between rest : List Char}
theorem pieces_digits_append (hrun : IsRun run)
    (hrest : ∀ c ∈ rest.head?, Text.isDecimalDigit c = false) :
    pieces (run ++ rest) = .digits run :: pieces rest := by
  -- Nothing at the front of `rest` joins the run.
  have hnext : ∀ cs ps, pieces rest ≠ .digits cs :: ps := by
    cases rest with
    | nil => simp [pieces]
    | cons c rest =>
      rw [pieces, hrest c rfl]
      split <;> simp_all
  obtain ⟨hne, hdigits⟩ := hrun
  induction run with
  | nil => exact absurd rfl hne
  | cons c run ih =>
    obtain ⟨hc, hrun⟩ := List.forall_mem_cons.mp hdigits
    rw [List.cons_append, pieces, hc]
    by_cases hlast : run = []
    · subst hlast
      rw [List.nil_append]
      split <;> simp_all
    · rw [ih hlast hrun]

theorem pieces_between_append (hne : between ≠ [])
    (hbetween : ∀ c ∈ between, Text.isDecimalDigit c = false)
    (hrest : ∀ c ∈ rest.head?, Text.isDecimalDigit c = true) :
    pieces (between ++ rest) = .between between :: pieces rest := by
  have hnext : ∀ cs ps, pieces rest ≠ .between cs :: ps := by
    cases rest with
    | nil => simp [pieces]
    | cons c rest =>
      rw [pieces, hrest c rfl]
      split <;> simp_all
  induction between with
  | nil => exact absurd rfl hne
  | cons c between ih =>
    obtain ⟨hc, hbetween⟩ := List.forall_mem_cons.mp hbetween
    rw [List.cons_append, pieces, hc]
    by_cases hlast : between = []
    · subst hlast
      rw [List.nil_append]
      split <;> simp_all
    · rw [ih hlast hbetween]

end Pieces
theorem formatBetween_joint {j : Joint} (h : j.WellFormed) :
    formatBetween j.chars = String.ofList j.shown := by
  have hbare : Text.trim j.chars = j.separator :=
    Text.trim_around h.before (ne_nil_of_mem_separators _ h.separator)
      (isBlank_of_mem_separators _ h.separator) h.after
  have hhyphen : ∀ s ∈ separators, (s.all (· == '-') && s.contains '-') = decide (s = ['-']) := by decide
  rw [formatBetween, hbare, hhyphen _ h.separator, Joint.shown]
  by_cases hj : j.separator = ['-'] <;> simp [hj]

theorem formatBetween_blanks {blanks : List Char} (h : ∀ c ∈ blanks, Text.isBlank c = true) :
    formatBetween blanks = String.ofList blanks := by
  have hbare : Text.trim blanks = [] := by rw [Text.trim, Text.trimLeft_blanks h, Text.trimRight]; rfl
  rw [formatBetween, hbare]
  rfl

section Format

variable (form : NumberForm) (locale : Locale)

theorem formatPieces_trailing {trailing : List Char} (h : ∀ c ∈ trailing, Text.isBlank c = true) :
    formatPieces form locale (pieces trailing) = String.ofList trailing := by
  by_cases hne : trailing = []
  · rw [hne]
    rfl
  · have hdigits : ∀ c ∈ trailing, Text.isDecimalDigit c = false :=
      fun c hc => Text.isDecimalDigit_of_isBlank (h c hc)
    have hpieces : pieces (trailing ++ []) = [.between trailing] :=
      pieces_between_append hne hdigits (by simp)
    rw [← List.append_nil trailing, hpieces, List.append_nil]
    rfl

theorem formatPieces_write {run trailing : List Char} {others : List (Joint × List Char)}
    (hrun : IsRun run)
    (hothers : ∀ p ∈ others, p.1.WellFormed ∧ IsRun p.2)
    (htrailing : ∀ c ∈ trailing, Text.isBlank c = true) :
    formatPieces form locale (pieces (run ++ NumberList.writeOthers Joint.chars id trailing others)) =
      String.ofList ((formatRun form locale run).toList ++
        NumberList.writeOthers Joint.shown
          (fun cs => (formatRun form locale cs).toList) trailing others) := by
  induction others generalizing run with
  | nil =>
    rw [pieces_digits_append hrun (isDecimalDigit_head?_writeOthers hothers htrailing), formatPieces,
      NumberList.writeOthers, NumberList.writeOthers, formatPieces_trailing form locale htrailing]
    simp
  | cons p others ih =>
    obtain ⟨j, next⟩ := p
    obtain ⟨⟨hj, hnext⟩, hrest⟩ := List.forall_mem_cons.mp hothers
    have hdigit := List.forall_mem_head?_append hnext.1 hnext.2
      (NumberList.writeOthers Joint.chars id trailing others)
    have hbehind := ih hnext hrest
    rw [pieces_digits_append hrun (isDecimalDigit_head?_writeOthers hothers htrailing), formatPieces,
      NumberList.writeOthers, id, pieces_between_append hj.chars_ne_nil hj.isDecimalDigit hdigit]
    rw [pieces_digits_append hnext (isDecimalDigit_head?_writeOthers hrest htrailing)] at hbehind ⊢
    rw [formatPieces, formatBetween_joint hj, hbehind, NumberList.writeOthers]
    · simp
    · simp

theorem format_list {l : NumberList} (h : l.WellFormed) : format (String.ofList l.chars) form locale =
    String.ofList (l.write Joint.shown fun run => (formatRun form locale run).toList) := by
  rw [format, String.toList_ofList, if_pos (isList_iff.mpr ⟨l, h, rfl⟩), NumberList.chars,
    NumberList.write, NumberList.write]
  have hnumbers := formatPieces_write form locale h.first h.others h.trailing
  by_cases hleading : l.leading = []
  · rw [hleading]
    exact hnumbers
  · have hdigit := List.forall_mem_head?_append h.first.1 h.first.2
      (NumberList.writeOthers Joint.chars id l.trailing l.others)
    have hblanks : ∀ c ∈ l.leading, Text.isDecimalDigit c = false :=
      fun c hc => Text.isDecimalDigit_of_isBlank (h.leading c hc)
    rw [id, pieces_between_append hleading hblanks hdigit]
    rw [pieces_digits_append h.first (isDecimalDigit_head?_writeOthers h.others h.trailing)] at hnumbers ⊢
    rw [formatPieces, formatBetween_blanks h.leading, hnumbers]
    · simp
    · simp

end Format

end Citeproc.Number
