import Citeproc.Proofs.Number.PageCuts
import Citeproc.Proofs.Text.Cuts

namespace Citeproc

namespace Text

theorem toNat_of_isAlpha {c : Char} (h : c.isAlpha = true) : 65 ≤ c.toNat ∧ c.toNat ≤ 122 := by
  have hcase : c.isUpper = true ∨ c.isLower = true := Bool.or_eq_true_iff.mp h
  rcases hcase with hupper | hlower
  · have hbounds : 65 ≤ c.toNat ∧ c.toNat ≤ 90 := of_decide_eq_true hupper
    omega
  · have hbounds : decide (97 ≤ c.toNat) = true ∧ decide (c.toNat ≤ 122) = true :=
      Bool.and_eq_true_iff.mp hlower
    rw [decide_eq_true_iff, decide_eq_true_iff] at hbounds
    omega

theorem isBlank_of_isAlpha {c : Char} (h : c.isAlpha = true) : isBlank c = false := by
  have hbounds := toNat_of_isAlpha h
  have hspace : c ≠ ' ' := by
    rintro rfl
    exact absurd hbounds (by decide)
  rw [isBlank, if_pos (by omega)]
  simp [hspace]
  omega

theorem isAlpha_of_isDigit {c : Char} : c.isDigit = true → c.isAlpha = false :=
  of_isDigit (·.isAlpha = false) (by decide)

end Text

namespace PageRange

structure Abbreviates (first last short : List Char) : Prop where
  ne_nil : short ≠ []
  isDigit : ∀ c ∈ short, c.isDigit = true
  restored : first.take (first.length - short.length) ++ short = last

theorem expandEnd?_eq {first last : List Char} (hfirst : ∀ c ∈ first, c.isDigit = true)
    (hlast : ∀ c ∈ last, c.isDigit = true) :
    expandEnd? first last = some (first.take (first.length - last.length) ++ last) := by
  rw [expandEnd?, Text.byteLength_of_isDigit hfirst, Text.byteLength_of_isDigit hlast]
  split
  · next h => rw [Nat.sub_eq_zero_of_le h, List.take_zero, List.nil_append]
  · rw [Text.cutAt?_of_isDigit hfirst (Nat.sub_le _ _)]
    rfl

theorem Abbreviates.expandEnd? {first last short : List Char} (hfirst : ∀ c ∈ first, c.isDigit = true)
    (h : Abbreviates first last short) : expandEnd? first short = some last := by
  rw [expandEnd?_eq hfirst h.isDigit, h.restored]

theorem take_firstDifference {limit n : Nat} {first last : List Char}
    (hlength : first.length = last.length) (h : n ≤ firstDifference limit first last) :
    first.take n = last.take n := by
  induction first generalizing limit n last with
  | nil => rw [List.length_eq_zero_iff.mp hlength.symm]
  | cons a first ih =>
    obtain ⟨b, last, rfl⟩ := List.exists_of_length_succ last hlength.symm
    cases n with
    | zero => rfl
    | succ n =>
      rw [firstDifference] at h
      split at h
      · next hab =>
        rw [List.take_succ_cons, List.take_succ_cons, eq_of_beq hab]
        exact congrArg (b :: ·) (ih (Nat.succ.inj hlength) (Nat.le_of_succ_le_succ h))
      · omega

section Shown

variable {first last : List Char} (hlast : ∀ c ∈ last, c.isDigit = true) (hne : last ≠ [])
  (hlength : first.length ≤ last.length)

include hlast hne hlength

theorem abbreviates_self : Abbreviates first last last :=
  ⟨hne, hlast, by rw [Nat.sub_eq_zero_of_le hlength, List.take_zero, List.nil_append]⟩

variable (hfirst : ∀ c ∈ first, c.isDigit = true)

include hfirst

theorem abbreviates_minimal? {short : List Char} {least : Nat} (hleast : 0 < least)
    (h : minimal? first last least = some short) : Abbreviates first last short := by
  rw [minimal?_eq hlast, Text.byteLength_of_isDigit hfirst] at h
  obtain rfl := Option.some.inj h
  split
  · next hsame =>
    have hpos : 0 < last.length := List.length_pos_of_ne_nil hne
    have hshared := Nat.min_le_left (firstDifference last.length first last) (last.length - least)
    have hkept := Nat.min_le_right (firstDifference last.length first last) (last.length - least)
    generalize min (firstDifference last.length first last) (last.length - least) = n at hshared hkept
    refine ⟨?_, fun c hc => hlast c (List.mem_of_mem_drop hc), ?_⟩
    · rw [ne_eq, List.drop_eq_nil_iff]
      omega
    · have hn : first.length - (last.drop n).length = n := by
        rw [List.length_drop]
        omega
      rw [hn, take_firstDifference hsame hshared, List.take_append_drop]
  · exact abbreviates_self hlast hne hlength

omit hne in
theorem minimal?_toDigits (hfirstNe : first ≠ []) (least : Nat) :
    minimal? (Nat.toDigits 10 (Nat.ofDigitChars 10 first 0)) last least = some last ∨
      minimal? (Nat.toDigits 10 (Nat.ofDigitChars 10 first 0)) last least =
        minimal? first last least := by
  have hdigits : ∀ c ∈ Nat.toDigits 10 (Nat.ofDigitChars 10 first 0), c.isDigit = true :=
    fun c hc => Nat.isDigit_of_mem_toDigits (by decide) (by decide) hc
  by_cases h : (Nat.toDigits 10 (Nat.ofDigitChars 10 first 0)).length = last.length
  · have hle := Text.length_toDigits_ofDigitChars_le hfirst hfirstNe
    right
    rw [Text.toDigits_ofDigitChars hfirst (by omega)]
  · left
    rw [minimal?_eq hlast, Text.byteLength_of_isDigit hdigits, if_neg h]

theorem abbreviates_chicago? {short : List Char} (hfirstNe : first ≠ [])
    (h : chicago? (Nat.ofDigitChars 10 first 0) last = some short) : Abbreviates first last short := by
  have hself : Abbreviates first last last := abbreviates_self hlast hne hlength
  -- The last page is compared with the number of the first, not with its digits as written.
  have hminimal : ∀ {least short}, 0 < least →
      minimal? (Nat.toDigits 10 (Nat.ofDigitChars 10 first 0)) last least = some short →
      Abbreviates first last short := by
    intro least short hleast hshort
    rcases minimal?_toDigits hlast hlength hfirst hfirstNe least with hall | hsame
    · rw [hall] at hshort
      rwa [← Option.some.inj hshort]
    · exact abbreviates_minimal? hlast hne hlength hfirst hleast (hsame ▸ hshort)
  rw [chicago?, Nat.toString_eq_repr, Nat.toList_repr] at h
  split at h
  · rwa [← Option.some.inj h]
  · dsimp only at h
    split at h
    · exact hminimal (by decide) h
    · obtain ⟨two, htwo, rfl⟩ := Option.map_eq_some_iff.mp h
      split
      · exact hself
      · exact hminimal (by decide) htwo

end Shown

theorem subset_trimLeft (cs : List Char) : Text.trimLeft cs ⊆ cs := (List.dropWhile_sublist _).subset

theorem page?_subset {cs letters digits rest : List Char} (h : page? cs = some (letters, digits, rest)) :
    digits ⊆ cs ∧ rest ⊆ cs := by
  simp only [page?] at h
  split at h
  · cases h
  · simp only [Option.some.injEq, Prod.mk.injEq] at h
    obtain ⟨-, rfl, rfl⟩ := h
    have hrest : cs.dropWhile Char.isAlpha ⊆ cs := (List.dropWhile_sublist _).subset
    constructor
    · exact List.Subset.trans (List.takeWhile_prefix _).subset hrest
    · exact List.Subset.trans (subset_trimLeft _)
        (List.Subset.trans (List.dropWhile_sublist _).subset hrest)

theorem afterDash?_subset {cs rest : List Char} (h : afterDash? cs = some rest) : rest ⊆ cs := by
  unfold afterDash? at h
  split at h
  · obtain rfl := Option.some.inj h
    exact List.subset_cons_self _ _
  · obtain rfl := Option.some.inj h
    exact List.subset_cons_of_subset _ (List.dropWhile_sublist _).subset
  · cases h

structure Range.Ascii (r : Range) : Prop extends r.WellFormed where
  startAscii : ∀ c ∈ r.startDigits, c.isDigit = true
  endAscii : ∀ c ∈ r.endDigits, c.isDigit = true

theorem Range.ascii_of_parse? {cs : List Char} {r : Range}
    (hcs : ∀ c ∈ cs, Text.isDecimalDigit c = true → c.isDigit = true) (h : parse? cs = some r) :
    r.Ascii := by
  have hr := wellFormed_of_parse? h
  obtain ⟨rest, rest', hstart, hdash, hend⟩ := parse?_eq_some h
  obtain ⟨hstartDigits, hrest⟩ := page?_subset hstart
  have hfront := subset_trimLeft cs
  have hrest' : Text.trimLeft rest' ⊆ Text.trimLeft cs :=
    List.Subset.trans (subset_trimLeft rest') (List.Subset.trans (afterDash?_subset hdash) hrest)
  refine ⟨hr, fun c hc => ?_, fun c hc => ?_⟩
  · exact hcs c (hfront (hstartDigits hc)) (hr.startDigits c hc)
  · exact hcs c (hfront (hrest' ((page?_subset hend).1 hc))) (hr.endDigits c hc)

theorem page?_append {letters digits : List Char} (hletters : ∀ c ∈ letters, c.isAlpha = true)
    (hne : digits ≠ []) (hdigits : ∀ c ∈ digits, c.isDigit = true) (rest : List Char)
    (hrest : ∀ c ∈ rest.head?, Text.isDecimalDigit c = false) :
    page? (letters ++ (digits ++ rest)) = some (letters, digits, Text.trimLeft rest) := by
  have hstop : ∀ c ∈ (digits ++ rest).head?, c.isAlpha = false :=
    List.forall_mem_head?_append hne (fun c hc => Text.isAlpha_of_isDigit (hdigits c hc)) rest
  have hdecimal : ∀ c ∈ digits, Text.isDecimalDigit c = true :=
    fun c hc => Text.isDecimalDigit_of_isDigit (hdigits c hc)
  simp only [page?, List.takeWhile_append_stop hletters hstop, List.dropWhile_append_stop hletters hstop,
    List.takeWhile_append_stop hdecimal hrest, List.dropWhile_append_stop hdecimal hrest]
  rw [if_neg (by simpa using hne)]

theorem isBlank_head?_page {letters digits : List Char} (hletters : ∀ c ∈ letters, c.isAlpha = true)
    (hne : digits ≠ []) (hdigits : ∀ c ∈ digits, c.isDigit = true) (rest : List Char) :
    ∀ c ∈ (letters ++ (digits ++ rest)).head?, Text.isBlank c = false := by
  rw [← List.append_assoc]
  apply List.forall_mem_head?_append
  · simp [hne]
  · intro c hc
    rcases List.mem_append.mp hc with hc | hc
    · exact Text.isBlank_of_isAlpha (hletters c hc)
    · exact Text.isBlank_of_isDigit (hdigits c hc)

section Written

variable {r : Range} (h : r.Ascii) {blanks : List Char} (hblanks : ∀ c ∈ blanks, Text.isBlank c = true)

include h hblanks

theorem Range.Ascii.takeWhile_write (delimiter last : List Char) :
    (r.write blanks delimiter last).takeWhile Text.isBlank = blanks :=
  List.takeWhile_append_stop hblanks
    (isBlank_head?_page h.startLetters h.startDigits_ne_nil h.startAscii _)

theorem Range.Ascii.parse?_write :
    Range.parse? (r.write blanks ['–'] (r.endLetters ++ r.endDigits)) = some r := by
  have hstart := isBlank_head?_page h.startLetters h.startDigits_ne_nil h.startAscii
    (['–'] ++ (r.endLetters ++ r.endDigits))
  have hend := isBlank_head?_page h.endLetters h.endDigits_ne_nil h.endAscii []
  rw [List.append_nil] at hend
  have hlast : page? (r.endLetters ++ r.endDigits) = some (r.endLetters, r.endDigits, []) := by
    have hend := page?_append h.endLetters h.endDigits_ne_nil h.endAscii [] (by simp)
    rwa [List.append_nil] at hend
  have htrim : Text.trimLeft (r.endLetters ++ r.endDigits) = r.endLetters ++ r.endDigits :=
    Text.trimLeft_append (List.forall_mem_nil _) hend
  have hdash : Text.trimLeft ('–' :: (r.endLetters ++ r.endDigits)) =
      '–' :: (r.endLetters ++ r.endDigits) := by
    rw [Text.trimLeft, List.dropWhile_cons, if_neg (by decide +kernel)]
  have hfront : Text.trimLeft (r.write blanks ['–'] (r.endLetters ++ r.endDigits)) =
      r.startLetters ++ (r.startDigits ++ '–' :: (r.endLetters ++ r.endDigits)) :=
    Text.trimLeft_append hblanks hstart
  have hdigit : ∀ c ∈ ('–' :: (r.endLetters ++ r.endDigits)).head?, Text.isDecimalDigit c = false := by
    rintro c ⟨⟩
    decide +kernel
  rw [parse?, hfront, page?_append h.startLetters h.startDigits_ne_nil h.startAscii _ hdigit]
  simp [hdash, afterDash?, htrim, hlast]

theorem Range.Ascii.formatOne?_write (form : Option PageRangeFormat) (delimiter : List Char) :
    formatOne? form delimiter (r.write blanks ['–'] (r.endLetters ++ r.endDigits)) =
      r.format? form blanks delimiter (r.write blanks ['–'] (r.endLetters ++ r.endDigits)) := by
  rw [formatOne?, h.parse?_write hblanks]
  dsimp only
  rw [leading?_eq, h.takeWhile_write hblanks, Option.bind_some]

theorem Range.Ascii.comma_not_mem_write : ',' ∉ r.write blanks ['–'] (r.endLetters ++ r.endDigits) := by
  simp only [Range.write, List.mem_append, not_or]
  refine ⟨fun hc => ?_, fun hc => ?_, fun hc => ?_, by decide, fun hc => ?_, fun hc => ?_⟩
  · exact absurd (hblanks _ hc) (by decide)
  · exact absurd (h.startLetters _ hc) (by decide)
  · exact absurd (h.startAscii _ hc) (by decide)
  · exact absurd (h.endLetters _ hc) (by decide)
  · exact absurd (h.endAscii _ hc) (by decide)

end Written

def Range.shown? (r : Range) (form : Option PageRangeFormat) (first last : Nat) (expanded : List Char) :
    Option (List Char) :=
  if last ≤ first then some expanded else endText? form r first expanded

structure Range.Reaches (r : Range) (last : List Char) (m n : Nat) : Prop where
  sharesLetters : r.SharesLetters
  expanded : expandEnd? r.startDigits r.endDigits = some last
  first : Text.natural? Text.maxWord r.startDigits = some m
  last : Text.natural? Text.maxWord last = some n

theorem Range.Reaches.format?_eq {r : Range} {last : List Char} {m n : Nat} (h : r.Reaches last m n)
    (form : Option PageRangeFormat) (blanks delimiter cs : List Char) :
    r.format? form blanks delimiter cs = (r.shown? form m n last).map (r.write blanks delimiter) := by
  rw [format?, if_neg (r.sharesLetters_iff.mp h.sharesLetters), h.expanded, Option.bind_some,
    h.first, h.last]
  rfl

theorem Range.format?_of_not_natural? {r : Range} (hshares : r.SharesLetters) {last : List Char}
    (hlast : expandEnd? r.startDigits r.endDigits = some last)
    (h : Text.natural? Text.maxWord r.startDigits = none ∨ Text.natural? Text.maxWord last = none)
    (form : Option PageRangeFormat) (blanks delimiter cs : List Char) :
    r.format? form blanks delimiter cs = some cs := by
  rw [format?, if_neg (r.sharesLetters_iff.mp hshares), hlast, Option.bind_some]
  rcases h with h | h
  · rw [h]
  · rw [h]
    cases Text.natural? Text.maxWord r.startDigits <;> rfl

section Shown

variable {r : Range} (h : r.Ascii) {last : List Char}
  (hlast : expandEnd? r.startDigits r.endDigits = some last)

include h hlast

theorem Range.Ascii.abbreviates_endDigits : Abbreviates r.startDigits last r.endDigits := by
  rw [expandEnd?_eq h.startAscii h.endAscii] at hlast
  exact ⟨h.endDigits_ne_nil, h.endAscii, Option.some.inj hlast⟩

theorem Range.Ascii.isDigit_last : ∀ c ∈ last, c.isDigit = true := by
  intro c hc
  exact (mem_expandEnd? hlast c hc).elim (h.startAscii c) (h.endAscii c)

theorem Range.Ascii.exists_shown?_value (form : Option PageRangeFormat) (n : Nat) :
    ∃ short, r.shown? form (Nat.ofDigitChars 10 r.startDigits 0) n last = some short ∧
      Abbreviates r.startDigits last short := by
  have hend := h.abbreviates_endDigits hlast
  have hlastDigits := h.isDigit_last hlast
  have hne : last ≠ [] := by
    rw [← hend.restored]
    exact List.append_ne_nil_of_right_ne_nil _ hend.ne_nil
  have hlength : r.startDigits.length ≤ last.length := by
    rw [← hend.restored, List.length_append, List.length_take]
    omega
  have hself : Abbreviates r.startDigits last last := abbreviates_self hlastDigits hne hlength
  rw [shown?]
  split
  · exact ⟨last, rfl, hself⟩
  · obtain ⟨short, hshort⟩ := Option.isSome_iff_exists.mp
      (isSome_endText? hlastDigits form r (Nat.ofDigitChars 10 r.startDigits 0))
    refine ⟨short, hshort, ?_⟩
    have hminimal {least : Nat} (hleast : 0 < least)
        (hleft : minimal? r.startDigits last least = some short) :
        Abbreviates r.startDigits last short :=
      abbreviates_minimal? hlastDigits hne hlength h.startAscii hleast hleft
    have hchicago (hleft : chicago? (Nat.ofDigitChars 10 r.startDigits 0) last = some short) :
        Abbreviates r.startDigits last short :=
      abbreviates_chicago? hlastDigits hne hlength h.startAscii h.startDigits_ne_nil hleft
    cases form with
    | none => exact Option.some.inj hshort ▸ hend
    | some form =>
      cases form with
      | expanded => exact Option.some.inj hshort ▸ hself
      | minimal => exact hminimal (by decide) hshort
      | minimalTwo => exact hminimal (by decide) hshort
      | chicago => exact hchicago hshort
      | chicago16 => exact hchicago hshort

end Shown

theorem Range.Ascii.exists_shown? {r : Range} (h : r.Ascii) {last : List Char} {m n : Nat}
    (hreaches : r.Reaches last m n) (form : Option PageRangeFormat) :
    ∃ short, r.shown? form m n last = some short ∧ Abbreviates r.startDigits last short := by
  have hvalue : Nat.ofDigitChars 10 r.startDigits 0 = m :=
    ((Text.natural?_eq_some_iff (Text.head?_ne_plus h.startDigits)).mp hreaches.first).2.2.1
  rw [← hvalue]
  exact h.exists_shown?_value hreaches.expanded form n

def Range.withEnd (r : Range) (digits : List Char) : Range :=
  { r with endLetters := [], endDigits := digits }

theorem Range.Ascii.withEnd {r : Range} (h : r.Ascii) {last short : List Char}
    (hshort : Abbreviates r.startDigits last short) : (r.withEnd short).Ascii where
  startLetters := h.startLetters
  startDigits_ne_nil := h.startDigits_ne_nil
  startDigits := h.startDigits
  endLetters := by simp [Range.withEnd]
  endDigits_ne_nil := hshort.ne_nil
  endDigits c hc := Text.isDecimalDigit_of_isDigit (hshort.isDigit c hc)
  startAscii := h.startAscii
  endAscii := hshort.isDigit

theorem Range.Reaches.withEnd {r : Range} (h : r.Ascii) {last short : List Char} {m n : Nat}
    (hreaches : r.Reaches last m n) (hshort : Abbreviates r.startDigits last short) :
    (r.withEnd short).Reaches last m n where
  sharesLetters := .inr rfl
  expanded := hshort.expandEnd? h.startAscii
  first := hreaches.first
  last := hreaches.last

theorem Range.shown?_withEnd (r : Range) (digits : List Char) (form : PageRangeFormat) (m n : Nat)
    (expanded : List Char) :
    (r.withEnd digits).shown? (some form) m n expanded = r.shown? (some form) m n expanded := by
  rw [shown?, shown?]
  cases form <;> rfl

def Reformats (f₁ : Option PageRangeFormat) (f₂ : PageRangeFormat) (cs : List Char) : Prop :=
  ∃ once twice, formatOne? f₁ ['–'] cs = some once ∧ ',' ∉ once ∧
    formatOne? (some f₂) ['–'] once = some twice ∧ formatOne? (some f₂) ['–'] cs = some twice

section Reformats

variable {f₁ : Option PageRangeFormat} {f₂ : PageRangeFormat} {cs : List Char}

theorem reformats_of_kept (hcomma : ',' ∉ cs) (hkept : ∀ form, formatOne? form ['–'] cs = some cs) :
    Reformats f₁ f₂ cs :=
  ⟨cs, cs, hkept f₁, hcomma, hkept (some f₂), hkept (some f₂)⟩

variable {r : Range} (h : r.Ascii) {blanks : List Char} (hblanks : ∀ c ∈ blanks, Text.isBlank c = true)
  (hformat : ∀ form, formatOne? form ['–'] cs = r.format? form blanks ['–'] cs)

include h hblanks hformat

theorem reformats_of_not_sharesLetters (hshares : ¬r.SharesLetters) : Reformats f₁ f₂ cs := by
  generalize hwritten : r.write blanks ['–'] (r.endLetters ++ r.endDigits) = written
  have hletters (form : Option PageRangeFormat) (cs : List Char) :
      r.format? form blanks ['–'] cs = some written := by
    rw [Range.format?, if_pos (by simpa [Range.sharesLetters_iff] using hshares), hwritten]
  have hagain := h.formatOne?_write hblanks (some f₂) ['–']
  have hcomma := h.comma_not_mem_write hblanks
  rw [hwritten] at hagain hcomma
  refine ⟨written, written, ?_, hcomma, ?_, ?_⟩
  · rw [hformat, hletters]
  · rw [hagain, hletters]
  · rw [hformat, hletters]

omit hblanks in
theorem exists_written {last : List Char} {m n : Nat} (hreaches : r.Reaches last m n)
    (form : Option PageRangeFormat) :
    ∃ short, formatOne? form ['–'] cs = some (r.write blanks ['–'] short) ∧
      r.shown? form m n last = some short ∧ Abbreviates r.startDigits last short := by
  obtain ⟨short, hshort, habbreviates⟩ := h.exists_shown? hreaches form
  refine ⟨short, ?_, hshort, habbreviates⟩
  rw [hformat, hreaches.format?_eq, hshort]
  rfl

theorem reformats_of_reaches {last : List Char} {m n : Nat} (hreaches : r.Reaches last m n) :
    Reformats f₁ f₂ cs := by
  obtain ⟨short, hwritten, -, habbreviates⟩ := exists_written h hformat hreaches f₁
  obtain ⟨short', hwritten', hshort', -⟩ := exists_written h hformat hreaches (some f₂)
  -- The second format reads the first page and `short`, and restores the same last page from them.
  have hread : (r.withEnd short).Ascii := h.withEnd habbreviates
  have hreachesRead : (r.withEnd short).Reaches last m n := hreaches.withEnd h habbreviates
  refine ⟨r.write blanks ['–'] short, r.write blanks ['–'] short', hwritten, ?_, ?_, hwritten'⟩
  · exact hread.comma_not_mem_write hblanks
  · refine (hread.formatOne?_write hblanks (some f₂) ['–']).trans ?_
    rw [hreachesRead.format?_eq, Range.shown?_withEnd, hshort']
    rfl

end Reformats

theorem formatOne?_of_parse? {cs : List Char} {r : Range} (h : Range.parse? cs = some r)
    (form : Option PageRangeFormat) (delimiter : List Char) :
    formatOne? form delimiter cs = r.format? form (cs.takeWhile Text.isBlank) delimiter cs := by
  rw [formatOne?, h]
  dsimp only
  rw [leading?_eq, Option.bind_some]

theorem reformats (f₁ : Option PageRangeFormat) (f₂ : PageRangeFormat) {cs : List Char}
    (hcs : ∀ c ∈ cs, Text.isDecimalDigit c = true → c.isDigit = true) (hcomma : ',' ∉ cs) :
    Reformats f₁ f₂ cs := by
  cases hr : Range.parse? cs with
  | none =>
    apply reformats_of_kept hcomma
    intro form
    rw [formatOne?, hr]
  | some r =>
    have h : r.Ascii := Range.ascii_of_parse? hcs hr
    have hblanks : ∀ c ∈ cs.takeWhile Text.isBlank, Text.isBlank c = true :=
      fun _ => List.mem_takeWhile_imp
    have hformat (form : Option PageRangeFormat) := formatOne?_of_parse? hr form ['–']
    by_cases hshares : r.SharesLetters
    · have hlast := expandEnd?_eq h.startAscii h.endAscii
      cases hm : Text.natural? Text.maxWord r.startDigits with
      | none =>
        apply reformats_of_kept hcomma
        intro form
        rw [hformat, Range.format?_of_not_natural? hshares hlast (.inl hm)]
      | some m =>
        cases hn : Text.natural? Text.maxWord
            (r.startDigits.take (r.startDigits.length - r.endDigits.length) ++ r.endDigits) with
        | none =>
          apply reformats_of_kept hcomma
          intro form
          rw [hformat, Range.format?_of_not_natural? hshares hlast (.inr hn)]
        | some n => exact reformats_of_reaches h hblanks hformat ⟨hshares, hlast, hm, hn⟩
    · exact reformats_of_not_sharesLetters h hblanks hformat hshares

theorem exists_mapM_formatOne? (f₁ : Option PageRangeFormat) (f₂ : PageRangeFormat)
    {parts : List (List Char)} (h : ∀ part ∈ parts, Reformats f₁ f₂ part) :
    ∃ once twice, parts.mapM (formatOne? f₁ ['–']) = some once ∧ once.length = parts.length ∧
      (∀ part ∈ once, ',' ∉ part) ∧ once.mapM (formatOne? (some f₂) ['–']) = some twice ∧
      parts.mapM (formatOne? (some f₂) ['–']) = some twice := by
  induction parts with
  | nil => exact ⟨[], [], rfl, rfl, by simp, rfl, rfl⟩
  | cons part parts ih =>
    obtain ⟨⟨first, shown, hfirst, hcomma, hagain, hshown⟩, hparts⟩ := List.forall_mem_cons.mp h
    obtain ⟨once, twice, honce, hlength, hcommas, htwice, hdirect⟩ := ih hparts
    refine ⟨first :: once, shown :: twice, ?_, ?_, ?_, ?_, ?_⟩
    · simp [List.mapM_cons, hfirst, honce]
    · rw [List.length_cons, List.length_cons, hlength]
    · exact List.forall_mem_cons.mpr ⟨hcomma, hcommas⟩
    · simp [List.mapM_cons, hagain, htwice]
    · simp [List.mapM_cons, hshown, hdirect]

theorem format?_eq_some {pages : String} {form : Option PageRangeFormat} {parts : List (List Char)}
    (h : (pages.toList.splitOn ',').mapM (formatOne? form ['–']) = some parts) :
    format? pages form "–" = some (String.ofList ([','].intercalate parts)) := by
  have hparts : (pages.toList.splitOn ',').mapM (formatOne? form "–".toList) = some parts := h
  rw [format?, Text.splitWhere_beq, hparts]
  rfl

/-- Formatting loses no page: a second format finds in the output of the first what it finds in the
original. The output is that of its parts, joined by commas, and behind its first page each range of
numbers keeps a text that expands to its last page. -/
theorem format?_format? {pages : String}
    (h : ∀ c ∈ pages.toList, Text.isDecimalDigit c = true → c.isDigit = true)
    (f₁ : Option PageRangeFormat) (f₂ : PageRangeFormat) :
    (∃ once twice, format? pages f₁ "–" = some once ∧ format? once (some f₂) "–" = some twice ∧
      format? pages (some f₂) "–" = some twice) ∧
      (∀ part ∈ pages.toList.splitOn ',', ∀ r ∈ Range.parse? part, ∀ last m n, r.Reaches last m n →
        ∃ short, formatOne? f₁ ['–'] part = some (r.write (part.takeWhile Text.isBlank) ['–'] short) ∧
          expandEnd? r.startDigits short = some last) ∧
      ∃ shown, (pages.toList.splitOn ',').mapM (formatOne? f₁ ['–']) = some shown ∧
        format? pages f₁ "–" = some (String.ofList ([','].intercalate shown)) := by
  have hmem : ∀ part ∈ pages.toList.splitOn ',', ∀ c ∈ part, (c == ',') = false ∧ c ∈ pages.toList := by
    intro part hpart
    rw [← Text.splitWhere_beq] at hpart
    exact Text.eq_false_of_mem_splitWhere hpart
  have hascii : ∀ part ∈ pages.toList.splitOn ',', ∀ c ∈ part, Text.isDecimalDigit c = true →
      c.isDigit = true := fun part hpart c hc => h c (hmem part hpart c hc).2
  have hparts : ∀ part ∈ pages.toList.splitOn ',', Reformats f₁ f₂ part := by
    intro part hpart
    apply reformats f₁ f₂ (hascii part hpart)
    intro hcomma
    exact absurd (hmem part hpart ',' hcomma).1 (by decide)
  obtain ⟨once, twice, honce, hlength, hcommas, htwice, hdirect⟩ := exists_mapM_formatOne? f₁ f₂ hparts
  refine ⟨⟨_, _, format?_eq_some honce, ?_, format?_eq_some hdirect⟩, ?_, once, honce,
    format?_eq_some honce⟩
  · have hne : once ≠ [] := by
      rw [← List.length_pos_iff, hlength, List.length_pos_iff]
      exact List.splitOnP_ne_nil _ _
    apply format?_eq_some
    rw [String.toList_ofList, List.splitOn_intercalate ',' hcommas hne, htwice]
  · intro part hpart r hr last m n hreaches
    have hrange : r.Ascii := Range.ascii_of_parse? (hascii part hpart) hr
    obtain ⟨short, hwritten, -, habbreviates⟩ := exists_written hrange
      (fun form => formatOne?_of_parse? hr form ['–']) hreaches f₁
    exact ⟨short, hwritten, habbreviates.expandEnd? hrange.startAscii⟩

theorem format?_format?_two_ranges :
    (∀ c ∈ "S0321-328, 1496-1504".toList, Text.isDecimalDigit c = true → c.isDigit = true) ∧
      (∃ once twice, format? "S0321-328, 1496-1504" (some .minimal) "–" = some once ∧
        format? once (some .expanded) "–" = some twice ∧
        format? "S0321-328, 1496-1504" (some .expanded) "–" = some twice) ∧
      (∃ short, formatOne? (some .minimal) ['–'] "S0321-328".toList =
          some (['S', '0', '3', '2', '1', '–'] ++ short) ∧
        expandEnd? ['0', '3', '2', '1'] short = some ['0', '3', '2', '8']) ∧
      ∃ shown, ("S0321-328, 1496-1504".toList.splitOn ',').mapM (formatOne? (some .minimal) ['–']) =
          some shown ∧
        format? "S0321-328, 1496-1504" (some .minimal) "–" =
          some (String.ofList ([','].intercalate shown)) := by
  have hascii : ∀ c ∈ "S0321-328, 1496-1504".toList, Text.isDecimalDigit c = true →
      c.isDigit = true := by
    have hall : "S0321-328, 1496-1504".toList.all (fun c => !Text.isDecimalDigit c || c.isDigit) =
        true := by
      decide +kernel
    intro c hc hdigit
    simpa [hdigit] using List.all_eq_true.mp hall c hc
  have hpart : "S0321-328".toList ∈ "S0321-328, 1496-1504".toList.splitOn ',' := by decide +kernel
  have hread : Range.parse? "S0321-328".toList =
      some ⟨['S'], ['0', '3', '2', '1'], [], ['3', '2', '8']⟩ := by
    decide +kernel
  have hreaches : Range.Reaches ⟨['S'], ['0', '3', '2', '1'], [], ['3', '2', '8']⟩
      ['0', '3', '2', '8'] 321 328 :=
    ⟨.inr rfl, by decide +kernel, by decide +kernel, by decide +kernel⟩
  obtain ⟨hformats, hranges, hjoined⟩ := format?_format? hascii (some .minimal) .expanded
  exact ⟨hascii, hformats, hranges _ hpart _ hread _ _ _ hreaches, hjoined⟩

end PageRange

end Citeproc
