import Citeproc.Proofs.Text.CaseCuts

/-!
The text case of a text given in pieces that are cut at blanks. Cases that treat every word alike do
not see the cuts; for the others it matters which piece begins the text, and which pieces are in
capitals.
-/

namespace Citeproc.Text

variable {cs ds : List Char} {b c : Char}

section Sentence

def isShouting (cs : List Char) : Bool := cs.any isLetter && !cs.any isLowercase

def sentenceBase (cs : List Char) : List Char := if isShouting cs then lower cs else cs

theorem sentenceCase_true (cs : List Char) : sentenceCase cs true = capitalize (sentenceBase cs) := rfl

theorem sentenceBase_of_not_any (h : cs.any isLetter = false) : sentenceBase cs = cs := by
  rw [sentenceBase, isShouting, h]
  rfl

theorem lowerFrom_cons (before : List Char) (c : Char) (cs : List Char) : ∃ lowered,
    lowerFrom before (c :: cs) = lowered ++ lowerFrom (c :: before) cs ∧
      (lowered = lowerChars c ∨ c = 'Σ' ∧ (lowered = ['ς'] ∨ lowered = ['σ'])) := by
  refine ⟨_, rfl, ?_⟩
  split
  · next hc =>
    refine .inr ⟨by simpa using hc, ?_⟩
    split
    · exact .inl rfl
    · exact .inr rfl
  · exact .inl rfl

theorem length_le_lowerFrom (before cs : List Char) : cs.length ≤ (lowerFrom before cs).length := by
  induction cs generalizing before with
  | nil => exact Nat.zero_le _
  | cons c cs ih =>
    obtain ⟨lowered, hlower, hlowered⟩ := lowerFrom_cons before c cs
    have hpos : 0 < lowered.length := by
      obtain rfl | ⟨-, rfl | rfl⟩ := hlowered
      · exact List.length_pos_of_ne_nil (lowerChars_ne_nil c)
      · exact Nat.one_pos
      · exact Nat.one_pos
    rw [hlower, List.length_append, List.length_cons]
    have := ih (c :: before)
    omega

theorem length_le_sentenceBase (cs : List Char) : cs.length ≤ (sentenceBase cs).length := by
  rw [sentenceBase]
  split
  · exact length_le_lowerFrom [] cs
  · exact Nat.le_refl _

theorem lowerFrom_append_of_not_any (h : cs.any isLetter = false) (before ds : List Char) :
    lowerFrom before (cs ++ ds) = cs ++ lowerFrom (cs.reverse ++ before) ds := by
  induction cs generalizing before with
  | nil => rfl
  | cons c cs ih =>
    obtain ⟨hc, hcs⟩ : isLetter c = false ∧ cs.any isLetter = false := by simpa using h
    obtain ⟨lowered, hlower, hlowered⟩ := lowerFrom_cons before c (cs ++ ds)
    obtain rfl | ⟨rfl, -⟩ := hlowered
    · rw [List.cons_append, hlower, lowerChars_of_not_isLetter hc, ih hcs, List.reverse_cons,
        List.append_assoc]
      rfl
    · exact absurd (isLetter_sigmas 'Σ' (by decide)) (by rw [hc]; decide)

theorem lower_of_not_any (h : cs.any isLetter = false) : lower cs = cs := by
  have hnil := lowerFrom_append_of_not_any h [] []
  rwa [List.append_nil, lowerFrom, List.append_nil] at hnil

structure LoweredLetter (c d : Char) : Prop where
  isLetter : isLetter d = true
  head?_ne : upperChars c ≠ [c] → (upperChars c).head? ≠ some d
  length_le : (upperChars c).length ≤ (upperChars d).length

theorem loweredLetter_lowerChars (h : isLetter c = true) :
    ∃ d behind, lowerChars c = d :: behind ∧ LoweredLetter c d := by
  obtain ⟨d, behind, hchars, hd⟩ := exists_lowerChars c h
  refine ⟨d, behind, hchars, ⟨hd, fun hne => ?_, length_upperChars_le (by rw [hchars]; rfl)⟩⟩
  have hheads := head?_upperChars_ne hne
  rwa [hchars] at hheads

theorem loweredLetter_sigma {d : Char} (hd : d ∈ ['ς', 'σ']) : LoweredLetter 'Σ' d := by
  have hupper : ∀ d ∈ ['Σ', 'ς', 'σ'], upperChars d = ['Σ'] := by decide +kernel
  have hsame : upperChars 'Σ' = ['Σ'] := hupper 'Σ' List.mem_cons_self
  refine ⟨isLetter_sigmas d ?_, fun hne => absurd hsame hne, ?_⟩
  · revert d
    decide
  · rw [hsame, hupper d (List.mem_cons_of_mem _ hd)]

theorem exists_lowerFrom_letter (h : isLetter c = true) (before after : List Char) :
    ∃ d behind, lowerFrom before (c :: after) = d :: (behind ++ lowerFrom (c :: before) after) ∧
      LoweredLetter c d := by
  obtain ⟨lowered, hlower, hlowered⟩ := lowerFrom_cons before c after
  obtain rfl | ⟨rfl, hsigma⟩ := hlowered
  · obtain ⟨d, behind, hchars, hd⟩ := loweredLetter_lowerChars h
    exact ⟨d, behind, by rw [hlower, hchars, List.cons_append], hd⟩
  · obtain rfl | rfl := hsigma
    · exact ⟨'ς', [], hlower, loweredLetter_sigma (by decide)⟩
    · exact ⟨'σ', [], hlower, loweredLetter_sigma (by decide)⟩

theorem exists_lower (h : cs.any isLetter = true) : ∃ before c after d behind rest,
    cs = before ++ c :: after ∧ lower cs = before ++ d :: (behind ++ rest) ∧
      before.any isLetter = false ∧ isLetter c = true ∧ LoweredLetter c d ∧
      after.length ≤ rest.length := by
  obtain ⟨before, c, after, rfl, hbefore, hc, -⟩ := exists_first_letter h
  obtain ⟨d, behind, hlower, hd⟩ := exists_lowerFrom_letter hc (before.reverse ++ []) after
  rw [lower, lowerFrom_append_of_not_any hbefore, hlower]
  exact ⟨before, c, after, d, behind, _, rfl, rfl, hbefore, hc, hd, length_le_lowerFrom _ _⟩

theorem capitalize_of_first_letter {before : List Char} (hbefore : before.any isLetter = false)
    (hc : isLetter c = true) (after : List Char) :
    capitalize (before ++ c :: after) = before ++ (upperChars c ++ after) := by
  rw [capitalize_append_of_not_any hbefore, capitalize, hc, if_pos rfl]

theorem any_isLetter_lower (h : cs.any isLetter = true) : (lower cs).any isLetter = true := by
  obtain ⟨before, c, after, d, behind, rest, rfl, hlower, -, -, hd, -⟩ := exists_lower h
  rw [hlower, List.any_append, List.any_cons, hd.isLetter, Bool.true_or, Bool.or_true]

theorem length_capitalize_le (cs : List Char) :
    (capitalize cs).length ≤ (capitalize (sentenceBase cs)).length := by
  rw [sentenceBase]
  split
  · next hshouting =>
    have hletter : cs.any isLetter = true := (Bool.and_eq_true _ _ ▸ hshouting).1
    obtain ⟨before, c, after, d, behind, rest, rfl, hlower, hbefore, hc, hd, hrest⟩ :=
        exists_lower hletter
    have hlength := hd.length_le
    rw [hlower, capitalize_of_first_letter hbefore hc, capitalize_of_first_letter hbefore hd.isLetter]
    simp only [List.length_append]
    omega
  · exact Nat.le_refl _

theorem append_eq_append_iff_of_length_le {α : Type} {as bs cs ds : List α} (hac : as.length ≤ cs.length)
    (hbd : bs.length ≤ ds.length) : cs ++ ds = as ++ bs ↔ cs = as ∧ ds = bs := by
  constructor
  · intro h
    have hlength := congrArg List.length h
    rw [List.length_append, List.length_append] at hlength
    exact List.append_inj h (by omega)
  · rintro ⟨rfl, rfl⟩
    rfl

theorem length_flatten_le (pieces : List (List Char)) :
    pieces.flatten.length ≤ (pieces.map sentenceBase).flatten.length := by
  induction pieces with
  | nil => exact Nat.le_refl _
  | cons piece pieces ih =>
    rw [List.map_cons, List.flatten_cons, List.flatten_cons, List.length_append, List.length_append]
    exact Nat.add_le_add (length_le_sentenceBase piece) ih

theorem flatten_sentenceBase_eq_iff (pieces : List (List Char)) :
    (pieces.map sentenceBase).flatten = pieces.flatten ↔
      ∀ piece ∈ pieces, sentenceBase piece = piece := by
  induction pieces with
  | nil => simp
  | cons piece pieces ih =>
    rw [List.map_cons, List.flatten_cons, List.flatten_cons,
      append_eq_append_iff_of_length_le (length_le_sentenceBase piece) (length_flatten_le pieces), ih,
      List.forall_mem_cons]

theorem capitalize_eq_self_of_append_eq {rest others : List Char}
    (h : sentenceBase cs ++ rest = capitalize cs ++ others) : capitalize cs = cs := by
  by_cases hletter : cs.any isLetter = true
  · obtain ⟨before, c, after, d, behind, lowered, rfl, hlower, hbefore, hc, hd, -⟩ :=
        exists_lower hletter
    rw [capitalize_of_first_letter hbefore hc] at h ⊢
    suffices hupper : upperChars c = [c] by rw [hupper, List.singleton_append]
    obtain ⟨e, forms, hforms⟩ := List.exists_cons_of_ne_nil (upperChars_ne_nil c)
    by_contra hne
    rw [sentenceBase] at h
    split at h
    · rw [hlower, List.append_assoc, List.append_assoc, List.append_right_inj, hforms] at h
      have hhead : d = e := (List.cons_eq_cons.mp h).1
      exact hd.head?_ne hne (by rw [hforms, hhead, List.head?_cons])
    · rw [List.append_assoc, List.append_assoc, List.append_right_inj, hforms] at h
      have hhead : c = e := (List.cons_eq_cons.mp h).1
      exact hne (upperChars_eq_self_of_head? (by rw [hforms, hhead, List.head?_cons]))
  · exact capitalize_of_not_any (Bool.eq_false_iff.mpr hletter)

theorem flatten_sentenceBase_eq_capitalize_iff (pieces : List (List Char)) :
    (pieces.map sentenceBase).flatten = capitalize pieces.flatten ↔
      capitalize pieces.flatten = pieces.flatten ∧ ∀ piece ∈ pieces, sentenceBase piece = piece := by
  constructor
  · intro h
    suffices hsame : capitalize pieces.flatten = pieces.flatten from
      ⟨hsame, (flatten_sentenceBase_eq_iff pieces).mp (h.trans hsame)⟩
    induction pieces with
    | nil => rfl
    | cons piece pieces ih =>
      rw [List.map_cons, List.flatten_cons, List.flatten_cons] at h
      rw [List.flatten_cons]
      cases hletter : piece.any isLetter with
      | true =>
        rw [capitalize_append_of_any hletter] at h ⊢
        rw [capitalize_eq_self_of_append_eq h]
      | false =>
        rw [capitalize_append_of_not_any hletter, sentenceBase_of_not_any hletter,
          List.append_right_inj] at h
        rw [capitalize_append_of_not_any hletter, ih h]
  · rintro ⟨hsame, hpieces⟩
    rw [hsame, (flatten_sentenceBase_eq_iff pieces).mpr hpieces]

end Sentence

section Pieces

def casePieces (case : TextCase) (atStart : Bool) : List (List Char) → List (List Char)
  | [] => []
  | piece :: pieces =>
    withCase case piece atStart :: casePieces case (atStart && !piece.any isAlphanumeric) pieces

theorem casePieces_false (case : TextCase) (pieces : List (List Char)) :
    casePieces case false pieces = pieces.map (withCase case · false) := by
  induction pieces with
  | nil => rfl
  | cons piece pieces ih => rw [casePieces, Bool.false_and, ih, List.map_cons]

def silent (pieces : List (List Char)) : Bool := pieces.all (!·.any isAlphanumeric)

theorem silent_eq_true_iff {pieces : List (List Char)} :
    silent pieces = true ↔ ∀ piece ∈ pieces, piece.any isAlphanumeric = false := by
  simp [silent]

theorem casePieces_append (case : TextCase) (atStart : Bool) (before after : List (List Char)) :
    casePieces case atStart (before ++ after) =
      casePieces case atStart before ++ casePieces case (atStart && silent before) after := by
  induction before generalizing atStart with
  | nil => rw [silent, List.all_nil, Bool.and_true]; rfl
  | cons piece before ih =>
    rw [List.cons_append, casePieces, ih, casePieces, silent, silent, List.all_cons, Bool.and_assoc,
      List.cons_append]

def opening? (pieces : List (List Char)) : Option (List Char) := pieces.find? (·.any isAlphanumeric)

def ahead (pieces : List (List Char)) : List (List Char) := pieces.takeWhile (!·.any isAlphanumeric)

def behind (pieces : List (List Char)) : List (List Char) :=
  (pieces.dropWhile (!·.any isAlphanumeric)).tail

def OpensWithLetter (pieces : List (List Char)) : Prop :=
  ∃ opening ∈ opening? pieces, opening.any isLetter = true

structure Opens (pieces : List (List Char)) (opening : List Char) : Prop where
  eq_append : pieces = ahead pieces ++ opening :: behind pieces
  find_eq : opening? pieces = some opening
  any : opening.any isAlphanumeric = true
  not_any : ∀ piece ∈ ahead pieces, piece.any isAlphanumeric = false

theorem opens_or (pieces : List (List Char)) :
    (∃ opening, Opens pieces opening) ∨
      opening? pieces = none ∧ behind pieces = [] ∧
        ∀ piece ∈ pieces, piece.any isAlphanumeric = false := by
  cases h : opening? pieces with
  | none =>
    have hnone : ∀ piece ∈ pieces, piece.any isAlphanumeric = false := by
      simpa [opening?] using h
    refine .inr ⟨rfl, ?_, hnone⟩
    rw [behind, List.dropWhile_eq_nil_iff.mpr fun piece hpiece =>
      by rw [hnone piece hpiece]; rfl, List.tail_nil]
  | some opening =>
    obtain ⟨hany, before, after, hpieces, hbefore⟩ := List.find?_eq_some_iff_append.mp h
    have hahead : ahead pieces = before := by
      rw [ahead, hpieces, List.takeWhile_append_of_pos hbefore]
      simp [hany]
    have hbehind : behind pieces = after := by
      rw [behind, hpieces, List.dropWhile_append_of_pos hbefore]
      simp [hany]
    refine .inl ⟨opening, ⟨by rw [hahead, hbehind, hpieces], h, hany, fun piece hpiece => ?_⟩⟩
    rw [hahead] at hpiece
    simpa using hbefore piece hpiece

theorem any_flatten_eq_false {p : Char → Bool} {pieces : List (List Char)}
    (h : ∀ piece ∈ pieces, piece.any p = false) : pieces.flatten.any p = false := by
  rw [List.any_flatten, List.any_eq_false]
  exact fun piece hpiece => Bool.eq_false_iff.mp (h piece hpiece)

theorem casePieces_of_forall {case : TextCase} (change : List Char → List Char)
    (h : ∀ cs atStart, withCase case cs atStart = change cs) (atStart : Bool)
    (pieces : List (List Char)) :
    casePieces case atStart pieces = pieces.map change := by
  induction pieces generalizing atStart with
  | nil => rfl
  | cons piece pieces ih => rw [casePieces, h, ih, List.map_cons]

theorem flatten_casePieces_of_uniform {pieces : List (List Char)} (hcut : CutAtBlanks pieces)
    {case : TextCase}
    (hcase : case = .lowercase ∨ case = .uppercase ∨ case = .capitalizeAll) :
    (casePieces case true pieces).flatten = withCase case pieces.flatten true := by
  obtain rfl | rfl | rfl := hcase
  · rw [casePieces_of_forall lower (fun _ _ => rfl), ← restartsAtBlanks_lower.flatten hcut]
    rfl
  · rw [casePieces_of_forall upper (fun _ _ => rfl), withCase, upper, List.flatten_eq_flatMap,
      List.flatten_eq_flatMap, List.flatMap_assoc, List.flatMap_map]
    rfl
  · rw [casePieces_of_forall (mapWords fun _ => capitalize) (fun _ _ => rfl),
      ← (restartsAtBlanks_mapWords capitalize).flatten hcut]
    rfl

section First

variable {case : TextCase} {pieces : List (List Char)} {opening : List Char}
  (hcase : case = .capitalizeFirst ∨ case = .title ∨ case = .sentence)

include hcase

theorem withCase_of_not_any (h : cs.any isAlphanumeric = false) : withCase case cs true = cs := by
  have hletter := not_any_isLetter h
  obtain rfl | rfl | rfl := hcase
  · exact capitalize_of_not_any hletter
  · exact titleCase_of_not_any h true
  · rw [withCase, sentenceCase_true, sentenceBase_of_not_any hletter, capitalize_of_not_any hletter]

theorem casePieces_of_not_any (h : ∀ piece ∈ pieces, piece.any isAlphanumeric = false) :
    casePieces case true pieces = pieces := by
  induction pieces with
  | nil => rfl
  | cons piece pieces ih =>
    obtain ⟨hpiece, hpieces⟩ := List.forall_mem_cons.mp h
    rw [casePieces, withCase_of_not_any hcase hpiece, hpiece, Bool.not_false, Bool.and_true, ih hpieces]

theorem flatten_casePieces_of_not_any (h : ∀ piece ∈ pieces, piece.any isAlphanumeric = false) :
    (casePieces case true pieces).flatten = withCase case pieces.flatten true := by
  rw [casePieces_of_not_any hcase h, withCase_of_not_any hcase (any_flatten_eq_false h)]

theorem flatten_casePieces_opening (h : Opens pieces opening) : (casePieces case true pieces).flatten =
    (ahead pieces).flatten ++ (withCase case opening true ++
      ((behind pieces).map (withCase case · false)).flatten) := by
  conv_lhs => rw [h.eq_append]
  rw [casePieces_append, casePieces_of_not_any hcase h.not_any, silent_eq_true_iff.mpr h.not_any,
    Bool.and_true, casePieces, h.any, Bool.not_true, Bool.and_false, casePieces_false,
      List.flatten_append, List.flatten_cons]

end First

variable {pieces : List (List Char)} {opening : List Char}

theorem Opens.flatten (h : Opens pieces opening) :
    pieces.flatten = (ahead pieces).flatten ++ (opening ++ (behind pieces).flatten) := by
  conv_lhs => rw [h.eq_append]
  rw [List.flatten_append, List.flatten_cons]

theorem Opens.not_any_ahead (h : Opens pieces opening) : (ahead pieces).flatten.any isLetter = false :=
  not_any_isLetter (any_flatten_eq_false h.not_any)

theorem Opens.opensWithLetter_iff (h : Opens pieces opening) :
    OpensWithLetter pieces ↔ opening.any isLetter = true := by
  rw [OpensWithLetter, h.find_eq]
  simp

theorem flatten_casePieces_capitalizeFirst (pieces : List (List Char)) :
    (casePieces .capitalizeFirst true pieces).flatten = withCase .capitalizeFirst pieces.flatten true ↔
      OpensWithLetter pieces ∨ capitalize pieces.flatten = pieces.flatten := by
  have hwhole : withCase .capitalizeFirst pieces.flatten true = capitalize pieces.flatten := rfl
  obtain ⟨opening, h⟩ | ⟨-, -, hnone⟩ := opens_or pieces
  · have hpieces : (casePieces .capitalizeFirst true pieces).flatten =
        (ahead pieces).flatten ++ (capitalize opening ++ (behind pieces).flatten) := by
      have hbehind : (behind pieces).map (withCase .capitalizeFirst · false) = behind pieces :=
          List.map_id _
      rw [flatten_casePieces_opening (.inl rfl) h, hbehind]
      rfl
    rw [hpieces, hwhole, h.opensWithLetter_iff, h.flatten, capitalize_append_of_not_any h.not_any_ahead]
    cases hletter : opening.any isLetter with
    | true => simp [capitalize_append_of_any hletter]
    | false =>
      rw [capitalize_of_not_any hletter, eq_comm]
      simp
  · have hsame := capitalize_of_not_any (not_any_isLetter (any_flatten_eq_false hnone))
    exact iff_of_true (flatten_casePieces_of_not_any (.inl rfl) hnone) (.inr hsame)

theorem flatten_casePieces_title {pieces : List (List Char)} (hcut : CutAtBlanks pieces) :
    (casePieces .title true pieces).flatten = withCase .title pieces.flatten true ↔
      ∀ opening ∈ opening? pieces, ∀ word ∈ (wordsFrom [] opening).head?, IsMinor word →
        ∀ piece ∈ ahead pieces, ∀ c ∈ piece, isBlank c = true := by
  obtain ⟨opening, h⟩ | ⟨hnone, -, hpieces⟩ := opens_or pieces
  · have hmeet := cutAtBlanks_append (h.eq_append ▸ hcut)
    have hahead : titleCase (ahead pieces).flatten true = (ahead pieces).flatten :=
      titleCase_of_not_any (any_flatten_eq_false h.not_any) true
    have hopening : opening.all isBlank = false := by
      obtain ⟨c, hc, hcase⟩ := List.any_eq_true.mp h.any
      rw [List.all_eq_false]
      refine ⟨c, hc, fun hblank => ?_⟩
      rw [isAlphanumeric_of_isBlank hblank] at hcase
      cases hcase
    have hwhole : withCase .title pieces.flatten true = (ahead pieces).flatten ++
        (titleCase opening ((ahead pieces).flatten.all isBlank) ++
          ((behind pieces).map (titleCase · false)).flatten) := by
      rw [h.flatten, ← List.flatten_cons, withCase, titleCase_append hmeet.1, hahead, Bool.true_and,
        List.flatten_cons, titleCase_append hmeet.2.1, hopening, Bool.and_false,
        restartsAtBlanks_titleCase.flatten hmeet.2.2]
    have hpieces : (casePieces .title true pieces).flatten = (ahead pieces).flatten ++
        (titleCase opening true ++ ((behind pieces).map (titleCase · false)).flatten) :=
      flatten_casePieces_opening (.inr (.inl rfl)) h
    have hblank : (ahead pieces).flatten.all isBlank = true ↔
        ∀ piece ∈ ahead pieces, ∀ c ∈ piece, isBlank c = true := by
      simp [List.all_flatten]
    rw [hpieces, hwhole, List.append_right_inj, List.append_left_inj, ← hblank, h.find_eq]
    cases (ahead pieces).flatten.all isBlank with
    | true => simp
    | false => simpa using titleCase_true_eq_iff
  · rw [hnone]
    exact iff_of_true (flatten_casePieces_of_not_any (.inr (.inl rfl)) hpieces) (by simp)

theorem sentenceBase_of_isShouting {pieces : List (List Char)} (h : isShouting pieces.flatten = true) :
    ∀ piece ∈ pieces, sentenceBase piece = lower piece := by
  intro piece hpiece
  obtain ⟨-, hcase⟩ : pieces.flatten.any isLetter = true ∧ pieces.flatten.any isLowercase = false := by
    simpa [isShouting] using h
  rw [sentenceBase]
  cases hletter : piece.any isLetter with
  | true =>
    have hpiececase : piece.any isLowercase = false := by
      rw [List.any_flatten, List.any_eq_false] at hcase
      exact Bool.eq_false_iff.mpr (hcase piece hpiece)
    rw [isShouting, hletter, hpiececase]
    rfl
  | false =>
    rw [lower_of_not_any hletter, ite_self]

theorem Opens.flatten_lower (h : Opens pieces opening) (hcut : CutAtBlanks pieces) :
    lower pieces.flatten =
      (ahead pieces).flatten ++ (lower opening ++ ((behind pieces).map lower).flatten) := by
  obtain ⟨hahead, hopening, hbehind⟩ := cutAtBlanks_append (h.eq_append ▸ hcut)
  rw [h.flatten, ← List.flatten_cons, restartsAtBlanks_lower.append hahead,
    lower_of_not_any h.not_any_ahead,
    List.flatten_cons, restartsAtBlanks_lower.append hopening, restartsAtBlanks_lower.flatten hbehind]

theorem sentence_pieces_of_isShouting (h : Opens pieces opening) (hcut : CutAtBlanks pieces)
    (hshouting : isShouting pieces.flatten = true) :
    (ahead pieces).flatten ++ (capitalize (sentenceBase opening) ++
        ((behind pieces).map sentenceBase).flatten) = capitalize (sentenceBase pieces.flatten) ↔
      opening.any isLetter = true ∨
        capitalize (sentenceBase pieces.flatten) = sentenceBase pieces.flatten := by
  have hlower := sentenceBase_of_isShouting hshouting
  have hpieces := h.eq_append
  have hopening : sentenceBase opening = lower opening := hlower opening (by rw [hpieces]; simp)
  have hbehind : (behind pieces).map sentenceBase = (behind pieces).map lower :=
    List.map_congr_left fun piece hpiece => hlower piece (by rw [hpieces]; simp [hpiece])
  have hwhole : sentenceBase pieces.flatten = lower pieces.flatten := if_pos hshouting
  rw [hopening, hbehind, hwhole, h.flatten_lower hcut, capitalize_append_of_not_any h.not_any_ahead]
  cases hletter : opening.any isLetter with
  | true => simp [capitalize_append_of_any (any_isLetter_lower hletter)]
  | false =>
    rw [lower_of_not_any hletter, capitalize_of_not_any hletter, eq_comm]
    simp

theorem sentence_pieces_of_not_isShouting (h : Opens pieces opening)
    (hshouting : isShouting pieces.flatten = false) :
    (ahead pieces).flatten ++ (capitalize (sentenceBase opening) ++
        ((behind pieces).map sentenceBase).flatten) = capitalize (sentenceBase pieces.flatten) ↔
      (opening.any isLetter = true ∨
          capitalize (sentenceBase pieces.flatten) = sentenceBase pieces.flatten) ∧
        capitalize (sentenceBase opening) = capitalize opening ∧
          ∀ piece ∈ behind pieces, sentenceBase piece = piece := by
  have hwhole : sentenceBase pieces.flatten = pieces.flatten := if_neg (Bool.eq_false_iff.mp hshouting)
  rw [hwhole, h.flatten, capitalize_append_of_not_any h.not_any_ahead, List.append_right_inj,
    List.append_right_inj]
  cases hletter : opening.any isLetter with
  | true =>
    rw [capitalize_append_of_any hletter,
      append_eq_append_iff_of_length_le (length_capitalize_le opening) (length_flatten_le _),
      flatten_sentenceBase_eq_iff]
    simp
  | false =>
    rw [sentenceBase_of_not_any hletter, capitalize_append_of_not_any hletter,
      capitalize_of_not_any hletter,
      List.append_right_inj, List.append_right_inj, flatten_sentenceBase_eq_capitalize_iff]
    simp

theorem flatten_casePieces_sentence {pieces : List (List Char)} (hcut : CutAtBlanks pieces) :
    (casePieces .sentence true pieces).flatten = withCase .sentence pieces.flatten true ↔
      (OpensWithLetter pieces ∨
          capitalize (sentenceBase pieces.flatten) = sentenceBase pieces.flatten) ∧
        (isShouting pieces.flatten = true ∨
          (∀ opening ∈ opening? pieces, capitalize (sentenceBase opening) = capitalize opening) ∧
            ∀ piece ∈ behind pieces, sentenceBase piece = piece) := by
  have hwhole : withCase .sentence pieces.flatten true = capitalize (sentenceBase pieces.flatten) := rfl
  obtain ⟨opening, h⟩ | ⟨hnone, hbehind, hsilent⟩ := opens_or pieces
  · have hpieces : (casePieces .sentence true pieces).flatten = (ahead pieces).flatten ++
        (capitalize (sentenceBase opening) ++ ((behind pieces).map sentenceBase).flatten) :=
      flatten_casePieces_opening (.inr (.inr rfl)) h
    rw [hpieces, hwhole, h.opensWithLetter_iff, h.find_eq]
    cases hshouting : isShouting pieces.flatten with
    | true => simpa using sentence_pieces_of_isShouting h hcut hshouting
    | false => simpa using sentence_pieces_of_not_isShouting h hshouting
  · have hletter := not_any_isLetter (any_flatten_eq_false hsilent)
    rw [hnone, hbehind]
    refine iff_of_true (flatten_casePieces_of_not_any (.inr (.inr rfl)) hsilent)
      ⟨.inr ?_, .inr (by simp)⟩
    rw [sentenceBase_of_not_any hletter, capitalize_of_not_any hletter]

end Pieces

end Citeproc.Text
