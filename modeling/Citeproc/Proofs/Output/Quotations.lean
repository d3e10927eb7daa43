import Citeproc.Output.Punctuation
import Citeproc.Proofs.Output.Plain
import Mathlib.Data.List.Dedup
import Mathlib.Data.List.Forall2
import Mathlib.Data.List.Nodup

/-!
Punctuation that moves into quotations, seen on the text of an output cut into pieces: its leaves and the
ends of its quotations. A mark goes from the front of a leaf to an end before it, so the text stays the
same unless two ends take the same mark.
-/

namespace Citeproc.Output

inductive Piece
  | leaf (position : Nat) (s : String) (depth : Nat)
  | close (quote depth : Nat)

namespace Piece

def position? : Piece → Option Nat
  | leaf position _ _ => some position
  | close _ _ => none

def quote? : Piece → Option Nat
  | leaf _ _ _ => none
  | close quote _ => some quote

def chars : Piece → List (Char × Nat)
  | leaf _ s depth => s.toList.map (·, depth)
  | close _ _ => []

def charsAfter (moves : List QuoteMove) : Piece → List (Char × Nat)
  | leaf position s depth =>
    (if moves.any (·.leaf == position) then s.toList.drop 1 else s.toList).map (·, depth)
  | close quote depth => (moves.find? (·.quote == quote)).toList.map fun m => (m.mark, depth)

end Piece

mutual

def pieces (leaf quote depth : Nat) : Output → List Piece
  | null => []
  | text s => [.leaf leaf s depth]
  | seq items => piecesIn leaf quote depth items
  | formatted _ quotes _ child =>
    if quotes then pieces leaf (quote + 1) (depth + 1) child ++ [.close quote (depth + 1)]
    else pieces leaf quote depth child
  | tagged _ child => pieces leaf quote depth child

def piecesIn (leaf quote depth : Nat) : List Output → List Piece
  | [] => []
  | o :: os =>
    pieces leaf quote depth o ++
      piecesIn (leaf + o.leaves.length) (quote + (o.quoteEnds leaf).2.length) depth os

end

mutual

def quotedChars (depth : Nat) : Output → List (Char × Nat)
  | null => []
  | text s => s.toList.map (·, depth)
  | seq items => quotedCharsIn depth items
  | formatted _ quotes _ child => quotedChars (if quotes then depth + 1 else depth) child
  | tagged _ child => quotedChars depth child

def quotedCharsIn (depth : Nat) : List Output → List (Char × Nat)
  | [] => []
  | o :: os => quotedChars depth o ++ quotedCharsIn depth os

end

def SameButSide (c d : Char × Nat) : Prop := c.1 = d.1 ∧ (c.2 = d.2 ∨ c.1 = '.' ∨ c.1 = ',')

theorem SameButSide.refl (c : Char × Nat) : SameButSide c c := ⟨rfl, .inl rfl⟩

def MarksUnshared (o : Output) : Prop :=
  ∀ a ∈ (o.quoteEnds 0).2, ∀ b ∈ (o.quoteEnds 0).2, ∀ i ∈ a, ∀ j ∈ b,
    (nextMark? o.leaves (i + 1)).isSome = true →
      nextMark? o.leaves (i + 1) = nextMark? o.leaves (j + 1) → i = j

section Text

mutual

theorem map_fst_quotedChars (depth : Nat) (o : Output) :
    (o.quotedChars depth).map Prod.fst = o.leaves.flatMap String.toList := by
  match o with
  | null => rfl
  | text s => simp [quotedChars, leaves, Function.comp_def]
  | seq items => exact map_fst_quotedCharsIn depth items
  | formatted _ quotes _ child => exact map_fst_quotedChars _ child
  | tagged _ child => exact map_fst_quotedChars depth child

theorem map_fst_quotedCharsIn (depth : Nat) (items : List Output) :
    (quotedCharsIn depth items).map Prod.fst = (leavesAll items).flatMap String.toList := by
  match items with
  | [] => rfl
  | o :: os =>
    rw [quotedCharsIn, leavesAll, List.map_append, List.flatMap_append, map_fst_quotedChars depth o,
      map_fst_quotedCharsIn depth os]

end

theorem quotedChars_of_isEmpty {o : Output} (h : o.isEmpty = true) (depth : Nat) :
    o.quotedChars depth = [] := by
  have hchars := map_fst_quotedChars depth o
  rw [← toList_plain, (isEmpty_iff_plain o).mp h] at hchars
  exact List.map_eq_nil_iff.mp hchars

theorem quotedCharsIn_eq_flatMap (depth : Nat) (items : List Output) :
    quotedCharsIn depth items = items.flatMap (quotedChars depth) := by
  induction items with
  | nil => rfl
  | cons o os ih => rw [quotedCharsIn, ih, List.flatMap_cons]

theorem quotedChars_ofList (depth : Nat) (items : List Output) :
    (ofList items).quotedChars depth = items.flatMap (quotedChars depth) :=
  apply_ofList (fun os => by rw [quotedChars, quotedCharsIn_eq_flatMap])
    (fun _ ho => quotedChars_of_isEmpty ho depth) items

mutual

theorem fst_quoteEnds (n : Nat) (o : Output) : (o.quoteEnds n).1 = n + o.leaves.length := by
  match o with
  | null => rfl
  | text _ => rfl
  | seq items => exact fst_quoteEndsIn n items
  | formatted _ _ _ child => exact fst_quoteEnds n child
  | tagged _ child => exact fst_quoteEnds n child

theorem fst_quoteEndsIn (n : Nat) (items : List Output) :
    (quoteEndsIn n items).1 = n + (leavesAll items).length := by
  match items with
  | [] => rfl
  | o :: os =>
    simp only [quoteEndsIn, leavesAll, List.length_append]
    rw [fst_quoteEndsIn, fst_quoteEnds, Nat.add_assoc]

end

mutual

theorem quotedChars_eq (leaf quote depth : Nat) (o : Output) :
    o.quotedChars depth = (o.pieces leaf quote depth).flatMap Piece.chars := by
  match o with
  | null => rfl
  | text s => simp [quotedChars, pieces, Piece.chars]
  | seq items => exact quotedCharsIn_eq leaf quote depth items
  | formatted _ quotes _ child =>
    cases quotes with
    | false => exact quotedChars_eq leaf quote depth child
    | true =>
      simp only [quotedChars, pieces, if_true, List.flatMap_append, List.flatMap_singleton, Piece.chars,
        List.append_nil]
      exact quotedChars_eq leaf (quote + 1) (depth + 1) child
  | tagged _ child => exact quotedChars_eq leaf quote depth child

theorem quotedCharsIn_eq (leaf quote depth : Nat) (items : List Output) :
    quotedCharsIn depth items = (piecesIn leaf quote depth items).flatMap Piece.chars := by
  match items with
  | [] => rfl
  | o :: os =>
    rw [quotedCharsIn, piecesIn, List.flatMap_append, quotedChars_eq leaf quote depth o,
      quotedCharsIn_eq _ _ depth os]

end

mutual

theorem applyMoves_eq (moves : List QuoteMove) (leaf quote depth : Nat) (o : Output) :
    (o.applyMoves moves leaf quote).1.quotedChars depth =
        (o.pieces leaf quote depth).flatMap (Piece.charsAfter moves) ∧
      (o.applyMoves moves leaf quote).2 =
        (leaf + o.leaves.length, quote + (o.quoteEnds leaf).2.length) := by
  match o with
  | null => exact ⟨rfl, rfl⟩
  | text s =>
    simp only [applyMoves, quotedChars, pieces, List.flatMap_singleton, Piece.charsAfter]
    constructor
    · split <;> simp
    · rfl
  | seq items => exact applyMovesIn_eq moves leaf quote depth items
  | tagged _ child => exact applyMoves_eq moves leaf quote depth child
  | formatted _ quotes _ child =>
    cases quotes with
    | false => exact applyMoves_eq moves leaf quote depth child
    | true =>
      obtain ⟨hchars, hcounts⟩ := applyMoves_eq moves leaf (quote + 1) (depth + 1) child
      simp only [applyMoves, if_true, quotedChars, pieces, List.flatMap_append, List.flatMap_singleton,
        Piece.charsAfter, quoteEnds, leaves, hcounts, List.length_cons]
      constructor
      · cases moves.find? (·.quote == quote) with
        | none => simpa using hchars
        | some m => simp [quotedChars_ofList, hchars, quotedChars]
      · rw [Nat.add_right_comm, Nat.add_assoc]

theorem applyMovesIn_eq (moves : List QuoteMove) (leaf quote depth : Nat) (items : List Output) :
    quotedCharsIn depth (applyMovesIn moves leaf quote items).1 =
        (piecesIn leaf quote depth items).flatMap (Piece.charsAfter moves) ∧
      (applyMovesIn moves leaf quote items).2 =
        (leaf + (leavesAll items).length, quote + (quoteEndsIn leaf items).2.length) := by
  match items with
  | [] => exact ⟨rfl, rfl⟩
  | o :: os =>
    obtain ⟨hchars, hcounts⟩ := applyMoves_eq moves leaf quote depth o
    obtain ⟨hrest, hend⟩ := applyMovesIn_eq moves (leaf + o.leaves.length)
      (quote + (o.quoteEnds leaf).2.length) depth os
    have hleaf := fst_quoteEnds leaf o
    simp only [applyMovesIn, quotedCharsIn, piecesIn, leavesAll, quoteEndsIn, List.flatMap_append,
      List.length_append, hcounts, hchars, hrest, hend, hleaf, Nat.add_assoc, and_self]

end

end Text

section Moves

variable {texts : List String} {ends seen : List (Option Nat)} {moves : List QuoteMove}

theorem nextMark?_some {start leaf : Nat} {mark : Char} (h : nextMark? texts start = some (leaf, mark)) :
    start ≤ leaf ∧ (∀ k, start ≤ k → k < leaf → texts[k]? = some "") ∧
      (∃ s, texts[leaf]? = some s ∧ s.toList.head? = some mark) ∧ (mark = '.' ∨ mark = ',') := by
  simp only [nextMark?, Option.bind_eq_bind, Option.bind_eq_some_iff] at h
  obtain ⟨offset, hoffset, s, hs, c, hc, hmark⟩ := h
  split at hmark
  · next hpoint =>
    obtain ⟨rfl, rfl⟩ : start + offset = leaf ∧ c = mark := by simpa using hmark
    refine ⟨Nat.le_add_right _ _, fun k hle hlt => ?_, ⟨s, hs, hc⟩, by simpa using hpoint⟩
    rw [List.findIdx?_eq_some_iff_getElem] at hoffset
    obtain ⟨hlength, -, hbefore⟩ := hoffset
    rw [List.length_drop] at hlength
    have hempty := hbefore (k - start) (by omega)
    rw [List.getElem_drop] at hempty
    rw [List.getElem?_eq_getElem (by omega)]
    simpa [Nat.add_sub_cancel' hle] using hempty
  · cases hmark

/-- What is known of the marks that move when the quotations in `seen` have been looked at: each
goes from a leaf to the end of a quotation in front of it, none is passed over, and no two go to
quotations that end together. -/
structure MovesFor (texts : List String) (ends seen : List (Option Nat)) (moves : List QuoteMove) :
    Prop where
  target : ∀ m ∈ moves, ∃ last, ends[m.quote]? = some (some last) ∧
    nextMark? texts (last + 1) = some (m.leaf, m.mark)
  taken : ∀ last, some last ∈ seen → (nextMark? texts (last + 1)).isSome = true →
    ∃ m ∈ moves, ends[m.quote]? = some (some last)
  apart : moves.Pairwise fun m m' => ends[m.quote]? ≠ ends[m'.quote]?

def newMove? (texts : List String) (ends : List (Option Nat)) (moves : List QuoteMove)
    (last? : Option Nat) (quote : Nat) : Option QuoteMove := do
  let last ← last?
  let (leaf, mark) ← nextMark? texts (last + 1)
  if moves.any fun m => ends[m.quote]? == some (some last) then none else some ⟨quote, leaf, mark⟩

theorem quoteMoves_eq (texts : List String) (ends : List (Option Nat)) :
    quoteMoves texts ends = ends.zipIdx.foldl (fun moves p =>
      moves ++ (newMove? texts ends moves p.1 p.2).toList) [] := by
  unfold quoteMoves newMove?
  congr 1
  funext moves p
  obtain ⟨last?, quote⟩ := p
  cases last? with
  | none => simp
  | some last =>
    cases hmark : nextMark? texts (last + 1) with
    | none => simp [hmark]
    | some found =>
      simp only [hmark, Option.bind_eq_bind, Option.bind_some]
      split <;> simp

theorem MovesFor.of_end {last? : Option Nat} (h : MovesFor texts ends seen moves)
    (hnew : ∀ last, last? = some last → (nextMark? texts (last + 1)).isSome = true →
      ∃ m ∈ moves, ends[m.quote]? = some (some last)) :
    MovesFor texts ends (seen ++ [last?]) moves where
  target := h.target
  taken last hmem hmark := by
    rw [List.mem_append, List.mem_singleton] at hmem
    rcases hmem with hmem | hmem
    · exact h.taken last hmem hmark
    · exact hnew last hmem.symm hmark
  apart := h.apart

theorem MovesFor.step {last? : Option Nat} {quote : Nat} (h : MovesFor texts ends seen moves)
    (hquote : ends[quote]? = some last?) :
    MovesFor texts ends (seen ++ [last?]) (moves ++ (newMove? texts ends moves last? quote).toList) := by
  cases last? with
  | none =>
    rw [newMove?, Option.bind_eq_bind, Option.bind_none, Option.toList_none, List.append_nil]
    exact h.of_end fun _ hlast => nomatch hlast
  | some last =>
    simp only [newMove?, Option.bind_eq_bind, Option.bind_some]
    cases hmark : nextMark? texts (last + 1) with
    | none =>
      rw [Option.bind_none, Option.toList_none, List.append_nil]
      refine h.of_end fun last' hlast hsome => ?_
      rw [← Option.some.inj hlast, hmark] at hsome
      cases hsome
    | some found =>
      obtain ⟨leaf, mark⟩ := found
      simp only [Option.bind_some]
      split
      -- another quotation that ends with this one has taken the mark
      · next hany =>
        rw [Option.toList_none, List.append_nil]
        refine h.of_end fun last' hlast _ => ?_
        rw [← Option.some.inj hlast]
        simpa using hany
      · next hany =>
        have hmoves : MovesFor texts ends seen (moves ++ [⟨quote, leaf, mark⟩]) := by
          refine ⟨?_, fun last' hmem hsome => ?_, ?_⟩
          · rw [List.forall_mem_append, List.forall_mem_singleton]
            exact ⟨h.target, last, hquote, hmark⟩
          · obtain ⟨m, hm, hends⟩ := h.taken last' hmem hsome
            exact ⟨m, List.mem_append_left _ hm, hends⟩
          · rw [List.pairwise_append]
            refine ⟨h.apart, List.pairwise_singleton _ _, fun m hm m' hm' heq => hany ?_⟩
            rw [List.mem_singleton.mp hm', hquote] at heq
            exact List.any_eq_true.mpr ⟨m, hm, by simpa using heq⟩
        refine hmoves.of_end fun last' hlast _ => ⟨_, List.mem_append_right _ List.mem_cons_self, ?_⟩
        rw [hquote, hlast]

theorem movesFor_quoteMoves (texts : List String) (ends : List (Option Nat)) :
    MovesFor texts ends ends (quoteMoves texts ends) := by
  have hseen (list : List (Option Nat × Nat)) (hlist : ∀ p ∈ list, ends[p.2]? = some p.1) :
      MovesFor texts ends (list.map Prod.fst) (list.foldl (fun moves p =>
        moves ++ (newMove? texts ends moves p.1 p.2).toList) []) := by
    induction list using List.reverseRecOn with
    | nil => exact ⟨by simp, by simp, .nil⟩
    | append_singleton list p ih =>
      obtain ⟨hlist, hlast⟩ := List.forall_mem_append.mp hlist
      rw [List.map_append, List.foldl_append]
      exact (ih hlist).step (hlast p List.mem_cons_self)
  have hends := hseen ends.zipIdx fun p hp => by
    obtain ⟨-, hlt, hget⟩ := List.mem_zipIdx hp
    simp_all
  rwa [List.zipIdx_map_fst, ← quoteMoves_eq] at hends

def Fits (texts : List String) (ends : List (Option Nat)) : Nat → List Piece → Prop
  | n, [] => n = texts.length
  | n, .leaf position s _ :: rest => position = n ∧ texts[n]? = some s ∧ Fits texts ends (n + 1) rest
  | n, .close quote _ :: rest =>
    ends[quote]? = some (if n == 0 then none else some (n - 1)) ∧ Fits texts ends n rest

mutual

theorem fits_pieces (o : Output) {before after : List String} {first last : List (Option Nat)}
    {rest : List Piece} (depth : Nat) (htexts : texts = before ++ o.leaves ++ after)
    (hends : ends = first ++ (o.quoteEnds before.length).2 ++ last)
    (hrest : Fits texts ends (before.length + o.leaves.length) rest) :
    Fits texts ends before.length (o.pieces before.length first.length depth ++ rest) := by
  match o with
  | null => exact hrest
  | text s =>
    refine ⟨rfl, ?_, hrest⟩
    rw [htexts, leaves, List.append_assoc, List.getElem?_append_right (Nat.le_refl _), Nat.sub_self]
    rfl
  | seq items => exact fits_piecesIn items depth htexts hends hrest
  | tagged _ child => exact fits_pieces child depth htexts hends hrest
  | formatted _ quotes _ child =>
    cases quotes with
    | false => exact fits_pieces child depth htexts hends hrest
    | true =>
      have hclose := fst_quoteEnds before.length child
      simp only [quoteEnds, if_true, hclose] at hends
      simp only [pieces, if_true, List.append_assoc, List.cons_append, List.nil_append]
      have hfirst : ends = (first ++ [if before.length + child.leaves.length == 0 then none
          else some (before.length + child.leaves.length - 1)]) ++
          (child.quoteEnds before.length).2 ++ last := by
        rw [hends]
        simp
      have hend : Fits texts ends (before.length + child.leaves.length)
          (.close first.length (depth + 1) :: rest) := by
        refine ⟨?_, hrest⟩
        rw [hends, List.append_assoc, List.getElem?_append_right (Nat.le_refl _), Nat.sub_self]
        rfl
      simpa using fits_pieces child (depth + 1) htexts hfirst hend

theorem fits_piecesIn (items : List Output) {before after : List String} {first last : List (Option Nat)}
    {rest : List Piece} (depth : Nat) (htexts : texts = before ++ leavesAll items ++ after)
    (hends : ends = first ++ (quoteEndsIn before.length items).2 ++ last)
    (hrest : Fits texts ends (before.length + (leavesAll items).length) rest) :
    Fits texts ends before.length (piecesIn before.length first.length depth items ++ rest) := by
  match items with
  | [] => exact hrest
  | o :: os =>
    have hleaf := fst_quoteEnds before.length o
    simp only [leavesAll, quoteEndsIn, hleaf, List.length_append] at htexts hends hrest
    have htextsTail : texts = (before ++ o.leaves) ++ leavesAll os ++ after := by simp [htexts]
    have hendsTail : ends = (first ++ (o.quoteEnds before.length).2) ++
        (quoteEndsIn (before ++ o.leaves).length os).2 ++ last := by simp [hends]
    have hrestTail : Fits texts ends ((before ++ o.leaves).length + (leavesAll os).length) rest := by
      simpa [Nat.add_assoc] using hrest
    have hos := fits_piecesIn os depth htextsTail hendsTail hrestTail
    have htextsHead : texts = before ++ o.leaves ++ (leavesAll os ++ after) := by simp [htexts]
    have hendsHead : ends = first ++ (o.quoteEnds before.length).2 ++
        ((quoteEndsIn (before ++ o.leaves).length os).2 ++ last) := by simp [hends]
    rw [piecesIn, List.append_assoc]
    exact fits_pieces o depth htextsHead hendsHead (by simpa using hos)

end

mutual

theorem numbers_pieces (leaf quote depth : Nat) (o : Output) :
    (o.pieces leaf quote depth).filterMap Piece.position? = List.range' leaf o.leaves.length ∧
      ((o.pieces leaf quote depth).filterMap Piece.quote?).Perm
        (List.range' quote (o.quoteEnds leaf).2.length) := by
  match o with
  | null => exact ⟨rfl, .nil⟩
  | text _ => exact ⟨rfl, .nil⟩
  | seq items => exact numbers_piecesIn leaf quote depth items
  | tagged _ child => exact numbers_pieces leaf quote depth child
  | formatted _ quotes _ child =>
    cases quotes with
    | false => exact numbers_pieces leaf quote depth child
    | true =>
      obtain ⟨hleaves, hquotes⟩ := numbers_pieces leaf (quote + 1) (depth + 1) child
      simp only [pieces, if_true, List.filterMap_append, hleaves, leaves, quoteEnds, List.length_cons,
        List.range'_succ]
      exact ⟨List.append_nil _, (List.perm_append_singleton _ _).trans (hquotes.cons quote)⟩

theorem numbers_piecesIn (leaf quote depth : Nat) (items : List Output) :
    (piecesIn leaf quote depth items).filterMap Piece.position? =
        List.range' leaf (leavesAll items).length ∧
      ((piecesIn leaf quote depth items).filterMap Piece.quote?).Perm
        (List.range' quote (quoteEndsIn leaf items).2.length) := by
  match items with
  | [] => exact ⟨rfl, .nil⟩
  | o :: os =>
    obtain ⟨hleaves, hquotes⟩ := numbers_pieces leaf quote depth o
    obtain ⟨hleaves', hquotes'⟩ := numbers_piecesIn (leaf + o.leaves.length)
      (quote + (o.quoteEnds leaf).2.length) depth os
    have hleaf := fst_quoteEnds leaf o
    simp only [piecesIn, leavesAll, quoteEndsIn, List.filterMap_append, List.length_append, hleaves,
      hleaves', hleaf]
    rw [← List.range'_append_1, ← List.range'_append_1]
    exact ⟨rfl, hquotes.append hquotes'⟩

end

variable {n : Nat} {rest : List Piece}

theorem Fits.le_of_mem (h : Fits texts ends n rest) {quote : Nat}
    (hquote : quote ∈ rest.filterMap Piece.quote?) {last : Nat}
    (hlast : ends[quote]? = some (some last)) :
    n ≤ last + 1 := by
  induction rest generalizing n with
  | nil => cases hquote
  | cons piece rest ih =>
    cases piece with
    | leaf position s depth =>
      have hle := ih h.2.2 hquote
      omega
    | close quote' depth =>
      rcases List.mem_cons.mp hquote with rfl | hquote
      · have hend := hlast.symm.trans h.1
        split at hend
        · cases hend
        · simp only [Option.some.injEq] at hend
          omega
      · exact ih h.2 hquote

namespace MovesFor

variable {m m' : QuoteMove} {s : String} {last last' : Nat}

theorem nextMark?_eq (h : MovesFor texts ends seen moves) (hm : m ∈ moves)
    (hlast : ends[m.quote]? = some (some last)) :
    nextMark? texts (last + 1) = some (m.leaf, m.mark) := by
  obtain ⟨last', hlast', hmark⟩ := h.target m hm
  obtain rfl : last = last' := by simpa [hlast] using hlast'
  exact hmark

theorem quote_lt (h : MovesFor texts ends seen moves) (hm : m ∈ moves) : m.quote < ends.length := by
  obtain ⟨_, hlast, -⟩ := h.target m hm
  exact (List.getElem?_eq_some_iff.mp hlast).1

theorem lt_leaf (h : MovesFor texts ends seen moves) (hm : m ∈ moves)
    (hlast : ends[m.quote]? = some (some last)) : last < m.leaf :=
  (nextMark?_some (h.nextMark?_eq hm hlast)).1

theorem text_leaf (h : MovesFor texts ends seen moves) (hm : m ∈ moves) :
    ∃ s cs, texts[m.leaf]? = some s ∧ s.toList = m.mark :: cs := by
  obtain ⟨_, -, hmark⟩ := h.target m hm
  obtain ⟨-, -, ⟨s, hs, hhead⟩, -⟩ := nextMark?_some hmark
  obtain ⟨cs, hcs⟩ := List.head?_eq_some_iff.mp hhead
  exact ⟨s, cs, hs, hcs⟩

theorem toList_leaf (h : MovesFor texts ends seen moves) (hm : m ∈ moves)
    (hs : texts[m.leaf]? = some s) : ∃ cs, s.toList = m.mark :: cs := by
  obtain ⟨s', cs, hs', hcs⟩ := h.text_leaf hm
  obtain rfl := Option.some.inj (hs.symm.trans hs')
  exact ⟨cs, hcs⟩

theorem leaf_lt (h : MovesFor texts ends seen moves) (hm : m ∈ moves) : m.leaf < texts.length := by
  obtain ⟨_, _, hs, -⟩ := h.text_leaf hm
  exact (List.getElem?_eq_some_iff.mp hs).1

theorem mark_eq (h : MovesFor texts ends seen moves) (hm : m ∈ moves) : m.mark = '.' ∨ m.mark = ',' := by
  obtain ⟨_, -, hmark⟩ := h.target m hm
  exact (nextMark?_some hmark).2.2.2

theorem leaf_le (h : MovesFor texts ends seen moves) (hm : m ∈ moves)
    (hlast : ends[m.quote]? = some (some last)) (hlt : last < n) (hs : texts[n]? = some s)
    (hne : s ≠ "") : m.leaf ≤ n := by
  obtain ⟨-, hempty, -⟩ := nextMark?_some (h.nextMark?_eq hm hlast)
  by_contra hgt
  have hnone := hempty n (by omega) (by omega)
  rw [hs] at hnone
  exact hne (Option.some.inj hnone)

theorem leaf_eq (h : MovesFor texts ends seen moves) (hm : m ∈ moves) (hm' : m' ∈ moves)
    (hlast : ends[m.quote]? = some (some last)) (hlast' : ends[m'.quote]? = some (some last'))
    (hlt : last < n) (hlt' : last' < n) (hle : n ≤ m.leaf) (hle' : n ≤ m'.leaf) : m.leaf = m'.leaf := by
  have shown {m : QuoteMove} (hm : m ∈ moves) : ∃ s, texts[m.leaf]? = some s ∧ s ≠ "" := by
    obtain ⟨s, cs, hs, hcs⟩ := h.text_leaf hm
    exact ⟨s, hs, by rintro rfl; cases hcs⟩
  obtain ⟨s, hs, hne⟩ := shown hm
  obtain ⟨s', hs', hne'⟩ := shown hm'
  have hge := h.leaf_le hm hlast (by omega) hs' hne'
  have hge' := h.leaf_le hm' hlast' (by omega) hs hne
  omega

end MovesFor

def Made (moves : List QuoteMove) (rest : List Piece) (m : QuoteMove) : Prop :=
  m ∈ moves ∧ m.quote ∉ rest.filterMap Piece.quote?

theorem made_close_iff {quote depth : Nat} {m : QuoteMove} :
    Made moves (.close quote depth :: rest) m ↔ m.quote ≠ quote ∧ Made moves rest m := by
  simp only [Made, List.filterMap_cons, Piece.quote?, List.mem_cons, not_or]
  exact and_left_comm

/-- What the moves make of pieces behind `n` leaves. If a move that has been made takes its mark
from them, the mark is missing at their front, and else nothing is. -/
structure Carried (moves : List QuoteMove) (n : Nat) (rest : List Piece) : Prop where
  whole : (∀ m, Made moves rest m → m.leaf < n) →
    List.Forall₂ SameButSide (rest.flatMap Piece.chars) (rest.flatMap (Piece.charsAfter moves))
  missing : ∀ m, Made moves rest m → n ≤ m.leaf →
    ∃ depth front, rest.flatMap Piece.chars = (m.mark, depth) :: front ∧
      List.Forall₂ SameButSide front (rest.flatMap (Piece.charsAfter moves))

theorem Carried.of_empty {piece : Piece} {k : Nat} (hrest : Carried moves k rest)
    (hchars : piece.chars = []) (hafter : piece.charsAfter moves = [])
    (hmade : ∀ m, Made moves (piece :: rest) m ↔ Made moves rest m) (hk : n ≤ k)
    (hle : ∀ m, Made moves rest m → n ≤ m.leaf → k ≤ m.leaf) : Carried moves n (piece :: rest) := by
  have hflat : (piece :: rest).flatMap Piece.chars = rest.flatMap Piece.chars := by
    rw [List.flatMap_cons, hchars, List.nil_append]
  have hflatAfter : (piece :: rest).flatMap (Piece.charsAfter moves) =
      rest.flatMap (Piece.charsAfter moves) := by
    rw [List.flatMap_cons, hafter, List.nil_append]
  constructor
  · rw [hflat, hflatAfter]
    exact fun hbefore => hrest.whole fun m hm => (hbefore m ((hmade m).mpr hm)).trans_le hk
  · intro m hm hge
    rw [hmade] at hm
    rw [hflat, hflatAfter]
    exact hrest.missing m hm (hle m hm hge)

namespace MovesFor

theorem carried_empty (h : MovesFor texts ends seen moves) {position depth : Nat}
    (hs : texts[position]? = some "") (hrest : Carried moves (position + 1) rest) :
    Carried moves position (.leaf position "" depth :: rest) := by
  refine hrest.of_empty rfl (by simp [Piece.charsAfter]) (fun _ => .rfl)
    (Nat.le_succ _) fun m hm hle => ?_
  refine Nat.lt_of_le_of_ne hle fun heq => ?_
  obtain ⟨cs, hcs⟩ := h.toList_leaf hm.1 (heq ▸ hs)
  cases hcs

theorem carried_text (h : MovesFor texts ends seen moves) {position depth : Nat} {s : String}
    (hs : texts[position]? = some s) (hne : s ≠ "") (hfits : Fits texts ends (position + 1) rest)
    (hmade : ∀ m, Made moves rest m → ∀ last, ends[m.quote]? = some (some last) → last < position)
    (hrest : Carried moves (position + 1) rest) :
    Carried moves position (.leaf position s depth :: rest) := by
  have hle : ∀ m, Made moves rest m → m.leaf ≤ position := by
    intro m hm
    obtain ⟨last, hlast, -⟩ := h.target m hm.1
    exact h.leaf_le hm.1 hlast (hmade m hm last hlast) hs hne
  have htail := hrest.whole fun m hm => Nat.lt_succ_of_le (hle m hm)
  constructor
  · intro hbefore
    have hkept : moves.any (·.leaf == position) = false := by
      rw [List.any_eq_false]
      intro m hm heq
      obtain rfl : m.leaf = position := eq_of_beq heq
      obtain ⟨last, hlast, -⟩ := h.target m hm
      by_cases hquote : m.quote ∈ rest.filterMap Piece.quote?
      · have hge := hfits.le_of_mem hquote hlast
        have hlt := h.lt_leaf hm hlast
        omega
      · exact Nat.lt_irrefl _ (hbefore m ⟨hm, hquote⟩)
    simp only [List.flatMap_cons, Piece.chars, Piece.charsAfter, hkept, Bool.false_eq_true, if_false]
    exact List.rel_append (List.forall₂_same.mpr fun c _ => .refl c) htail
  · intro m hm hge
    obtain rfl : position = m.leaf := Nat.le_antisymm hge (hle m hm)
    obtain ⟨cs, hcs⟩ := h.toList_leaf hm.1 hs
    have htaken : moves.any (·.leaf == m.leaf) = true :=
      List.any_eq_true.mpr ⟨m, hm.1, beq_self_eq_true _⟩
    simp only [List.flatMap_cons, Piece.chars, Piece.charsAfter, htaken, if_true, hcs]
    refine ⟨depth, cs.map (·, depth) ++ rest.flatMap Piece.chars, rfl, ?_⟩
    exact List.rel_append (List.forall₂_same.mpr fun c _ => .refl c) htail

theorem carried_close (h : MovesFor texts ends seen moves) (hleaves : (moves.map (·.leaf)).Nodup)
    {quote depth : Nat} (hfresh : quote ∉ rest.filterMap Piece.quote?)
    (hmade : ∀ m, Made moves rest m → ∀ last, ends[m.quote]? = some (some last) → last < n)
    (hend : ∀ last, ends[quote]? = some (some last) → n = last + 1) (hrest : Carried moves n rest) :
    Carried moves n (.close quote depth :: rest) := by
  cases hfind : moves.find? (·.quote == quote) with
  | none =>
    have hne : ∀ m ∈ moves, m.quote ≠ quote := by simpa using hfind
    have hmade' : ∀ m, Made moves (.close quote depth :: rest) m ↔ Made moves rest m :=
      fun m => made_close_iff.trans ⟨And.right, fun hm => ⟨hne m hm.1, hm⟩⟩
    exact hrest.of_empty rfl (by simp [Piece.charsAfter, hfind]) hmade'
      (Nat.le_refl n) fun _ _ hle => hle
  | some taken =>
    have hmem := List.mem_of_find?_eq_some hfind
    obtain rfl : taken.quote = quote := by simpa using List.find?_some hfind
    obtain ⟨last, hlast, -⟩ := h.target taken hmem
    have hlt := h.lt_leaf hmem hlast
    have hn := hend last hlast
    constructor
    · intro _
      obtain ⟨depth', front, hfront, hsame⟩ := hrest.missing taken ⟨hmem, hfresh⟩ (by omega)
      simp only [List.flatMap_cons, Piece.chars, Piece.charsAfter, hfind, Option.toList_some,
        List.map_cons, List.map_nil, List.nil_append, List.singleton_append, hfront]
      exact .cons ⟨rfl, .inr (h.mark_eq hmem)⟩ hsame
    · intro m hm hle
      -- the mark would be taken twice
      obtain ⟨hne, hm⟩ := made_close_iff.mp hm
      obtain ⟨last', hlast', -⟩ := h.target m hm.1
      have hleaf := h.leaf_eq hm.1 hmem hlast' hlast (hmade m hm last' hlast') (by omega) hle (by omega)
      have hsame : m = taken := List.inj_on_of_nodup_map hleaves hm.1 hmem hleaf
      exact absurd (congrArg QuoteMove.quote hsame) hne

theorem carried (h : MovesFor texts ends seen moves) (hleaves : (moves.map (·.leaf)).Nodup)
    (hfits : Fits texts ends n rest) (hnodup : (rest.filterMap Piece.quote?).Nodup)
    (hmade : ∀ m, Made moves rest m → ∀ last, ends[m.quote]? = some (some last) → last < n) :
    Carried moves n rest := by
  -- From the back: what is missing behind the end of a quotation is what has been written at that end.
  induction rest generalizing n with
  | nil =>
    refine ⟨fun _ => .nil, fun m hm hle => ?_⟩
    exact absurd (h.leaf_lt hm.1) (Nat.not_lt.mpr (hfits ▸ hle))
  | cons piece rest ih =>
    cases piece with
    | leaf position s depth =>
      obtain ⟨rfl, hs, hfits⟩ := hfits
      have hrest := ih hfits hnodup fun m hm last hlast => Nat.lt_succ_of_lt (hmade m hm last hlast)
      by_cases hne : s = ""
      · subst hne
        exact h.carried_empty hs hrest
      · exact h.carried_text hs hne hfits hmade hrest
    | close quote depth =>
      obtain ⟨hends, hfits⟩ := hfits
      obtain ⟨hfresh, hnodup⟩ := List.nodup_cons.mp hnodup
      have hend : ∀ last, ends[quote]? = some (some last) → n = last + 1 := by
        intro last hlast
        rw [hends] at hlast
        split at hlast
        · cases hlast
        · next hn =>
          simp only [Option.some.injEq, beq_iff_eq] at hlast hn
          omega
      have hmade' : ∀ m, Made moves rest m → ∀ last, ends[m.quote]? = some (some last) → last < n := by
        intro m hm last hlast
        by_cases hne : m.quote = quote
        · exact hend last (hne ▸ hlast) ▸ Nat.lt_succ_self last
        · exact hmade m (made_close_iff.mpr ⟨hne, hm⟩) last hlast
      exact h.carried_close hleaves hfresh hmade' hend (ih hfits hnodup hmade')

end MovesFor

theorem length_charsAfter (h : MovesFor texts ends seen moves) (hfits : Fits texts ends n rest) :
    (rest.flatMap (Piece.charsAfter moves)).length +
        (rest.filterMap Piece.position?).countP (· ∈ moves.map (·.leaf)) =
      (rest.flatMap Piece.chars).length +
        (rest.filterMap Piece.quote?).countP (· ∈ moves.map (·.quote)) := by
  -- A leaf that a move takes its mark from loses a character, and the end that it goes to gains one.
  induction rest generalizing n with
  | nil => rfl
  | cons piece rest ih =>
    cases piece with
    | leaf position s depth =>
      obtain ⟨rfl, hs, hrest⟩ := hfits
      have hrest := ih hrest
      have hany : (moves.any (·.leaf == position)) = decide (position ∈ moves.map (·.leaf)) := by
        rw [Bool.eq_iff_iff]
        simp
      simp only [List.flatMap_cons, Piece.chars, Piece.charsAfter, List.filterMap_cons, Piece.position?,
        Piece.quote?, List.countP_cons, List.length_append, List.length_map, hany]
      split
      · next hmem =>
        obtain ⟨m, hm, rfl⟩ := List.mem_map.mp (of_decide_eq_true hmem)
        obtain ⟨cs, hcs⟩ := h.toList_leaf hm hs
        rw [hcs, List.drop_one, List.tail_cons, List.length_cons]
        omega
      · omega
    | close quote depth =>
      have hrest := ih hfits.2
      simp only [List.flatMap_cons, Piece.chars, Piece.charsAfter, List.filterMap_cons, Piece.position?,
        Piece.quote?, List.countP_cons, List.length_append, List.length_map, List.length_nil]
      cases hfind : moves.find? (·.quote == quote) with
      | none =>
        have hnot : quote ∉ moves.map (·.quote) := by
          have hne : ∀ m ∈ moves, m.quote ≠ quote := by simpa using hfind
          intro hmem
          obtain ⟨m, hm, hquote⟩ := List.mem_map.mp hmem
          exact hne m hm hquote
        simp only [Option.toList_none, List.length_nil, decide_eq_true_eq, if_neg hnot]
        omega
      | some m =>
        have hmem : quote ∈ moves.map (·.quote) := by
          have hquote : m.quote = quote := by simpa using List.find?_some hfind
          exact hquote ▸ List.mem_map_of_mem (List.mem_of_find?_eq_some hfind)
        simp only [Option.toList_some, List.length_singleton, decide_eq_true_eq, if_pos hmem]
        omega

end Moves

section Counting

theorem countP_mem_of_nodup {list keys : List Nat} (hlist : list.Nodup) (hkeys : keys.Nodup)
    (h : ∀ key ∈ keys, key ∈ list) : list.countP (· ∈ keys) = keys.length := by
  rw [List.countP_eq_length_filter]
  apply List.Perm.length_eq
  rw [List.perm_ext_iff_of_nodup (hlist.filter _) hkeys]
  intro key
  rw [List.mem_filter, decide_eq_true_eq]
  exact ⟨And.right, fun hkey => ⟨h key hkey, hkey⟩⟩

variable (o : Output)

def markMoves : List QuoteMove := quoteMoves o.leaves (o.quoteEnds 0).2

theorem movesFor : MovesFor o.leaves (o.quoteEnds 0).2 (o.quoteEnds 0).2 o.markMoves :=
  movesFor_quoteMoves _ _

theorem quotedChars_movePunctuationIntoQuotes (depth : Nat) :
    o.movePunctuationIntoQuotes.quotedChars depth =
      (o.pieces 0 0 depth).flatMap (Piece.charsAfter o.markMoves) := by
  unfold movePunctuationIntoQuotes markMoves
  dsimp only
  split
  · next h =>
    have hnone : Piece.charsAfter [] = Piece.chars := by
      funext piece
      cases piece <;> rfl
    rw [List.isEmpty_iff.mp h, hnone, ← quotedChars_eq]
  · exact (applyMoves_eq _ 0 0 depth o).1

theorem fits_pieces_zero (depth : Nat) : Fits o.leaves (o.quoteEnds 0).2 0 (o.pieces 0 0 depth) := by
  have htexts : o.leaves = [] ++ o.leaves ++ [] := (List.append_nil _).symm
  have hends : (o.quoteEnds 0).2 = [] ++ (o.quoteEnds ([] : List String).length).2 ++ [] :=
    (List.append_nil _).symm
  have hrest : Fits o.leaves (o.quoteEnds 0).2 (([] : List String).length + o.leaves.length) [] :=
    Nat.zero_add _
  simpa using fits_pieces o depth htexts hends hrest

theorem mem_range_quote {m : QuoteMove} (hm : m ∈ o.markMoves) :
    m.quote ∈ List.range' 0 (o.quoteEnds 0).2.length := by
  rw [List.mem_range'_1]
  exact ⟨Nat.zero_le _, Nat.zero_add _ ▸ o.movesFor.quote_lt hm⟩

theorem mem_range_leaf {m : QuoteMove} (hm : m ∈ o.markMoves) :
    m.leaf ∈ List.range' 0 o.leaves.length := by
  rw [List.mem_range'_1]
  exact ⟨Nat.zero_le _, Nat.zero_add _ ▸ o.movesFor.leaf_lt hm⟩

theorem nodup_leaf_iff : (o.markMoves.map (·.leaf)).Nodup ↔ o.MarksUnshared := by
  have h := o.movesFor
  constructor
  · intro hnodup a ha b hb i hi j hj hmark heq
    obtain rfl := hi
    obtain rfl := hj
    obtain ⟨m, hm, hlast⟩ := h.taken i ha hmark
    obtain ⟨m', hm', hlast'⟩ := h.taken j hb (heq ▸ hmark)
    have hleaf : m.leaf = m'.leaf := by
      have hsame := (h.nextMark?_eq hm hlast).symm.trans (heq.trans (h.nextMark?_eq hm' hlast'))
      simpa using congrArg (·.map Prod.fst) hsame
    obtain rfl := List.inj_on_of_nodup_map hnodup hm hm' hleaf
    simpa using hlast.symm.trans hlast'
  · intro hunshared
    rw [List.Nodup, List.pairwise_map]
    apply h.apart.imp_of_mem
    intro m m' hm hm' happart hleaf
    obtain ⟨last, hlast, hmark⟩ := h.target m hm
    obtain ⟨last', hlast', hmark'⟩ := h.target m' hm'
    have hsame : m.mark = m'.mark := by
      obtain ⟨s, cs, hs, hcs⟩ := h.text_leaf hm
      obtain ⟨cs', hcs'⟩ := h.toList_leaf hm' (hleaf ▸ hs)
      exact (List.cons.inj (hcs.symm.trans hcs')).1
    have heq := hunshared (some last) (List.mem_of_getElem? hlast) (some last')
      (List.mem_of_getElem? hlast') last rfl last' rfl (hmark ▸ rfl)
        (by rw [hmark, hmark', hleaf, hsame])
    exact happart (by rw [hlast, hlast', heq])

theorem sameButSide_movePunctuationIntoQuotes (h : o.MarksUnshared) (depth : Nat) :
    List.Forall₂ SameButSide (o.quotedChars depth) (o.movePunctuationIntoQuotes.quotedChars depth) := by
  have hquotes := (numbers_pieces 0 0 depth o).2
  -- in front of the first piece no move has been made
  have hstart {m : QuoteMove} (hm : Made o.markMoves (o.pieces 0 0 depth) m) : False :=
    hm.2 (hquotes.mem_iff.mpr (o.mem_range_quote hm.1))
  have hnodup := hquotes.nodup_iff.mpr List.nodup_range'
  have hcarried := o.movesFor.carried (o.nodup_leaf_iff.mpr h) (o.fits_pieces_zero depth) hnodup
    fun m hm => (hstart hm).elim
  rw [quotedChars_movePunctuationIntoQuotes, quotedChars_eq 0 0]
  exact hcarried.whole fun m hm => (hstart hm).elim

theorem marksUnshared_of_plain (h : o.movePunctuationIntoQuotes.plain = o.plain) : o.MarksUnshared := by
  obtain ⟨hpositions, hquotes⟩ := numbers_pieces 0 0 0 o
  have hmoves := o.movesFor
  have hlength := length_charsAfter hmoves (o.fits_pieces_zero 0)
  have hsame : (o.movePunctuationIntoQuotes.quotedChars 0).length = (o.quotedChars 0).length := by
    have hchars := congrArg (fun s => s.toList.length) h
    simpa only [toList_plain, ← map_fst_quotedChars 0, List.length_map] using hchars
  rw [← quotedChars_movePunctuationIntoQuotes, ← quotedChars_eq, hsame, hpositions,
    hquotes.countP_eq, Nat.add_left_cancel_iff] at hlength
  have hnodup : (o.markMoves.map (·.quote)).Nodup := by
    rw [List.Nodup, List.pairwise_map]
    exact hmoves.apart.imp fun happart hquote => happart (by rw [hquote])
  have hwritten : (List.range' 0 (o.quoteEnds 0).2.length).countP (· ∈ o.markMoves.map (·.quote)) =
      o.markMoves.length := by
    rw [countP_mem_of_nodup List.nodup_range' hnodup, List.length_map]
    exact List.forall_mem_map.mpr fun m hm => o.mem_range_quote hm
  have htaken : (List.range' 0 o.leaves.length).countP (· ∈ o.markMoves.map (·.leaf)) =
      (o.markMoves.map (·.leaf)).dedup.length := by
    have hcount := @countP_mem_of_nodup (List.range' 0 o.leaves.length) _ List.nodup_range'
      (List.nodup_dedup (o.markMoves.map (·.leaf)))
    simp only [List.mem_dedup] at hcount
    exact hcount (List.forall_mem_map.mpr fun m hm => o.mem_range_leaf hm)
  rw [htaken, hwritten] at hlength
  rw [← nodup_leaf_iff, ← List.dedup_eq_self]
  exact (List.dedup_sublist _).eq_of_length (hlength.trans (List.length_map _).symm)

/-- Whether punctuation goes inside quotations makes no difference to the text exactly when no period or
comma follows two quotations. Then it makes none to each character either, but for the quotations that
periods and commas stand in. -/
theorem plain_tidy_punctuationInQuote (o : Output) (marks : QuoteMarks) :
    let off := o.tidy { marks with punctuationInQuote := false }
    let on := o.tidy { marks with punctuationInQuote := true }
    (on.plain = off.plain ↔ off.MarksUnshared) ∧
      (off.MarksUnshared → List.Forall₂ SameButSide (off.quotedChars 0) (on.quotedChars 0)) := by
  intro off on
  have hon : on = off.movePunctuationIntoQuotes := rfl
  refine ⟨⟨fun h => off.marksUnshared_of_plain h, fun h => ?_⟩,
    fun h => off.sameButSide_movePunctuationIntoQuotes h 0⟩
  have hsame := off.sameButSide_movePunctuationIntoQuotes h 0
  apply String.toList_injective
  rw [hon, toList_plain, toList_plain, ← map_fst_quotedChars 0, ← map_fst_quotedChars 0]
  apply List.forall₂_eq_eq_eq ▸ List.forall₂_map_left_iff.mpr (List.forall₂_map_right_iff.mpr _)
  exact hsame.flip.imp fun c d h => h.1.symm

theorem plain_tidy_shared_comma :
    let quoted (s : String) := formatted {} true none (.text s)
    let o := seq [quoted "A.", quoted ".", .text ","]
    (o.tidy { punctuationInQuote := false }).plain = "A.," ∧
      (o.tidy { punctuationInQuote := true }).plain = "A.,," := by
  decide +kernel

end Counting

end Citeproc.Output
