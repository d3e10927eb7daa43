import Citeproc.Proofs.Names.Expansion
import Citeproc.Proofs.Output.Parts

namespace Citeproc.NameFormatter

inductive Piece
  | name (index : Nat)
  | delimiter
  | and (delimited : Bool) (word : String)
  | ellipsis
  | etAl (delimited : Bool) (term : String)
  deriving DecidableEq, Repr

def Piece.index? : Piece → Option Nat
  | .name index => some index
  | _ => none

variable (f : NameFormatter) (names : List Name)

def nameAt (index : Nat) : Output := names[index]?.elim .null (f.renderName · index)

def Piece.outputs : Piece → List Output
  | .name index => [f.nameAt names index]
  | .delimiter => [.ofText f.delimiter]
  | .and delimited word => [.ofText ((if delimited then f.delimiter else " ") ++ word ++ " ")]
  | .ellipsis => [.ofText (f.delimiter ++ "… ")]
  | .etAl delimited term =>
    [.ofText (if delimited then f.delimiter else " "),
      f.etAl.elim (.ofText term) ((Output.ofText term).decorate ·.rendering)]

def delimitedNames : List Nat → List Piece
  | [] => []
  | i :: places =>
    .name i ::
      ((if !(f.nameAt names i).isEmpty && places.any (fun j => !(f.nameAt names j).isEmpty)
        then [.delimiter]
        else []) ++ delimitedNames places)

def shownPieces : List Piece :=
  let shown := f.shownCount names.length
  match f.andWord? with
  | some word =>
    if shown = names.length ∧ 2 ≤ shown then
      f.delimitedNames names (List.range (shown - 1)) ++
        [.and
            ((f.options.delimiterPrecedesLast.getD .contextual).holds (3 ≤ shown)
              (f.isInverted (shown - 2)))
            word,
          .name (shown - 1)]
    else f.delimitedNames names (List.range shown)
  | none => f.delimitedNames names (List.range shown)

def hiddenPieces : List Piece :=
  let shown := f.shownCount names.length
  if shown = names.length ∨ f.sortMode then []
  else if f.options.etAlUseLast.getD false ∧ 2 ≤ names.length - shown then
    [.ellipsis, .name (names.length - 1)]
  else
    f.etAlTerm?.toList.map fun term =>
      .etAl ((f.options.delimiterPrecedesEtAl.getD .contextual).holds (2 ≤ shown)
        (f.isInverted (shown - 1))) term

def Reads (pieces : List Piece) (o : Output) : Prop :=
  o.parts = pieces.flatMap fun piece => (piece.outputs f names).flatMap Output.parts

variable {f names}

theorem renderNames_take {k : Nat} (h : k ≤ names.length) :
    f.renderNames (names.take k) = (List.range k).map (f.nameAt names) := by
  apply List.ext_getElem
  · simp [renderNames, h]
  · intro i hi _
    have hlt : i < names.length := by
      simp [renderNames] at hi
      omega
    simp [renderNames, nameAt, hlt]

theorem reads_delimitedNames (f : NameFormatter) (names : List Name) (places : List Nat) :
    f.Reads names (f.delimitedNames names places) (.join (places.map (f.nameAt names)) f.delimiter) := by
  rw [Reads, Output.parts_join]
  induction places with
  | nil => rfl
  | cons i places ih =>
    rw [delimitedNames, List.map_cons, Output.delimited, List.flatMap_cons, List.flatMap_cons,
      List.flatMap_append,
      List.flatMap_append, ih, List.any_map]
    congr 1
    · simp [Piece.outputs]
    · congr 1
      simp only [Function.comp_def]
      split <;> simp [Piece.outputs]

theorem reads_joinWithAnd (h : f.shownCount names.length = names.length) (hpos : 0 < names.length) :
    f.Reads names (f.shownPieces names)
      (f.joinWithAnd (f.renderNames names) (2 ≤ names.length && f.isInverted (names.length - 2))) := by
  have hnames : f.renderNames names = (List.range names.length).map (f.nameAt names) := by
    rw [← renderNames_take (Nat.le_refl _), List.take_length]
  have hrange : List.range names.length = List.range (names.length - 1) ++ [names.length - 1] := by
    rw [← List.range_succ, Nat.succ_eq_add_one, Nat.sub_add_cancel hpos]
  have hlast : (f.renderNames names).getLast? = some (f.nameAt names (names.length - 1)) := by
    rw [hnames, hrange, List.map_append, List.map_singleton, List.getLast?_concat]
  have hlength : (f.renderNames names).length = names.length := by simp [hnames]
  have hall := reads_delimitedNames f names (List.range names.length)
  rw [← hnames] at hall
  rw [joinWithAnd, shownPieces, hlast, h, hlength]
  cases f.andWord? with
  | none => exact hall
  | some word =>
    dsimp only
    by_cases htwo : 2 ≤ names.length
    · have hfew : ¬names.length < 2 := by omega
      have hfront := reads_delimitedNames f names (List.range (names.length - 1))
      have hinit : (f.renderNames names).dropLast =
          (List.range (names.length - 1)).map (f.nameAt names) := by
        rw [hnames, hrange, List.map_append, List.map_singleton, List.dropLast_concat]
      simp only [htwo, hfew, and_self, if_true, if_false, decide_true, Bool.true_and, hinit]
      rw [Reads] at hfront ⊢
      simp [Output.parts_ofList, hfront, Piece.outputs]
    · have hfew : names.length < 2 := by omega
      simp only [htwo, hfew, and_false, if_true, if_false]
      exact hall

theorem shownPieces_of_lt (h : f.shownCount names.length < names.length) :
    f.shownPieces names = f.delimitedNames names (List.range (f.shownCount names.length)) := by
  rw [shownPieces]
  cases f.andWord? with
  | none => rfl
  | some word => exact if_neg fun hall => h.ne hall.1

theorem reads_withHidden (h : f.shownCount names.length < names.length) :
    f.Reads names (f.shownPieces names ++ f.hiddenPieces names)
      (f.withHidden names (f.shownCount names.length)
        (.join (f.renderNames (names.take (f.shownCount names.length))) f.delimiter)) := by
  have hhead := reads_delimitedNames f names (List.range (f.shownCount names.length))
  rw [← renderNames_take h.le, ← shownPieces_of_lt h] at hhead
  have hpos : 0 < names.length := by omega
  obtain ⟨last, hlast⟩ : ∃ last, names.getLast? = some last :=
    Option.isSome_iff_exists.mp (by simpa using List.ne_nil_of_length_pos hpos)
  have hat : f.nameAt names (names.length - 1) = f.renderName last (names.length - 1) := by
    rw [nameAt, ← List.getLast?_eq_getElem?, hlast, Option.elim_some]
  have happend {rest : List Piece} {items : List Output}
      (hrest : items.flatMap Output.parts = rest.flatMap fun piece =>
        (piece.outputs f names).flatMap Output.parts) :
      f.Reads names (f.shownPieces names ++ rest)
        (.ofList (.join (f.renderNames (names.take (f.shownCount names.length))) f.delimiter ::
          items)) := by
    rw [Reads] at hhead ⊢
    rw [Output.parts_ofList, List.flatMap_cons, List.flatMap_append, hhead, hrest]
  rw [withHidden, hiddenPieces, hlast]
  simp only [h.ne, false_or]
  cases f.sortMode with
  | true => simpa using hhead
  | false =>
    simp only [Bool.false_eq_true, if_false, Bool.and_eq_true, decide_eq_true_eq]
    split
    · apply happend
      simp [Piece.outputs, hat]
    · cases f.etAlTerm? with
      | none => simpa using hhead
      | some term =>
        apply happend
        simp [Piece.outputs]

theorem reads_personList (h : 0 < f.shownCount names.length) :
    f.Reads names (f.shownPieces names ++ f.hiddenPieces names) (f.personList names) := by
  rw [personList]
  simp only [beq_iff_eq, h.ne', if_false]
  by_cases hall : f.shownCount names.length = names.length
  · have hhidden : f.hiddenPieces names = [] := if_pos (.inl hall)
    rw [hhidden, List.append_nil, if_pos hall, hall, List.take_length]
    exact reads_joinWithAnd hall (hall ▸ h)
  · rw [if_neg hall]
    exact reads_withHidden ((f.shownCount_le _).lt_of_ne hall)

theorem filterMap_delimitedNames (places : List Nat) :
    (f.delimitedNames names places).filterMap Piece.index? = places := by
  induction places with
  | nil => rfl
  | cons i places ih =>
    rw [delimitedNames]
    split <;> simp [List.filterMap_cons, Piece.index?, ih]

theorem filterMap_shownPieces :
    (f.shownPieces names).filterMap Piece.index? = List.range (f.shownCount names.length) := by
  rw [shownPieces]
  cases f.andWord? with
  | none => exact filterMap_delimitedNames _
  | some word =>
    dsimp only
    split
    · next h =>
      rw [List.filterMap_append, filterMap_delimitedNames]
      have hrange : f.shownCount names.length - 1 + 1 = f.shownCount names.length := by omega
      simp only [List.filterMap_cons, Piece.index?, List.filterMap_nil]
      rw [← List.range_succ, Nat.succ_eq_add_one, hrange]
    · exact filterMap_delimitedNames _

theorem filterMap_hiddenPieces : (f.hiddenPieces names).filterMap Piece.index? =
    if f.sortMode = false ∧ f.options.etAlUseLast.getD false ∧
      f.shownCount names.length + 2 ≤ names.length
      then [names.length - 1] else [] := by
  have hle := f.shownCount_le names.length
  rw [hiddenPieces]
  cases f.sortMode with
  | true => simp
  | false =>
    by_cases hall : f.shownCount names.length = names.length
    · simp [hall]
    · have htwo : 2 ≤ names.length - f.shownCount names.length ↔
          f.shownCount names.length + 2 ≤ names.length := by omega
      simp only [hall, Bool.false_eq_true, or_self, if_false, htwo, true_and]
      split
      · rfl
      · cases f.etAlTerm? <;> rfl

theorem of_and_mem {delimited : Bool} {word : String} (h : .and delimited word ∈ f.shownPieces names) :
    f.shownCount names.length = names.length ∧ f.sortMode = false := by
  have hnone (places : List Nat) : .and delimited word ∉ f.delimitedNames names places := by
    induction places with
    | nil => exact List.not_mem_nil
    | cons i places ih =>
      rw [delimitedNames]
      split <;> simp [ih]
  rw [shownPieces] at h
  split at h
  · next word' hword =>
    split at h
    · next hall =>
      have hsort : f.sortMode = false := by
        by_contra hsort
        rw [andWord?, if_pos (by simpa using hsort)] at hword
        cases hword
      exact ⟨hall.1, hsort⟩
    · exact absurd h (hnone _)
  · exact absurd h (hnone _)

theorem and_notMem_hiddenPieces {delimited : Bool} {word : String} :
    .and delimited word ∉ f.hiddenPieces names := by
  rw [hiddenPieces]
  repeat' split
  all_goals simp

def withAnd (f : NameFormatter) (and : Option AndForm) : NameFormatter :=
  { f with options := { f.options with and } }

theorem personList_withAnd (h : f.shownCount names.length < names.length ∨ f.sortMode = true)
    (and : Option AndForm) : (f.withAnd and).personList names = f.personList names := by
  have hjoin (hsort : f.sortMode = true) (rendered : List Output) (inverted : Bool) :
      (f.withAnd and).joinWithAnd rendered inverted = f.joinWithAnd rendered inverted := by
    have hword : f.andWord? = none := if_pos hsort
    have hword' : (f.withAnd and).andWord? = none := if_pos hsort
    rw [joinWithAnd, joinWithAnd, hword, hword']
    rfl
  have hshown : (f.withAnd and).shownCount names.length = f.shownCount names.length := rfl
  have hnames (names : List Name) : (f.withAnd and).renderNames names = f.renderNames names := rfl
  rw [personList, personList, hshown]
  dsimp only
  split
  · rfl
  · split
    · next hall =>
      have hsort : f.sortMode = true := h.resolve_left fun hlt => hlt.ne (by simpa using hall)
      rw [hnames]
      exact hjoin hsort _ _
    · rfl

theorem shownCount_of_lt {total : Nat} (h : total < f.etAlLimits.1) : f.shownCount total = total := by
  have hnot : ¬(f.etAlLimits.1 ≤ total) := by omega
  simp [shownCount, hnot]

theorem shownCount_expanded (h : f.expansion.active = true) (more total : Nat) :
    (f.withExpansion
      { f.expansion with namesExpanded := f.expansion.namesExpanded + more }).shownCount total =
      min (f.shownCount total + more) total := by
  have hlimits (x : NameExpansion) : (f.withExpansion x).etAlLimits = f.etAlLimits := rfl
  simp only [shownCount, hlimits]
  simp only [withExpansion, h, if_true]
  split <;> omega

theorem format_eq (f : NameFormatter) (names : List Name)
    (hsuppress : ∀ e ∈ f.name, e.suppressMin = none ∧ e.suppressMax = none)
    (hinstitution : f.institution = none) (hform : f.form ≠ .count) :
    f.format names = f.name.elim (f.personList names) ((f.personList names).decorate ·.rendering) := by
  have hkept : f.formatKept names =
      f.name.elim (f.personList names) ((f.personList names).decorate ·.rendering) := by
    have hcount : (f.form == .count) = false := by simpa using hform
    rw [formatKept, hinstitution, hcount]
    cases names with
    | nil =>
      have hnone : f.personList [] = .null := by
        have hzero : f.shownCount 0 = 0 := Nat.le_zero.mp (f.shownCount_le 0)
        simp [personList, hzero]
      rw [hnone]
      cases f.name <;> rfl
    | cons n names => rfl
  rw [← hkept, format]
  cases hname : f.name with
  | none => rfl
  | some e =>
    obtain ⟨hmin, hmax⟩ := hsuppress e hname
    simp [hmin, hmax]

/-- A list that its length does not rule out, without an institution element and not as a count. It
shows the names up to the count, each once at its place and in order, then what stands for the
others. The word before the last name is there only when none is hidden and no sort key is rendered;
else it makes no difference which one is set. The count does not go beyond the list, is all of it
below the limit, and grows by one with each name expanded until it is. -/
theorem format_shows_names (f : NameFormatter) (names : List Name)
    (hsuppress : ∀ e ∈ f.name, e.suppressMin = none ∧ e.suppressMax = none)
    (hinstitution : f.institution = none) (hform : f.form ≠ .count) :
    let total := names.length
    let shown := f.shownCount total
    let pieces := f.shownPieces names ++ f.hiddenPieces names
    (shown = 0 → f.format names = .null) ∧
    (0 < shown → ∃ body,
      f.format names = f.name.elim body (body.decorate ·.rendering) ∧ f.Reads names pieces body) ∧
    (f.shownPieces names).filterMap Piece.index? = List.range shown ∧
    ((f.hiddenPieces names).filterMap Piece.index? =
      if f.sortMode = false ∧ f.options.etAlUseLast.getD false ∧
        shown + 2 ≤ total then [total - 1] else []) ∧
    (∀ i ∈ pieces.filterMap Piece.index?, i < total) ∧
    (∀ delimited word, .and delimited word ∈ pieces → shown = total ∧ f.sortMode = false) ∧
    (shown < total ∨ f.sortMode = true → ∀ and, (f.withAnd and).format names = f.format names) ∧
    shown ≤ total ∧
    (total < f.etAlLimits.1 → shown = total) ∧
    (f.expansion.active = true → ∀ more,
      (f.withExpansion
        { f.expansion with namesExpanded := f.expansion.namesExpanded + more }).shownCount total =
        min (shown + more) total) := by
  intro total shown pieces
  have hformat := format_eq f names hsuppress hinstitution hform
  have hle : shown ≤ total := f.shownCount_le total
  refine ⟨fun hnone => ?_, fun hpos => ⟨_, hformat, reads_personList hpos⟩, filterMap_shownPieces,
    filterMap_hiddenPieces, fun i hi => ?_, fun delimited word hand => ?_, fun h and => ?_,
    hle, shownCount_of_lt,
    fun hactive more => shownCount_expanded hactive more total⟩
  · have hlist : f.personList names = .null := by
      have hzero : f.shownCount names.length = 0 := hnone
      simp [personList, hzero]
    rw [hformat, hlist]
    cases f.name <;> rfl
  · rw [List.filterMap_append, filterMap_shownPieces, filterMap_hiddenPieces, List.mem_append,
      List.mem_range] at hi
    obtain hi | hi := hi
    · exact hi.trans_le hle
    · split at hi
      · next htwo =>
        rw [List.mem_singleton.mp hi]
        omega
      · cases hi
  · obtain hshown | hhidden := List.mem_append.mp hand
    · exact of_and_mem hshown
    · exact absurd hhidden and_notMem_hiddenPieces
  · rw [hformat, ← personList_withAnd h and]
    exact format_eq (f.withAnd and) names hsuppress hinstitution hform

theorem format_shows_names_of_last :
    let f : NameFormatter :=
      { locale := {},
        options := { etAlMin := some 2, etAlUseFirst := some 1, etAlUseLast := some true } }
    let names := [Name.person "A" "B", Name.person "C" "D", Name.person "E" "F"]
    f.institution = none ∧ f.form ≠ .count ∧ f.shownCount names.length = 1 ∧
      ∃ body, f.format names = body ∧ f.Reads names [.name 0, .ellipsis, .name 2] body := by
  intro f names
  have hsuppress : ∀ e ∈ f.name, e.suppressMin = none ∧ e.suppressMax = none := fun e he => by cases he
  have hform : f.form ≠ .count := by decide
  have hcount : f.shownCount names.length = 1 := rfl
  have hpieces : f.shownPieces names ++ f.hiddenPieces names = [.name 0, .ellipsis, .name 2] := rfl
  obtain ⟨-, hshows, -⟩ := format_shows_names f names hsuppress rfl hform
  obtain ⟨body, hformat, hreads⟩ := hshows Nat.one_pos
  rw [hpieces] at hreads
  exact ⟨rfl, hform, hcount, body, hformat, hreads⟩

end Citeproc.NameFormatter
