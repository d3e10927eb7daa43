import Citeproc.Proofs.Cites.Segments
import Citeproc.Proofs.Runs

/-!
Ranges of year suffixes: the letters of the cites of a stretch can be read back from what is shown of
it, whether its suffixes stand one by one or in ranges.
-/

namespace Citeproc

def Output.suffixLetter? : Output → Option Char
  | .tagged (.yearSuffix letter) _ => some letter
  | _ => none

theorem RenderedCite.suffixLetter?_of_suffix? {cite : RenderedCite} {letter : Char} {o : Output}
    (h : cite.suffix? = some (letter, o)) : o.suffixLetter? = some letter := by
  rw [suffix?] at h
  split at h
  · obtain ⟨rfl, rfl⟩ := Prod.mk.inj (Option.some.inj h)
    rfl
  · cases h

/-- What is shown of a suffix behind the head of a segment. The last suffix of a range stands for all
letters after the one shown before it. -/
inductive SuffixMark
  | single (output : Output)
  | through (output : Output)

namespace SuffixMark

def pieces (delimiter : String) : SuffixMark → List Output
  | single o => [.ofText delimiter, o]
  | through o => [.ofText "–", o]

def lettersThrough (first last : Char) : List Char :=
  (List.range' (first.toNat + 1) (last.toNat - first.toNat)).map Char.ofNat

def read (letters : List Char) : SuffixMark → List Char
  | single o => letters ++ o.suffixLetter?.toList
  | through o =>
    letters ++ (letters.getLast?.bind fun first =>
      o.suffixLetter?.map (lettersThrough first)).getD []

def ofSuffix (suffix : Char × Option Output) : List SuffixMark := suffix.2.toList.map single

def ofRest (rest : List (Char × Option Output)) : List SuffixMark :=
  (rest.getLast?.bind (·.2)).toList.map fun o => if rest.length = 1 then single o else through o

def ofRun : List (Char × Option Output) → List SuffixMark
  | [] => []
  | first :: rest => ofSuffix first ++ ofRest rest

theorem showRun_eq (delimiter : String) (run : List (Char × Option Output)) :
    Segment.showRun delimiter run = (ofRun run).flatMap (pieces delimiter) := by
  cases run with
  | nil => rfl
  | cons first rest =>
    have hfirst : Segment.showSuffix delimiter first =
        (ofSuffix first).flatMap (pieces delimiter) := by
      obtain ⟨letter, _ | o⟩ := first <;> simp [Segment.showSuffix, ofSuffix, pieces]
    rw [Segment.showRun, ofRun, List.flatMap_append, hfirst, ofRest]
    congr 1
    cases rest.getLast? with
    | none => rfl
    | some last =>
      obtain ⟨letter, _ | o⟩ := last
      · rfl
      · by_cases h : rest.length = 1 <;> simp [Segment.showSuffix, pieces, h]

def Lettered (suffix : Char × Option Output) : Prop :=
  suffix.2.bind Output.suffixLetter? = some suffix.1

theorem foldl_read_ofSuffix {suffix : Char × Option Output} (h : Lettered suffix)
    (letters : List Char) : (ofSuffix suffix).foldl read letters = letters ++ [suffix.1] := by
  obtain ⟨o, ho, hletter⟩ := Option.bind_eq_some_iff.mp h
  simp [ofSuffix, ho, read, hletter]

theorem map_fst_of_isChain {first : Char × Option Output} {rest : List (Char × Option Output)}
    (h : (first :: rest).IsChain fun a b => Segment.isNextLetter a b = true) :
    rest.map (·.1.toNat) = List.range' (first.1.toNat + 1) rest.length := by
  induction rest generalizing first with
  | nil => rfl
  | cons second rest ih =>
    obtain ⟨hnext, hrest⟩ := List.isChain_cons_cons.mp h
    have hsecond : second.1.toNat = first.1.toNat + 1 := by
      simpa [Segment.isNextLetter] using hnext
    rw [List.map_cons, ih hrest, hsecond, List.length_cons, List.range'_succ]

theorem lettersThrough_of_isChain {first last : Char × Option Output}
    {rest : List (Char × Option Output)}
    (h : (first :: rest).IsChain fun a b => Segment.isNextLetter a b = true)
    (hlast : rest.getLast? = some last) : lettersThrough first.1 last.1 = rest.map (·.1) := by
  have hletters := map_fst_of_isChain h
  have hcount : last.1.toNat - first.1.toNat = rest.length := by
    have hends := congrArg List.getLast? hletters
    rw [List.getLast?_map, hlast, List.getLast?_range'] at hends
    split at hends
    · cases hends
    · have hend : last.1.toNat = first.1.toNat + 1 + rest.length - 1 := Option.some.inj hends
      omega
  rw [lettersThrough, hcount, ← hletters, List.map_map]
  exact List.map_congr_left fun suffix _ => Char.ofNat_toNat _

theorem foldl_read_ofRest {first : Char × Option Output} {rest : List (Char × Option Output)}
    (hchain : (first :: rest).IsChain fun a b => Segment.isNextLetter a b = true)
    (hlettered : ∀ suffix ∈ rest, Lettered suffix) {letters : List Char}
    (hlast : letters.getLast? = some first.1) :
    (ofRest rest).foldl read letters = letters ++ rest.map (·.1) := by
  cases hrest : rest.getLast? with
  | none =>
    obtain rfl := List.getLast?_eq_none_iff.mp hrest
    simp [ofRest]
  | some last =>
    obtain ⟨o, ho, hletter⟩ := Option.bind_eq_some_iff.mp
      (hlettered last (List.mem_of_getLast? hrest))
    rw [ofRest, hrest, Option.bind_some, ho]
    by_cases hone : rest.length = 1
    · obtain ⟨only, rfl⟩ := List.length_eq_one_iff.mp hone
      obtain rfl : only = last := by simpa using hrest
      simp [read, hletter]
    · simp [hone, read, hlast, hletter, lettersThrough_of_isChain hchain hrest]

theorem foldl_read_ofRun {run : List (Char × Option Output)}
    (hchain : run.IsChain fun a b => Segment.isNextLetter a b = true)
    (hlettered : ∀ suffix ∈ run, Lettered suffix) (letters : List Char) :
    (ofRun run).foldl read letters = letters ++ run.map (·.1) := by
  cases run with
  | nil => exact (List.append_nil letters).symm
  | cons first rest =>
    obtain ⟨hfirst, hrest⟩ := List.forall_mem_cons.mp hlettered
    rw [ofRun, List.foldl_append, foldl_read_ofSuffix hfirst,
      foldl_read_ofRest hchain hrest List.getLast?_concat, List.append_assoc]
    rfl

theorem foldl_read_flatMap {α : Type} {f : α → List SuffixMark} {g : α → List Char} {l : List α}
    (h : ∀ x ∈ l, ∀ letters, (f x).foldl read letters = letters ++ g x) (letters : List Char) :
    (l.flatMap f).foldl read letters = letters ++ l.flatMap g := by
  induction l generalizing letters with
  | nil => exact (List.append_nil letters).symm
  | cons x l ih =>
    rw [List.forall_mem_cons] at h
    rw [List.flatMap_cons, List.foldl_append, h.1, ih h.2, List.flatMap_cons, List.append_assoc]

end SuffixMark

namespace Segment

def marks (segment : Segment) (ranged : Bool) : List SuffixMark :=
  if ranged then segment.letterRuns.flatMap SuffixMark.ofRun
  else segment.suffixes.flatMap fun suffix => [.single suffix.2]

theorem render_eq (segment : Segment) (delimiter : String) (ranged : Bool) :
    segment.render delimiter ranged =
      if segment.suffixes.isEmpty then segment.head
      else .ofList (segment.head :: (segment.marks ranged).flatMap (·.pieces delimiter)) := by
  rw [render, marks]
  split
  · rfl
  · cases ranged with
    | false => rw [if_neg Bool.false_ne_true, if_neg Bool.false_ne_true, List.flatMap_assoc]; rfl
    | true =>
      rw [if_pos rfl, if_pos rfl, List.flatMap_assoc]
      exact congrArg (fun pieces => Output.ofList (segment.head :: pieces))
        (List.flatMap_congr fun run _ => SuffixMark.showRun_eq delimiter run)

def letters (segment : Segment) : List Char :=
  segment.headSuffix.toList ++ segment.suffixes.map (·.1)

def outputs (segment : Segment) : List Output := segment.suffixes.map (·.2)

def more (segment : Segment) : List (Char × Option Output) :=
  segment.suffixes.map fun (letter, o) => (letter, some o)

theorem map_fst_more (segment : Segment) : segment.more.map (·.1) = segment.suffixes.map (·.1) := by
  rw [more, List.map_map]
  rfl

theorem letterRuns_eq {segment : Segment} {letter : Char} (h : segment.headSuffix = some letter) :
    segment.letterRuns = ((letter, none) :: segment.more).splitBy isNextLetter := by
  rw [letterRuns, h]
  rfl

theorem foldl_read_marks {segment : Segment} {letter : Char} (hhead : segment.headSuffix = some letter)
    (hlettered : ∀ suffix ∈ segment.suffixes, suffix.2.suffixLetter? = some suffix.1)
    (ranged : Bool) : (segment.marks ranged).foldl SuffixMark.read [letter] = segment.letters := by
  rw [letters, hhead, marks]
  cases ranged with
  | false =>
    have hread := SuffixMark.foldl_read_flatMap (l := segment.suffixes) (g := fun suffix => [suffix.1])
      (f := fun suffix => [.single suffix.2]) (fun suffix h letters => by
        simp [SuffixMark.read, hlettered suffix h]) [letter]
    rw [if_neg Bool.false_ne_true, hread]
    exact congrArg (letter :: ·) (List.flatMap_pure_eq_map _ _)
  | true =>
    have hmore : ∀ suffix ∈ segment.more, SuffixMark.Lettered suffix :=
      List.forall_mem_map.mpr hlettered
    rw [if_pos rfl, letterRuns_eq hhead, ← map_fst_more]
    -- the run of the head shows nothing of its first letter, which the head has shown
    obtain ⟨rest, runs, hsplit⟩ := List.splitBy_cons (r := isNextLetter) (letter, none) segment.more
    obtain ⟨hflat, -, hchain, -⟩ := List.splitBy_eq_iff.mp hsplit
    obtain ⟨hfirst, hruns⟩ := List.forall_mem_cons.mp hchain
    have hsuffixes : segment.more = rest ++ runs.flatten := (List.cons.inj hflat).2
    rw [hsuffixes, List.forall_mem_append] at hmore
    have hread := SuffixMark.foldl_read_flatMap fun run hrun letters =>
      SuffixMark.foldl_read_ofRun (hruns run hrun)
        (fun suffix h => hmore.2 suffix (List.mem_flatten_of_mem hrun h)) letters
    rw [hsplit, hsuffixes, List.flatMap_cons, SuffixMark.ofRun, List.foldl_append,
      List.foldl_append, SuffixMark.foldl_read_ofRest hfirst hmore.1 rfl, hread, List.map_append,
      List.flatMap_def, List.map_flatten, List.append_assoc]
    rfl

def runEnd (letters : List Char) (k : Nat) : Nat :=
  if h : k + 1 < letters.length then
    if letters[k + 1].toNat = letters[k].toNat + 1 then runEnd letters (k + 1) else k
  else k
termination_by letters.length - k

theorem le_runEnd (letters : List Char) (k : Nat) : k ≤ runEnd letters k := by
  fun_induction runEnd letters k with
  | case1 k _ _ ih => omega
  | case2 => exact le_rfl
  | case3 => exact le_rfl

def markAt? (outputs : List Output) (mark : Output → SuffixMark) : Nat → Option (List SuffixMark)
  | 0 => none
  | k + 1 => outputs[k]?.map fun o => [mark o]

def startMarks? (outputs : List Output) (start : Nat) : Option (List SuffixMark) :=
  if start = 0 then some [] else markAt? outputs .single start

def stopMarks? (outputs : List Output) (start stop : Nat) : Option (List SuffixMark) :=
  match stop - start with
  | 0 => some []
  | 1 => markAt? outputs .single stop
  | _ => markAt? outputs .through stop

def marksFrom? (letters : List Char) (outputs : List Output) (start : Nat) :
    Option (List SuffixMark) :=
  if start < letters.length then do
    let first ← startMarks? outputs start
    let last ← stopMarks? outputs start (runEnd letters start)
    let later ← marksFrom? letters outputs (runEnd letters start + 1)
    some (first ++ last ++ later)
  else some []
termination_by letters.length - start
decreasing_by
  have := le_runEnd letters start
  omega

theorem runEnd_of_run {before run after : List (Char × Option Output)} {first : Char × Option Output}
    (hrun : (first :: run).IsChain fun a b => isNextLetter a b = true)
    (hafter : ∀ last ∈ (first :: run).getLast?, ∀ next ∈ after.head?, isNextLetter last next = false) :
    runEnd ((before ++ first :: (run ++ after)).map (·.1)) before.length =
      before.length + run.length := by
  induction run generalizing before first with
  | nil =>
    rw [runEnd]
    cases after with
    | nil => simp
    | cons next after =>
      have hnext := hafter first rfl next rfl
      rw [isNextLetter, beq_eq_false_iff_ne] at hnext
      simp [hnext]
  | cons second run ih =>
    obtain ⟨hnext, hchain⟩ := List.isChain_cons_cons.mp hrun
    have hsecond : second.1.toNat = first.1.toNat + 1 := by
      simpa [isNextLetter] using hnext
    rw [List.getLast?_cons_cons] at hafter
    have hstop : runEnd ((before ++ [first] ++ second :: (run ++ after)).map (·.1))
        (before ++ [first]).length = (before ++ [first]).length + run.length := ih hchain hafter
    rw [List.append_assoc, List.singleton_append, List.length_append, List.length_singleton] at hstop
    rw [runEnd, dif_pos (by simp), if_pos (by simpa using hsecond), List.cons_append, hstop,
      List.length_cons]
    omega

variable {segment : Segment} {letter : Char} {before after run : List (Char × Option Output)}
  {suffix : Char × Option Output}

theorem markAt?_outputs (hbefore : before ≠ [])
    (h : before ++ suffix :: after = (letter, none) :: segment.more) (mark : Output → SuffixMark) :
    ∃ o, suffix.2 = some o ∧ markAt? segment.outputs mark before.length = some [mark o] := by
  obtain ⟨head, before, rfl⟩ := List.exists_cons_of_ne_nil hbefore
  obtain ⟨earlier, later, hsuffixes, rfl, hlater⟩ :=
    List.map_eq_append_iff.mp (List.cons.inj h).2.symm
  obtain ⟨⟨c, o⟩, later, rfl, rfl, -⟩ := List.map_eq_cons_iff.mp hlater
  refine ⟨o, rfl, ?_⟩
  rw [List.length_cons, List.length_map, markAt?, outputs, hsuffixes]
  simp

theorem startMarks?_outputs (h : before ++ suffix :: after = (letter, none) :: segment.more) :
    startMarks? segment.outputs before.length = some (SuffixMark.ofSuffix suffix) := by
  by_cases hbefore : before = []
  · obtain rfl := hbefore
    rw [(List.cons.inj h).1]
    rfl
  · obtain ⟨o, ho, hmark⟩ := markAt?_outputs hbefore h .single
    rw [startMarks?, if_neg (mt List.length_eq_zero_iff.mp hbefore), hmark, SuffixMark.ofSuffix, ho]
    rfl

theorem stopMarks?_outputs (h : before ++ suffix :: (run ++ after) = (letter, none) :: segment.more) :
    stopMarks? segment.outputs before.length (before.length + run.length) =
      some (SuffixMark.ofRest run) := by
  rw [stopMarks?, Nat.add_sub_cancel_left]
  obtain rfl | ⟨run, last, rfl⟩ := List.eq_nil_or_concat' run
  · rfl
  · have hplace : (before ++ suffix :: run) ++ last :: after = (letter, none) :: segment.more := by
      simpa using h
    have hlength : before.length + (run ++ [last]).length = (before ++ suffix :: run).length := by
      simp
    have hmark := markAt?_outputs (by simp) hplace
    rw [hlength, SuffixMark.ofRest, List.getLast?_concat, Option.bind_some]
    cases run with
    | nil =>
      obtain ⟨o, ho, hmark⟩ := hmark .single
      rw [ho]
      exact hmark
    | cons second run =>
      obtain ⟨o, ho, hmark⟩ := hmark .through
      rw [ho]
      simpa using hmark

theorem marksFrom?_append (hhead : segment.headSuffix = some letter)
    (h : before ++ after = (letter, none) :: segment.more) :
    marksFrom? segment.letters segment.outputs before.length =
      some ((after.splitBy isNextLetter).flatMap SuffixMark.ofRun) := by
  have hletters : segment.letters = (before ++ after).map (·.1) := by
    rw [h, letters, hhead, List.map_cons, map_fst_more]
    rfl
  induction hn : after.length using Nat.strong_induction_on generalizing before after with
  | _ n ih =>
  cases after with
  | nil =>
    rw [marksFrom?, if_neg (by simp [hletters])]
    rfl
  | cons first after =>
    -- one step goes to the end of the first run of the letters that are left
    obtain ⟨run, runs, hsplit⟩ := List.splitBy_cons (r := isNextLetter) first after
    obtain ⟨hflat, -, hchain, -⟩ := List.splitBy_eq_iff.mp hsplit
    obtain ⟨hruns, hend⟩ := List.splitBy_tail hsplit
    obtain rfl : after = run ++ runs.flatten := (List.cons.inj hflat).2
    have hstop : runEnd segment.letters before.length = before.length + run.length := by
      rw [hletters]
      exact runEnd_of_run (hchain _ List.mem_cons_self) hend
    have hlater : marksFrom? segment.letters segment.outputs (before.length + run.length + 1) =
        some (runs.flatMap SuffixMark.ofRun) := by
      have hplaces : (before ++ first :: run) ++ runs.flatten = (letter, none) :: segment.more := by
        simpa using h
      have hshorter : runs.flatten.length < n := by
        rw [← hn, List.length_cons, List.length_append]
        omega
      have hafter := ih _ hshorter hplaces (by simpa using hletters) rfl
      rw [List.length_append, List.length_cons, hruns] at hafter
      exact hafter
    rw [marksFrom?, if_pos (by simp [hletters]), hstop, startMarks?_outputs h, stopMarks?_outputs h,
      hlater, hsplit]
    rfl

theorem marksFrom?_outputs (hhead : segment.headSuffix = some letter) :
    marksFrom? segment.letters segment.outputs 0 = some (segment.marks true) := by
  rw [marks, if_pos rfl, letterRuns_eq hhead]
  exact marksFrom?_append hhead (List.nil_append ((letter, none) :: segment.more))

end Segment

namespace Stretch

def marks (s : Stretch) (ranged : Bool) : List SuffixMark := (s.segment s.head.output).marks ranged

def render (s : Stretch) (delimiter : String) (ranged : Bool) (shown : Output) : Output :=
  if s.merged.isEmpty then shown
  else .ofList (shown :: (s.marks ranged).flatMap (·.pieces delimiter))

variable {s : Stretch}

theorem isEmpty_suffixes (h : ∀ cite ∈ s.merged, s.head.Joins cite) (shown : Output) :
    (s.segment shown).suffixes.isEmpty = s.merged.isEmpty := by
  rw [segment]
  cases hmerged : s.merged with
  | nil => rfl
  | cons cite merged =>
    have hcite := (h cite (hmerged ▸ List.mem_cons_self)).suffixes.2
    obtain ⟨suffix, hsuffix⟩ := Option.isSome_iff_exists.mp hcite
    rw [List.filterMap_cons_some hsuffix]
    rfl

theorem render_segment (h : ∀ cite ∈ s.merged, s.head.Joins cite) (delimiter : String)
    (ranged : Bool) (shown : Output) :
    (s.segment shown).render delimiter ranged = s.render delimiter ranged shown := by
  rw [Segment.render_eq, isEmpty_suffixes h, render]
  rfl

theorem headSuffix_segment (h : ∀ cite ∈ s.merged, s.head.Joins cite) (hmerged : s.merged ≠ [])
    (shown : Output) :
    ∃ suffix, s.head.suffix? = some suffix ∧ (s.segment shown).headSuffix = some suffix.1 := by
  obtain ⟨cite, hcite⟩ := List.exists_mem_of_ne_nil _ hmerged
  obtain ⟨suffix, hsuffix⟩ := Option.isSome_iff_exists.mp (h cite hcite).suffixes.1
  refine ⟨suffix, hsuffix, ?_⟩
  rw [segment, Segment.ofCite, (h cite hcite).no_locators.1, hsuffix]
  rfl

theorem marks_of_merged_eq_nil (hmerged : s.merged = []) (ranged : Bool) : s.marks ranged = [] := by
  obtain ⟨head, merged⟩ := s
  obtain rfl : merged = [] := hmerged
  rw [marks, Segment.marks]
  cases ranged with
  | false => rfl
  | true =>
    rw [Segment.letterRuns]
    cases (segment ⟨head, []⟩ head.output).headSuffix <;> rfl

theorem foldl_read_marks (h : ∀ cite ∈ s.merged, s.head.Joins cite) (ranged : Bool) :
    (s.marks ranged).foldl SuffixMark.read (s.head.suffix?.map (·.1)).toList =
      s.cites.filterMap (·.suffix?.map (·.1)) := by
  by_cases hmerged : s.merged = []
  · rw [marks_of_merged_eq_nil hmerged, cites, hmerged]
    cases hsuffix : s.head.suffix? <;> simp [hsuffix]
  · obtain ⟨suffix, hsuffix, hhead⟩ := headSuffix_segment h hmerged s.head.output
    have hlettered : ∀ suffix ∈ s.merged.filterMap (·.suffix?),
        suffix.2.suffixLetter? = some suffix.1 := by
      intro suffix hmem
      obtain ⟨cite, -, hcite⟩ := List.mem_filterMap.mp hmem
      exact RenderedCite.suffixLetter?_of_suffix? hcite
    have hread := Segment.foldl_read_marks hhead hlettered ranged
    rw [hsuffix, cites, List.filterMap_cons_some (by rw [hsuffix]; rfl)]
    refine hread.trans ?_
    rw [Segment.letters, hhead, segment, List.map_filterMap]
    rfl

theorem marksFrom?_segment (h : ∀ cite ∈ s.merged, s.head.Joins cite) (shown : Output) :
    Segment.marksFrom? (s.segment shown).letters (s.segment shown).outputs 0 =
      some (s.marks true) := by
  cases hhead : (s.segment shown).headSuffix with
  | some letter => exact Segment.marksFrom?_outputs hhead
  | none =>
    have hmerged : s.merged = [] := by
      by_contra hmerged
      obtain ⟨suffix, -, hsome⟩ := headSuffix_segment h hmerged shown
      rw [hhead] at hsome
      cases hsome
    have hletters : (s.segment shown).letters = [] := by
      rw [Segment.letters, hhead, segment, hmerged]
      rfl
    rw [marks_of_merged_eq_nil hmerged, hletters, Segment.marksFrom?]
    rfl

end Stretch

/-- The cites of one author are cut into stretches, of which there is one way only, and each stretch
shows its head, the first one whole and the later ones without their names, and the suffixes of the cites
merged into it. The letters of all its cites can be read back from that, and no look-up of a letter or
of its output is out of bounds. -/
theorem CiteJoiner.joinYears_stretches (j : CiteJoiner) (ranged : Bool) (group : List RenderedCite) :
    ∃ stretches : List Stretch,
      (∀ other, Stretch.IsCut group other ↔ other = stretches) ∧
      j.joinYears (if ranged then .yearSuffixRanged else .yearSuffix) group =
        .join (Stretch.mapHeads (·.render j.suffixDelimiter ranged) stretches) j.groupDelimiter ∧
      ∀ s ∈ stretches,
        (s.marks ranged).foldl SuffixMark.read (s.head.suffix?.map (·.1)).toList =
          s.cites.filterMap (·.suffix?.map (·.1)) ∧
        ∀ shown, Segment.marksFrom? (s.segment shown).letters (s.segment shown).outputs 0 =
          some (s.marks true) := by
  obtain ⟨stretches, hcut, hsegments⟩ := Stretch.exists_ofGroup group
  refine ⟨stretches, fun other => ⟨hcut.unique, fun h => h ▸ hcut⟩, ?_, fun s hs =>
    ⟨Stretch.foldl_read_marks (hcut.joins s hs) ranged,
      Stretch.marksFrom?_segment (hcut.joins s hs)⟩⟩
  have hrendered := Stretch.map_mapHeads (f := Stretch.segment)
    (g := (·.render j.suffixDelimiter ranged)) fun s hs shown =>
      Stretch.render_segment (hcut.joins s hs) j.suffixDelimiter ranged shown
  rw [← hsegments] at hrendered
  rw [← hrendered]
  cases ranged <;> rfl

end Citeproc
