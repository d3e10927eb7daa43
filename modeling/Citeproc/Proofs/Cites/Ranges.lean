import Citeproc.Proofs.Cites.Numbers

namespace Citeproc

namespace RenderedCite

def Follows (previous cite : RenderedCite) : Prop :=
  previous.hasLocator = false ∧ cite.hasLocator = false ∧
    ∃ n, previous.output.citationNumber? = some n ∧ cite.output.citationNumber? = some (n + 1)

theorem follows_iff {previous cite : RenderedCite} :
    previous.follows cite = true ↔ previous.Follows cite := by
  cases hp : previous.hasLocator <;> cases hc : cite.hasLocator <;>
    simp [follows, Follows, number?, hp, hc, Option.any_eq_true]

structure IsCut (cites : List RenderedCite) (runs : List (List RenderedCite)) : Prop where
  flatten : runs.flatten = cites
  ne_nil : [] ∉ runs
  follows : ∀ run ∈ runs, run.IsChain Follows
  maximal : runs.IsChain fun run next => ∃ hrun hnext, ¬Follows (run.getLast hrun) (next.head hnext)

theorem isCut_iff {cites : List RenderedCite} {runs : List (List RenderedCite)} :
    IsCut cites runs ↔ runs = cites.splitBy follows := by
  rw [eq_comm, List.splitBy_eq_iff]
  simp only [Bool.eq_false_iff, ne_eq, follows_iff]
  constructor
  · rintro ⟨hflat, hnil, hchain, hmax⟩
    exact ⟨hflat.symm, hnil, hchain, hmax⟩
  · rintro ⟨hflat, hnil, hchain, hmax⟩
    exact ⟨hflat.symm, hnil, hchain, hmax⟩

theorem Follows.inRange {previous cite : RenderedCite} (h : previous.Follows cite) :
    previous.number?.isSome ∧ cite.number?.isSome := by
  obtain ⟨hprevious, hcite, n, hn, hn'⟩ := h
  simp [number?, hprevious, hcite, hn, hn']

theorem eq_singleton_of_isChain {run : List RenderedCite} (h : run.IsChain Follows)
    {cite : RenderedCite} (hcite : cite ∈ run) (hnumber : cite.number? = none) : run = [cite] := by
  obtain ⟨before, after, rfl⟩ := List.append_of_mem hcite
  obtain ⟨-, hafter, hbefore⟩ := List.isChain_append.mp h
  have hb : before = [] := by
    obtain rfl | ⟨before, last, rfl⟩ := List.eq_nil_or_concat' before
    · rfl
    · have hnumber' := (hbefore last (by simp) cite (by simp)).inRange.2
      rw [hnumber] at hnumber'
      cases hnumber'
  have ha : after = [] := by
    cases after with
    | nil => rfl
    | cons next after =>
      have hnumber' := (List.isChain_cons_cons.mp hafter).1.inRange.1
      rw [hnumber] at hnumber'
      cases hnumber'
  rw [hb, ha, List.nil_append]

end RenderedCite

open RenderedCite

inductive Shown
  | whole (cite : RenderedCite)
  | range (first last : RenderedCite)

namespace Shown

def ofRun (run : List RenderedCite) : List Shown :=
  match run.head?, run.getLast? with
  | some first, some last => if 3 ≤ run.length then [range first last] else run.map whole
  | _, _ => []

def output : Shown → Output
  | whole cite => cite.output
  | range first last => .ofList [first.output, .ofText "-", last.output]

def text : Shown → String
  | whole cite => cite.output.plain
  | range first last => first.output.plain ++ "-" ++ last.output.plain

theorem plain_output (shown : Shown) : shown.output.plain = shown.text := by
  cases shown with
  | whole cite => rfl
  | range first last =>
    apply String.toList_injective
    simp [output, text, Output.toList_plain_ofList, Output.plain_ofText]

def numbers : Shown → List (Option Nat)
  | whole cite => [cite.output.citationNumber?]
  | range first last =>
    match first.output.citationNumber?, last.output.citationNumber? with
    | some n, some m => (List.range' n (m + 1 - n)).map some
    | _, _ => []

theorem ofRun_cons (cite : RenderedCite) (run : List RenderedCite) :
    ofRun (cite :: run) =
      if 3 ≤ (cite :: run).length then [range cite ((cite :: run).getLast (by simp))]
      else (cite :: run).map whole := by
  simp only [ofRun, List.head?_cons, List.getLast?_eq_some_getLast (List.cons_ne_nil cite run)]

theorem map_output_ofRun (run : List RenderedCite) : (ofRun run).map output = runPieces run := by
  cases run with
  | nil => rfl
  | cons cite run =>
    rw [ofRun_cons, runPieces_cons]
    split
    · rfl
    · rw [List.map_map]
      rfl

theorem numbers_of_isChain {first : RenderedCite} {rest : List RenderedCite}
    (h : (first :: rest).IsChain Follows) {n : Nat} (hn : first.output.citationNumber? = some n) :
    (first :: rest).map (·.output.citationNumber?) =
      (List.range' n (first :: rest).length).map some := by
  induction rest generalizing first n with
  | nil => simp [hn]
  | cons second rest ih =>
    rw [List.isChain_cons_cons] at h
    obtain ⟨⟨-, -, m, hm, hsecond⟩, hrest⟩ := h
    obtain rfl : n = m := by simpa [hn] using hm
    rw [List.map_cons, ih hrest hsecond, hn, List.length_cons (a := first), List.range'_succ,
      List.map_cons]

theorem flatMap_numbers_ofRun {run : List RenderedCite} (h : run.IsChain Follows) :
    (ofRun run).flatMap numbers = run.map (·.output.citationNumber?) := by
  cases run with
  | nil => rfl
  | cons cite run =>
    rw [ofRun_cons]
    split
    · next hlong =>
      obtain ⟨n, hn⟩ : ∃ n, cite.output.citationNumber? = some n := by
        cases run with
        | nil => simp at hlong
        | cons next run =>
          obtain ⟨-, -, n, hn, -⟩ := (List.isChain_cons_cons.mp h).1
          exact ⟨n, hn⟩
      have hall := numbers_of_isChain h hn
      have hlast : ((cite :: run).getLast (by simp)).output.citationNumber? =
          some (n + run.length) := by
        have hends := congrArg List.getLast? hall
        rw [List.length_cons, List.range'_concat] at hends
        rw [List.getLast?_map, List.getLast?_eq_some_getLast (List.cons_ne_nil cite run)] at hends
        simpa using hends
      have hcount : n + run.length + 1 - n = (cite :: run).length := by
        rw [List.length_cons]
        omega
      simp only [List.flatMap_singleton, numbers, hn, hlast, hcount, hall]
    · rw [List.flatMap_map]
      exact List.flatMap_pure_eq_map _ _

end Shown

/-- Numbered cites are joined in maximal runs, of which there is one way only. Three or more cites of a
run are shown as a range, all others whole, and the ranges written out give back the numbers of the
cites, in order. -/
theorem CiteJoiner.joinNumbers_runs (j : CiteJoiner) (cites : List RenderedCite) :
    ∃ runs,
      let shown := runs.flatMap Shown.ofRun
      (∀ other, IsCut cites other ↔ other = runs) ∧
      (∀ run ∈ runs, ∀ cite ∈ run, cite.number? = none → run = [cite]) ∧
      j.joinNumbers cites = .join (shown.map Shown.output) j.delimiter ∧
      (j.joinNumbers cites).plain =
        j.delimiter.intercalate ((shown.map Shown.text).filter (!·.isEmpty)) ∧
      shown.flatMap Shown.numbers = cites.map (·.output.citationNumber?) := by
  have hcut : IsCut cites (cites.splitBy follows) := isCut_iff.mpr rfl
  have htree : j.joinNumbers cites =
      .join (((cites.splitBy follows).flatMap Shown.ofRun).map Shown.output) j.delimiter := by
    simp only [joinNumbers, List.map_flatMap, Shown.map_output_ofRun]
  refine ⟨cites.splitBy follows, fun other => isCut_iff, ?_, htree, ?_, ?_⟩
  · intro run hrun cite hcite
    exact eq_singleton_of_isChain (hcut.follows run hrun) hcite
  · rw [htree, Output.plain_join, List.map_map]
    simp only [Function.comp_def, Shown.plain_output]
  · have hruns : ∀ run ∈ cites.splitBy follows,
        (Shown.ofRun run).flatMap Shown.numbers = run.map (·.output.citationNumber?) :=
      fun run hrun => Shown.flatMap_numbers_ofRun (hcut.follows run hrun)
    rw [List.flatMap_assoc, List.flatMap_congr hruns, List.flatMap_def, ← List.map_flatten,
      hcut.flatten]

end Citeproc
