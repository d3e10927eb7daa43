import Citeproc.Cites.Numbers
import Citeproc.Proofs.Output.Plain
import Citeproc.Proofs.Runs

namespace Citeproc

namespace RenderedCite

structure Alike (a b : RenderedCite) : Prop where
  author : a.author? = b.author?
  suffix : a.suffix? = b.suffix?
  number : a.number? = b.number?
  year : a.year = b.year
  hasLocator : a.hasLocator = b.hasLocator

theorem runPieces_cons (cite : RenderedCite) (run : List RenderedCite) :
    runPieces (cite :: run) =
      if 3 ≤ (cite :: run).length then
        [.ofList [cite.output, .ofText "-", ((cite :: run).getLast (by simp)).output]]
      else (cite :: run).map (·.output) := by
  simp only [runPieces, List.head?_cons, List.getLast?_eq_some_getLast (List.cons_ne_nil cite run)]

theorem shows_head (cite : RenderedCite) (run : List RenderedCite) :
    ∃ o ∈ runPieces (cite :: run), o.Shows cite.output.plain := by
  rw [runPieces_cons]
  split
  · exact ⟨_, List.mem_singleton_self _, Output.shows_ofList (by simp)⟩
  · exact ⟨cite.output, by simp, cite.output.shows_plain⟩

theorem shows_last (run : List RenderedCite) (cite : RenderedCite) :
    ∃ o ∈ runPieces (run ++ [cite]), o.Shows cite.output.plain := by
  cases run with
  | nil => exact shows_head cite []
  | cons first run =>
    rw [List.cons_append, runPieces_cons]
    split
    · exact ⟨_, List.mem_singleton_self _, Output.shows_ofList (by simp)⟩
    · exact ⟨cite.output, by simp, cite.output.shows_plain⟩

end RenderedCite

open RenderedCite

namespace CiteJoiner

variable (j : CiteJoiner) {before after : List RenderedCite} {cite cite' : RenderedCite}

theorem shows_joinNumbers (h : (before.getLast?.any (·.follows cite) &&
      after.head?.any cite.follows) = false) :
    (j.joinNumbers (before ++ cite :: after)).Shows cite.output.plain := by
  have shows_run {runs : List (List RenderedCite)} {run : List RenderedCite} (hrun : run ∈ runs)
      (hshows : ∃ o ∈ runPieces run, o.Shows cite.output.plain) :
      (Output.join (runs.flatMap runPieces) j.delimiter).Shows cite.output.plain := by
    obtain ⟨o, ho, hshows⟩ := hshows
    exact (Output.shows_join (List.mem_flatMap.mpr ⟨run, hrun, ho⟩) j.delimiter).trans hshows
  rcases Bool.and_eq_false_iff.mp h with h | h
  · -- the cite begins a run
    obtain ⟨run, runs, hruns⟩ := List.splitBy_cons (r := follows) cite after
    rw [joinNumbers, List.splitBy_append, hruns]
    · exact shows_run (List.mem_append_right _ List.mem_cons_self) (shows_head cite run)
    · intro p hp n hn
      obtain rfl : n = cite := by simpa using hn.symm
      simpa using (Option.any_eq_false _ _).mp h p hp
  · -- the cite ends a run
    obtain ⟨runs, run, hruns⟩ := List.splitBy_concat (r := follows) before cite
    rw [joinNumbers, List.append_cons, List.splitBy_append, hruns]
    · exact shows_run (by simp) (shows_last run cite)
    · intro p hp n hn
      obtain rfl : p = cite := by simpa using hp.symm
      simpa using (Option.any_eq_false _ _).mp h n hn

theorem joinNumbers_congr (halike : cite.Alike cite')
    (hbefore : before.getLast?.any (·.follows cite) = true)
    (hafter : after.head?.any cite.follows = true) :
    j.joinNumbers (before ++ cite :: after) = j.joinNumbers (before ++ cite' :: after) := by
  obtain ⟨p, hp, hpc⟩ := (Option.any_eq_true _ _).mp hbefore
  obtain ⟨n, hn, hcn⟩ := (Option.any_eq_true _ _).mp hafter
  obtain ⟨before, rfl⟩ := List.getLast?_eq_some_iff.mp hp
  obtain ⟨after, rfl⟩ := List.head?_eq_some_iff.mp hn
  have hpc' : p.follows cite' = true := by rwa [follows, ← halike.number]
  have hcn' : cite'.follows n = true := by rwa [follows, ← halike.number]
  obtain ⟨runs, run, run', runs', hruns⟩ := List.splitBy_between (r := follows) before after p n
  rw [joinNumbers, joinNumbers, hruns cite hpc hcn, hruns cite' hpc' hcn']
  have hpieces : runPieces (run ++ [p] ++ cite :: n :: run') =
      runPieces (run ++ [p] ++ cite' :: n :: run') := by
    cases run with
    | nil => simp [runPieces_cons]
    | cons first run =>
      have hlong : 2 ≤ run.length + (run'.length + 1 + 1 + 1) := by omega
      simp [runPieces_cons, hlong]
  rw [List.flatMap_append, List.flatMap_append, List.flatMap_cons, List.flatMap_cons, hpieces]

end CiteJoiner

end Citeproc
