import Mathlib.Data.List.Induction
import Mathlib.Data.List.SplitBy
import Mathlib.Data.List.TakeWhile

namespace List

variable {α : Type} {r : α → α → Bool}

theorem splitBy_cons (x : α) (l : List α) : ∃ run runs, (x :: l).splitBy r = (x :: run) :: runs := by
  have hflat := flatten_splitBy r (x :: l)
  have hnil := nil_notMem_splitBy r (x :: l)
  cases hs : (x :: l).splitBy r with
  | nil => simp at hs
  | cons run runs =>
    cases run with
    | nil => simp [hs] at hnil
    | cons y run =>
      rw [hs, flatten_cons, cons_append] at hflat
      exact ⟨run, runs, by rw [(cons.inj hflat).1]⟩

theorem splitBy_concat (l : List α) (x : α) :
    ∃ runs run, (l ++ [x]).splitBy r = runs ++ [run ++ [x]] := by
  have hflat := flatten_splitBy r (l ++ [x])
  have hnil := nil_notMem_splitBy r (l ++ [x])
  obtain hs | ⟨runs, run, hs⟩ := eq_nil_or_concat' ((l ++ [x]).splitBy r)
  · simp at hs
  · obtain rfl | ⟨run, y, rfl⟩ := eq_nil_or_concat' run
    · simp [hs] at hnil
    · rw [hs, flatten_append, flatten_singleton, ← append_assoc] at hflat
      exact ⟨runs, run, by rw [hs, (append_inj' hflat rfl).2]⟩

theorem splitBy_tail {l run : List α} {runs : List (List α)} (h : l.splitBy r = run :: runs) :
    runs.flatten.splitBy r = runs ∧
      ∀ last ∈ run.getLast?, ∀ next ∈ runs.flatten.head?, r last next = false := by
  obtain ⟨-, hnil, hchain, hcut⟩ := splitBy_eq_iff.mp h
  refine ⟨splitBy_flatten (fun h => hnil (mem_cons_of_mem _ h))
    (fun run hrun => hchain run (mem_cons_of_mem _ hrun)) hcut.tail, fun last hlast next hnext => ?_⟩
  cases runs with
  | nil => cases hnext
  | cons run' runs =>
    obtain ⟨hrun, hrun', hends⟩ := (isChain_cons_cons.mp hcut).1
    rw [flatten_cons, head?_append_of_ne_nil _ hrun', head?_eq_some_head hrun'] at hnext
    rw [getLast?_eq_some_getLast hrun] at hlast
    rw [← Option.some.inj hlast, ← Option.some.inj hnext]
    exact hends

theorem splitBy_append_of_rel {x y : α} (h : r x y = true) (l m : List α) :
    ∃ runs run run' runs', (l ++ [x]).splitBy r = runs ++ [run ++ [x]] ∧
      (y :: m).splitBy r = (y :: run') :: runs' ∧
      (l ++ [x] ++ y :: m).splitBy r = runs ++ (run ++ [x] ++ y :: run') :: runs' := by
  obtain ⟨runs, run, hl⟩ := splitBy_concat (r := r) l x
  obtain ⟨run', runs', hm⟩ := splitBy_cons (r := r) y m
  obtain ⟨hlflat, hlnil, hlchain, hlcut⟩ := splitBy_eq_iff.mp hl
  obtain ⟨hmflat, hmnil, hmchain, hmcut⟩ := splitBy_eq_iff.mp hm
  refine ⟨runs, run, run', runs', hl, hm, splitBy_eq_iff.mpr ⟨?_, ?_, ?_, ?_⟩⟩
  · rw [hlflat, hmflat]
    simp
  · simp_all
  · simp only [forall_mem_append, forall_mem_cons] at hlchain hmchain ⊢
    refine ⟨hlchain.1, isChain_append.mpr ⟨hlchain.2.1, hmchain.1, ?_⟩, hmchain.2⟩
    simpa using h
  · rw [isChain_append] at hlcut ⊢
    rw [isChain_cons] at hmcut ⊢
    refine ⟨hlcut.1, ⟨fun next hnext => ?_, hmcut.2⟩, fun last hlast shared hshared => ?_⟩
    · obtain ⟨_, hne, hrel⟩ := hmcut.1 next hnext
      refine ⟨by simp, hne, ?_⟩
      rw [getLast_append_of_ne_nil _ (by simp)]
      exact hrel
    · obtain ⟨hne, _, hrel⟩ := hlcut.2.2 last hlast (run ++ [x]) (by simp)
      obtain rfl : run ++ [x] ++ y :: run' = shared := by simpa using hshared
      refine ⟨hne, by simp, ?_⟩
      rw [head_append_of_ne_nil (by simp)]
      exact hrel

theorem splitBy_between (before after : List α) (p n : α) : ∃ runs run run' runs', ∀ x,
    r p x = true → r x n = true → (before ++ [p] ++ x :: n :: after).splitBy r =
      runs ++ (run ++ [p] ++ x :: n :: run') :: runs' := by
  obtain ⟨runs, run, hbefore⟩ := splitBy_concat (r := r) before p
  obtain ⟨run', runs', hafter⟩ := splitBy_cons (r := r) n after
  refine ⟨runs, run, run', runs', fun x hp hn => ?_⟩
  obtain ⟨runs₁, run₁, run₂, runs₂, h₁, h₂, h⟩ := splitBy_append_of_rel hp before (n :: after)
  obtain ⟨runs₃, run₃, run₄, runs₄, h₃, h₄, h₅⟩ := splitBy_append_of_rel hn [] after
  obtain ⟨rfl, hrun₁⟩ := append_inj' (h₁.symm.trans hbefore) rfl
  obtain ⟨rfl, rfl⟩ : runs₃ = [] ∧ run₃ = [] := by
    have hone : [[x]] = runs₃ ++ [run₃ ++ [x]] := h₃
    cases runs₃ <;> simp_all
  obtain ⟨hrun₄, rfl⟩ := cons.inj (h₄.symm.trans hafter)
  simp only [nil_append, singleton_append] at h₅
  obtain ⟨hrun₂, rfl⟩ := cons.inj (h₂.symm.trans h₅)
  rw [h, singleton_inj.mp hrun₁, hrun₂, (cons.inj hrun₄).2]

theorem forall_mem_head?_append {P : α → Prop} {front : List α} (hne : front ≠ [])
    (h : ∀ a ∈ front, P a) (rest : List α) : ∀ a ∈ (front ++ rest).head?, P a := by
  obtain ⟨b, front, rfl⟩ := exists_cons_of_ne_nil hne
  intro a ha
  obtain rfl : b = a := Option.some.inj ha
  exact h b mem_cons_self

section Front

variable {p : α → Bool} {front rest : List α} (hfront : ∀ a ∈ front, p a = true)
  (hrest : ∀ a ∈ rest.head?, p a = false)

include hfront hrest

theorem takeWhile_append_stop : (front ++ rest).takeWhile p = front := by
  rw [takeWhile_append_of_pos hfront]
  cases rest with
  | nil => rw [takeWhile_nil, append_nil]
  | cons a rest => rw [takeWhile_cons, if_neg (by simp [hrest a rfl]), append_nil]

theorem dropWhile_append_stop : (front ++ rest).dropWhile p = rest := by
  rw [dropWhile_append_of_pos hfront]
  cases rest with
  | nil => rfl
  | cons a rest => rw [dropWhile_cons, if_neg (by simp [hrest a rfl])]

end Front

end List
