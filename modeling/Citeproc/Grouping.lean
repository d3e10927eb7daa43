namespace Citeproc.Grouping

variable {α : Type}

def add (same : α → α → Bool) (x : α) : List (List α) → List (List α)
  | [] => [[x]]
  | group :: rest =>
    if group.head?.any (same · x) then (group ++ [x]) :: rest else group :: add same x rest

def groups (same : α → α → Bool) (xs : List α) : List (List α) :=
  xs.foldl (fun done x => add same x done) []

def byKey {κ : Type} [DecidableEq κ] (key : α → κ) (xs : List α) : List (List α) :=
  (groups (fun a b => a.1 == b.1) (xs.map fun x => (key x, x))).map fun group => group.map (·.2)

theorem add_perm (same : α → α → Bool) (x : α) (done : List (List α)) :
    (add same x done).flatten.Perm (x :: done.flatten) := by
  induction done with
  | nil => exact .refl _
  | cons group rest ih =>
    simp only [add]
    split
    · simp [List.perm_middle]
    · simpa using (ih.append_left group).trans List.perm_middle

theorem groups_perm (same : α → α → Bool) (xs : List α) :
    (groups same xs).flatten.Perm xs := by
  have step (xs : List α) (done : List (List α)) :
      (xs.foldl (fun done x => add same x done) done).flatten.Perm (xs ++ done.flatten) := by
    induction xs generalizing done with
    | nil => exact .refl _
    | cons x xs ih =>
      exact (ih _).trans (((add_perm same x done).append_left xs).trans List.perm_middle)
  simpa [groups] using step xs []

end Citeproc.Grouping
