namespace Citeproc

abbrev Table (α : Type) := List (String × α)

namespace Table

variable {α : Type}

def get? (t : Table α) (key : String) : Option α := t.lookup key

def keys (t : Table α) : List String := t.map (·.1)

def modify (key : String) (f : Option α → α) : Table α → Table α
  | [] => [(key, f none)]
  | (k, v) :: rest => if k == key then (k, f (some v)) :: rest else (k, v) :: modify key f rest

def put (t : Table α) (key : String) (value : α) : Table α := modify key (fun _ => value) t

theorem get?_modify (key name : String) (f : Option α → α) (t : Table α) :
    (modify key f t).get? name = if name = key then some (f (t.get? name)) else t.get? name := by
  induction t with
  | nil =>
    by_cases h : name = key <;> simp [modify, get?, List.lookup_cons, h, beq_eq_false_iff_ne.2]
  | cons entry rest ih =>
    obtain ⟨k, v⟩ := entry
    simp only [get?] at ih
    by_cases hk : k = key <;> by_cases hn : name = k <;>
      simp_all [modify, get?, List.lookup_cons, beq_eq_false_iff_ne.2]

theorem get?_put (t : Table α) (key name : String) (value : α) :
    (t.put key value).get? name = if name = key then some value else t.get? name :=
  get?_modify key name _ t

theorem keys_modify (key : String) (f : Option α → α) (t : Table α) :
    (modify key f t).keys = if key ∈ t.keys then t.keys else t.keys ++ [key] := by
  induction t with
  | nil => simp [modify, keys]
  | cons entry rest ih =>
    obtain ⟨k, v⟩ := entry
    by_cases hk : k = key
    · simp [modify, keys, hk]
    · have hk' : key ≠ k := fun h => hk h.symm
      simp only [keys] at ih
      by_cases hr : key ∈ rest.map (·.1) <;> simp_all [modify, keys]

end Table

end Citeproc
