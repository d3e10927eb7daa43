namespace Citeproc.Text

def byteLength : List Char → Nat
  | [] => 0
  | c :: cs => c.utf8Size + byteLength cs

theorem byteLength_append (cs ds : List Char) :
    byteLength (cs ++ ds) = byteLength cs + byteLength ds := by
  induction cs with
  | nil => simp [byteLength]
  | cons c cs ih => simp [byteLength, ih, Nat.add_assoc]

def cutAt? : Nat → List Char → Option (List Char × List Char)
  | 0, cs => some ([], cs)
  | _ + 1, [] => none
  | n + 1, c :: cs =>
    if c.utf8Size ≤ n + 1 then
      (cutAt? (n + 1 - c.utf8Size) cs).map fun (before, after) => (c :: before, after)
    else none
termination_by _ cs => cs.length

def holds (part : List Char) : List Char → Bool
  | [] => part.isEmpty
  | c :: cs => part.isPrefixOf (c :: cs) || holds part cs

def splitWhere (p : Char → Bool) : List Char → List (List Char)
  | [] => [[]]
  | c :: cs =>
    if p c then [] :: splitWhere p cs
    else
      match splitWhere p cs with
      | [] => [[c]]
      | part :: rest => (c :: part) :: rest

theorem cutAt?_append {n : Nat} {cs before after : List Char}
    (h : cutAt? n cs = some (before, after)) : before ++ after = cs := by
  fun_induction cutAt? n cs generalizing before after with
  | case1 => simp_all
  | case2 => simp at h
  | case3 n c cs _ ih =>
    simp only [Option.map_eq_some_iff, Prod.exists, Prod.mk.injEq] at h
    obtain ⟨b, a, hb, rfl, rfl⟩ := h
    simp [ih hb]
  | case4 => simp at h

theorem byteLength_of_cutAt? {n : Nat} {cs before after : List Char}
    (h : cutAt? n cs = some (before, after)) : byteLength before = n := by
  fun_induction cutAt? n cs generalizing before after with
  | case1 => simp_all [byteLength]
  | case2 => simp at h
  | case3 n c cs hc ih =>
    simp only [Option.map_eq_some_iff, Prod.exists, Prod.mk.injEq] at h
    obtain ⟨front, back, hcut, rfl, rfl⟩ := h
    rw [byteLength, ih hcut]
    omega
  | case4 => simp at h

theorem cutAt?_byteLength (before after : List Char) :
    cutAt? (byteLength before) (before ++ after) = some (before, after) := by
  induction before with
  | nil => cases after <;> simp [byteLength, cutAt?]
  | cons c before ih =>
    obtain ⟨n, hn⟩ := Nat.exists_eq_add_one_of_ne_zero (Nat.ne_of_gt c.utf8Size_pos)
    have hsize : byteLength (c :: before) = n + byteLength before + 1 := by
      rw [byteLength, hn]
      omega
    have hrest : n + byteLength before + 1 - c.utf8Size = byteLength before := by omega
    rw [hsize, List.cons_append, cutAt?, if_pos (by omega), hrest, ih]
    rfl

theorem cutAt?_eq_some_iff {n : Nat} {cs before after : List Char} :
    cutAt? n cs = some (before, after) ↔ before ++ after = cs ∧ byteLength before = n := by
  constructor
  · intro h
    exact ⟨cutAt?_append h, byteLength_of_cutAt? h⟩
  · rintro ⟨rfl, rfl⟩
    exact cutAt?_byteLength before after

end Citeproc.Text
