import Citeproc.Proofs.Output.Plain

namespace Citeproc.Output

mutual

def parts : Output → List Output
  | seq items => partsIn items
  | o => if o.isEmpty then [] else [o]

def partsIn : List Output → List Output
  | [] => []
  | o :: os => parts o ++ partsIn os

end

theorem partsIn_eq_flatMap (items : List Output) : partsIn items = items.flatMap parts := by
  induction items with
  | nil => rfl
  | cons o os ih => rw [partsIn, ih, List.flatMap_cons]

mutual

theorem parts_of_isEmpty (o : Output) (h : o.isEmpty = true) : o.parts = [] := by
  match o with
  | seq items =>
    rw [isEmpty] at h
    rw [parts, partsIn_of_allEmpty items h]
  | null => rfl
  | text s => simp_all [parts]
  | formatted _ _ _ child => simp_all [parts]
  | tagged _ child => simp_all [parts]

theorem partsIn_of_allEmpty (items : List Output) (h : allEmpty items = true) : partsIn items = [] := by
  match items with
  | [] => rfl
  | o :: os =>
    rw [allEmpty, Bool.and_eq_true] at h
    rw [partsIn, parts_of_isEmpty o h.1, partsIn_of_allEmpty os h.2, List.append_nil]

end

theorem parts_ofList (items : List Output) : (ofList items).parts = items.flatMap parts :=
  apply_ofList (fun os => by rw [parts, partsIn_eq_flatMap]) parts_of_isEmpty items

def delimited (delimiter : Output) : List Output → List Output
  | [] => []
  | o :: os =>
    o :: ((if !o.isEmpty && os.any (!·.isEmpty) then [delimiter] else []) ++ delimited delimiter os)

theorem flatMap_parts_delimited (delimiter : Output) (items : List Output) :
    (delimited delimiter items).flatMap parts =
      ((items.filter (!·.isEmpty)).intersperse delimiter).flatMap parts := by
  induction items with
  | nil => rfl
  | cons o os ih =>
    rw [delimited, List.flatMap_cons, List.flatMap_append, ih]
    cases ho : o.isEmpty with
    | true => simp [ho, parts_of_isEmpty o ho]
    | false =>
      cases hkept : os.filter (!·.isEmpty) with
      | nil =>
        have hany : os.any (!·.isEmpty) = false := by simpa using hkept
        simp [ho, hkept, hany]
      | cons p ps =>
        have hany : os.any (!·.isEmpty) = true := by
          rw [List.any_eq_true]
          have hmem : p ∈ os.filter (!·.isEmpty) := hkept ▸ List.mem_cons_self
          exact ⟨p, List.mem_filter.mp hmem⟩
        simp [ho, hkept, hany]

theorem parts_join (items : List Output) (delimiter : String) :
    (join items delimiter).parts = (delimited (ofText delimiter) items).flatMap parts := by
  have hnull (os : List Output) : (os.intersperse null).flatMap parts = os.flatMap parts := by
    induction os with
    | nil => rfl
    | cons o os ih =>
      cases os with
      | nil => rfl
      | cons p os => simp_all [parts, isEmpty]
  rw [join, parts_ofList, flatMap_parts_delimited, ofText]
  split
  · exact (hnull _).symm
  · rfl

end Citeproc.Output
