import Citeproc.Sort
import Mathlib.Data.List.FinRange
import Mathlib.Data.String.Basic

/-!
The order that the keys of a style give to items: texts are compared key by key, which is a total
preorder, and of the orders that obey it the one that moves no two equal items past each other is taken.
-/

namespace Citeproc

namespace SortKey

variable (key : SortKey) {a b : String}

def compareShown (a b : String) : Ordering := if key.descending then compare b a else compare a b

instance : Std.TransCmp key.compareShown := by
  unfold compareShown
  cases key.descending
  · exact inferInstanceAs (Std.TransCmp fun a b : String => compare a b)
  · exact @Std.TransCmp.opposite String compare inferInstance

theorem compareShown_eq_lt :
    key.compareShown a b = .lt ↔ if key.descending then b < a else a < b := by
  rw [compareShown]
  split
  · exact compare_lt_iff_lt
  · exact compare_lt_iff_lt

theorem compareShown_eq_eq : key.compareShown a b = .eq ↔ a = b := by
  rw [compareShown]
  split
  · rw [compare_eq_iff_eq, eq_comm]
  · exact compare_eq_iff_eq

theorem compareTexts_eq : key.compareTexts = compareLex (compareOn String.isEmpty) key.compareShown := by
  funext a b
  simp only [compareTexts, compareLex, compareOn]
  cases ha : a.isEmpty <;> cases hb : b.isEmpty
  · rfl
  · rfl
  · rfl
  · rw [String.isEmpty_iff.mp ha, String.isEmpty_iff.mp hb]
    exact (key.compareShown_eq_eq.mpr rfl).symm

instance : Std.TransCmp key.compareTexts := by
  rw [compareTexts_eq]
  infer_instance

theorem compareTexts_eq_eq : key.compareTexts a b = .eq ↔ a = b := by
  rw [compareTexts_eq, compareLex, Ordering.then_eq_eq, compareShown_eq_eq]
  refine and_iff_right_of_imp ?_
  rintro rfl
  exact Std.ReflCmp.compare_self

def Precedes (a b : String) : Prop :=
  a ≠ "" ∧ (b = "" ∨ if key.descending then b < a else a < b)

theorem compareTexts_eq_lt : key.compareTexts a b = .lt ↔ key.Precedes a b := by
  rw [compareTexts, Precedes, ne_eq, ← String.isEmpty_iff, ← String.isEmpty_iff,
    ← compareShown_eq_lt, compareShown]
  cases a.isEmpty <;> cases b.isEmpty <;> simp

end SortKey

namespace SortSpec

def compareRows (keys : SortSpec) (a b : Fin keys.length → String) : Ordering :=
  keys.compareTexts (List.ofFn a) (List.ofFn b)

theorem compareRows_cons (key : SortKey) (keys : SortSpec) :
    compareRows (key :: keys) = compareLex (fun a b => key.compareTexts (a 0) (b 0))
      (fun a b => keys.compareRows (fun i => a i.succ) fun i => b i.succ) := by
  funext a b
  simp only [compareRows, List.length_cons, List.ofFn_succ, compareTexts, compareLex]

instance (keys : SortSpec) : Std.TransCmp keys.compareRows := by
  induction keys with
  | nil => exact { eq_swap := rfl, isLE_trans := fun _ _ => rfl }
  | cons key keys ih =>
    rw [compareRows_cons]
    have hfirst : Std.TransCmp fun a b : Fin (keys.length + 1) → String =>
        key.compareTexts (a 0) (b 0) :=
      { eq_swap := Std.OrientedCmp.eq_swap, isLE_trans := Std.TransCmp.isLE_trans }
    have hothers : Std.TransCmp fun a b : Fin (keys.length + 1) → String =>
        compareRows keys (fun i => a i.succ) fun i => b i.succ :=
      { eq_swap := Std.OrientedCmp.eq_swap, isLE_trans := Std.TransCmp.isLE_trans }
    infer_instance

def Precedes (keys : SortSpec) (a b : Fin keys.length → String) : Prop :=
  ∃ i, (∀ j < i, a j = b j) ∧ keys[i].Precedes (a i) (b i)

theorem precedes_cons (key : SortKey) (keys : SortSpec) (a b : Fin (keys.length + 1) → String) :
    Precedes (key :: keys) a b ↔ key.Precedes (a 0) (b 0) ∨
      a 0 = b 0 ∧ keys.Precedes (fun i => a i.succ) fun i => b i.succ := by
  simp only [Precedes, List.length_cons, Fin.exists_fin_succ, Fin.forall_fin_succ]
  simp [and_assoc]

theorem compareRows_eq_lt (keys : SortSpec) (a b : Fin keys.length → String) :
    keys.compareRows a b = .lt ↔ keys.Precedes a b := by
  induction keys with
  | nil => exact iff_of_false (fun h => nomatch h) fun ⟨i, _⟩ => i.elim0
  | cons key keys ih =>
    rw [compareRows_cons, compareLex, Ordering.then_eq_lt, SortKey.compareTexts_eq_lt,
      SortKey.compareTexts_eq_eq, ih, precedes_cons]

theorem compareRows_eq_eq (keys : SortSpec) (a b : Fin keys.length → String) :
    keys.compareRows a b = .eq ↔ a = b := by
  induction keys with
  | nil => exact iff_of_true rfl (funext fun i => i.elim0)
  | cons key keys ih =>
    have hrows : a = b ↔ a 0 = b 0 ∧ (fun i : Fin keys.length => a i.succ) = fun i => b i.succ := by
      constructor
      · rintro rfl
        exact ⟨rfl, rfl⟩
      · rintro ⟨hfirst, hothers⟩
        funext i
        exact Fin.cases hfirst (congrFun hothers) i
    rw [compareRows_cons, compareLex, Ordering.then_eq_eq, SortKey.compareTexts_eq_eq, ih, hrows]

theorem compareRows_total (keys : SortSpec) (a b : Fin keys.length → String) :
    (keys.compareRows a b).isLE || (keys.compareRows b a).isLE := by
  have hswap : keys.compareRows b a = (keys.compareRows a b).swap := Std.OrientedCmp.eq_swap
  rw [hswap]
  cases keys.compareRows a b <;> rfl

theorem Precedes.asymm {keys : SortSpec} {a b : Fin keys.length → String} (h : keys.Precedes a b) :
    ¬ keys.Precedes b a := by
  intro h'
  rw [← compareRows_eq_lt] at h h'
  rw [Std.OrientedCmp.gt_of_lt h] at h'
  cases h'

end SortSpec

namespace Renderer

variable {α : Type} (r : Renderer) (keys : SortSpec) (context : α → RenderContext) (items : List α)

def sortRow (item : α) (i : Fin keys.length) : String :=
  Text.folded (r.renderSortKey keys[i] (context item))

theorem ofFn_sortRow (item : α) :
    List.ofFn (r.sortRow keys context item) = r.sortTexts keys (context item) :=
  List.ofFn_getElem_eq_map keys fun key => Text.folded (r.renderSortKey key (context item))

def sortsUpTo (a b : α) : Bool :=
  (keys.compareRows (r.sortRow keys context a) (r.sortRow keys context b)).isLE

theorem sortItems_eq_mergeSort :
    r.sortItems keys context items = items.mergeSort (r.sortsUpTo keys context) := by
  rw [sortItems, List.map_mergeSort (s := r.sortsUpTo keys context)]
  · rw [List.map_map]
    exact congrArg (List.mergeSort · _) (List.map_id items)
  · intro a ha b hb
    obtain ⟨a, -, rfl⟩ := List.mem_map.mp ha
    obtain ⟨b, -, rfl⟩ := List.mem_map.mp hb
    rw [sortsUpTo, SortSpec.compareRows, ofFn_sortRow, ofFn_sortRow]

def sortOrder : List (Fin items.length) :=
  r.sortItems keys (fun i : Fin items.length => context items[i]) (List.finRange items.length)

theorem sortItems_eq_map :
    r.sortItems keys context items = (r.sortOrder keys context items).map items.get := by
  have hitems : (List.finRange items.length).map items.get = items := by
    rw [← List.ofFn_eq_map]
    exact List.ofFn_get items
  rw [sortOrder, sortItems_eq_mergeSort, sortItems_eq_mergeSort,
    List.map_mergeSort (s := r.sortsUpTo keys context), hitems]
  intro i _ j _
  rfl

theorem sortOrder_perm : (r.sortOrder keys context items).Perm (List.finRange items.length) :=
  r.sortItems_perm keys _ _

def SortedBefore (i j : Fin items.length) : Prop :=
  let row (i : Fin items.length) := r.sortRow keys context items[i]
  keys.Precedes (row i) (row j) ∨ row i = row j ∧ i < j

instance : DecidableRel (r.SortedBefore keys context items) := fun i j =>
  let order := keys.compareRows (r.sortRow keys context items[i]) (r.sortRow keys context items[j])
  decidable_of_iff (order = .lt ∨ order = .eq ∧ i < j) (by
    rw [SortSpec.compareRows_eq_lt, SortSpec.compareRows_eq_eq, SortedBefore])

variable {r keys context items} in
theorem SortedBefore.asymm {i j : Fin items.length} (h : r.SortedBefore keys context items i j) :
    ¬ r.SortedBefore keys context items j i := by
  intro h'
  rcases h with h | ⟨h, hij⟩ <;> rcases h' with h' | ⟨h', hji⟩
  · exact h.asymm h'
  · rw [h'] at h
    exact h.asymm h
  · rw [h] at h'
    exact h'.asymm h'
  · exact absurd hij hji.asymm

theorem pairwise_sortOrder :
    (r.sortOrder keys context items).Pairwise (r.SortedBefore keys context items) := by
  let le := r.sortsUpTo keys fun i : Fin items.length => context items[i]
  let placed := (List.finRange items.length).zipIdx.mergeSort (List.zipIdxLE le)
  have horder : r.sortOrder keys context items = placed.map (·.1) := by
    rw [sortOrder, sortItems_eq_mergeSort, List.mergeSort_zipIdx]
  have hsorted : placed.Pairwise fun a b => List.zipIdxLE le a b = true :=
    List.pairwise_mergeSort (List.zipIdxLE_trans fun i j k => Std.TransCmp.isLE_trans)
      (List.zipIdxLE_total fun i j => keys.compareRows_total _ _) _
  have hnodup : (r.sortOrder keys context items).Nodup :=
    (r.sortOrder_perm keys context items).nodup_iff.mpr (List.nodup_finRange _)
  have hplace {i : Fin items.length} {n : Nat} (h : (i, n) ∈ placed) : n = i := by
    obtain ⟨hn, hi⟩ := List.mem_zipIdx' ((List.mergeSort_perm _ _).mem_iff.mp h)
    rw [hi, List.getElem_finRange]
    rfl
  rw [horder, List.Nodup, List.pairwise_map] at hnodup
  rw [horder, List.pairwise_map]
  refine (hsorted.and hnodup).imp_of_mem ?_
  rintro ⟨i, m⟩ ⟨j, n⟩ hi hj ⟨hle, hne⟩
  obtain rfl := hplace hi
  obtain rfl := hplace hj
  have hij : le i j = true := by
    rw [List.zipIdxLE] at hle
    split at hle
    · assumption
    · cases hle
  rcases Ordering.isLE_iff_eq_lt_or_eq_eq.mp hij with hlt | heq
  · exact .inl ((keys.compareRows_eq_lt _ _).mp hlt)
  · have hrow := (keys.compareRows_eq_eq _ _).mp heq
    have hji : le j i = true := Ordering.isLE_iff_eq_lt_or_eq_eq.mpr
      (.inr ((keys.compareRows_eq_eq _ _).mpr hrow.symm))
    rw [List.zipIdxLE, if_pos hij, if_pos hji] at hle
    exact .inr ⟨hrow, lt_of_le_of_ne (of_decide_eq_true hle) hne⟩

theorem eq_sortOrder {order : List (Fin items.length)}
    (hperm : order.Perm (List.finRange items.length))
    (hpairwise : order.Pairwise (r.SortedBefore keys context items)) :
    order = r.sortOrder keys context items :=
  List.Perm.eq_of_pairwise (fun _ _ _ _ h h' => absurd h' h.asymm) hpairwise
    (r.pairwise_sortOrder keys context items)
    (hperm.trans (r.sortOrder_perm keys context items).symm)

end Renderer

end Citeproc
