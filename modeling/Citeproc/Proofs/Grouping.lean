import Citeproc.Grouping
import Citeproc.Proofs.FirstOccurrence
import Mathlib.Data.List.Induction

namespace Citeproc.Grouping

variable {α κ : Type} [DecidableEq κ]

def classes (key : α → κ) (keys : List κ) (xs : List α) : List (List α) :=
  keys.map fun k => xs.filter fun x => key x == k

theorem head?_class (key : α → κ) {xs : List α} {k : κ} (h : ∃ y ∈ xs, key y = k) (x : α) :
    (xs.filter fun x => key x == k).head?.any (fun y => key y == key x) = (k == key x) := by
  obtain ⟨y, hy, hk⟩ := h
  cases hc : xs.filter fun x => key x == k with
  | nil =>
    have : y ∈ xs.filter fun x => key x == k := List.mem_filter.mpr ⟨hy, by simpa using hk⟩
    simp [hc] at this
  | cons first rest =>
    have hf : first ∈ xs.filter fun x => key x == k := by simp [hc]
    have hf : key first = k := by simpa using (List.mem_filter.mp hf).2
    simp [hf]

theorem filter_concat_of_ne (key : α → κ) (xs : List α) {k : κ} {x : α} (h : key x ≠ k) :
    ((xs ++ [x]).filter fun x => key x == k) = xs.filter fun x => key x == k := by
  simp [List.filter_append, h]

theorem add_classes (key : α → κ) (xs : List α) (x : α) {keys : List κ} (hn : keys.Nodup)
    (hk : ∀ k ∈ keys, ∃ y ∈ xs, key y = k) (hx : key x ∉ keys → ∀ y ∈ xs, key y ≠ key x) :
    add (fun a b => key a == key b) x (classes key keys xs) =
      classes key (if key x ∈ keys then keys else keys ++ [key x]) (xs ++ [x]) := by
  induction keys with
  | nil =>
    have he : (xs.filter fun y => key y == key x) = [] := by simpa using hx (by simp)
    simp [classes, add, List.filter_append, he]
  | cons k keys ih =>
    obtain ⟨hnk, hn⟩ := List.nodup_cons.mp hn
    have hhead := head?_class key (hk k (by simp)) x
    rw [classes, List.map_cons, add, hhead]
    by_cases hkx : k = key x
    · have hrest : classes key keys xs = classes key keys (xs ++ [x]) := by
        refine List.map_congr_left fun k' hk' => (filter_concat_of_ne key xs ?_).symm
        rintro rfl
        exact hnk (hkx ▸ hk')
      rw [if_pos (beq_iff_eq.mpr hkx), if_pos (by simp [hkx]), classes, List.map_cons,
        List.filter_append]
      simp only [hkx, List.filter_cons, beq_self_eq_true, ↓reduceIte, List.filter_nil]
      exact congrArg _ hrest
    · have hne : ¬(k == key x) = true := by simpa using hkx
      have ih := ih hn (fun k' hk' => hk k' (List.mem_cons_of_mem _ hk'))
        (fun h => hx (by simp [Ne.symm hkx, h]))
      rw [if_neg hne, ← classes, ih]
      by_cases hmem : key x ∈ keys
      · simp [classes, hmem, Ne.symm hkx]
      · simp [classes, hmem, Ne.symm hkx]

theorem groups_eq_classes (key : α → κ) (xs : List α) :
    groups (fun a b => key a == key b) xs = classes key (xs.map key).eraseDups xs := by
  induction xs using List.reverseRecOn with
  | nil => rfl
  | append_singleton xs x ih =>
    rw [groups] at ih ⊢
    rw [List.foldl_append, ih, List.foldl_cons, List.foldl_nil, add_classes]
    · rw [List.map_append, List.map_cons, List.map_nil, List.eraseDups_concat]
    · exact List.nodup_eraseDups _
    · intro k hk
      simpa [List.mem_eraseDups] using hk
    · intro h y hy he
      exact h (List.mem_eraseDups.mpr (he ▸ List.mem_map_of_mem hy))

theorem byKey_eq_classes (key : α → κ) (xs : List α) :
    byKey key xs = classes key (xs.map key).eraseDups xs := by
  have h := groups_eq_classes (Prod.fst : κ × α → κ) (xs.map fun x => (key x, x))
  rw [byKey, h]
  simp [classes, List.filter_map, Function.comp_def]

theorem byKey_perm (key : α → κ) (xs : List α) : (byKey key xs).flatten.Perm xs := by
  have h := (groups_perm (fun a b : κ × α => a.1 == b.1) (xs.map fun x => (key x, x))).map (·.2)
  simpa [byKey, List.map_flatten, Function.comp_def] using h

theorem mem_byKey {key : α → κ} {xs group : List α} :
    group ∈ byKey key xs ↔ ∃ x ∈ xs, group = xs.filter fun y => key y == key x := by
  rw [byKey_eq_classes, classes, List.mem_map]
  constructor
  · rintro ⟨k, hk, rfl⟩
    obtain ⟨x, hx, rfl⟩ := List.mem_map.mp (List.mem_eraseDups.mp hk)
    exact ⟨x, hx, rfl⟩
  · rintro ⟨x, hx, rfl⟩
    exact ⟨key x, List.mem_eraseDups.mpr (List.mem_map_of_mem hx), rfl⟩

theorem groups_concat (same : α → α → Bool) (xs : List α) (x : α) :
    groups same (xs ++ [x]) = add same x (groups same xs) := by
  rw [groups, List.foldl_append]
  rfl

theorem map_add {β : Type} {same : α → α → Bool} {same' : β → β → Bool} {f : β → α} {y : β}
    {done : List (List β)}
    (h : ∀ group ∈ done, ∀ first ∈ group.head?, same (f first) (f y) = same' first y) :
    (add same' y done).map (·.map f) = add same (f y) (done.map (·.map f)) := by
  induction done with
  | nil => rfl
  | cons group rest ih =>
    obtain ⟨hgroup, hrest⟩ := List.forall_mem_cons.mp h
    have hhead : (group.map f).head?.any (same · (f y)) = group.head?.any (same' · y) := by
      cases hfirst : group.head? with
      | none => simp [hfirst]
      | some first => simp [hfirst, hgroup first hfirst]
    rw [List.map_cons, add, add, hhead]
    split
    · simp
    · rw [List.map_cons, ih hrest]

variable {same : α → α → Bool} {xs : List α} {p : α → Bool}

theorem mem_of_mem_groups {group : List α} (hgroup : group ∈ groups same xs) {x : α}
    (hx : x ∈ group) : x ∈ xs :=
  (groups_perm same xs).mem_iff.mp (List.mem_flatten_of_mem hgroup hx)

theorem groups_congr {same' : α → α → Bool} (h : xs.Pairwise fun a b => same a b = same' a b) :
    groups same xs = groups same' xs := by
  induction xs using List.reverseRecOn with
  | nil => rfl
  | append_singleton xs x ih =>
    obtain ⟨hxs, -, hx⟩ := List.pairwise_append.mp h
    have hadd : (add same x (groups same xs)).map (·.map id) =
        add same' x ((groups same xs).map (·.map id)) := by
      refine map_add fun group hgroup first hfirst => ?_
      exact (hx first (mem_of_mem_groups hgroup (List.mem_of_head? hfirst)) x List.mem_cons_self).symm
    simp only [List.map_id, List.map_id_fun', id_eq] at hadd
    rw [groups_concat, groups_concat, hadd, ih hxs]

theorem map_groups {β : Type} (f : β → α) (ys : List β) :
    (groups (fun a b => same (f a) (f b)) ys).map (·.map f) = groups same (ys.map f) := by
  induction ys using List.reverseRecOn with
  | nil => rfl
  | append_singleton ys y ih =>
    rw [List.map_append, List.map_singleton, groups_concat, groups_concat, ← ih]
    exact map_add fun _ _ _ _ => rfl

inductive Share (κ : Type)
  | key (k : κ)
  | place (n : Nat)
  deriving DecidableEq

def share (key : α → Option κ) (entry : α × Nat) : Share κ :=
  (key entry.1).elim (.place entry.2) .key

theorem pairwise_zipIdx (xs : List α) : xs.zipIdx.Pairwise fun a b => a.2 < b.2 := by
  rw [← List.pairwise_map (f := Prod.snd) (R := (· < ·)), List.zipIdx_map_snd]
  exact List.pairwise_lt_range' 1

theorem groups_zipIdx (key : α → Option κ) (xs : List α) :
    groups (fun a b => (key a.1).isSome && key a.1 == key b.1) xs.zipIdx =
      classes (share key) (xs.zipIdx.map (share key)).eraseDups xs.zipIdx := by
  rw [← groups_eq_classes]
  refine groups_congr ((pairwise_zipIdx xs).imp fun {a b} hlt => ?_)
  simp only [share]
  cases key a.1 <;> cases key b.1 <;> simp [hlt.ne, Share.key.injEq]

theorem groups_eq_map_classes (key : α → Option κ) (xs : List α) :
    groups (fun a b => (key a).isSome && key a == key b) xs =
      (classes (share key) (xs.zipIdx.map (share key)).eraseDups xs.zipIdx).map (·.map (·.1)) := by
  rw [← groups_zipIdx]
  conv_lhs => rw [← List.zipIdx_map_fst 0 xs]
  exact (map_groups (·.1) xs.zipIdx).symm

theorem map_filter_share (key : α → Option κ) (k : Option κ) (xs : List α) :
    (xs.zipIdx.filter (share key · == k.elim (.place xs.length) .key)).map (·.1) =
      xs.filter fun y => (key y).isSome && key y == k := by
  have hsame : xs.zipIdx.filter (share key · == k.elim (.place xs.length) .key) =
      xs.zipIdx.filter ((fun y => (key y).isSome && key y == k) ∘ (·.1)) := by
    refine List.filter_congr fun entry hentry => ?_
    have hne : entry.2 ≠ xs.length := by
      have := List.snd_lt_of_mem_zipIdx hentry
      omega
    simp only [share, Function.comp_apply]
    cases key entry.1 <;> cases k <;> simp [hne, Share.key.injEq]
  rw [hsame, ← List.filter_map, List.zipIdx_map_fst]

theorem classes_insert (key : α → κ) {keys₁ keys₂ : List κ} {k : κ} (h : (keys₁ ++ k :: keys₂).Nodup)
    (before after : List α) {x : α} (hx : key x = k) :
    classes key (keys₁ ++ k :: keys₂) (before ++ x :: after) =
      classes key keys₁ (before ++ after) ++
        (before.filter (key · == k) ++ x :: after.filter (key · == k)) ::
          classes key keys₂ (before ++ after) := by
  rw [List.nodup_middle, List.nodup_cons, List.mem_append, not_or] at h
  have hothers {keys : List κ} (hk : k ∉ keys) :
      classes key keys (before ++ x :: after) = classes key keys (before ++ after) := by
    refine List.map_congr_left fun k' hk' => ?_
    have hne : (key x == k') = false := beq_eq_false_iff_ne.mpr fun he => hk (hx ▸ he ▸ hk')
    simp [hne]
  rw [classes, List.map_append, List.map_cons, ← classes, ← classes, hothers h.1.1, hothers h.1.2,
    List.filter_append, List.filter_cons_of_pos (by simpa using hx)]

theorem groups_insert (key : α → Option κ) (before after : List α) (k : Option κ) :
    ∃ groups₁ later groups₂, ∀ x, key x = k →
      groups (fun a b => (key a).isSome && key a == key b) (before ++ x :: after) =
        groups₁ ++ (before.filter (fun y => (key y).isSome && key y == k) ++ x :: later) ::
          groups₂ := by
  let own : Share κ := k.elim (.place before.length) .key
  let above := after.zipIdx (before.length + 1)
  have hown : own ∈
      (before.zipIdx.map (share key) ++ own :: above.map (share key)).eraseDups := by
    simp [List.mem_eraseDups]
  obtain ⟨keys₁, keys₂, hkeys⟩ := List.append_of_mem hown
  have hnodup : (keys₁ ++ own :: keys₂).Nodup := hkeys ▸ List.nodup_eraseDups _
  refine ⟨(classes (share key) keys₁ (before.zipIdx ++ above)).map (·.map (·.1)),
    (above.filter (share key · == own)).map (·.1),
    (classes (share key) keys₂ (before.zipIdx ++ above)).map (·.map (·.1)), fun x hx => ?_⟩
  have hxown : share key (x, before.length) = own := by rw [share, hx]
  have hplaces : (before ++ x :: after).zipIdx = before.zipIdx ++ (x, before.length) :: above := by
    simp [List.zipIdx_append, above]
  rw [groups_eq_map_classes, hplaces, List.map_append, List.map_cons, hxown, hkeys,
    classes_insert _ hnodup _ _ hxown, List.map_append, List.map_cons, List.map_append,
    map_filter_share, List.map_cons]

def Lone (same : α → α → Bool) (xs : List α) (x : α) : Prop :=
  ∀ y ∈ xs, same x y = false ∧ same y x = false

theorem any_head?_eq_false {group : List α} {x : α} (h : ∀ y ∈ group, same y x = false) :
    group.head?.any (same · x) = false :=
  (Option.any_eq_false _ _).mpr fun y hy => by simpa using h y (List.mem_of_head? hy)

theorem add_of_lone {done : List (List α)} {x : α}
    (h : ∀ group ∈ done, ∀ y ∈ group, same y x = false) : add same x done = done ++ [[x]] := by
  induction done with
  | nil => rfl
  | cons group rest ih =>
    obtain ⟨hgroup, hrest⟩ := List.forall_mem_cons.mp h
    rw [add, any_head?_eq_false hgroup, ih hrest]
    rfl

theorem filter_add {done : List (List α)} {x : α} (hx : p x = true)
    (h : ∀ group ∈ done, ∀ y ∈ group, p y = false → same y x = false) :
    (add same x done).filter (List.any · p) = add same x (done.filter (List.any · p)) := by
  induction done with
  | nil => simp [add, hx]
  | cons group rest ih =>
    obtain ⟨hgroup, hrest⟩ := List.forall_mem_cons.mp h
    cases hany : group.any p with
    | true =>
      rw [List.filter_cons_of_pos (by simpa using hany), add, add]
      split
      · rw [List.filter_cons_of_pos (by simp_all)]
      · rw [List.filter_cons_of_pos (by simpa using hany), ih hrest]
    | false =>
      have hhead := any_head?_eq_false fun y hy =>
        hgroup y hy (by simpa using List.any_eq_false.mp hany y hy)
      rw [add, hhead, if_neg Bool.false_ne_true, List.filter_cons_of_neg (by simpa using hany),
        List.filter_cons_of_neg (by simpa using hany), ih hrest]

theorem groups_filter (h : ∀ x ∈ xs, p x = false → Lone same xs x) :
    groups same (xs.filter p) = (groups same xs).filter (List.any · p) := by
  induction xs using List.reverseRecOn with
  | nil => rfl
  | append_singleton xs x ih =>
    have hxs := ih fun y hy hp z hz =>
      h y (List.mem_append_left _ hy) hp z (List.mem_append_left _ hz)
    have hmem {group : List α} (hgroup : group ∈ groups same xs) {y : α} (hy : y ∈ group) :
        y ∈ xs ++ [x] := List.mem_append_left _ (mem_of_mem_groups hgroup hy)
    rw [List.filter_append, groups_concat]
    cases hx : p x with
    | false =>
      have hlone := h x List.mem_concat_self hx
      rw [add_of_lone fun group hgroup y hy => (hlone y (hmem hgroup hy)).2, List.filter_append, ← hxs]
      simp [hx]
    | true =>
      have hadd := filter_add hx fun group hgroup y hy hp =>
        (h y (hmem hgroup hy) hp x List.mem_concat_self).1
      rw [hadd, ← hxs, List.filter_cons_of_pos hx, List.filter_nil, groups_concat]

theorem mem_add {done : List (List α)} {x : α} {group : List α} (h : group ∈ add same x done) :
    group ∈ done ∨ group = [x] ∨
      ∃ first rest, first :: rest ∈ done ∧ same first x = true ∧ group = first :: rest ++ [x] := by
  induction done with
  | nil => exact .inr (.inl (List.mem_singleton.mp h))
  | cons g done ih =>
    rw [add] at h
    split at h
    · next hsame =>
      obtain ⟨first, hfirst, hsame⟩ := (Option.any_eq_true _ _).mp hsame
      obtain ⟨rest, rfl⟩ := List.head?_eq_some_iff.mp hfirst
      rcases List.mem_cons.mp h with rfl | h
      · exact .inr (.inr ⟨first, rest, List.mem_cons_self, hsame, rfl⟩)
      · exact .inl (List.mem_cons_of_mem _ h)
    · rcases List.mem_cons.mp h with rfl | h
      · exact .inl List.mem_cons_self
      · rcases ih h with h | h | ⟨first, rest, h, hsame⟩
        · exact .inl (List.mem_cons_of_mem _ h)
        · exact .inr (.inl h)
        · exact .inr (.inr ⟨first, rest, List.mem_cons_of_mem _ h, hsame⟩)

theorem ne_nil_of_mem_groups {group : List α} (h : group ∈ groups same xs) : group ≠ [] := by
  induction xs using List.reverseRecOn with
  | nil => cases h
  | append_singleton xs x ih =>
    rw [groups_concat] at h
    rcases mem_add h with h | rfl | ⟨first, rest, -, -, rfl⟩
    · exact ih h
    · exact List.cons_ne_nil _ _
    · exact List.cons_ne_nil _ _

theorem sublist_of_mem_groups {group : List α} (h : group ∈ groups same xs) : group.Sublist xs := by
  induction xs using List.reverseRecOn generalizing group with
  | nil => cases h
  | append_singleton xs x ih =>
    rw [groups_concat] at h
    rcases mem_add h with h | rfl | ⟨first, rest, hgroup, -, rfl⟩
    · exact (ih h).trans (List.sublist_append_left _ _)
    · exact List.sublist_append_right _ _
    · exact (ih hgroup).append (.refl _)

theorem heads_add_sublist (x : α) (done : List (List α)) :
    ((add same x done).filterMap List.head?).Sublist (done.filterMap List.head? ++ [x]) := by
  induction done with
  | nil => exact .refl _
  | cons group rest ih =>
    rw [add]
    split
    · next hsame =>
      obtain ⟨first, hfirst, -⟩ := (Option.any_eq_true _ _).mp hsame
      obtain ⟨later, rfl⟩ := List.head?_eq_some_iff.mp hfirst
      exact List.sublist_append_left _ _
    · cases group with
      | nil => exact ih
      | cons first later => exact ih.cons_cons first

theorem heads_groups_sublist (same : α → α → Bool) (xs : List α) :
    ((groups same xs).filterMap List.head?).Sublist xs := by
  induction xs using List.reverseRecOn with
  | nil => exact .refl _
  | append_singleton xs x ih =>
    rw [groups_concat]
    exact (heads_add_sublist x _).trans (ih.append (.refl _))

theorem eq_singleton_of_lone {group : List α} {x : α} (h : Lone same xs x)
    (hgroup : group ∈ groups same xs) (hx : x ∈ group) : group = [x] := by
  induction xs using List.reverseRecOn generalizing group with
  | nil => cases hgroup
  | append_singleton xs y ih =>
    have ih {group : List α} := @ih group fun z hz => h z (List.mem_append_left _ hz)
    rw [groups_concat] at hgroup
    rcases mem_add hgroup with hgroup | rfl | ⟨first, rest, hfirst, hsame, rfl⟩
    · exact ih hgroup hx
    · rw [List.mem_singleton.mp hx]
    · exfalso
      rcases List.mem_append.mp hx with hx | hx
      · obtain rfl := (List.cons.inj (ih hfirst hx)).1
        exact Bool.false_ne_true ((h y List.mem_concat_self).1.symm.trans hsame)
      · obtain rfl := List.mem_singleton.mp hx
        have hmem := List.mem_append_left [x] (mem_of_mem_groups hfirst List.mem_cons_self)
        exact Bool.false_ne_true ((h first hmem).2.symm.trans hsame)

/-- Each member is in one part, with those that are related to it. Members of one part keep their order,
and so do the parts, by their first members. -/
structure IsPartition (related : α → α → Prop) (xs : List α) (parts : List (List α)) : Prop where
  perm : parts.flatten.Perm xs
  nonempty : ∀ part ∈ parts, part ≠ []
  members : ∀ part ∈ parts, part.Sublist xs
  heads : (parts.filterMap List.head?).Sublist xs
  share : ∀ a ∈ xs, ∀ b ∈ xs, a ≠ b → ((∃ part ∈ parts, a ∈ part ∧ b ∈ part) ↔ related a b)

theorem mem_classes_iff {key : α → κ} {a b : α} (ha : a ∈ xs) (hb : b ∈ xs) :
    (∃ part ∈ classes key (xs.map key).eraseDups xs, a ∈ part ∧ b ∈ part) ↔ key a = key b := by
  simp only [classes, List.mem_map, List.mem_eraseDups]
  constructor
  · rintro ⟨_, ⟨k, -, rfl⟩, hak, hbk⟩
    rw [List.mem_filter, beq_iff_eq] at hak hbk
    exact hak.2.trans hbk.2.symm
  · intro hkey
    refine ⟨_, ⟨key a, ⟨a, ha, rfl⟩, rfl⟩, ?_, ?_⟩
    · simp [ha]
    · simp [hb, hkey]

theorem isPartition_zipIdx (key : α → Option κ) (xs : List α) :
    IsPartition (fun a b => ∃ k, key a.1 = some k ∧ key b.1 = some k) xs.zipIdx
      (groups (fun a b => (key a.1).isSome && key a.1 == key b.1) xs.zipIdx) where
  perm := groups_perm _ _
  nonempty _ := ne_nil_of_mem_groups
  members _ := sublist_of_mem_groups
  heads := heads_groups_sublist _ _
  share := by
    intro a ha b hb hne
    have hplace : a.2 ≠ b.2 := by
      intro heq
      rw [List.mem_zipIdx_iff_getElem?] at ha hb
      exact hne (Prod.ext (Option.some.inj (ha.symm.trans (heq ▸ hb))) heq)
    rw [groups_zipIdx, mem_classes_iff ha hb, Grouping.share, Grouping.share]
    cases key a.1 <;> cases key b.1 <;> simp [hplace, eq_comm]

end Citeproc.Grouping
