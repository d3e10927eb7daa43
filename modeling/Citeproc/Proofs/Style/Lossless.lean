import Citeproc.Proofs.Style.Outline
import Mathlib.Data.List.Forall2

namespace Citeproc.Markup.Element

variable {x y : Element} {xs ys : List Element} {os ls ss : List Outline} {name other : String}

section Lists

variable {α : Type} {a b c d : List α}

theorem eq_iff_of_sublist (hsub : b.Sublist c) (hlength : a.length ≤ b.length) :
    a = c ↔ a = b ∧ b = c := by
  constructor
  · rintro rfl
    have hb := hsub.eq_of_length (Nat.le_antisymm hsub.length_le hlength)
    exact ⟨hb.symm, hb⟩
  · rintro ⟨rfl, rfl⟩
    rfl

theorem append_eq_append_iff_of_length_le (ha : a.length ≤ c.length) (hb : b.length ≤ d.length) :
    a ++ b = c ++ d ↔ a = c ∧ b = d := by
  constructor
  · intro h
    have hlength := congrArg List.length h
    rw [List.length_append, List.length_append] at hlength
    exact List.append_inj h (by omega)
  · rintro ⟨rfl, rfl⟩
    rfl

theorem getLast?_toList_sublist (l : List α) : l.getLast?.toList.Sublist l := by
  obtain rfl | ⟨init, last, rfl⟩ := List.eq_nil_or_concat l <;> simp

theorem mem_getLast?_or_dropLast {l : List α} {z : α} (h : z ∈ l) :
    z ∈ l.getLast?.toList ∨ z ∈ l.dropLast := by
  obtain rfl | ⟨init, last, rfl⟩ := List.eq_nil_or_concat l
  · simp at h
  · simpa [or_comm] using h

end Lists

theorem mem_named : y ∈ x.named name ↔ y ∈ x.elements ∧ y.name = name := by
  simp [named]

theorem mem_last_named (h : y ∈ (x.named name).getLast?.toList) : y ∈ x.elements ∧ y.name = name :=
  mem_named.mp ((getLast?_toList_sublist _).subset h)

theorem outlines_of_head? {head : Except StyleError Head} (h : x.head? = some head) :
    x.outlines = [⟨x.name, head, x.inside⟩] := by
  rw [outlines_eq, h]
  rfl

def Outlined (x : Element) (o : Outline) : Prop :=
  ∃ head, x.head? = some head ∧ o.name = x.name ∧ (o = ⟨x.name, head, x.inside⟩ ↔ x.Lossless)

theorem Outlined.of_inside {head : Head} (hhead : x.head? = some (.ok head))
    (h : os = x.inside ↔ x.Regular ∧ ∀ y ∈ x.elements, y.Lossless) :
    Outlined x ⟨x.name, .ok head, os⟩ := by
  refine ⟨_, hhead, rfl, ?_⟩
  rw [lossless_iff, ← h, Outline.mk.injEq]
  simp

structure OutlinedAll (xs : List Element) (os : List Outline) : Prop where
  length_eq : os.length = (xs.flatMap outlines).length
  eq_iff : os = xs.flatMap outlines ↔ ∀ x ∈ xs, x.Lossless

theorem OutlinedAll.of_forall₂ (h : List.Forall₂ Outlined xs os) : OutlinedAll xs os := by
  induction h with
  | nil => exact ⟨rfl, by simp⟩
  | cons ho _ ih =>
    obtain ⟨head, hhead, -, ho⟩ := ho
    constructor
    · rw [List.flatMap_cons, outlines_of_head? hhead, List.singleton_append, List.length_cons,
        List.length_cons, ih.length_eq]
    · rw [List.flatMap_cons, outlines_of_head? hhead, List.singleton_append, List.cons.injEq, ho,
        ih.eq_iff, List.forall_mem_cons]

theorem flatMap_filter_eq_iff (p : Element → Bool) :
    (xs.filter p).flatMap outlines = xs.flatMap outlines ↔ ∀ x ∈ xs.filter (!p ·), x.Plain := by
  induction xs with
  | nil => simp
  | cons x xs ih =>
    cases hx : p x with
    | true => simp [hx, ih]
    | false =>
      rw [List.filter_cons_of_neg (by simp [hx]), List.filter_cons_of_pos (by simp [hx]),
        List.flatMap_cons, List.forall_mem_cons, ← outlines_eq_nil_iff, ← ih]
      constructor
      · intro h
        have hsub : ((xs.filter p).flatMap outlines).Sublist (xs.flatMap outlines) :=
          List.filter_sublist.flatMap outlines
        have hlength := hsub.length_le
        have hnil : x.outlines = [] := by
          rw [h, List.length_append] at hlength
          exact List.eq_nil_of_length_eq_zero (by omega)
        exact ⟨hnil, by simpa [hnil] using h⟩
      · rintro ⟨hnil, h⟩
        rw [hnil, h, List.nil_append]

theorem regular_and_lossless_iff {kept : List Element} (hsub : ∀ y ∈ kept, y ∈ x.elements)
    (hrest : ∀ y ∈ x.elements, y ∈ kept ∨ y ∈ x.passedOver) :
    (x.Regular ∧ ∀ y ∈ x.elements, y.Lossless) ↔ x.Regular ∧ ∀ y ∈ kept, y.Lossless := by
  refine and_congr_right fun hregular => ⟨fun h y hy => h y (hsub y hy), fun h y hy => ?_⟩
  obtain hkept | hpassed := hrest y hy
  · exact h y hkept
  · exact (hregular.1 y hpassed).lossless

theorem eq_inside_of_filter {p : Element → Bool} (hpassed : x.passedOver = x.elements.filter (!p ·))
    (hnames : x.name ≠ "names") (hchoose : x.name ≠ "choose")
    (h : List.Forall₂ Outlined (x.elements.filter p) os) :
    os = x.inside ↔ x.Regular ∧ ∀ y ∈ x.elements, y.Lossless := by
  have hinside : x.inside = x.elements.flatMap outlines := by simp [inside, hnames]
  have hregular : x.Regular ↔ ∀ y ∈ x.elements.filter (!p ·), y.Plain := by
    simp [Regular, hpassed, hchoose]
  have hsub : ((x.elements.filter p).flatMap outlines).Sublist (x.elements.flatMap outlines) :=
    List.filter_sublist.flatMap outlines
  have hrest : ∀ y ∈ x.elements, y ∈ x.elements.filter p ∨ y ∈ x.passedOver := by
    intro y hy
    rw [hpassed, List.mem_filter, List.mem_filter]
    cases p y <;> simp [hy]
  have hos := OutlinedAll.of_forall₂ h
  rw [regular_and_lossless_iff (fun y hy => (List.mem_filter.mp hy).1) hrest, hregular, hinside,
    eq_iff_of_sublist hsub (Nat.le_of_eq hos.length_eq), hos.eq_iff, flatMap_filter_eq_iff, and_comm]

section Names

theorem OutlinedAll.length_le_of_last (h : OutlinedAll xs.getLast?.toList os) :
    os.length ≤ (xs.flatMap outlines).length :=
  h.length_eq ▸ ((getLast?_toList_sublist xs).flatMap outlines).length_le

theorem flatMap_getLast?_eq_iff :
    xs.getLast?.toList.flatMap outlines = xs.flatMap outlines ↔ ∀ x ∈ xs.dropLast, x.Plain := by
  obtain rfl | ⟨init, last, rfl⟩ := List.eq_nil_or_concat xs
  · simp
  · simp [outlines_eq_nil_iff, List.flatMap_eq_nil_iff]

theorem OutlinedAll.eq_iff_of_last (h : OutlinedAll xs.getLast?.toList os) :
    os = xs.flatMap outlines ↔
      (∀ x ∈ xs.getLast?.toList, x.Lossless) ∧ ∀ x ∈ xs.dropLast, x.Plain := by
  have hsub := (getLast?_toList_sublist xs).flatMap outlines
  rw [eq_iff_of_sublist hsub (Nat.le_of_eq h.length_eq), h.eq_iff, flatMap_getLast?_eq_iff]

theorem lossless_iff_of_name (h : x.name = "substitute" ∨ x.name = "layout" ∨ x.name = "macro") :
    x.Lossless ↔ ∀ y ∈ x.elements, y.Lossless := by
  rw [lossless_iff]
  obtain hname | hname | hname := h <;> simp [Regular, passedOver, hname]

theorem outlines_of_substitute (h : x.name = "substitute") :
    x.outlines = x.elements.flatMap outlines := by
  simp [outlines_eq, head?, inside, h]

theorem OutlinedAll.of_substitutes (hnames : ∀ x ∈ xs, x.name = "substitute")
    (h : OutlinedAll (xs.flatMap elements) os) : OutlinedAll xs os := by
  have houtlines : (xs.flatMap elements).flatMap outlines = xs.flatMap outlines := by
    rw [List.flatMap_assoc]
    exact List.flatMap_congr fun x hx => (outlines_of_substitute (hnames x hx)).symm
  have hlossless : (∀ y ∈ xs.flatMap elements, y.Lossless) ↔ ∀ x ∈ xs, x.Lossless := by
    rw [List.forall_mem_flatMap]
    exact forall₂_congr fun x hx => (lossless_iff_of_name (.inl (hnames x hx))).symm
  exact ⟨houtlines ▸ h.length_eq, by rw [← hlossless, ← houtlines, h.eq_iff]⟩

theorem filter_substitute (x : Element) :
    (x.otherThan "label").filter (·.name == "substitute") = x.named "substitute" := by
  rw [otherThan, List.filter_filter, named]
  refine List.filter_congr fun y _ => ?_
  by_cases hy : y.name = "substitute" <;> simp [hy]

theorem passedOver_of_names (hname : x.name = "names") :
    x.passedOver = (x.named "label").dropLast ++ (x.named "substitute").dropLast ++
      (x.otherThan "label").filter (·.name != "substitute") := by
  simp [passedOver, hname]

theorem regular_of_names_iff (hname : x.name = "names") :
    x.Regular ↔ (∀ y ∈ (x.named "label").dropLast, y.Plain) ∧
      (∀ y ∈ (x.named "substitute").dropLast, y.Plain) ∧
        ∀ y ∈ (x.otherThan "label").filter (·.name != "substitute"), y.Plain := by
  have hchoose : x.name ≠ "choose" := by simp [hname]
  simp only [Regular, passedOver_of_names hname, List.forall_mem_append, and_assoc, hchoose,
    false_implies, and_true]

theorem mem_last_or_passedOver (hname : x.name = "names") (hy : y ∈ x.elements) :
    y ∈ (x.named "label").getLast?.toList ++ (x.named "substitute").getLast?.toList ∨
      y ∈ x.passedOver := by
  rw [passedOver_of_names hname]
  by_cases hlabel : y.name = "label"
  · have := mem_getLast?_or_dropLast (mem_named.mpr ⟨hy, hlabel⟩)
    grind
  · by_cases hsubstitute : y.name = "substitute"
    · have := mem_getLast?_or_dropLast (mem_named.mpr ⟨hy, hsubstitute⟩)
      grind
    · have hother : y ∈ (x.otherThan "label").filter (·.name != "substitute") := by
        simp [otherThan, hy, hlabel, hsubstitute]
      exact .inr (List.mem_append_right _ hother)

theorem eq_inside_of_names (hname : x.name = "names")
    (hlabel : List.Forall₂ Outlined (x.named "label").getLast?.toList ls)
    (hsubstitute :
      List.Forall₂ Outlined ((x.named "substitute").getLast?.toList.flatMap elements) ss) :
    ls ++ ss = x.inside ↔ x.Regular ∧ ∀ y ∈ x.elements, y.Lossless := by
  have hls := OutlinedAll.of_forall₂ hlabel
  have hss : OutlinedAll (x.named "substitute").getLast?.toList ss :=
    .of_substitutes (fun y hy => (mem_last_named hy).2) (.of_forall₂ hsubstitute)
  have hsub : ((x.named "substitute").flatMap outlines).Sublist
      ((x.otherThan "label").flatMap outlines) := by
    rw [← filter_substitute]
    exact List.filter_sublist.flatMap outlines
  have hothers : (x.named "substitute").flatMap outlines = (x.otherThan "label").flatMap outlines ↔
      ∀ y ∈ (x.otherThan "label").filter (·.name != "substitute"), y.Plain := by
    rw [← filter_substitute]
    exact flatMap_filter_eq_iff _
  have hinside : x.inside =
      (x.named "label").flatMap outlines ++ (x.otherThan "label").flatMap outlines := by
    simp [inside, hname]
  have hkept : ∀ y ∈ (x.named "label").getLast?.toList ++ (x.named "substitute").getLast?.toList,
      y ∈ x.elements := by
    rw [List.forall_mem_append]
    exact ⟨fun y hy => (mem_last_named hy).1, fun y hy => (mem_last_named hy).1⟩
  -- Neither part is too long, so that a lost label cannot be made up for by a substitute.
  rw [regular_and_lossless_iff hkept fun y => mem_last_or_passedOver hname, hinside,
    append_eq_append_iff_of_length_le hls.length_le_of_last
      (Nat.le_trans hss.length_le_of_last hsub.length_le),
    hls.eq_iff_of_last, eq_iff_of_sublist hsub hss.length_le_of_last, hss.eq_iff_of_last, hothers,
    regular_of_names_iff hname, List.forall_mem_append]
  tauto

end Names

section Choose

theorem map_name_of_outlined (h : List.Forall₂ Outlined xs os) :
    os.map (·.name) = xs.map (·.name) := by
  induction h with
  | nil => rfl
  | cons ho _ ih =>
    obtain ⟨head, -, hname, -⟩ := ho
    rw [List.map_cons, List.map_cons, hname, ih]

theorem map_name_flatMap (h : ∀ x ∈ xs, x.head? ≠ none) :
    (xs.flatMap outlines).map (·.name) = xs.map (·.name) := by
  induction xs with
  | nil => rfl
  | cons x xs ih =>
    obtain ⟨hx, hxs⟩ := List.forall_mem_cons.mp h
    obtain ⟨head, hhead⟩ := Option.ne_none_iff_exists'.mp hx
    rw [List.flatMap_cons, outlines_of_head? hhead, List.singleton_append, List.map_cons,
      List.map_cons, ih hxs]
    rfl

theorem forall_name_of_map_eq (h : xs.map (·.name) = ys.map (·.name)) (hys : ∀ y ∈ ys, y.name = name) :
    ∀ x ∈ xs, x.name = name := by
  intro x hx
  have hmem : x.name ∈ ys.map (·.name) := h ▸ List.mem_map_of_mem hx
  obtain ⟨y, hy, hxy⟩ := List.mem_map.mp hmem
  rw [← hxy, hys y hy]

theorem filter_name_of_forall (h : ∀ x ∈ xs, x.name = name) :
    xs.filter (·.name == other) = if name = other then xs else [] := by
  split
  next heq => exact List.filter_eq_self.mpr fun x hx => by simp [h x hx, heq]
  next hne => exact List.filter_eq_nil_iff.mpr fun x hx => by simp [h x hx, hne]

theorem eq_getLast?_toList_of_map (h : xs.map (·.name) = xs.getLast?.toList.map (·.name)) :
    xs = xs.getLast?.toList := by
  have hlength := congrArg List.length h
  rw [List.length_map, List.length_map] at hlength
  exact ((getLast?_toList_sublist xs).eq_of_length hlength.symm).symm

theorem elements_eq_branches (h : x.elements.map (·.name) = x.branches.map (·.name)) :
    x.elements = x.branches := by
  rw [branches, List.map_append, List.map_append] at h
  obtain ⟨conditional, elses, helements, hconditional, helse⟩ := List.map_eq_append_iff.mp h
  obtain ⟨ifs, elseIfs, rfl, hif, helseIf⟩ := List.map_eq_append_iff.mp hconditional
  have hifs := forall_name_of_map_eq hif fun y hy => (mem_last_named hy).2
  have helseIfs := forall_name_of_map_eq helseIf fun y hy => (mem_named.mp hy).2
  have helses := forall_name_of_map_eq helse fun y hy => (mem_last_named hy).2
  have hnamed (name : String) : x.named name = (if "if" = name then ifs else []) ++
      (if "else-if" = name then elseIfs else []) ++ if "else" = name then elses else [] := by
    rw [named, helements, List.filter_append, List.filter_append, filter_name_of_forall hifs,
      filter_name_of_forall helseIfs, filter_name_of_forall helses]
  have hnamedIf : x.named "if" = ifs := by simp [hnamed]
  have hnamedElseIf : x.named "else-if" = elseIfs := by simp [hnamed]
  have hnamedElse : x.named "else" = elses := by simp [hnamed]
  rw [hnamedIf] at hif
  rw [hnamedElse] at helse
  rw [branches, hnamedIf, hnamedElseIf, hnamedElse, ← eq_getLast?_toList_of_map hif,
    ← eq_getLast?_toList_of_map helse, helements]

theorem eq_inside_of_choose (hname : x.name = "choose")
    (hnames : ∀ y ∈ x.elements, y.name = "if" ∨ y.name = "else-if" ∨ y.name = "else")
    (h : List.Forall₂ Outlined x.branches os) :
    os = x.inside ↔ x.Regular ∧ ∀ y ∈ x.elements, y.Lossless := by
  have hinside : x.inside = x.elements.flatMap outlines := by simp [inside, hname]
  have hregular : x.Regular ↔ x.elements = x.branches := by simp [Regular, passedOver, hname]
  have hheads : ∀ y ∈ x.elements, y.head? ≠ none := by
    intro y hy
    obtain hname | hname | hname := hnames y hy <;> simp [head?, hname]
  have hos := OutlinedAll.of_forall₂ h
  rw [hinside, hregular]
  constructor
  · intro heq
    have hbranches : x.elements = x.branches := by
      apply elements_eq_branches
      rw [← map_name_flatMap hheads, ← heq, map_name_of_outlined h]
    rw [hbranches] at heq ⊢
    exact ⟨rfl, hos.eq_iff.mp heq⟩
  · rintro ⟨hbranches, hall⟩
    rw [hbranches] at hall ⊢
    exact hos.eq_iff.mpr hall

end Choose

end Citeproc.Markup.Element
