import Citeproc.Proofs.Date.Ranges
import Citeproc.Proofs.Output.Spans
import Citeproc.Proofs.Text.Digits

namespace Citeproc.DateRenderer

variable (r : DateRenderer) (date start stop : DateParts) (c : Char)

theorem exists_isDigit_yearText (year : Int) (form : Option DatePartForm) :
    ∃ d ∈ (r.yearText year form).toList, d.isDigit = true := by
  have hdigits (n : Nat) : ∃ d ∈ (toString n).toList, d.isDigit = true := by
    obtain ⟨d, hd⟩ := List.exists_mem_of_ne_nil _ (Nat.toDigits_ne_nil (n := n) (b := 10))
    rw [Nat.toString_eq_repr, Nat.toList_repr]
    exact ⟨d, hd, Nat.isDigit_of_mem_toDigits (by decide) (by decide) hd⟩
  have hleft {s : String} (h : ∃ d ∈ s.toList, d.isDigit = true) (t : String) :
      ∃ d ∈ (s ++ t).toList, d.isDigit = true := by
    obtain ⟨d, hd, hdigit⟩ := h
    exact ⟨d, by rw [String.toList_append]; exact List.mem_append_left _ hd, hdigit⟩
  rw [yearText]
  dsimp only
  split
  · exact hleft (hdigits _) _
  · next hneg =>
    obtain ⟨n, rfl⟩ := Int.eq_ofNat_of_zero_le (Int.not_lt.mp hneg)
    split
    · obtain ⟨d, hd⟩ := List.exists_mem_of_ne_nil _ (Text.padded_ne_nil 2 ((n : Int).toNat % 100))
      exact ⟨d, hd, Text.isDigit_of_mem_padded hd⟩
    · split
      · exact hleft (hdigits n) _
      · exact hdigits n

theorem isEmpty_yearText (year : Int) (form : Option DatePartForm) :
    (r.yearText year form).isEmpty = false := by
  obtain ⟨d, hd, -⟩ := r.exists_isDigit_yearText year form
  rw [Bool.eq_false_iff, ne_eq, String.isEmpty_iff]
  intro hempty
  rw [hempty] at hd
  cases hd

theorem isEmpty_transformed_text {s : String} (h : ∃ d ∈ s.toList, d.isDigit = true)
    (rendering : Rendering) : ((Output.text s).transformed rendering).isEmpty = false := by
  obtain ⟨d, hd, hdigit⟩ := h
  have hshown {t : String} (hd : d ∈ t.toList) : (Output.text t).isEmpty = false := by
    rw [Output.isEmpty, Bool.eq_false_iff, ne_eq, String.isEmpty_iff]
    rintro rfl
    cases hd
  have hcase {t : String} (hd : d ∈ t.toList) :
      (rendering.textCase.elim (Output.text t) (Output.text t).withCase).isEmpty = false := by
    cases rendering.textCase with
    | none => exact hshown hd
    | some case =>
      exact hshown (t := String.ofList (Text.withCase case t.toList true))
        (by rw [String.toList_ofList]; exact Text.mem_withCase hdigit hd case true)
  rw [Output.transformed]
  cases rendering.stripPeriods with
  | false => exact hcase hd
  | true =>
    have hdot : d ≠ '.' := Text.of_isDigit (· ≠ '.') (by decide) hdigit
    exact hcase (t := String.ofList (s.toList.filter (· != '.')))
      (by rw [String.toList_ofList]; exact List.mem_filter.mpr ⟨hd, by simpa using hdot⟩)

variable {p : DatePart}

theorem value_of_ne_year (h : p.name ≠ .year) (yearSuffix : Option Char) :
    r.value date yearSuffix p = r.value date none p := by
  rw [value, value]
  revert h
  cases p.name with
  | year => exact fun h => absurd rfl h
  | month => exact fun _ => rfl
  | day => exact fun _ => rfl

theorem value_of_year (h : p.name = .year) :
    r.value date none p = .text (r.yearText date.year p.form) ∧
      r.value date (some c) p = .seq [.text (r.yearText date.year p.form),
        .tagged (.yearSuffix c) (.text (String.singleton c))] := by
  have hyear := r.isEmpty_yearText date.year p.form
  have hsuffix : (String.singleton c).isEmpty = false := by
    rw [Bool.eq_false_iff, ne_eq, String.isEmpty_iff]
    simp
  constructor
  · simp [value, h, Output.ofText, hyear]
  · simp [value, h, Output.ofText, Output.ofList, Output.withTag, Output.isEmpty, hyear, hsuffix]

theorem tags_value_none : (r.value date none p).tags = [] := by
  have h := r.tags_value date none p
  rwa [DatePart.marks, Option.toList_none, List.map_nil, ite_self, List.sublist_nil] at h

theorem isEmpty_value (yearSuffix : Option Char) :
    (r.value date yearSuffix p).isEmpty = (r.value date none p).isEmpty := by
  by_cases h : p.name = .year
  · cases yearSuffix with
    | none => rfl
    | some c =>
      obtain ⟨hnone, hsome⟩ := r.value_of_year date c h
      simp [hnone, hsome, Output.isEmpty, Output.allEmpty, r.isEmpty_yearText]
  · rw [r.value_of_ne_year date h]

theorem extends_decorate_value (after : Option String) : Output.Extends (.yearSuffix c)
    (decorate (r.value date (some c) p) p.rendering after)
    (decorate (r.value date none p) p.rendering after) := by
  by_cases h : p.name = .year
  · obtain ⟨hnone, hsome⟩ := r.value_of_year date c h
    have hyear := isEmpty_transformed_text (r.exists_isDigit_yearText date.year p.form) p.rendering
    rw [decorate, decorate, isEmpty_value, hnone, hsome]
    split
    · next hempty => exact absurd hempty (by simp [Output.isEmpty, r.isEmpty_yearText])
    · exact .withAffixes (.withFormat (.transformed_seq (by simp [Output.tags]) _ _ hyear) _ _ _) _ _
  · rw [r.value_of_ne_year date h]
    exact .of_tags_eq_nil ((tags_decorate _ _ _).trans (r.tags_value_none date))

theorem extends_part : Output.Extends (.yearSuffix c) (r.part date (some c) p) (r.part date none p) :=
  r.extends_decorate_value date c p.rendering.after

theorem shown_eq (parts : List DatePart) (yearSuffix : Option Char) :
    (parts.map fun p => (p, r.value date yearSuffix p)).filter (!·.2.isEmpty) =
      (parts.filter fun p => !(r.value date none p).isEmpty).map
        fun p => (p, r.value date yearSuffix p) := by
  rw [List.filter_map]
  simp only [Function.comp_def, isEmpty_value]

theorem extends_segment (parts : List DatePart) (dropLast : Bool) : Output.Extends (.yearSuffix c)
    (r.segment parts date (some c) dropLast) (r.segment parts date none dropLast) := by
  have hparts (parts : List DatePart) : List.Forall₂ (Output.Extends (.yearSuffix c))
      (decorateAll dropLast (parts.map fun p => (p, r.value date (some c) p)))
      (decorateAll dropLast (parts.map fun p => (p, r.value date none p))) := by
    induction parts with
    | nil => exact .nil
    | cons p parts ih =>
      cases parts with
      | nil => exact .cons (r.extends_decorate_value date c _) .nil
      | cons p' parts => exact .cons (r.extends_decorate_value date c _) ih
  rw [segment, segment, shown_eq, shown_eq]
  exact .join (hparts _) _

theorem mem_of_isContiguous {positions : List Nat} (h : isContiguous positions = true)
    {first last i : Nat} (hfirst : positions.head? = some first)
    (hlast : positions.getLast? = some last) (hle : first ≤ i) (hge : i ≤ last) : i ∈ positions := by
  induction positions generalizing first with
  | nil => cases hfirst
  | cons a rest ih =>
    obtain rfl : a = first := Option.some.inj hfirst
    cases rest with
    | nil =>
      obtain rfl : a = last := Option.some.inj hlast
      exact List.mem_singleton.mpr (by omega)
    | cons b rest =>
      rw [isContiguous, Bool.and_eq_true, beq_iff_eq] at h
      obtain rfl | hlt := hle.eq_or_lt
      · exact List.mem_cons_self
      · exact List.mem_cons_of_mem _ (ih h.2 rfl hlast (by omega))

theorem of_mem_stretch {q : DatePart → Bool} {parts : List DatePart} {first last : Nat}
    (htogether : isContiguous ((parts.zipIdx.filter fun (p, _) => q p).map (·.2)) = true)
    (hfirst : ((parts.zipIdx.filter fun (p, _) => q p).map (·.2)).head? = some first)
    (hlast : ((parts.zipIdx.filter fun (p, _) => q p).map (·.2)).getLast? = some last)
    (hp : p ∈ (parts.drop first).take (last - first + 1)) : q p = true := by
  have hle := head?_le_getLast? _ _ hfirst hlast
  obtain ⟨i, hi, rfl⟩ := List.mem_iff_getElem.mp hp
  rw [List.length_take, List.length_drop] at hi
  have hplace := mem_of_isContiguous htogether hfirst hlast (i := first + i) (by omega) (by omega)
  obtain ⟨⟨part, place⟩, hpart, hi⟩ := List.mem_map.mp hplace
  obtain ⟨hmem, hq⟩ := List.mem_filter.mp hpart
  obtain rfl : place = first + i := hi
  obtain ⟨-, hget⟩ := List.mem_zipIdx' hmem
  rw [List.getElem_take, List.getElem_drop, ← hget]
  exact hq

theorem ne_year_of_repeats {diff : DatePartName} (hdiff : diff ≠ .year) (h : repeats diff p = true) :
    p.name ≠ .year := by
  cases diff with
  | year => exact absurd rfl hdiff
  | month => exact bne_iff_ne.mp h
  | day =>
    rw [eq_of_beq h]
    decide

theorem range_cases :
    (∃ before after, r.parts = before ++ r.repeated start stop ++ after ∧
      (∀ p ∈ r.repeated start stop, p.name ≠ .year) ∧
      ∀ yearSuffix, r.range start stop yearSuffix = .join (before.map (r.part start yearSuffix) ++
        r.twice start stop :: after.map (r.part start yearSuffix)) r.delimiter) ∨
    ∀ yearSuffix, r.range start stop yearSuffix =
      r.fullRange start stop (r.rangeDelimiter (difference start stop)) yearSuffix := by
  let places := (r.parts.zipIdx.filter fun (p, _) => repeats (difference start stop) p).map (·.2)
  by_cases h : ∃ first last, places.head? = some first ∧ places.getLast? = some last ∧
      (isContiguous places && difference start stop != .year) = true
  · obtain ⟨first, last, hfirst, hlast, htogether⟩ := h
    have hle := head?_le_getLast? _ _ hfirst hlast
    have hafter : last + 1 = first + (last - first + 1) := by omega
    have hrepeated : r.repeated start stop = (r.parts.drop first).take (last - first + 1) := by
      rw [repeated]
      dsimp only
      rw [hfirst, hlast, htogether]
    refine .inl ⟨r.parts.take first, r.parts.drop (last + 1), ?_, ?_, ?_⟩
    · rw [hrepeated, hafter, ← List.drop_drop, List.append_assoc, List.take_append_drop,
        List.take_append_drop]
    · intro p hp
      rw [hrepeated] at hp
      rw [Bool.and_eq_true, bne_iff_ne] at htogether
      exact ne_year_of_repeats htogether.2 (of_mem_stretch htogether.1 hfirst hlast hp)
    · intro yearSuffix
      rw [range, twice, hrepeated]
      dsimp only
      rw [hfirst, hlast, htogether]
  · refine .inr fun yearSuffix => ?_
    rw [range]
    dsimp only
    split
    · next first last hfirst hlast htogether =>
      exact (h ⟨first, last, hfirst, hlast, htogether⟩).elim
    · rfl

theorem tags_twice : (r.twice start stop).tags = [] := by
  simp [twice, Output.tags_ofList_eq_nil, tags_segment_none]

theorem extends_range : Output.Extends (.yearSuffix c) (r.range start stop (some c))
    (r.range start stop none) := by
  have hparts (parts : List DatePart) : List.Forall₂ (Output.Extends (.yearSuffix c))
      (parts.map (r.part start (some c))) (parts.map (r.part start none)) := by
    rw [List.forall₂_map_left_iff, List.forall₂_map_right_iff, List.forall₂_same]
    exact fun p _ => r.extends_part start c
  obtain ⟨before, after, -, -, hrange⟩ | hrange := r.range_cases start stop
  · rw [hrange, hrange]
    exact .join (List.rel_append (hparts before) (.cons (.of_tags_eq_nil (r.tags_twice start stop))
      (hparts after))) _
  · rw [hrange, hrange]
    exact .ofList (.cons (.of_tags_eq_nil (r.tags_segment_none _ _ _))
      (.cons (.of_tags_eq_nil (Output.tags_ofText _)) (.cons (r.extends_segment stop c _ _) .nil)))

theorem extends_render (date : DateRange) : Output.Extends (.yearSuffix c) (r.render date (some c))
    (r.render date none) := by
  have hsingle := r.extends_segment date.start c r.parts false
  rw [render, render]
  cases date.stop with
  | some stop => exact r.extends_range date.start stop c
  | none =>
    dsimp only
    split
    · exact .ofList (.cons hsingle (.cons (.of_tags_eq_nil (Output.tags_ofText _)) .nil))
    · exact hsingle

theorem shownTags_decorate_value (after : Option String) :
    (decorate (r.value date (some c) p) p.rendering after).shownTags = p.marks (some c) := by
  rw [Output.shownTags, (r.extends_decorate_value date c after).isEmpty, tags_decorate, DatePart.marks]
  by_cases h : p.name = .year
  · have hyear : (decorate (r.value date none p) p.rendering after).isEmpty = false := by
      have hshown := isEmpty_transformed_text (r.exists_isDigit_yearText date.year p.form) p.rendering
      rw [decorate, (r.value_of_year date c h).1]
      split
      · next hempty => exact absurd hempty (by simp [Output.isEmpty, r.isEmpty_yearText])
      · rw [Output.isEmpty_withAffixes, Output.isEmpty_withFormat, hshown]
    simp [h, hyear, (r.value_of_year date c h).2, Output.tags, Output.tagsAll]
  · simp [h, r.value_of_ne_year date h, tags_value_none]

theorem shownTags_part (p : DatePart) : (r.part date (some c) p).shownTags = p.marks (some c) :=
  r.shownTags_decorate_value date c p.rendering.after

theorem marks_of_isEmpty_value (h : (r.value date none p).isEmpty = true) : p.marks (some c) = [] := by
  rw [DatePart.marks, if_neg]
  intro hyear
  rw [(r.value_of_year date c (eq_of_beq hyear)).1, Output.isEmpty, r.isEmpty_yearText] at h
  cases h

theorem tags_segment_some (parts : List DatePart) (dropLast : Bool) :
    (r.segment parts date (some c) dropLast).tags = parts.flatMap (·.marks (some c)) := by
  have hshown (parts : List DatePart) :
      (decorateAll dropLast (parts.map fun p => (p, r.value date (some c) p))).flatMap
        Output.shownTags = parts.flatMap (·.marks (some c)) := by
    induction parts with
    | nil => rfl
    | cons p parts ih =>
      rw [List.flatMap_cons, ← ih]
      cases parts <;> exact congrArg (· ++ _) (r.shownTags_decorate_value date c _)
  have hkept : (parts.filter fun p => !(r.value date none p).isEmpty).flatMap (·.marks (some c)) =
      parts.flatMap (·.marks (some c)) :=
    flatMap_filter_of_nil (fun p hp => r.marks_of_isEmpty_value date c (by simpa using hp)) parts
  rw [segment, shown_eq, Output.tags_join, hshown, hkept]

theorem shownTags_segment (parts : List DatePart) (dropLast : Bool) :
    (r.segment parts date (some c) dropLast).shownTags = parts.flatMap (·.marks (some c)) :=
  (Output.shownTags_eq_tags Output.tags_join_of_isEmpty).trans
    (r.tags_segment_some date c parts dropLast)

theorem shownTags_ofText (s : String) : (Output.ofText s).shownTags = [] :=
  Output.shownTags_eq_nil (Output.tags_ofText s)

theorem tags_range_some : (r.range start stop (some c)).tags = r.parts.flatMap (·.marks (some c)) := by
  have hparts (parts : List DatePart) : (parts.map (r.part start (some c))).flatMap Output.shownTags =
      parts.flatMap (·.marks (some c)) := by
    rw [List.flatMap_map]
    simp only [shownTags_part]
  obtain ⟨before, after, hsplit, hyear, hrange⟩ | hrange := r.range_cases start stop
  · have hnone : (r.repeated start stop).flatMap (·.marks (some c)) = [] := by
      rw [List.flatMap_eq_nil_iff]
      intro p hp
      rw [DatePart.marks, if_neg (by simpa using hyear p hp)]
    conv_rhs => rw [hsplit, List.flatMap_append, List.flatMap_append, hnone, List.append_nil]
    rw [hrange, Output.tags_join, List.flatMap_append, List.flatMap_cons,
      Output.shownTags_eq_nil (r.tags_twice start stop), List.nil_append, hparts, hparts]
  · have hstart := Output.shownTags_eq_nil (r.tags_segment_none start r.parts true)
    rw [hrange, fullRange, Output.tags_ofList, List.flatMap_cons, List.flatMap_cons,
      List.flatMap_singleton, hstart, shownTags_ofText, shownTags_segment, List.nil_append,
      List.nil_append]

theorem tags_render_some (date : DateRange) :
    (r.render date (some c)).tags = r.parts.flatMap (·.marks (some c)) := by
  have hsingle := r.tags_segment_some date.start c r.parts false
  rw [render]
  cases date.stop with
  | some stop => exact r.tags_range_some date.start stop c
  | none =>
    dsimp only
    split
    · rw [Output.tags_ofList, List.flatMap_cons, List.flatMap_singleton, shownTags_ofText,
        shownTags_segment, List.append_nil]
    · exact hsingle

theorem tags_render_of_isEmpty {date : DateRange} {yearSuffix : Option Char}
    (h : (r.render date yearSuffix).isEmpty = true) : (r.render date yearSuffix).tags = [] := by
  rw [render] at h ⊢
  cases hstop : date.stop with
  | some stop =>
    simp only [hstop] at h ⊢
    obtain ⟨before, after, -, -, hrange⟩ | hrange := r.range_cases date.start stop
    · rw [hrange] at h ⊢
      exact Output.tags_join_of_isEmpty h
    · rw [hrange] at h ⊢
      exact Output.tags_ofList_of_isEmpty h
  | none =>
    simp only [hstop] at h ⊢
    cases hopen : date.openEnd with
    | true =>
      simp only [hopen, if_true] at h ⊢
      exact Output.tags_ofList_of_isEmpty h
    | false =>
      simp only [hopen, Bool.false_eq_true, if_false] at h ⊢
      exact Output.tags_join_of_isEmpty h

theorem isEmpty_render_some (hyear : r.parts.any (·.name == .year) = true) (date : DateRange) :
    (r.render date (some c)).isEmpty = false := by
  rw [Bool.eq_false_iff]
  intro hempty
  have htags := r.tags_render_of_isEmpty hempty
  rw [tags_render_some, List.flatMap_eq_nil_iff] at htags
  obtain ⟨p, hp, hname⟩ := List.any_eq_true.mp hyear
  have hmarks := htags p hp
  rw [DatePart.marks, if_pos hname] at hmarks
  cases hmarks

/-- For every date and any affixes, text case, stripping of periods and formatting: a suffix after
the one year part is one span, without whose text the date reads as without a suffix. -/
theorem render_with_yearSuffix (hyear : r.parts.countP (·.name == .year) = 1) (date : DateRange)
    (c : Char) :
    (r.render date (some c)).tags = [.yearSuffix c] ∧
      (r.render date (some c)).plainWithout (.yearSuffix c) = (r.render date none).plain := by
  have hmarks (parts : List DatePart) : parts.flatMap (·.marks (some c)) =
      List.replicate (parts.countP (·.name == .year)) (.yearSuffix c) := by
    induction parts with
    | nil => rfl
    | cons p parts ih =>
      rw [List.flatMap_cons, ih, DatePart.marks, List.countP_cons]
      split
      · exact (List.replicate_succ ..).symm
      · rfl
  constructor
  · rw [tags_render_some, hmarks, hyear, List.replicate_one]
  · exact (r.extends_render c date).plain

def dayMonthYear : DateRenderer where
  parts := [
    { name := .day, form := none, rangeDelimiter := none, rendering := {} },
    { name := .month, form := none, rangeDelimiter := none, rendering := {} },
    { name := .year, form := none, rangeDelimiter := none,
      rendering := { before := some "(", after := some ")", textCase := some .uppercase } }]
  delimiter := " "
  locale := default

theorem render_with_yearSuffix_of_days :
    let date : DateRange :=
      { start := { year := 2020, month := some 5, day := some 5 }
        stop := some { year := 2020, month := some 5, day := some 7 } }
    let suffixed := dayMonthYear.render date (some 'a')
    dayMonthYear.parts.countP (·.name == .year) = 1 ∧ suffixed.plain = "5–7 5 (2020A)" ∧
      suffixed.tags = [.yearSuffix 'a'] ∧ suffixed.plainWithout (.yearSuffix 'a') = "5–7 5 (2020)" := by
  intro date suffixed
  have hyear : dayMonthYear.parts.countP (·.name == .year) = 1 := by decide
  obtain ⟨htags, hplain⟩ := dayMonthYear.render_with_yearSuffix hyear date 'a'
  exact ⟨hyear, by decide +kernel, htags, hplain.trans (by decide +kernel)⟩

end Citeproc.DateRenderer
