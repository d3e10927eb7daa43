import Citeproc.Proofs.Date.Tags
import Citeproc.Proofs.Output.Plain
import Mathlib.Algebra.GroupWithZero.Nat

namespace String

theorem intercalate_concat_append (s t u : String) (l : List String) :
    s.intercalate (l ++ [t ++ u]) = s.intercalate (l ++ [t]) ++ u := by
  by_cases h : l = []
  · rw [h, List.nil_append, List.nil_append, intercalate_singleton, intercalate_singleton]
  · have hne (t : String) : [t] ≠ [] := List.cons_ne_nil _ _
    rw [intercalate_append_of_ne_nil h (hne _), intercalate_append_of_ne_nil h (hne _),
      intercalate_singleton, intercalate_singleton, ← append_assoc]

theorem intercalate_concat_filter {s t u : String} (h : t = "" → u = "") (l : List String) :
    s.intercalate (l ++ [t ++ u].filter (!·.isEmpty)) =
      s.intercalate (l ++ [t].filter (!·.isEmpty)) ++ u := by
  by_cases ht : t = ""
  · rw [h ht, append_empty, append_empty]
  · rw [List.filter_cons_of_pos (by simp [ht]), List.filter_cons_of_pos (by simp [ht]),
      List.filter_nil]
    exact intercalate_concat_append s t u l

theorem intercalate_filter_singleton (s t : String) :
    s.intercalate ([t].filter (!·.isEmpty)) = t := by
  by_cases h : t = ""
  · rw [h]
    exact intercalate_nil
  · rw [List.filter_cons_of_pos (by simpa using h), List.filter_nil, intercalate_singleton]

theorem length_intercalate (s : String) (l : List String) :
    (s.intercalate l).length = (l.map length).sum + (l.length - 1) * s.length := by
  induction l with
  | nil => simp
  | cons t l ih =>
    by_cases h : l = []
    · simp [h]
    · have hpos := List.length_pos_iff.mpr h
      obtain ⟨n, hn⟩ : ∃ n, l.length = n + 1 := ⟨l.length - 1, by omega⟩
      rw [intercalate_cons_of_ne_nil h, length_append, length_append, ih, hn, List.map_cons,
        List.sum_cons, List.length_cons, hn]
      simp only [Nat.add_sub_cancel, Nat.add_mul]
      omega

theorem intercalate_around {s : String} {l : List String} (h : l ≠ []) (before after : List String) :
    s.intercalate (before ++ l ++ after) =
      (if before = [] then "" else s.intercalate before ++ s) ++ s.intercalate l ++
        (if after = [] then "" else s ++ s.intercalate after) := by
  have hbefore : s.intercalate (before ++ l) =
      (if before = [] then "" else s.intercalate before ++ s) ++ s.intercalate l := by
    split
    · next hnil => rw [hnil, List.nil_append, empty_append]
    · next hne => exact intercalate_append_of_ne_nil hne h
  rw [← hbefore]
  split
  · next hnil => rw [hnil, List.append_nil, append_empty]
  · next hne =>
    rw [intercalate_append_of_ne_nil (List.append_ne_nil_of_right_ne_nil _ h) hne, append_assoc]

theorem length_intercalate_lt {s : String} {l : List String} (hne : l ≠ []) (hl : "" ∉ l)
    (before after : List String) :
    (s.intercalate (before ++ after)).length < (s.intercalate (before ++ l ++ after)).length := by
  obtain ⟨t, l, rfl⟩ := List.exists_cons_of_ne_nil hne
  have ht : 0 < t.length := by
    rw [Nat.pos_iff_ne_zero, ne_eq, length_eq_zero_iff]
    rintro rfl
    exact hl List.mem_cons_self
  have hdelimiters : ((before ++ after).length - 1) * s.length ≤
      ((before ++ t :: l ++ after).length - 1) * s.length := by
    refine Nat.mul_le_mul_right _ ?_
    simp only [List.length_append, List.length_cons]
    omega
  rw [length_intercalate, length_intercalate]
  simp only [List.map_append, List.map_cons, List.sum_append, List.sum_cons]
  omega

theorem intercalate_around_inj {s : String} {l m : List String} (hl : "" ∉ l) (hm : "" ∉ m)
    (before after : List String) :
    s.intercalate (before ++ l ++ after) = s.intercalate (before ++ m ++ after) ↔
      s.intercalate l = s.intercalate m := by
  have hnil {l : List String} (hne : l ≠ []) (hl : "" ∉ l) (before after : List String) :
      s.intercalate (before ++ [] ++ after) ≠ s.intercalate (before ++ l ++ after) := by
    intro h
    rw [List.append_nil] at h
    exact (length_intercalate_lt hne hl before after).ne (congrArg length h)
  by_cases hlnil : l = [] <;> by_cases hmnil : m = []
  · rw [hlnil, hmnil]
    exact iff_of_true rfl rfl
  · rw [hlnil]
    exact iff_of_false (hnil hmnil hm before after) (by simpa using hnil hmnil hm [] [])
  · rw [hmnil]
    exact iff_of_false (hnil hlnil hl before after).symm (by simpa using (hnil hlnil hl [] []).symm)
  · rw [intercalate_around hlnil, intercalate_around hmnil, append_left_inj, append_right_inj]

end String

namespace Citeproc

namespace DateRenderer

variable (r : DateRenderer) (parts : List DatePart) (date start stop : DateParts)

theorem decorateAll_concat (dropLast : Bool) (shown : List (DatePart × Output)) (p : DatePart)
    (o : Output) :
    decorateAll dropLast (shown ++ [(p, o)]) =
      (shown.map fun (p, o) => decorate o p.rendering p.rendering.after) ++
        [decorate o p.rendering (if dropLast then none else p.rendering.after)] := by
  induction shown with
  | nil => rfl
  | cons first shown ih =>
    rw [List.cons_append, decorateAll, ih]
    · rfl
    · exact List.append_ne_nil_of_right_ne_nil _ (List.cons_ne_nil _ _)

theorem decorateAll_false (shown : List (DatePart × Output)) :
    decorateAll false shown = shown.map fun (p, o) => decorate o p.rendering p.rendering.after := by
  obtain rfl | ⟨shown, ⟨p, o⟩, rfl⟩ := List.eq_nil_or_concat' shown
  · rfl
  · rw [decorateAll_concat, List.map_append]
    rfl

def shown : List (DatePart × Output) :=
  (parts.map fun p => (p, r.value date none p)).filter (!·.2.isEmpty)

def texts : List String := (parts.map fun p => (r.part date none p).plain).filter (!·.isEmpty)

theorem texts_append (parts others : List DatePart) :
    r.texts (parts ++ others) date = r.texts parts date ++ r.texts others date := by
  rw [texts, List.map_append, List.filter_append]
  rfl

theorem empty_notMem_texts : "" ∉ r.texts parts date := by
  intro h
  exact Bool.false_ne_true (List.mem_filter.mp h).2

theorem plain_segment :
    (r.segment parts date none false).plain = r.delimiter.intercalate (r.texts parts date) := by
  let text (x : DatePart × Output) : String := (decorate x.2 x.1.rendering x.1.rendering.after).plain
  have hempty (x : DatePart × Output) : (!(text x).isEmpty && !x.2.isEmpty) = !(text x).isEmpty := by
    cases hx : x.2.isEmpty with
    | false => rw [Bool.not_false, Bool.and_true]
    | true =>
      have htext : text x = "" := by
        rw [← Output.isEmpty_iff_plain, decorate, if_pos hx]
        exact hx
      rw [htext]
      rfl
  have hshown : ((r.shown parts date).map text).filter (!·.isEmpty) = r.texts parts date := by
    rw [shown, texts, List.filter_map, List.filter_filter]
    simp only [Function.comp_def, hempty]
    rw [← Function.comp_def (fun s => !s.isEmpty) text, ← List.filter_map, List.map_map]
    rfl
  have hsegment : r.segment parts date none false =
      .join (decorateAll false (r.shown parts date)) r.delimiter := rfl
  rw [hsegment, Output.plain_join, decorateAll_false, List.map_map, ← hshown]
  rfl

def suffixText (p : DatePart) (o : Output) : String :=
  if (o.transformed p.rendering).isEmpty then "" else p.rendering.after.getD ""

def lastSuffix : String := ((r.shown parts date).getLast?.map fun (p, o) => suffixText p o).getD ""

theorem plain_decorate {o : Output} (h : o.isEmpty = false) (rendering : Rendering)
    (after : Option String) :
    (decorate o rendering after).plain =
      if (o.transformed rendering).isEmpty then ""
      else rendering.before.getD "" ++ (o.transformed rendering).plain ++ after.getD "" := by
  have hempty := (o.transformed rendering).isEmpty_withFormat rendering.formatting rendering.quotes none
  rw [decorate, if_neg (Bool.not_eq_true _ ▸ h)]
  split
  · next ht =>
    rw [ht] at hempty
    rw [Output.withAffixes, hempty, Bool.true_or, if_pos rfl]
    exact (Output.isEmpty_iff_plain _).mp hempty
  · next ht =>
    rw [Bool.eq_false_iff.mpr ht] at hempty
    rw [Output.plain_withAffixes hempty, Output.plain_withFormat]

theorem plain_decorate_after {o : Output} (h : o.isEmpty = false) (p : DatePart) :
    (decorate o p.rendering p.rendering.after).plain =
      (decorate o p.rendering none).plain ++ suffixText p o := by
  rw [plain_decorate h, plain_decorate h, suffixText]
  split
  · rfl
  · rw [Option.getD_none, String.append_empty]

theorem suffixText_of_plain {o : Output} (h : o.isEmpty = false) {p : DatePart}
    (hplain : (decorate o p.rendering none).plain = "") : suffixText p o = "" := by
  rw [plain_decorate h] at hplain
  rw [suffixText]
  split at hplain
  · next ht => exact if_pos ht
  · next ht =>
    rw [Output.isEmpty_iff_plain] at ht
    exact absurd (by simp_all) ht

theorem plain_segment_dropLast :
    (r.segment parts date none false).plain =
      (r.segment parts date none true).plain ++ r.lastSuffix parts date := by
  have hsegment (dropLast : Bool) : r.segment parts date none dropLast =
      .join (decorateAll dropLast (r.shown parts date)) r.delimiter := rfl
  rw [hsegment, hsegment, Output.plain_join, Output.plain_join, lastSuffix]
  obtain hnil | ⟨init, ⟨p, o⟩, hlast⟩ := List.eq_nil_or_concat' (r.shown parts date)
  · rw [hnil]
    rfl
  · have ho : o.isEmpty = false := by
      have hmem : (p, o) ∈ r.shown parts date := hlast ▸ List.mem_concat_self
      simpa using (List.mem_filter.mp hmem).2
    rw [hlast, decorateAll_concat, decorateAll_concat, List.getLast?_concat, List.map_append,
      List.map_append, List.filter_append, List.filter_append, List.map_singleton,
      List.map_singleton, if_neg Bool.false_ne_true, if_pos rfl, plain_decorate_after ho]
    exact String.intercalate_concat_filter (suffixText_of_plain ho) _

def repeated : List DatePart :=
  let diff := difference start stop
  let positions := (r.parts.zipIdx.filter fun (p, _) => repeats diff p).map (·.2)
  match positions.head?, positions.getLast?, isContiguous positions && diff != .year with
  | some first, some last, true => (r.parts.drop first).take (last - first + 1)
  | _, _, _ => r.parts

def twice : Output :=
  .ofList [
    r.segment (r.repeated start stop) start none true,
    .ofText (r.rangeDelimiter (difference start stop)),
    r.segment (r.repeated start stop) stop none false]

theorem exists_range : ∃ before after, r.parts = before ++ r.repeated start stop ++ after ∧
    (r.range start stop none).plain = r.delimiter.intercalate (r.texts before start ++
      [(r.twice start stop).plain].filter (!·.isEmpty) ++ r.texts after start) := by
  rw [twice, repeated]
  dsimp only
  split
  · next first last hfirst hlast hcontiguous =>
    have hle := head?_le_getLast? _ _ hfirst hlast
    have hafter : last + 1 = first + (last - first + 1) := by omega
    refine ⟨r.parts.take first, r.parts.drop (last + 1), ?_, ?_⟩
    · rw [hafter, ← List.drop_drop, List.append_assoc, List.take_append_drop, List.take_append_drop]
    · rw [range]
      dsimp only
      rw [hfirst, hlast, hcontiguous, Output.plain_join, List.append_cons, List.map_append,
        List.map_append, List.filter_append, List.filter_append, List.map_map, List.map_map]
      rfl
  · next hnone =>
    refine ⟨[], [], by simp, ?_⟩
    rw [range]
    dsimp only
    split
    · next first last hfirst hlast hcontiguous => exact (hnone first last hfirst hlast hcontiguous).elim
    · have hnil : r.texts [] start = [] := rfl
      rw [hnil, List.nil_append, List.append_nil, String.intercalate_filter_singleton]
      rfl

theorem plain_render_eq_iff :
    (r.render { start, stop := some stop } none).plain = (r.render { start } none).plain ↔
      r.rangeDelimiter (difference start stop) ++
        (r.segment (r.repeated start stop) stop none false).plain =
          r.lastSuffix (r.repeated start stop) start := by
  obtain ⟨before, after, hparts, hrange⟩ := r.exists_range start stop
  have hstart : (r.render { start } none).plain = r.delimiter.intercalate
      (r.texts before start ++ r.texts (r.repeated start stop) start ++ r.texts after start) := by
    rw [← texts_append, ← texts_append, ← hparts, ← plain_segment]
    rfl
  have htwice : (r.twice start stop).plain =
      (r.segment (r.repeated start stop) start none true).plain ++
        (r.rangeDelimiter (difference start stop) ++
          (r.segment (r.repeated start stop) stop none false).plain) := by
    apply String.toList_injective
    simp [twice, Output.toList_plain_ofList, Output.plain_ofText]
  calc (r.render { start, stop := some stop } none).plain = (r.render { start } none).plain
    _ ↔ (r.twice start stop).plain = r.delimiter.intercalate
      (r.texts (r.repeated start stop) start) := by
      rw [hstart]
      refine Iff.trans (Eq.congr_left hrange) ?_
      rw [String.intercalate_around_inj (by simp) (r.empty_notMem_texts _ _),
        String.intercalate_filter_singleton]
    _ ↔ _ := by
      rw [← plain_segment, plain_segment_dropLast, htwice, String.append_right_inj]

theorem repeated_subset : r.repeated start stop ⊆ r.parts := by
  obtain ⟨before, after, hparts, -⟩ := r.exists_range start stop
  rw [hparts]
  simp

end DateRenderer

def DateParts.Agree (a b : DateParts) : DatePartName → Prop
  | .year => a.year = b.year
  | .month => a.month = b.month
  | .day => a.day = b.day

instance (a b : DateParts) : (name : DatePartName) → Decidable (a.Agree b name)
  | .year => inferInstanceAs (Decidable (a.year = b.year))
  | .month => inferInstanceAs (Decidable (a.month = b.month))
  | .day => inferInstanceAs (Decidable (a.day = b.day))

namespace DateRenderer

variable (r : DateRenderer) {start stop : DateParts}

theorem value_of_agree {p : DatePart} (h : start.Agree stop p.name)
    (hseason : start.isSeason = stop.isSeason) : r.value start none p = r.value stop none p := by
  rw [value, value]
  revert h
  cases p.name with
  | year => exact fun h : start.year = stop.year => by rw [h]
  | month => exact fun h : start.month = stop.month => by rw [h]
  | day => exact fun h : start.day = stop.day => by rw [h, hseason]

/-- Also a range whose ends agree in each part is shown as a range. It has the text of its start just
when the delimiter and what is shown of its end are the suffix that its start leaves out. When both ends
are seasons or none is, that is when there is no delimiter and nothing is shown twice. -/
theorem render_agreeing (start stop : DateParts)
    (hagree : ∀ p ∈ r.parts, start.Agree stop p.name) :
    let range := (r.render { start, stop := some stop } none).plain
    let single := (r.render { start } none).plain
    let repeated := r.repeated start stop
    let delimiter := r.rangeDelimiter (difference start stop)
    (range = single ↔
      delimiter ++ (r.segment repeated stop none false).plain = r.lastSuffix repeated start) ∧
    (start.isSeason = stop.isSeason →
      (range = single ↔ delimiter = "" ∧ (r.segment repeated start none true).plain = "")) := by
  intro range single repeated delimiter
  have hiff : range = single ↔ delimiter ++ (r.segment repeated stop none false).plain =
      r.lastSuffix repeated start := r.plain_render_eq_iff start stop
  refine ⟨hiff, fun hseason => ?_⟩
  have hsegment : r.segment repeated stop none false = r.segment repeated start none false := by
    have hvalues : repeated.map (fun p => (p, r.value stop none p)) =
        repeated.map fun p => (p, r.value start none p) :=
      List.map_congr_left fun p hp =>
        congrArg (p, ·) (r.value_of_agree (hagree p (r.repeated_subset start stop hp)) hseason).symm
    rw [segment, hvalues]
    rfl
  rw [hiff, hsegment, plain_segment_dropLast]
  constructor
  · intro h
    have hlength := congrArg String.length h
    rw [String.length_append, String.length_append] at hlength
    exact ⟨String.length_eq_zero_iff.mp (by omega), String.length_eq_zero_iff.mp (by omega)⟩
  · rintro ⟨hdelimiter, htext⟩
    rw [hdelimiter, htext, String.empty_append, String.empty_append]

def yearOnly : DateRenderer where
  parts := [{ name := .year, form := none, rangeDelimiter := none, rendering := {} }]
  delimiter := ""
  locale := default

theorem render_agreeing_of_months :
    let start : DateParts := { year := 2020, month := some 5 }
    let stop : DateParts := { year := 2020, month := some 6 }
    (∀ p ∈ yearOnly.parts, start.Agree stop p.name) ∧
      (yearOnly.render { start, stop := some stop } none).plain ≠
        (yearOnly.render { start } none).plain := by
  intro start stop
  have hagree : ∀ p ∈ yearOnly.parts, start.Agree stop p.name := by decide
  have hseason := (yearOnly.render_agreeing start stop hagree).2 (by decide)
  refine ⟨hagree, fun h => ?_⟩
  exact absurd (hseason.mp h).1 (by decide)

theorem render_agreeing_differs :
    ¬∀ (r : DateRenderer) (start stop : DateParts), start ≠ stop →
      (∀ p ∈ r.parts, start.Agree stop p.name) →
        (r.render { start, stop := some stop } none).plain = (r.render { start } none).plain := by
  intro h
  have hplain := h yearOnly { year := 2020, month := some 5 } { year := 2020, month := some 6 }
    (by decide) (by decide)
  revert hplain
  decide

end DateRenderer

end Citeproc
