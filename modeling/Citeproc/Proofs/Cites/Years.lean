import Citeproc.Cites.Years
import Citeproc.Proofs.Cites.Numbers

namespace Citeproc

def Collapse.mergesSuffixes (mode : Collapse) : Bool :=
  mode == .yearSuffix || mode == .yearSuffixRanged

def RenderedCite.suffixYear? (cite : RenderedCite) : Option Int :=
  if cite.hasLocator then none else cite.suffix?.bind fun _ => cite.year

def RenderedCite.merges (previous cite : RenderedCite) : Bool :=
  cite.suffixYear?.isSome && previous.suffixYear? == cite.suffixYear?

namespace Segment

variable {merging : Bool} {segment longer : Segment} {cite cite' : RenderedCite}

def suffixYear? (segment : Segment) : Option Int := segment.headSuffix.bind fun _ => segment.year

theorem suffixYear?_ofCite (cite : RenderedCite) (head : Output) :
    (ofCite cite head).suffixYear? = cite.suffixYear? := by
  rw [suffixYear?, ofCite, RenderedCite.suffixYear?]
  split
  · rfl
  · rw [Option.bind_map]
    rfl

theorem absorb?_isSome (segment : Segment) (cite : RenderedCite) : (segment.absorb? cite).isSome =
    (cite.suffixYear?.isSome && segment.suffixYear? == cite.suffixYear?) := by
  rw [absorb?, suffixYear?, RenderedCite.suffixYear?]
  cases cite.suffix? with
  | none => simp
  | some suffix =>
    cases cite.hasLocator <;> cases segment.headSuffix <;> cases cite.year <;> simp
    split <;> simp_all

theorem head_absorb? (h : segment.absorb? cite = some longer) : longer.head = segment.head := by
  rw [absorb?] at h
  split at h
  · split at h
    · rw [← Option.some.inj h]
    · cases h
  · cases h

theorem suffixYear?_absorb? (h : segment.absorb? cite = some longer) :
    longer.suffixYear? = cite.suffixYear? := by
  have hsome := segment.absorb?_isSome cite
  rw [h, Option.isSome_some, eq_comm, Bool.and_eq_true, beq_iff_eq] at hsome
  rw [← hsome.2]
  rw [absorb?] at h
  split at h
  · split at h
    · rw [← Option.some.inj h]
      rfl
    · cases h
  · cases h

theorem absorb?_congr (segment : Segment) (h : cite.Alike cite') :
    segment.absorb? cite = segment.absorb? cite' := by
  rw [absorb?, absorb?, h.suffix, h.year, h.hasLocator]

theorem absorb?_eq_none {last : RenderedCite} (hopen : segment.suffixYear? = last.suffixYear?)
    (h : last.merges cite = false) : segment.absorb? cite = none := by
  rw [← Option.not_isSome_iff_eq_none, absorb?_isSome, hopen]
  simpa [RenderedCite.merges] using h

theorem shows_head (segment : Segment) (delimiter : String) (ranged : Bool) :
    (segment.render delimiter ranged).Shows segment.head.plain := by
  rw [render]
  split
  · exact segment.head.shows_plain
  · split
    · exact Output.shows_ofList List.mem_cons_self
    · exact Output.shows_ofList List.mem_cons_self

theorem exists_head_extend (merging : Bool) (segment : Segment) (cites : List RenderedCite) :
    ∃ s ∈ extend merging segment cites, s.head = segment.head := by
  induction cites generalizing segment with
  | nil => exact ⟨segment, by simp [extend], rfl⟩
  | cons cite cites ih =>
    rw [extend]
    split
    · next longer h =>
      cases merging with
      | false => cases h
      | true =>
        obtain ⟨s, hs, hhead⟩ := ih longer
        exact ⟨s, hs, hhead.trans (head_absorb? h)⟩
    · exact ⟨segment, List.mem_cons_self, rfl⟩

theorem extend_cons (merging : Bool) (segment : Segment) (cite : RenderedCite) :
    ∃ shown next, next.suffixYear? = cite.suffixYear? ∧
      ∀ cites, extend merging segment (cite :: cites) = shown ++ extend merging next cites := by
  cases h : (if merging then segment.absorb? cite else none) with
  | none =>
    refine ⟨[segment], ofCite cite cite.withoutAuthor, suffixYear?_ofCite _ _, fun cites => ?_⟩
    rw [extend, h]
    rfl
  | some longer =>
    cases merging with
    | false => cases h
    | true =>
      refine ⟨[], longer, suffixYear?_absorb? h, fun cites => ?_⟩
      rw [extend, h]
      rfl

theorem exists_withoutAuthor_extend {last : RenderedCite}
    (hopen : segment.suffixYear? = last.suffixYear?) (before after : List RenderedCite)
    (h : (merging && (last :: before).getLast?.any (·.merges cite)) = false) :
    ∃ s ∈ extend merging segment (before ++ cite :: after), s.head = cite.withoutAuthor := by
  induction before generalizing segment last with
  | nil =>
    have hnone : (if merging then segment.absorb? cite else none) = none := by
      cases merging with
      | false => rfl
      | true => exact absorb?_eq_none hopen (by simpa using h)
    rw [List.nil_append, extend, hnone]
    obtain ⟨s, hs, hhead⟩ := exists_head_extend merging (ofCite cite cite.withoutAuthor) after
    exact ⟨s, List.mem_cons_of_mem _ hs, hhead⟩
  | cons first before ih =>
    obtain ⟨shown, next, hnext, hextend⟩ := extend_cons merging segment first
    rw [List.getLast?_cons_cons] at h
    obtain ⟨s, hs, hhead⟩ := ih hnext h
    rw [List.cons_append, hextend]
    exact ⟨s, List.mem_append_right _ hs, hhead⟩

theorem extend_congr {last : RenderedCite} (hopen : segment.suffixYear? = last.suffixYear?)
    (before after : List RenderedCite) (halike : cite.Alike cite')
    (h : (last :: before).getLast?.any (·.merges cite) = true) :
    extend true segment (before ++ cite :: after) = extend true segment (before ++ cite' :: after) := by
  induction before generalizing segment last with
  | nil =>
    have hsome : (segment.absorb? cite).isSome = true := by
      rw [absorb?_isSome, hopen]
      exact h
    obtain ⟨longer, hlonger⟩ := Option.isSome_iff_exists.mp hsome
    have hlonger' := absorb?_congr segment halike ▸ hlonger
    simp only [List.nil_append, extend, if_true, hlonger, hlonger']
  | cons first before ih =>
    obtain ⟨shown, next, hnext, hextend⟩ := extend_cons true segment first
    rw [List.getLast?_cons_cons] at h
    rw [List.cons_append, List.cons_append, hextend, hextend, ih hnext h]

end Segment

namespace CiteJoiner

variable (j : CiteJoiner) {before after : List RenderedCite} {cite cite' : RenderedCite}

theorem shows_joinYears {mode : Collapse}
    (h : (mode.mergesSuffixes && before.getLast?.any (·.merges cite)) = false) :
    ∃ o ∈ [cite.output, cite.withoutAuthor],
      (j.joinYears mode (before ++ cite :: after)).Shows o.plain := by
  have shows_segment {segments : List Segment} {o : Output}
      (hhead : ∃ segment ∈ segments, segment.head = o) :
      (Output.join (segments.map fun segment =>
        segment.render j.suffixDelimiter (mode == .yearSuffixRanged)) j.groupDelimiter).Shows
          o.plain := by
    obtain ⟨segment, hsegment, rfl⟩ := hhead
    exact (Output.shows_join (List.mem_map_of_mem hsegment) _).trans (segment.shows_head _ _)
  cases before with
  | nil => exact ⟨cite.output, by simp, shows_segment (Segment.exists_head_extend _ _ _)⟩
  | cons first before =>
    have hwithout := Segment.exists_withoutAuthor_extend
      (Segment.suffixYear?_ofCite first first.output) before after h
    exact ⟨cite.withoutAuthor, by simp, shows_segment hwithout⟩

theorem joinYears_congr {mode : Collapse} (halike : cite.Alike cite')
    (hmode : mode.mergesSuffixes = true) (h : before.getLast?.any (·.merges cite) = true) :
    j.joinYears mode (before ++ cite :: after) = j.joinYears mode (before ++ cite' :: after) := by
  cases before with
  | nil => cases h
  | cons first before =>
    have hsegments := Segment.extend_congr (Segment.suffixYear?_ofCite first first.output) before
      after halike h
    rw [← hmode] at hsegments
    exact congrArg (fun segments => Output.join (segments.map fun segment : Segment =>
      segment.render j.suffixDelimiter (mode == .yearSuffixRanged)) j.groupDelimiter) hsegments

end CiteJoiner

end Citeproc
