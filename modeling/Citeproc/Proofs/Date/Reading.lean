import Citeproc.Date.Reader
import Citeproc.Proofs.Date.Grammar
import Citeproc.Proofs.Text.Lowercase

namespace Citeproc.DateRange

section Sound

variable {cs rest after : List Char} {n : Nat} {u : Bool}

theorem exists_of_digits? {most : Nat} (h : digits? most cs = some (n, rest)) :
    ∃ t, cs = t ++ rest ∧ IsNumeral most t n := by
  obtain ⟨m, hm, h⟩ := Option.map_eq_some_iff.mp h
  obtain ⟨rfl, rfl⟩ := Prod.mk.inj h
  rw [Text.decimal?] at hm
  split at hm
  · cases hm
  · next hrun =>
    rw [Bool.or_eq_true, not_or, Bool.not_eq_true, Bool.not_eq_true, List.isEmpty_eq_false_iff,
      Bool.not_eq_false', List.all_eq_true] at hrun
    refine ⟨_, ?_, hrun.1, List.length_take_le _ _, hrun.2, Option.some.inj hm⟩
    have hbegins : (cs.takeWhile Char.isDigit).take most <+: cs :=
      (List.take_prefix _ _).trans (List.takeWhile_prefix _)
    exact (List.prefix_iff_eq_append.mp hbegins).symm

theorem exists_of_qualifier (h : qualifier cs = (u, rest)) :
    ∃ q, cs = q ++ rest ∧ QualifierText q u := by
  cases cs with
  | nil =>
    obtain ⟨rfl, rfl⟩ := Prod.mk.inj h
    exact ⟨[], rfl, .absent⟩
  | cons c cs =>
    rw [qualifier] at h
    split at h
    · next hc =>
      obtain ⟨rfl, rfl⟩ := Prod.mk.inj h
      exact ⟨[c], rfl, .present (by simpa [isQualifier, or_assoc] using hc)⟩
    · obtain ⟨rfl, rfl⟩ := Prod.mk.inj h
      exact ⟨[], rfl, .absent⟩

theorem exists_of_year? {year : Int} (h : year? cs = some (year, after))
    (hqualifier : qualifier after = (u, rest)) : ∃ y, cs = y ++ rest ∧ YearText y year u := by
  obtain ⟨q, rfl, hq⟩ := exists_of_qualifier hqualifier
  unfold year? at h
  split at h
  all_goals
    obtain ⟨⟨n, rest'⟩, hn, h⟩ := Option.map_eq_some_iff.mp h
    obtain ⟨rfl, rfl⟩ := Prod.mk.inj h
    obtain ⟨t, rfl, ht⟩ := exists_of_digits? hn
  · exact ⟨_, by simp, .minus ht hq⟩
  · exact ⟨_, by simp, .plus ht hq⟩
  · exact ⟨_, by simp, .unsigned ht hq⟩

theorem exists_of_hyphenated {p : Nat → Bool} (h : hyphenated p cs = (some n, after))
    (hqualifier : qualifier after = (u, rest)) : ∃ t, cs = t ++ rest ∧ FieldText (p · = true) t n u := by
  obtain ⟨q, rfl, hq⟩ := exists_of_qualifier hqualifier
  unfold hyphenated at h
  split at h
  · split at h
    · next m after' hm =>
      split at h
      · next hp =>
        obtain ⟨hn, rfl⟩ := Prod.mk.inj h
        obtain rfl := Option.some.inj hn
        obtain ⟨t, rfl, ht⟩ := exists_of_digits? hm
        exact ⟨_, by simp, .intro ht hp hq⟩
      · cases h
    · cases h
  · cases h

theorem eq_of_hyphenated_none {p : Nat → Bool} (h : hyphenated p cs = (none, rest)) : rest = cs := by
  unfold hyphenated at h
  split at h
  · split at h
    · split at h
      · cases h
      · exact (Prod.mk.inj h).2.symm
    · exact (Prod.mk.inj h).2.symm
  · exact (Prod.mk.inj h).2.symm

theorem isMonth_iff (n : Nat) : isMonth n = true ↔ IsMonth n := by
  simp [isMonth, isSeasonNumber, IsMonth]

theorem isDay_iff (n : Nat) : isDay n = true ↔ IsDay n := by simp [isDay, IsDay]

theorem parts?_cases {date : DateParts} (h : parts? cs = some ((date, u), rest)) :
    ∃ year after u₁ cs₁, year? cs = some (year, after) ∧ qualifier after = (u₁, cs₁) ∧
      ((hyphenated isMonth cs₁ = (none, rest) ∧ date = { year } ∧ u = u₁) ∨
        ∃ month after u₂ cs₂, hyphenated isMonth cs₁ = (some month, after) ∧
          qualifier after = (u₂, cs₂) ∧
          ((hyphenated isDay cs₂ = (none, rest) ∧ date = { year, month := some month } ∧
              u = (u₁ || u₂)) ∨
            ∃ day after u₃, hyphenated isDay cs₂ = (some day, after) ∧ qualifier after = (u₃, rest) ∧
              date = { year, month := some month, day := some day } ∧ u = (u₁ || u₂ || u₃))) := by
  rw [parts?] at h
  obtain ⟨⟨year, after⟩, hyear, hread⟩ := Option.bind_eq_some_iff.mp h
  refine ⟨year, after, (qualifier after).1, (qualifier after).2, hyear, rfl, ?_⟩
  dsimp only at hread
  generalize (qualifier after).1 = u₁ at hread ⊢
  generalize (qualifier after).2 = cs₁ at hread ⊢
  rcases hmonth : hyphenated isMonth cs₁ with ⟨_ | month, after⟩
  · rw [hmonth] at hread
    obtain ⟨hdate, hrest⟩ := Prod.mk.inj (Option.some.inj hread)
    obtain ⟨rfl, rfl⟩ := Prod.mk.inj hdate
    exact .inl ⟨by rw [← hrest], rfl, rfl⟩
  · refine .inr ⟨month, after, (qualifier after).1, (qualifier after).2, rfl, rfl, ?_⟩
    rw [hmonth] at hread
    dsimp only at hread
    generalize (qualifier after).1 = u₂ at hread ⊢
    generalize (qualifier after).2 = cs₂ at hread ⊢
    rcases hday : hyphenated isDay cs₂ with ⟨_ | day, after⟩ <;> rw [hday] at hread <;>
      obtain ⟨hdate, hrest⟩ := Prod.mk.inj (Option.some.inj hread) <;>
      obtain ⟨rfl, rfl⟩ := Prod.mk.inj hdate
    · exact .inl ⟨by rw [← hrest]; rfl, rfl, Bool.or_false _⟩
    · exact .inr ⟨day, after, (qualifier after).1, rfl, by rw [← hrest]; rfl, rfl, rfl⟩

theorem exists_of_parts? {date : DateParts} (h : parts? cs = some ((date, u), rest)) :
    ∃ t, cs = t ++ rest ∧ DateText t date u := by
  obtain ⟨year, after, u₁, cs₁, hyear, hu₁, hrest⟩ := parts?_cases h
  obtain ⟨y, rfl, hy⟩ := exists_of_year? hyear hu₁
  obtain ⟨hmonth, rfl, rfl⟩ | ⟨month, after, u₂, cs₂, hmonth, hu₂, hrest⟩ := hrest
  · obtain rfl := eq_of_hyphenated_none hmonth
    exact ⟨y, rfl, .year hy⟩
  obtain ⟨m, rfl, hm⟩ := exists_of_hyphenated hmonth hu₂
  replace hm := hm.mono fun n => (isMonth_iff n).mp
  obtain ⟨hday, rfl, rfl⟩ | ⟨day, after, u₃, hday, hu₃, rfl, rfl⟩ := hrest
  · obtain rfl := eq_of_hyphenated_none hday
    exact ⟨y ++ m, by simp, .month hy hm⟩
  · obtain ⟨d, rfl, hd⟩ := exists_of_hyphenated hday hu₃
    exact ⟨y ++ m ++ d, by simp, .day hy hm (hd.mono fun n => (isDay_iff n).mp)⟩

theorem exists_of_range? {range : DateRange} (h : range? cs = some (range, rest)) :
    ∃ t, cs = t ++ rest ∧ RangeText t range := by
  rw [range?] at h
  obtain ⟨⟨⟨start, u⟩, cs₁⟩, hstart, hread⟩ := Option.bind_eq_some_iff.mp h
  obtain ⟨t, rfl, ht⟩ := exists_of_parts? hstart
  dsimp only at hread
  split at hread
  · split at hread
    · next hstop =>
      obtain ⟨t', rfl, ht'⟩ := exists_of_parts? hstop
      obtain ⟨rfl, rfl⟩ := Prod.mk.inj (Option.some.inj hread)
      exact ⟨_, by simp, .closed ht ht'⟩
    · obtain ⟨rfl, rfl⟩ := Prod.mk.inj (Option.some.inj hread)
      exact ⟨_, by simp, .openEnd ht⟩
  · obtain ⟨rfl, rfl⟩ := Prod.mk.inj (Option.some.inj hread)
    exact ⟨_, rfl, .single ht⟩

end Sound

section Complete

variable {rest : List Char} {n : Nat} {u : Bool}

def Stops (rest : List Char) : Prop := ∀ c ∈ rest.head?, c = '-' ∨ c = '/'

def StopsDate (rest : List Char) : Prop := ∀ c ∈ rest.head?, c = '/'

theorem StopsDate.stops (h : StopsDate rest) : Stops rest := fun c hc => .inr (h c hc)

theorem FieldText.stops {p : Nat → Prop} {t : List Char} (h : FieldText p t n u) (rest : List Char) :
    Stops (t ++ rest) := by
  obtain ⟨-, -, -⟩ := h
  rintro c ⟨⟩
  exact .inl rfl

theorem IsNumeral.digits?_append {most : Nat} {t : List Char} (h : IsNumeral most t n)
    (hrest : ∀ c ∈ rest.head?, c.isDigit = false) : digits? most (t ++ rest) = some (n, rest) := by
  have hnext : rest.takeWhile Char.isDigit = [] := by
    cases rest with
    | nil => rfl
    | cons c rest => rw [List.takeWhile_cons, if_neg (by simp [hrest c rfl])]
  have hrun : ((t ++ rest).takeWhile Char.isDigit).take most = t := by
    rw [List.takeWhile_append_of_pos h.isDigit, hnext, List.append_nil,
      List.take_of_length_le h.length_le]
  rw [digits?, hrun, Text.decimal?, if_neg]
  · exact congrArg some (Prod.ext h.value List.drop_left)
  · simpa [h.ne_nil] using h.isDigit

theorem QualifierText.isDigit_head? {q : List Char} (h : QualifierText q u) (hrest : Stops rest) :
    ∀ c ∈ (q ++ rest).head?, c.isDigit = false := by
  intro c hc
  cases h with
  | absent => obtain rfl | rfl := hrest c hc <;> rfl
  | present h =>
    obtain rfl : _ = c := Option.some.inj hc
    obtain rfl | rfl | rfl := h <;> rfl

theorem QualifierText.qualifier_append {q : List Char} (h : QualifierText q u) (hrest : Stops rest) :
    qualifier (q ++ rest) = (u, rest) := by
  cases h with
  | absent =>
    cases rest with
    | nil => rfl
    | cons c rest => obtain rfl | rfl := hrest c rfl <;> rfl
  | present h => obtain rfl | rfl | rfl := h <;> rfl

theorem YearText.year?_append {y : List Char} {year : Int} (h : YearText y year u)
    (hrest : Stops rest) :
    ∃ after, year? (y ++ rest) = some (year, after) ∧ qualifier after = (u, rest) := by
  obtain ⟨ht, hq⟩ | ⟨ht, hq⟩ | ⟨ht, hq⟩ := h
  all_goals
    have hdigits := ht.digits?_append (hq.isDigit_head? hrest)
    refine ⟨_, ?_, hq.qualifier_append hrest⟩
  · rw [List.append_assoc, year?.eq_3 _ (ht.append_ne_cons rfl) (ht.append_ne_cons rfl), hdigits]
    rfl
  · simp only [List.cons_append, List.append_assoc, year?, hdigits, Option.map_some]
  · simp only [List.cons_append, List.append_assoc, year?, hdigits, Option.map_some]

theorem FieldText.hyphenated_append {p : Nat → Bool} {t : List Char} (h : FieldText (p · = true) t n u)
    (hrest : Stops rest) :
    ∃ after, hyphenated p (t ++ rest) = (some n, after) ∧ qualifier after = (u, rest) := by
  obtain ⟨ht, hp, hq⟩ := h
  refine ⟨_, ?_, hq.qualifier_append hrest⟩
  simp only [List.cons_append, List.append_assoc, hyphenated,
    ht.digits?_append (hq.isDigit_head? hrest), hp, if_true]

theorem StopsDate.hyphenated_eq (h : StopsDate rest) (p : Nat → Bool) :
    hyphenated p rest = (none, rest) := by
  cases rest with
  | nil => rfl
  | cons c rest =>
    obtain rfl : c = '/' := h c rfl
    rfl

theorem DateText.parts?_append {t : List Char} {date : DateParts} (h : DateText t date u)
    (hrest : StopsDate rest) : parts? (t ++ rest) = some ((date, u), rest) := by
  cases h with
  | year hy =>
    obtain ⟨after, hyear, hu⟩ := hy.year?_append hrest.stops
    simp [parts?, hyear, hu, hrest.hyphenated_eq]
  | month hy hm =>
    obtain ⟨after, hyear, hu⟩ := hy.year?_append (hm.stops rest)
    obtain ⟨after', hmonth, hv⟩ :=
      (hm.mono fun n => (isMonth_iff n).mpr).hyphenated_append hrest.stops
    simp [parts?, hyear, hu, hmonth, hv, hrest.hyphenated_eq]
  | @day y m d _ _ _ _ _ _ hy hm hd =>
    obtain ⟨after, hyear, hu⟩ := hy.year?_append (hm.stops (d ++ rest))
    obtain ⟨after', hmonth, hv⟩ :=
      (hm.mono fun n => (isMonth_iff n).mpr).hyphenated_append (hd.stops rest)
    obtain ⟨after'', hday, hw⟩ :=
      (hd.mono fun n => (isDay_iff n).mpr).hyphenated_append hrest.stops
    simp [parts?, hyear, hu, hmonth, hv, hday, hw]

theorem RangeText.range?_eq {t : List Char} {range : DateRange} (h : RangeText t range) :
    range? t = some (range, []) := by
  have hslash (cs : List Char) : StopsDate ('/' :: cs) := by
    rintro c ⟨⟩
    rfl
  have hnil : StopsDate [] := by
    rintro c ⟨⟩
  cases h with
  | single h =>
    have hparts := h.parts?_append hnil
    rw [List.append_nil] at hparts
    simp [range?, hparts]
  | openEnd h =>
    have hend : parts? [] = none := rfl
    simp [range?, h.parts?_append (hslash []), hend]
  | closed h h' =>
    have hstop := h'.parts?_append hnil
    rw [List.append_nil] at hstop
    simp [range?, h.parts?_append (hslash _), hstop]

end Complete

section Circa

variable {cs t w blanks : List Char}

theorem isPlainWord_of_mem {word : String} (h : word ∈ circaWords) : Text.IsPlainWord word.toList := by
  have hletters : ∀ word ∈ circaWords,
      word.toList.all (fun c => decide (0 < c.toNat ∧ c.toNat < 128 ∧ c ≠ 'k')) = true := by decide
  have hlast : ∀ word ∈ circaWords, word.toList.getLast? ≠ some 'i' := by decide
  exact ⟨fun c hc => of_decide_eq_true (List.all_eq_true.mp (hletters word h) c hc), hlast word h⟩

theorem eq_of_begins {word word' : String} (h : word ∈ circaWords) (h' : word' ∈ circaWords)
    (hbegins : word.toList <+: word'.toList) : word = word' := by
  have hwords : ∀ word ∈ circaWords, ∀ word' ∈ circaWords, word.toList <+: word'.toList →
      word = word' := by
    decide
  exact hwords word h word' h' hbegins

theorem mem_and_prefix_of_find? {word : String}
    (h : circaWords.find? (fun word => word.toList.isPrefixOf (Text.lower cs)) = some word) :
    word ∈ circaWords ∧ word.toList <+: Text.lower cs := by
  have hfound := List.find?_some h
  exact ⟨List.mem_of_find?_eq_some h, List.isPrefixOf_iff_prefix.mp hfound⟩

theorem find?_circaWords {word : String} (hword : word ∈ circaWords)
    (hbegins : word.toList <+: Text.lower cs) :
    circaWords.find? (fun word => word.toList.isPrefixOf (Text.lower cs)) = some word := by
  have hsome : (circaWords.find? fun word => word.toList.isPrefixOf (Text.lower cs)).isSome :=
    List.find?_isSome.mpr ⟨word, hword, List.isPrefixOf_iff_prefix.mpr hbegins⟩
  obtain ⟨word', hfind⟩ := Option.isSome_iff_exists.mp hsome
  obtain ⟨hword', hbegins'⟩ := mem_and_prefix_of_find? hfind
  rw [hfind]
  rcases List.prefix_or_prefix_of_prefix hbegins' hbegins with h | h
  · rw [eq_of_begins hword' hword h]
  · rw [eq_of_begins hword hword' h]

theorem length_eq_of_lower {word : String} (h : w.map Char.toLower = word.toList) :
    word.length = w.length := by
  rw [← String.length_toList, ← h, List.length_map]

theorem dropCirca_cases (cs : List Char) : dropCirca cs = (false, cs) ∨
    ∃ w blanks t, dropCirca cs = (true, t) ∧ cs = w ++ blanks ++ t ∧ IsCircaWord w ∧
      ∀ c ∈ blanks, Text.isBlank c = true := by
  rw [dropCirca]
  split
  · next word hfind =>
    right
    obtain ⟨hword, hbegins⟩ := mem_and_prefix_of_find? hfind
    obtain ⟨w, rest, rfl, hw⟩ := ((isPlainWord_of_mem hword).prefix_lowerFrom_iff [] cs).mp hbegins
    rw [length_eq_of_lower hw, List.drop_left]
    refine ⟨w, rest.takeWhile Text.isBlank, _, rfl, ?_, ⟨word, hword, hw⟩,
      List.all_eq_true.mp List.all_takeWhile⟩
    rw [List.append_assoc, Text.trimLeft, List.takeWhile_append_dropWhile]
  · exact .inl rfl

theorem IsCircaWord.dropCirca_append (hw : IsCircaWord w)
    (hblanks : ∀ c ∈ blanks, Text.isBlank c = true) (ht : ∀ c ∈ t.head?, Text.isBlank c = false) :
    dropCirca (w ++ blanks ++ t) = (true, t) := by
  obtain ⟨word, hword, hlower⟩ := hw
  have hbegins : word.toList <+: Text.lower (w ++ blanks ++ t) :=
    ((isPlainWord_of_mem hword).prefix_lowerFrom_iff [] _).mpr ⟨w, _, List.append_assoc _ _ _, hlower⟩
  have htrim : Text.trimLeft (blanks ++ t) = t := by
    rw [Text.trimLeft, List.dropWhile_append_of_pos hblanks]
    cases t with
    | nil => rfl
    | cons c t => rw [List.dropWhile_cons, if_neg (by simp [ht c rfl])]
  rw [dropCirca, find?_circaWords hword hbegins]
  dsimp only
  rw [length_eq_of_lower hlower, List.append_assoc, List.drop_left, htrim]

theorem RangeText.dropCirca_eq {range : DateRange} (h : RangeText t range) :
    dropCirca t = (false, t) := by
  obtain ⟨c, t, rfl, hc⟩ := h.exists_cons
  have hlower : c.toLower ≠ 'a' ∧ c.toLower ≠ 'c' := by
    obtain hc | rfl | rfl := hc
    · exact Text.of_isDigit (fun c => c.toLower ≠ 'a' ∧ c.toLower ≠ 'c') (by decide) hc
    · decide
    · decide
  obtain heq | ⟨w, blanks, t', -, hcs, ⟨word, hword, hw⟩, -⟩ := dropCirca_cases (c :: t)
  · exact heq
  have hhead : ∀ word ∈ circaWords, word.toList.head? = some 'a' ∨ word.toList.head? = some 'c' := by
    decide
  cases w with
  | nil => simpa [← hw] using hhead word hword
  | cons d w =>
    obtain ⟨rfl, -⟩ := List.cons_eq_cons.mp hcs
    exact absurd (hhead word hword) (by simp [← hw, hlower])

end Circa

theorem eq_nil_of_blank_suffix {cs rest : List Char}
    (hlast : ∀ c ∈ cs.getLast?, Text.isBlank c = false) (hrest : rest <:+ cs)
    (hblank : rest.all Text.isBlank = true) : rest = [] := by
  by_contra hne
  obtain ⟨front, rfl⟩ := hrest
  rw [List.getLast?_append_of_ne_nil _ hne, List.getLast?_eq_some_getLast hne] at hlast
  exact absurd (List.all_eq_true.mp hblank _ (List.getLast_mem hne)) (by simp [hlast _ rfl])

theorem parse?_eq_some {value : String} {range : DateRange} (h : parse? value = some range) :
    ∃ found rest, range? (dropCirca (Text.trim value.toList)).2 = some (found, rest) ∧
      rest.all Text.isBlank = true ∧
      range = { found with
        uncertain := (dropCirca (Text.trim value.toList)).1 || found.uncertain } := by
  rw [parse?] at h
  generalize dropCirca (Text.trim value.toList) = dropped at h ⊢
  obtain ⟨⟨found, rest⟩, hfound, hread⟩ := Option.bind_eq_some_iff.mp h
  dsimp only at hread
  split at hread
  · next hrest => exact ⟨found, rest, hfound, hrest, (Option.some.inj hread).symm⟩
  · cases hread

theorem ValueText.parse?_eq {value : String} {range : DateRange}
    (h : ValueText (Text.trim value.toList) range) : parse? value = some range := by
  rw [parse?]
  generalize Text.trim value.toList = cs at h ⊢
  cases h with
  | plain h =>
    rw [h.dropCirca_eq]
    simp only [h.range?_eq, Option.bind_eq_bind, Option.bind_some, List.all_nil, if_true, Bool.false_or]
  | circa hw hblanks h =>
    rw [hw.dropCirca_append hblanks fun c hc => h.isBlank c (List.mem_of_mem_head? hc)]
    simp only [h.range?_eq, Option.bind_eq_bind, Option.bind_some, List.all_nil, if_true, Bool.true_or]

theorem RangeText.parse?_eq {value : String} {range : DateRange} (h : RangeText value.toList range) :
    parse? value = some range := by
  apply ValueText.parse?_eq
  rw [Text.trim_eq_self h.isBlank]
  exact .plain h

/-- What is read is the grammar: blanks around a value aside, the texts of dates, of open and closed
ranges, and these after a circa word; and each is read as what it denotes. -/
theorem parse?_eq_some_iff (value : String) (range : DateRange) :
    parse? value = some range ↔ ValueText (Text.trim value.toList) range := by
  refine ⟨fun h => ?_, ValueText.parse?_eq⟩
  obtain ⟨found, rest, hfound, hblank, rfl⟩ := parse?_eq_some h
  have hlast : ∀ c ∈ (Text.trim value.toList).getLast?, Text.isBlank c = false :=
    fun c hc => Text.isBlank_of_getLast?_trim hc
  generalize Text.trim value.toList = cs at hfound hlast ⊢
  obtain ⟨t, ht, hrange⟩ := exists_of_range? hfound
  obtain heq | ⟨w, blanks, t', heq, hcs, hw, hblanks⟩ := dropCirca_cases cs <;> rw [heq] at ht ⊢ <;>
    dsimp only at ht ⊢
  · obtain rfl := eq_nil_of_blank_suffix hlast (ht ▸ List.suffix_append t rest) hblank
    rw [ht, List.append_nil]
    exact .plain hrange
  · have hsuffix : rest <:+ cs := by
      rw [hcs, ht, ← List.append_assoc]
      exact List.suffix_append _ _
    obtain rfl := eq_nil_of_blank_suffix hlast hsuffix hblank
    rw [hcs, ht, List.append_nil]
    exact .circa hw hblanks hrange

end Citeproc.DateRange
