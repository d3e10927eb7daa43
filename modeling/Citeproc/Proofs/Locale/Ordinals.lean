import Citeproc.Proofs.Locale.Layers

namespace Citeproc

namespace Locale

theorem longTerm?_eq (l : Locale) (name : String) :
    l.longTerm? name = (l.slot? (.term name .long)).map (·.get false) := by
  simp only [longTerm?, term?, slot?, TermForm.fallbacks, List.findSome?_cons, List.findSome?_nil]
  cases l.terms.get? name with
  | none => rfl
  | some forms =>
    cases h : forms.get? .long <;> simp [h]

def ordinalTerm? (l : Locale) (k : Nat) : Option String := l.longTerm? ("ordinal-" ++ Text.padded 2 k)

theorem ordinalSuffix_eq (l : Locale) (n : Int) : l.ordinalSuffix n =
    ((if 10 ≤ n.natAbs % 100 then l.ordinalTerm? (n.natAbs % 100) else none) <|>
      l.ordinalTerm? (n.natAbs % 10) <|> l.longTerm? "ordinal").getD "" := rfl

theorem ordinalTerm?_english {k : Nat} (h : k < 100) : english.ordinalTerm? k =
    [(1, "st"), (2, "nd"), (3, "rd"), (11, "th"), (12, "th"), (13, "th")].lookup k := by
  revert k
  decide +kernel

theorem ordinalTerm?_english_of_digit {k : Nat} (h : k < 10) :
    english.ordinalTerm? k = [(1, "st"), (2, "nd"), (3, "rd")].lookup k := by
  rw [ordinalTerm?_english (by omega)]
  revert k
  decide

theorem ordinalTerm?_english_of_two_digits {k : Nat} (hk : 10 ≤ k) (h : k < 100) :
    english.ordinalTerm? k = if k ∈ [11, 12, 13] then some "th" else none := by
  rw [ordinalTerm?_english h]
  have hterms : ∀ k < 100, 10 ≤ k → ([(1, "st"), (2, "nd"), (3, "rd"), (11, "th"), (12, "th"),
      (13, "th")] : List (Nat × String)).lookup k = if k ∈ [11, 12, 13] then some "th" else none := by
    decide +kernel
  exact hterms k h hk

def englishSuffix? (l : Locale) (n : Nat) : Option String :=
  if 10 ≤ n % 100 ∧ (l.ordinalTerm? (n % 100)).isSome then none
  else if n % 100 ∈ [11, 12, 13] then some "th"
  else if (l.ordinalTerm? (n % 10)).isSome then none
  else [(1, "st"), (2, "nd"), (3, "rd")].lookup (n % 10)

theorem ordinalSuffix_of_longTerm? {resolved l : Locale}
    (h : ∀ name, resolved.longTerm? name = (l.longTerm? name <|> english.longTerm? name))
    (hordinal : (l.longTerm? "ordinal").isSome = true) (n : Int) :
    resolved.ordinalSuffix n = (l.englishSuffix? n.natAbs).getD (l.ordinalSuffix n) := by
  have hterm (k : Nat) : resolved.ordinalTerm? k = (l.ordinalTerm? k <|> english.ordinalTerm? k) := h _
  obtain ⟨general, hgeneral⟩ := Option.isSome_iff_exists.mp hordinal
  have hdigit := ordinalTerm?_english_of_digit (Nat.mod_lt n.natAbs (by omega : 0 < 10))
  rw [ordinalSuffix_eq, ordinalSuffix_eq, hterm, hterm, h, hgeneral, hdigit, englishSuffix?]
  by_cases htwo : 10 ≤ n.natAbs % 100
  · rw [ordinalTerm?_english_of_two_digits htwo (Nat.mod_lt _ (by omega))]
    simp only [htwo, true_and, if_true]
    cases l.ordinalTerm? (n.natAbs % 100) with
    | some own => simp
    | none =>
      by_cases hteen : n.natAbs % 100 ∈ [11, 12, 13]
      · simp [hteen]
      · simp only [if_neg hteen]
        cases l.ordinalTerm? (n.natAbs % 10) with
        | some own => simp
        | none => cases [(1, "st"), (2, "nd"), (3, "rd")].lookup (n.natAbs % 10) <;> simp
  · have hteen : n.natAbs % 100 ∉ [11, 12, 13] := by
      simp only [List.mem_cons, List.not_mem_nil, or_false]
      omega
    simp only [htwo, false_and, if_false, if_neg hteen]
    cases l.ordinalTerm? (n.natAbs % 10) with
    | some own => simp
    | none => cases [(1, "st"), (2, "nd"), (3, "rd")].lookup (n.natAbs % 10) <;> simp

theorem ordinalSuffix_mod (l : Locale) (n : Int) :
    l.ordinalSuffix (n.natAbs % 100 : Nat) = l.ordinalSuffix n := by
  have hmod : n.natAbs % 100 % 10 = n.natAbs % 10 := Nat.mod_mod_of_dvd _ (by decide)
  rw [ordinalSuffix_eq, ordinalSuffix_eq, Int.natAbs_natCast, Nat.mod_mod, hmod]

theorem englishSuffix?_mod (l : Locale) (n : Nat) : l.englishSuffix? (n % 100) = l.englishSuffix? n := by
  have hmod : n % 100 % 10 = n % 10 := Nat.mod_mod_of_dvd _ (by decide)
  rw [englishSuffix?, englishSuffix?, Nat.mod_mod, hmod]

theorem exists_of_englishSuffix? {l : Locale} {n : Int} {suffix : String}
    (h : l.englishSuffix? n.natAbs = some suffix) :
    ∃ m ∈ ([1, 2, 3, 11, 12, 13] : List Nat),
      l.englishSuffix? m = some suffix ∧ l.ordinalSuffix m = l.ordinalSuffix n := by
  by_cases hteen : n.natAbs % 100 ∈ [11, 12, 13]
  · refine ⟨n.natAbs % 100, ?_, ?_, l.ordinalSuffix_mod n⟩
    · simp only [List.mem_cons, List.not_mem_nil, or_false] at hteen ⊢
      omega
    · rw [englishSuffix?_mod, h]
  · -- the last digit speaks, in front of the general term
    simp only [englishSuffix?, if_neg hteen] at h
    split at h
    · cases h
    next htwo =>
    split at h
    · cases h
    next hdigit =>
    have hlast : n.natAbs % 10 ∈ [1, 2, 3] := by
      obtain ⟨before, after, heq, -⟩ := List.lookup_eq_some_iff.mp h
      have hmem : (n.natAbs % 10, suffix) ∈ [(1, "st"), (2, "nd"), (3, "rd")] := by simp [heq]
      simp only [List.mem_cons, Prod.mk.injEq, List.not_mem_nil, or_false] at hmem ⊢
      omega
    have hlt : n.natAbs % 10 < 10 := Nat.mod_lt _ (by omega)
    have hmod : n.natAbs % 10 % 100 = n.natAbs % 10 := Nat.mod_eq_of_lt (by omega)
    have hsmall : n.natAbs % 10 ∉ [11, 12, 13] := by
      simp only [List.mem_cons, List.not_mem_nil, or_false]
      omega
    rw [Option.not_isSome_iff_eq_none] at hdigit
    refine ⟨n.natAbs % 10, List.mem_append_left [11, 12, 13] hlast, ?_, ?_⟩
    · simp [englishSuffix?, hmod, hsmall, hdigit, h, Nat.not_le.mpr hlt]
    · rw [ordinalSuffix_eq, ordinalSuffix_eq, Int.natAbs_natCast, hmod, Nat.mod_mod,
        if_neg (Nat.not_le.mpr hlt), hdigit]
      by_cases hlong : 10 ≤ n.natAbs % 100
      · have hnone : l.ordinalTerm? (n.natAbs % 100) = none :=
          Option.not_isSome_iff_eq_none.mp fun hsome => htwo ⟨hlong, hsome⟩
        rw [if_pos hlong, hnone]
      · rw [if_neg hlong]

end Locale

namespace LocaleResolver

theorem longTerm?_resolve_of_only {calls : List Call} {table : Locale}
    (hcalls : Call.tables calls = [table]) (hkeys : table.terms.keys.Nodup) (name : String) :
    (((ofBlocks []).run calls).resolve table.lang).1.longTerm? name =
      (table.longTerm? name <|> Locale.english.longTerm? name) := by
  have hcurrent := current_run [] calls
  have hlayers : ((ofBlocks []).run calls).layers table.lang = [table] := by
    simp [layers, hcurrent.added, hcurrent.ofStyle, hcalls, isBase, isExact]
  have hbuiltIn : (builtIn table.lang).slot? (.term name .long) =
      Locale.english.slot? (.term name .long) := by
    rw [builtIn]
    generalize Locale.english = english
    rfl
  rw [hcurrent.resolve_eq, layered, hlayers, Locale.longTerm?_eq, Locale.longTerm?_eq,
    Locale.longTerm?_eq, List.foldl_cons, List.foldl_nil, Locale.slot?_merge hkeys, hbuiltIn]
  generalize Locale.english.slot? (.term name .long) = english
  cases table.slot? (.term name .long) <;> rfl

/-- Of a table that is the only one from outside every number has its own suffix, but for numbers in
which an English term comes in front of it. It has its own throughout when it has in six numbers. -/
theorem ordinalSuffix_resolve (calls : List Call) (table : Locale) (hcalls : Call.tables calls = [table])
    (hkeys : table.terms.keys.Nodup) (hordinal : (table.longTerm? "ordinal").isSome = true) :
    let resolved := (((ofBlocks []).run calls).resolve table.lang).1
    (∀ n, resolved.ordinalSuffix n = (table.englishSuffix? n.natAbs).getD (table.ordinalSuffix n)) ∧
      ((∀ n, resolved.ordinalSuffix n = table.ordinalSuffix n) ↔
        ∀ n ∈ ([1, 2, 3, 11, 12, 13] : List Nat),
          resolved.ordinalSuffix n = table.ordinalSuffix n) := by
  intro resolved
  have hsuffix (n : Int) := Locale.ordinalSuffix_of_longTerm?
    (longTerm?_resolve_of_only hcalls hkeys) hordinal n
  refine ⟨hsuffix, fun h n _ => h n, fun h n => ?_⟩
  rw [hsuffix]
  cases henglish : table.englishSuffix? n.natAbs with
  | none => rfl
  | some suffix =>
    obtain ⟨m, hm, hsame, hown⟩ := Locale.exists_of_englishSuffix? henglish
    have hkept := h m hm
    rw [hsuffix, Int.natAbs_natCast, hsame, hown] at hkept
    exact hkept

def french : Locale :=
  (Locale.setTerm { lang := "fr-FR" } "ordinal" .long (.simple "e")).setTerm "ordinal-01" .long
    (.simple "er")

theorem ordinalSuffix_resolve_of_french :
    let calls := [Call.add french, .resolve "de"]
    let resolved := (((ofBlocks []).run calls).resolve "fr-FR").1
    Call.tables calls = [french] ∧ french.terms.keys.Nodup ∧
      (french.longTerm? "ordinal").isSome = true ∧ resolved.ordinalSuffix 21 = "er" ∧
      resolved.ordinalSuffix (-14) = "e" ∧ resolved.ordinalSuffix 112 = "th" ∧
      ¬ ∀ n, resolved.ordinalSuffix n = french.ordinalSuffix n := by
  intro calls resolved
  have hcalls : Call.tables calls = [french] := rfl
  have hkeys : french.terms.keys.Nodup := by decide
  have hordinal : (french.longTerm? "ordinal").isSome = true := by decide
  obtain ⟨hsuffix, hown⟩ := ordinalSuffix_resolve calls french hcalls hkeys hordinal
  refine ⟨hcalls, hkeys, hordinal, ?_, ?_, ?_, fun h => ?_⟩
  · exact (hsuffix 21).trans (by decide +kernel)
  · exact (hsuffix (-14)).trans (by decide +kernel)
  · exact (hsuffix 112).trans (by decide +kernel)
  · have htwo := (hown.mp h 2 (by decide)).symm.trans (hsuffix 2)
    exact absurd htwo (by decide +kernel)

theorem ordinalSuffix_shadowed :
    french.ordinalSuffix 2 = "e" ∧
      (((ofBlocks []).add french).resolve "fr-FR").1.ordinalSuffix 2 = "nd" := by
  decide +kernel

end LocaleResolver

end Citeproc
