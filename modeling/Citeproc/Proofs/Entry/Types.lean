import Citeproc.Proofs.Table
import Citeproc.Proofs.Text.CaseMaps
import Citeproc.Render.Condition
import Mathlib.Data.List.Find

namespace Citeproc

def typeKey (name : String) : String := String.ofList ((Text.trimmed name).toList.map Char.toLower)

def IsKnownType (name : String) : Prop :=
  typeKey name ∈ Table.keys typeAliases ∨ typeKey name ∈ knownTypes

instance (name : String) : Decidable (IsKnownType name) := inferInstanceAs (Decidable (_ ∨ _))

def knownType? (name : String) : Option String :=
  (Table.get? typeAliases (typeKey name)).or (knownTypes.find? (· == typeKey name))

theorem find?_knownTypes_eq_some_iff {key known : String} :
    knownTypes.find? (· == key) = some known ↔ known = key ∧ key ∈ knownTypes := by
  constructor
  · intro h
    obtain rfl : known = key := by simpa using List.find?_some h
    exact ⟨rfl, List.mem_of_find?_eq_some h⟩
  · rintro ⟨rfl, hmem⟩
    have hsome : (knownTypes.find? (· == known)).isSome :=
      List.find?_isSome.mpr ⟨known, hmem, beq_self_eq_true known⟩
    obtain ⟨found, hfound⟩ := Option.isSome_iff_exists.mp hsome
    obtain rfl : found = known := by simpa using List.find?_some hfound
    exact hfound

theorem isKnownType_iff (name : String) : IsKnownType name ↔ ∃ known, knownType? name = some known := by
  have hown : (knownTypes.find? (· == typeKey name)).isSome ↔ typeKey name ∈ knownTypes := by
    simp [Option.isSome_iff_exists, find?_knownTypes_eq_some_iff]
  rw [IsKnownType, ← Table.get?_isSome_iff, ← hown, ← Option.isSome_iff_exists, knownType?,
    Option.isSome_or, Bool.or_eq_true]

theorem knownType?_congr {m n : String} (h : Text.sameIgnoringAsciiCase m n = true) :
    knownType? m = knownType? n := by
  have hcase : m.toList.map Char.toLower = n.toList.map Char.toLower := by
    simpa [Text.sameIgnoringAsciiCase] using h
  have hkey : typeKey m = typeKey n := by
    simp only [typeKey, Text.trimmed, String.toList_ofList, ← Text.trim_map_toLower, hcase]
  rw [knownType?, knownType?, hkey]

theorem toLower_knownTypes {known : String} (h : known ∈ knownTypes) :
    known.toList.map Char.toLower = known.toList ∧ typeKey known = known := by
  have hchars : ∀ known ∈ knownTypes, ∀ c ∈ known.toList, c.toLower = c ∧ Text.isBlank c = false := by
    decide +kernel
  have hlower : known.toList.map Char.toLower = known.toList :=
    (List.map_congr_left fun c hc => (hchars known h c hc).1).trans (List.map_id _)
  refine ⟨hlower, ?_⟩
  rw [typeKey, Text.trimmed, String.toList_ofList, Text.trim_eq_self fun c hc => (hchars known h c hc).2,
    hlower, String.ofList_toList]

theorem sameIgnoringAsciiCase_trimmed {known : String} (h : known ∈ knownTypes) (name : String) :
    Text.sameIgnoringAsciiCase known (Text.trimmed name) = (known == typeKey name) := by
  rw [Text.sameIgnoringAsciiCase, (toLower_knownTypes h).1, typeKey, Bool.eq_iff_iff, beq_iff_eq,
    beq_iff_eq, ← String.toList_inj, String.toList_ofList]

theorem canonicalType_eq (name : String) : canonicalType name = (knownType? name).getD name := by
  have hfind : knownTypes.find? (Text.sameIgnoringAsciiCase · (Text.trimmed name)) =
      knownTypes.find? (· == typeKey name) :=
    List.find?_congr fun known hknown => sameIgnoringAsciiCase_trimmed hknown name
  unfold canonicalType knownType? Table.get?
  dsimp only
  rw [hfind, ← typeKey]
  -- the tables are closed terms that must not be unfolded here
  generalize typeAliases.lookup (typeKey name) = other
  generalize knownTypes.find? (· == typeKey name) = own
  cases other <;> rfl

theorem knownType?_of_knownType? {name known : String} (h : knownType? name = some known) :
    knownType? known = some known := by
  have haliases : ∀ entry ∈ typeAliases,
      entry.2 ∈ knownTypes ∧ Table.get? typeAliases entry.2 = none := by decide +kernel
  have hfound : known ∈ knownTypes ∧ Table.get? typeAliases known = none := by
    rw [knownType?, Option.or_eq_some_iff] at h
    rcases h with hother | ⟨hnone, hown⟩
    · exact haliases (typeKey name, known) (Table.mem_of_get? hother)
    · obtain ⟨rfl, hmem⟩ := find?_knownTypes_eq_some_iff.mp hown
      exact ⟨hmem, hnone⟩
  rw [knownType?, (toLower_knownTypes hfound.1).2, hfound.2, Option.none_or]
  exact find?_knownTypes_eq_some_iff.mpr ⟨rfl, hfound.1⟩

theorem canonicalType_of_knownType? {name known : String} (h : knownType? name = some known) :
    canonicalType name = known := by
  rw [canonicalType_eq, h, Option.getD_some]

theorem canonicalType_of_unknown {name : String} (h : ¬IsKnownType name) :
    canonicalType name = name := by
  rw [isKnownType_iff, ← Option.isSome_iff_exists, Option.not_isSome_iff_eq_none] at h
  rw [canonicalType_eq, h, Option.getD_none]

theorem canonicalType_canonicalType (name : String) :
    canonicalType (canonicalType name) = canonicalType name := by
  by_cases h : IsKnownType name
  · obtain ⟨known, hknown⟩ := (isKnownType_iff name).mp h
    rw [canonicalType_of_knownType? hknown,
      canonicalType_of_knownType? (knownType?_of_knownType? hknown)]
  · rw [canonicalType_of_unknown h, canonicalType_of_unknown h]

theorem canonicalType_congr {m n : String} (hm : IsKnownType m)
    (h : Text.sameIgnoringAsciiCase m n = true) : canonicalType m = canonicalType n := by
  obtain ⟨known, hknown⟩ := (isKnownType_iff m).mp hm
  rw [canonicalType_of_knownType? hknown, canonicalType_of_knownType? (knownType?_congr h ▸ hknown)]

theorem canonicalType_eq_iff_of_unknown {m : String} (hm : ¬IsKnownType m) (n : String) :
    canonicalType m = canonicalType n ↔ m = n := by
  refine ⟨fun h => ?_, congrArg canonicalType⟩
  rw [canonicalType_of_unknown hm] at h
  by_cases hn : IsKnownType n
  · obtain ⟨known, hknown⟩ := (isKnownType_iff n).mp hn
    rw [canonicalType_of_knownType? hknown] at h
    subst h
    exact absurd ((isKnownType_iff m).mpr ⟨m, knownType?_of_knownType? hknown⟩) hm
  · rw [h, canonicalType_of_unknown hn]

theorem Test.typeMatches_iff (e : Entry) (name : String) :
    typeMatches e name = true ↔ canonicalType e.type = canonicalType name := by
  simp only [typeMatches, Entry.cslType, Bool.or_eq_true, beq_iff_eq]
  constructor
  · rintro ((rfl | h) | rfl)
    · exact (canonicalType_canonicalType e.type).symm
    · exact h
    · rfl
  · exact fun h => .inl (.inr h)

def RenderContext.ofType (ctx : RenderContext) (type : String) : RenderContext :=
  { ctx with entry := { ctx.entry with type } }

/-- A test for a type compares what the two names stand for, so that it is an equivalence of names.
A known name is the same in any letter case, and a name that is not known the same as no other. -/
theorem Test.holds_type_equivalence (ctx : RenderContext) :
    (∀ name, canonicalType (canonicalType name) = canonicalType name) ∧
      (∀ t n, (Test.type n).holds (ctx.ofType t) = true ↔ canonicalType t = canonicalType n) ∧
      (Equivalence fun t n => (Test.type n).holds (ctx.ofType t) = true) ∧
      (∀ t n, IsKnownType t → Text.sameIgnoringAsciiCase t n = true →
        (Test.type n).holds (ctx.ofType t) = true) ∧
      ∀ t n, ¬IsKnownType t → ((Test.type n).holds (ctx.ofType t) = true ↔ t = n) := by
  have hholds (t n : String) :
      (Test.type n).holds (ctx.ofType t) = true ↔ canonicalType t = canonicalType n :=
    typeMatches_iff (ctx.ofType t).entry n
  refine ⟨canonicalType_canonicalType, hholds, ?_, fun t n ht h => ?_, fun t n ht => ?_⟩
  · simp only [hholds]
    exact ⟨fun _ => rfl, Eq.symm, Eq.trans⟩
  · exact (hholds t n).mpr (canonicalType_congr ht h)
  · exact (hholds t n).trans (canonicalType_eq_iff_of_unknown ht n)

theorem Test.holds_type_article :
    let ctx := RenderContext.bibliography { id := "a", type := "" }
    IsKnownType "ARTICLE" ∧ Text.sameIgnoringAsciiCase "ARTICLE" "Article" = true ∧
      (Test.type "Article").holds (ctx.ofType "ARTICLE") = true ∧
      (Test.type "article-journal").holds (ctx.ofType "ARTICLE") = true ∧
      ¬IsKnownType "hologram" ∧ (Test.type "Hologram").holds (ctx.ofType "hologram") = false := by
  intro ctx
  have hknown : IsKnownType "ARTICLE" := by decide +kernel
  have hcase : Text.sameIgnoringAsciiCase "ARTICLE" "Article" = true := by decide +kernel
  have hunknown : ¬IsKnownType "hologram" := by decide +kernel
  obtain ⟨-, hholds, -, hletters, hself⟩ := Test.holds_type_equivalence ctx
  refine ⟨hknown, hcase, hletters _ _ hknown hcase, (hholds _ _).mpr (by decide +kernel), hunknown, ?_⟩
  rw [Bool.eq_false_iff, ne_eq, hself _ _ hunknown]
  decide

end Citeproc
