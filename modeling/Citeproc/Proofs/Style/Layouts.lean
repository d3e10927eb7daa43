import Citeproc.Proofs.Style.Content

namespace Citeproc

theorem exists_layoutIndex? {layouts : List Layout} (h : layouts ≠ []) (lang : Option String) :
    ∃ i ∈ layoutIndex? layouts lang, i < layouts.length := by
  have orElse {a b : Option Nat} (ha : ∀ i ∈ a, i < layouts.length)
      (hb : ∃ i ∈ b, i < layouts.length) : ∃ i ∈ (a <|> b), i < layouts.length := by
    cases a with
    | none => exact hb
    | some i => exact ⟨i, rfl, ha i rfl⟩
  have found (p : Layout → Bool) : ∀ i ∈ layouts.findIdx? p, i < layouts.length := by
    intro i hi
    obtain ⟨hlt, -⟩ := List.findIdx?_eq_some_iff_getElem.mp hi
    exact hlt
  have foundFor (p : String → Layout → Bool) :
      ∀ i ∈ lang.bind fun lang => layouts.findIdx? (p lang), i < layouts.length := by
    cases lang with
    | none => simp
    | some lang => exact found (p lang)
  have first : ∃ i ∈ if layouts.isEmpty then none else some 0, i < layouts.length := by
    rw [if_neg (by simpa using h)]
    exact ⟨0, rfl, List.length_pos_iff.mpr h⟩
  exact orElse (foundFor _) (orElse (foundFor _) (orElse (found _) first))

theorem exists_selectLayout? {layouts : List Layout} (h : layouts ≠ []) (lang : Option String) :
    ∃ layout ∈ layouts, selectLayout? layouts lang = some layout := by
  obtain ⟨i, hi, hlt⟩ := exists_layoutIndex? h lang
  refine ⟨layouts[i], List.getElem_mem hlt, ?_⟩
  rw [selectLayout?, hi, Option.bind_some, List.getElem?_eq_getElem hlt]

theorem Style.bibliography_layouts_ne_nil {source : String} {style : Style} {b : BibliographySection}
    (h : Style.parse source = .ok style) (hb : style.bibliography = some b) : b.layouts ≠ [] := by
  obtain ⟨root, -, hstyle⟩ := root_of_parse h
  obtain ⟨parts, hparts, -, hbibliography, -⟩ := readStyle_ok hstyle
  have hread := hparts.bibliography.forall₂
  rw [hbibliography, hb, Option.toList_some] at hread
  obtain ⟨e, -, he, -, -⟩ := List.forall₂_cons_right_iff.mp hread
  exact (readBibliography_ok he).2

end Citeproc
