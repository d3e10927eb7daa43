import Citeproc.Proofs.Cites.Delimiters

namespace Citeproc

def RenderedCite.SharesNames (a b : RenderedCite) : Prop :=
  ∃ names names', a.output.firstNames? = some names ∧ b.output.firstNames? = some names' ∧
    names.plain = names'.plain

theorem RenderedCite.sharesNames_iff {a b : RenderedCite} :
    a.SharesNames b ↔ ∃ text, a.author? = some text ∧ b.author? = some text := by
  simp only [SharesNames, author?, Option.map_eq_some_iff]
  constructor
  · rintro ⟨names, names', ha, hb, hsame⟩
    exact ⟨names.plain, ⟨names, ha, rfl⟩, names', hb, hsame.symm⟩
  · rintro ⟨text, ⟨names, ha, rfl⟩, names', hb, hsame⟩
    exact ⟨names, names', ha, hb, hsame.symm⟩

/-- Grouping by author is a stable partition of the cites, told apart by their places. What is
joined, unless citation numbers collapse, is these groups or single cites, and so all cites in any
case. -/
theorem cites_partitioned_by_author (cites : List RenderedCite) :
    let placed := Grouping.groups (fun a b => a.1.sameAuthor b.1) cites.zipIdx
    placed.map (·.map (·.1)) = Grouping.groups RenderedCite.sameAuthor cites ∧
    Grouping.IsPartition (fun a b => a.1.SharesNames b.1) cites.zipIdx placed ∧
    ∀ j : CiteJoiner, j.options.collapse ≠ some .citationNumber →
      j.join cites = .ofList (j.joinGroups (j.groups cites)) ∧
      (j.groups cites = Grouping.groups RenderedCite.sameAuthor cites ∨
        j.groups cites = cites.map ([·])) ∧
      (j.groups cites).flatten.Perm cites := by
  intro placed
  refine ⟨?_, ?_, ?_⟩
  · have hplaced : placed.map (·.map (·.1)) =
        Grouping.groups RenderedCite.sameAuthor (cites.zipIdx.map (·.1)) :=
      Grouping.map_groups _ _
    rwa [List.zipIdx_map_fst] at hplaced
  · have hpartition := Grouping.isPartition_zipIdx RenderedCite.author? cites
    simp only [RenderedCite.sharesNames_iff]
    exact hpartition
  · intro j hcollapse
    refine ⟨?_, ?_, j.groups_perm cites⟩
    · rw [CiteJoiner.join, if_neg]
      rwa [beq_iff_eq, j.mode_eq_citationNumber_iff]
    · rw [CiteJoiner.groups]
      split
      · exact .inl rfl
      · exact .inr rfl

theorem cites_partitioned_by_author_of_five :
    let named (id name : String) : RenderedCite :=
      { id, output := .tagged (.names "author") (.text name), withoutAuthor := .null }
    let unnamed (id : String) : RenderedCite :=
      { id, output := .text "Book", withoutAuthor := .text "Book" }
    let cites := [named "a" "Doe", unnamed "b", named "c" "Roe", named "d" "Doe", unnamed "e"]
    let j : CiteJoiner := { options := { citeGroupDelimiter := some "; " }, delimiter := ", " }
    (Grouping.groups RenderedCite.sameAuthor cites).map (·.map (·.id)) =
        [["a", "d"], ["b"], ["c"], ["e"]] ∧
      j.options.collapse ≠ some .citationNumber ∧ (j.groups cites).flatten.Perm cites := by
  intro named unnamed cites j
  have hcollapse : j.options.collapse ≠ some .citationNumber := by decide
  exact ⟨by decide, hcollapse, ((cites_partitioned_by_author cites).2.2 j hcollapse).2.2⟩

end Citeproc
