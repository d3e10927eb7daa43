import Citeproc.Proofs.Session.Affixes
import Citeproc.Proofs.Session.Positions
import Citeproc.Proofs.Session.Run
import Citeproc.Proofs.Sort

namespace Citeproc.Session

def Placed (s : Session) : Prop :=
  s.placements.map (·.length) = s.citations.map (·.items.length)

theorem placed_register (s : Session) (citations : List Citation) : (s.register citations).Placed :=
  Placement.map_length_ofCitationsFrom _ 0 [] none citations

theorem placed_run (style : Style) (bibliography : Bibliography) (options : SessionOptions)
    (calls : List Call) : ((new style bibliography options).run calls).Placed := by
  induction calls using List.reverseRecOn with
  | nil => exact List.map_nil
  | append_singleton calls call ih =>
    rw [run_concat]
    cases call with
    | register citations => exact placed_register _ citations
    | addLocale table => exact ih

theorem Placed.length_eq {s : Session} (h : s.Placed) {c : Citation} {placements : List Placement}
    (hmem : (c, placements) ∈ s.citations.zip s.placements) : placements.length = c.items.length := by
  rw [Placed, ← List.forall₂_eq_eq_eq, List.forall₂_map_left_iff, List.forall₂_map_right_iff] at h
  exact (List.forall₂_iff_zip.mp h.flip).2 hmem

variable (s : Session)

def knownCites (cites : List PlacedCite) : List (PlacedCite × Entry) :=
  cites.filterMap fun cite => cite.entry.map (cite, ·)

def sortContext (known : PlacedCite × Entry) : RenderContext :=
  s.citeContext known.2 known.1.item known.1.placement

theorem sortCites_of_some {keys : SortSpec} (hsort : s.style.citation.sort = some keys)
    (cites : List PlacedCite) :
    s.sortCites cites =
      (s.renderer.sortOrder keys s.sortContext (knownCites cites)).map
        (fun i => ((knownCites cites).get i).1) ++ cites.filter (·.entry.isNone) := by
  rw [sortCites, hsort]
  have hknown := s.renderer.sortItems_eq_map keys s.sortContext (knownCites cites)
  have hcites := congrArg (List.map (·.1)) hknown
  rw [List.map_map] at hcites
  exact congrArg (· ++ cites.filter (·.entry.isNone)) hcites

theorem sortCites_of_none (hsort : s.style.citation.sort = none) (cites : List PlacedCite) :
    s.sortCites cites = cites := by
  rw [sortCites, hsort]

/-- The comparison of the texts of items is a total preorder, key by key. Items are sorted by it, and
equal ones stay as they were. So the cites of a citation of the document, or of one outside it, are
joined in that order, with those of unknown ids behind, and each item is there once. -/
theorem cites_joined_in_order :
    (∀ keys : SortSpec, (∀ a, keys.compareRows a a = .eq) ∧
      (∀ a b, (keys.compareRows a b).isLE ∨ (keys.compareRows b a).isLE) ∧
      (∀ a b c, (keys.compareRows a b).isLE → (keys.compareRows b c).isLE →
        (keys.compareRows a c).isLE) ∧
      ∀ a b, (keys.compareRows a b = .lt ↔ keys.Precedes a b) ∧
        (keys.compareRows a b = .eq ↔ a = b)) ∧
    (∀ (r : Renderer) (keys : SortSpec) (α : Type) (context : α → RenderContext) (items : List α),
      let order := r.sortOrder keys context items
      r.sortItems keys context items = order.map items.get ∧
        order.Perm (List.finRange items.length) ∧
        order.Pairwise (r.SortedBefore keys context items) ∧
        ∀ other : List (Fin items.length), other.Perm (List.finRange items.length) →
          other.Pairwise (r.SortedBefore keys context items) → other = order) ∧
    ∀ (style : Style) (bibliography : Bibliography) (options : SessionOptions) (calls : List Call)
      (c : Citation) (placements : List Placement) (layout : Layout),
      let s := (new style bibliography options).run calls
      (c, placements) ∈ s.citations.zip s.placements ∨ placements = c.items.map Placement.alone →
      selectLayout? s.style.citation.layouts none = some layout →
      let cites := s.placeCites c placements
      let known := knownCites cites
      let joiner : CiteJoiner :=
        { options := s.style.citation.options, delimiter := layout.delimiter.getD "" }
      ∃ ordered,
        cites.map (·.item) = c.items ∧ ordered.Perm cites ∧
        (∀ keys, s.style.citation.sort = some keys →
          ordered = (s.renderer.sortOrder keys s.sortContext known).map (fun i => (known.get i).1) ++
            cites.filter (·.entry.isNone)) ∧
        (s.style.citation.sort = none → ordered = cites) ∧
        let joined := joiner.join (ordered.map s.renderCite)
        s.renderCitation c placements =
          if isAuthorOnly c then joined else joined.decorate layout.rendering := by
  refine ⟨fun keys => ⟨fun a => ?_, fun a b => ?_, fun a b c => ?_, fun a b => ?_⟩, ?_, ?_⟩
  · exact Std.ReflCmp.compare_self
  · exact (Bool.or_eq_true _ _).mp (keys.compareRows_total a b)
  · exact Std.TransCmp.isLE_trans
  · exact ⟨keys.compareRows_eq_lt a b, keys.compareRows_eq_eq a b⟩
  · intro r keys α context items order
    exact ⟨r.sortItems_eq_map keys context items, r.sortOrder_perm keys context items,
      r.pairwise_sortOrder keys context items,
      fun other hperm hpairwise => r.eq_sortOrder keys context items hperm hpairwise⟩
  · intro style bibliography options calls c placements layout s hcalled hlayout cites known joiner
    have hlength : placements.length = c.items.length := by
      rcases hcalled with hmem | rfl
      · exact (placed_run style bibliography options calls).length_eq hmem
      · exact List.length_map _
    refine ⟨s.sortCites cites, s.map_item_placeCites c hlength.ge, s.sortCites_perm cites,
      fun keys hsort => s.sortCites_of_some hsort cites, fun hsort => s.sortCites_of_none hsort cites,
      ?_⟩
    rw [renderCitation, hlayout]

def lastTitleFirst : SortKey where
  source := .var "title"
  descending := true
  namesMin := none
  namesUseFirst := none
  namesUseLast := none

def fourTitles : List Entry :=
  [("a", "B"), ("b", ""), ("c", "B"), ("d", "C")].map fun (id, title) =>
    { Entry.writtenBy id [] with fields := [("title", title)] }

def sortedByTitle : Session :=
  let style := Style.citing [.ofSource (.var "title" .long)]
  new { style with citation := { style.citation with sort := some [lastTitleFirst] } }
    (fourTitles.map fun e => (e.id, e)) {}

theorem cites_joined_in_order_of_five :
    let c := Citation.of ["x", "a", "b", "c", "d"]
    let s := sortedByTitle.register [c]
    SortSpec.compareRows [lastTitleFirst] (fun _ => "C") (fun _ => "") ≠ .gt ∧
      (s.renderer.sortItems [lastTitleFirst] RenderContext.bibliography fourTitles).map (·.id) =
        ["d", "a", "c", "b"] ∧
      ∃ ordered : List PlacedCite, ordered.length = 5 ∧
        ordered.getLast?.map (·.item.id) = some "x" ∧ s.renderCitation c (s.placements.headD []) =
          (CiteJoiner.join { options := {}, delimiter := "" }
            (ordered.map s.renderCite)).decorate {} := by
  intro c s
  have hle := (cites_joined_in_order.1 [lastTitleFirst]).2.2.1 (fun _ => "C") (fun _ => "B")
    (fun _ => "") (by decide +kernel) (by decide +kernel)
  obtain ⟨hmap, -, -, hunique⟩ := cites_joined_in_order.2.1 s.renderer [lastTitleFirst] Entry
    RenderContext.bibliography fourTitles
  have horder := hunique (([3, 0, 2, 1] : List (Fin 4)).map (Fin.cast rfl)) (by decide +kernel)
    (by decide +kernel)
  obtain ⟨ordered, hitems, hperm, hsome, -, hjoined⟩ := cites_joined_in_order.2.2 s.style
    s.bibliography s.options [.register [c]] c (s.placements.headD []) _ (.inl (by decide +kernel)) rfl
  refine ⟨Ordering.isLE_iff_ne_gt.mp hle, ?_, ordered, ?_, ?_, hjoined⟩
  · rw [hmap, ← horder]
    rfl
  · rw [hperm.length_eq, ← List.length_map (·.item), hitems]
    rfl
  · have hlast : ((s.placeCites c (s.placements.headD [])).filter (·.entry.isNone)).getLast?.map
        (·.item.id) = some "x" := by decide +kernel
    obtain ⟨x, hx, hid⟩ := Option.map_eq_some_iff.mp hlast
    refine Option.map_eq_some_iff.mpr ⟨x, ?_, hid⟩
    rw [hsome _ rfl, List.getLast?_append]
    exact Option.or_eq_some_iff.mpr (.inl hx)

end Citeproc.Session
