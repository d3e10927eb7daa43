import Citeproc.Proofs.Session.Numbering
import Citeproc.Proofs.Style.Layouts
import Citeproc.Session.References

/-!
Entries of the bibliography by the authors of the entry in front of them. Each is compared with the
entry in front of it as both are without substitutes, so a run of entries by the same authors may
have any length.
-/

namespace Citeproc

namespace Session

variable (s : Session)

def laidOut? (id : String) : Option (Entry × Layout) :=
  (s.bibliography.get? id).bind fun e => (s.renderer.bibliographyLayout? e).map (e, ·)

def ownNames? (id : String) : Option String :=
  (s.laidOut? id).bind fun (e, layout) => (s.renderEntry layout e none).firstNames?.map (·.plain)

def comparedNames? (id : String) : Option String := (s.ownNames? id).filter (!·.isEmpty)

def referenceAfter (substitute previous : Option String) (id : String) : Output :=
  (s.laidOut? id).elim .null fun (e, layout) => (s.renderAfter substitute previous layout e).1

def Repeats (place : Nat) : Prop :=
  0 < place ∧ ∃ names, names ≠ "" ∧
    s.listing.order[place]?.bind s.ownNames? = some names ∧
    s.listing.order[place - 1]?.bind s.ownNames? = some names

variable {s} {substitute previous : Option String} {id : String} {ids : List String}

theorem laidOut?_eq_some_iff {e : Entry} {layout : Layout} :
    s.laidOut? id = some (e, layout) ↔
      s.bibliography.get? id = some e ∧ s.renderer.bibliographyLayout? e = some layout := by
  simp only [laidOut?, Option.bind_eq_some_iff, Option.map_eq_some_iff, Prod.mk.injEq]
  constructor
  · rintro ⟨e, he, layout, hlayout, rfl, rfl⟩
    exact ⟨he, hlayout⟩
  · rintro ⟨he, hlayout⟩
    exact ⟨e, he, layout, hlayout, rfl, rfl⟩

theorem comparedNames?_of_laidOut? {e : Entry} {layout : Layout}
    (hlaid : s.laidOut? id = some (e, layout)) :
    s.comparedNames? id = shownNames (s.renderEntry layout e none) := by
  rw [comparedNames?, ownNames?, hlaid]
  rfl

theorem comparedNames?_eq_some_iff {names : String} :
    s.comparedNames? id = some names ↔ s.ownNames? id = some names ∧ names ≠ "" := by
  simp [comparedNames?, Option.filter_eq_some_iff]

theorem renderReferences_eq (hids : ∀ id ∈ ids, (s.laidOut? id).isSome = true) :
    s.renderReferences substitute previous ids =
      ((previous :: ids.map s.comparedNames?).zip ids).map
        fun (previous, id) => (id, s.referenceAfter substitute previous id) := by
  induction ids generalizing previous with
  | nil => rfl
  | cons id ids ih =>
    obtain ⟨hid, hids⟩ := List.forall_mem_cons.mp hids
    obtain ⟨⟨e, layout⟩, hlaid⟩ := Option.isSome_iff_exists.mp hid
    obtain ⟨he, hlayout⟩ := laidOut?_eq_some_iff.mp hlaid
    have hnames : (s.renderAfter substitute previous layout e).2 = s.comparedNames? id :=
      (comparedNames?_of_laidOut? hlaid).symm
    have hafter : s.referenceAfter substitute previous id =
        (s.renderAfter substitute previous layout e).1 := by
      rw [referenceAfter, hlaid]
      rfl
    simp only [renderReferences, he, hlayout]
    rw [ih hids, hnames, List.map_cons, List.zip_cons_cons, List.map_cons, hafter]

theorem repeats_iff {place : Nat} (hid : s.listing.order[place]? = some id)
    (hprevious : (none :: s.listing.order.map s.comparedNames?)[place]? = some previous) :
    s.Repeats place ↔ ∃ names, s.comparedNames? id = some names ∧ previous = some names := by
  cases place with
  | zero =>
    obtain rfl : none = previous := Option.some.inj hprevious
    simp [Repeats]
  | succ place =>
    rw [List.getElem?_cons_succ, List.getElem?_map, Option.map_eq_some_iff] at hprevious
    obtain ⟨front, hfront, rfl⟩ := hprevious
    simp only [Repeats, hid, hfront, comparedNames?_eq_some_iff, Nat.add_sub_cancel, Option.bind_some]
    constructor
    · rintro ⟨-, names, hne, hown, hbefore⟩
      exact ⟨names, ⟨hown, hne⟩, hbefore, hne⟩
    · rintro ⟨names, ⟨hown, hne⟩, hbefore, -⟩
      exact ⟨Nat.succ_pos _, names, hne, hown, hbefore⟩

theorem referenceAfter_eq {e : Entry} {layout : Layout} (hlaid : s.laidOut? id = some (e, layout))
    {repeated : Prop} (hrepeated : repeated ↔
      ∃ names, s.comparedNames? id = some names ∧ previous = some names) :
    (substitute.isSome = true ∧ repeated → s.referenceAfter substitute previous id =
      (s.renderEntry layout e substitute).decorate layout.rendering) ∧
    (¬(substitute.isSome = true ∧ repeated) → s.referenceAfter substitute previous id =
      (s.renderEntry layout e none).decorate layout.rendering) := by
  have hown := comparedNames?_of_laidOut? hlaid
  have hcompared : (substitute.isSome && (shownNames (s.renderEntry layout e none)).isSome &&
      shownNames (s.renderEntry layout e none) == previous) = true ↔
        substitute.isSome = true ∧ repeated := by
    rw [hrepeated, hown, Bool.and_eq_true, Bool.and_eq_true, beq_iff_eq, and_assoc,
      Option.isSome_iff_exists, Option.isSome_iff_exists]
    apply and_congr_right
    rintro -
    constructor
    · rintro ⟨⟨names, hnames⟩, hsame⟩
      exact ⟨names, hnames, hsame ▸ hnames⟩
    · rintro ⟨names, hnames, hprevious⟩
      exact ⟨⟨names, hnames⟩, hnames.trans hprevious.symm⟩
  simp only [referenceAfter, hlaid, Option.elim_some, renderAfter]
  constructor
  · intro h
    rw [if_pos (hcompared.mpr h)]
  · intro h
    rw [if_neg (mt hcompared.mp h)]

section Listed

variable {source : String} {style : Style} {b : BibliographySection} {bibliography : Bibliography}
  {options : SessionOptions} {citations : List Citation}

theorem Listed.laidOut?_isSome (h : s.Listed style bibliography options citations)
    (hstyle : Style.parse source = .ok style) (hb : style.bibliography = some b)
    (hkeyed : bibliography.Keyed) : ∀ id ∈ s.listing.order, (s.laidOut? id).isSome = true := by
  intro id hid
  rw [h.listing_eq, (Listing.order_perm _ _ _ hkeyed).mem_iff, Listing.mem_registered] at hid
  obtain ⟨e, he⟩ := Option.isSome_iff_exists.mp ((Table.get?_isSome_iff bibliography id).mpr hid.1)
  obtain ⟨layout, -, hlayout⟩ :=
    exists_selectLayout? (Style.bibliography_layouts_ne_nil hstyle hb) (e.field? "language")
  rw [Option.isSome_iff_exists]
  refine ⟨(e, layout), laidOut?_eq_some_iff.mpr ⟨by rw [h.bibliography_eq, he], ?_⟩⟩
  rw [Renderer.bibliographyLayout?, renderer, h.style_eq, hb, Option.bind_some, hlayout]

theorem referenceOutputs_eq (hb : s.style.bibliography = some b)
    (hlaid : ∀ id ∈ s.listing.order, (s.laidOut? id).isSome = true) :
    s.referenceOutputs = ((none :: s.listing.order.map s.comparedNames?).zip s.listing.order).map
      fun (previous, id) => (id, s.referenceAfter b.options.subsequentAuthorSubstitute previous id) := by
  rw [referenceOutputs, hb]
  exact renderReferences_eq hlaid

end Listed

/-- The bibliography has an entry for each id that is listed, in that order. The names of an entry
are replaced when the style asks for it and the entry in front of it shows the same names by itself,
and all other entries are shown as they are by themselves. -/
theorem repeated_authors_replaced {source : String} {style : Style} {b : BibliographySection}
    (hstyle : Style.parse source = .ok style) (hb : style.bibliography = some b)
    {bibliography : Bibliography} (hkeyed : bibliography.Keyed) (options : SessionOptions)
    (calls : List Call) :
    let s := (new style bibliography options).run calls
    let substitute := b.options.subsequentAuthorSubstitute
    s.references.map (·.id) = s.listing.order ∧ s.listing.order.Nodup ∧
    ∀ place id, s.listing.order[place]? = some id → ∃ e layout o reference,
      bibliography.get? id = some e ∧ s.renderer.bibliographyLayout? e = some layout ∧
      s.referenceOutputs[place]? = some (id, o) ∧ s.references[place]? = some reference ∧
      reference.text = PlainText.format.finish s.quoteMarks o ∧
      (substitute.isSome = true ∧ s.Repeats place →
        o = (s.renderEntry layout e substitute).decorate layout.rendering) ∧
      (¬(substitute.isSome = true ∧ s.Repeats place) →
        o = (s.renderEntry layout e none).decorate layout.rendering ∧
          s.entryText id = .ok reference.text) := by
  intro s substitute
  have hs : s.Listed style bibliography options ((Call.lastCitations? calls).getD []) :=
    listed_run style bibliography options calls
  have hlaid := hs.laidOut?_isSome hstyle hb hkeyed
  have houtputs := referenceOutputs_eq (hs.style_eq ▸ hb) hlaid
  refine ⟨?_, ?_, ?_⟩
  · rw [references, houtputs, List.map_map, List.map_map]
    exact List.map_snd_zip (by simp)
  · rw [hs.listing_eq, (Listing.order_perm _ _ _ hkeyed).nodup_iff]
    exact Listing.nodup_registered _ _ hkeyed
  · intro place id hid
    obtain ⟨⟨e, layout⟩, he⟩ := Option.isSome_iff_exists.mp (hlaid id (List.mem_of_getElem? hid))
    obtain ⟨hentry, hlayout⟩ := laidOut?_eq_some_iff.mp he
    obtain ⟨previous, hprevious⟩ : ∃ previous,
        (none :: s.listing.order.map s.comparedNames?)[place]? = some previous := by
      obtain ⟨hlt, -⟩ := List.getElem?_eq_some_iff.mp hid
      refine ⟨_, List.getElem?_eq_getElem ?_⟩
      rw [List.length_cons, List.length_map]
      exact Nat.lt_succ_of_lt hlt
    have hpair := List.getElem?_zip_eq_some (z := (previous, id)).mpr ⟨hprevious, hid⟩
    have houtput : s.referenceOutputs[place]? = some (id, s.referenceAfter substitute previous id) := by
      rw [houtputs, List.getElem?_map, hpair]
      rfl
    obtain ⟨reference, hreference, htext⟩ : ∃ reference, s.references[place]? = some reference ∧
        reference.text = PlainText.format.finish s.quoteMarks
          (s.referenceAfter substitute previous id) := by
      rw [references, List.getElem?_map, houtput]
      exact ⟨_, rfl, rfl⟩
    obtain ⟨hreplaced, hkept⟩ := referenceAfter_eq he (repeats_iff hid hprevious)
    refine ⟨e, layout, _, reference, hs.bibliography_eq ▸ hentry, hlayout, houtput, hreference, htext,
      hreplaced, fun h => ⟨hkept h, ?_⟩⟩
    rw [entryText, hentry]
    dsimp only
    rw [hlayout, htext, hkept h]

def dashedStyle : String :=
  "<style class=\"in-text\"><citation><layout><text variable=\"title\"/></layout></citation>" ++
    "<bibliography subsequent-author-substitute=\"---\"><layout><group delimiter=\". \">" ++
      "<names variable=\"author\"/><text variable=\"title\"/></group></layout></bibliography></style>"

theorem repeated_authors_replaced_of_five :
    let entry (id : String) (authors : List Name) : String × Entry :=
      (id, { Entry.writtenBy id authors with fields := [("title", id)] })
    let doe := Name.person "Doe" "John"
    let entries : Bibliography :=
      [entry "a" [doe], entry "b" [doe], entry "c" [doe], entry "d" [], entry "e" [doe]]
    entries.Keyed ∧ ∃ style b, Style.parse dashedStyle = .ok style ∧ style.bibliography = some b ∧
      let s := (new style entries {}).run []
      s.references.map (·.id) = ["a", "b", "c", "d", "e"] ∧
        s.references.map (·.text) = ["John Doe. a", "---. b", "---. c", "d", "John Doe. e"] ∧
        s.Repeats 2 ∧ ¬s.Repeats 4 ∧ s.entryText "e" = .ok "John Doe. e" := by
  intro entry doe entries
  have hkeyed : entries.Keyed := ⟨by decide, by decide⟩
  have hread : ((Style.parse dashedStyle).toOption.map fun style =>
      let s := (new style entries {}).run []
      (s.listing.order, s.listing.order.map s.ownNames?, s.references.map (·.text),
        style.bibliography.isSome)) =
      some (["a", "b", "c", "d", "e"],
        [some "John Doe", some "John Doe", some "John Doe", none, some "John Doe"],
        ["John Doe. a", "---. b", "---. c", "d", "John Doe. e"], true) := by
    decide +kernel
  cases hstyle : Style.parse dashedStyle with
  | error cause =>
    rw [hstyle] at hread
    cases hread
  | ok style =>
    rw [hstyle] at hread
    obtain ⟨horder, hrest⟩ := Prod.mk.inj (Option.some.inj hread)
    obtain ⟨hnames, hrest⟩ := Prod.mk.inj hrest
    obtain ⟨htexts, hbibliography⟩ := Prod.mk.inj hrest
    obtain ⟨b, hb⟩ := Option.isSome_iff_exists.mp hbibliography
    let s := (new style entries {}).run []
    have own (place : Nat) : s.listing.order[place]?.bind s.ownNames? =
        (s.listing.order.map s.ownNames?)[place]?.join := by
      rw [List.getElem?_map]
      cases s.listing.order[place]? <;> rfl
    have hrepeats : s.Repeats 2 := by
      refine ⟨Nat.two_pos, "John Doe", by decide, ?_, ?_⟩ <;> rw [own, hnames] <;> rfl
    have hafter : ¬s.Repeats 4 := by
      rintro ⟨-, names, -, -, hbefore⟩
      rw [own, hnames] at hbefore
      cases hbefore
    obtain ⟨hids, -, hplaces⟩ := repeated_authors_replaced hstyle hb hkeyed {} []
    obtain ⟨_, _, _, reference, -, -, -, hreference, -, -, hkept⟩ := hplaces 4 "e" (by rw [horder]; rfl)
    have htext : (s.references.map (·.text))[4]? = some reference.text := by
      rw [List.getElem?_map, hreference, Option.map_some]
    rw [htexts] at htext
    refine ⟨hkeyed, style, b, rfl, hb, hids.trans horder, htexts, hrepeats, hafter, ?_⟩
    rw [(hkept fun h => hafter h.2).2, ← Option.some.inj htext]

end Session

end Citeproc
