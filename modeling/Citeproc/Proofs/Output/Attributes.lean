import Citeproc.Proofs.Output.Markup
import Citeproc.Session.References

namespace Citeproc

namespace Html

structure Tag where
  closing : Bool
  name : String
  attributes : List (String × String)
  deriving DecidableEq, Repr

inductive Reading
  | inText
  | opened
  | name (closing : Bool) (name : List Char)
  | between (tag : Tag)
  | attributeName (tag : Tag) (name : List Char)
  | named (tag : Tag) (name : List Char)
  | equals (tag : Tag) (name : List Char)
  | quoted (tag : Tag) (name : List Char) (mark : Char) (value : List Char)
  | unquoted (tag : Tag) (name value : List Char)
  deriving DecidableEq, Repr

def isSpace (c : Char) : Bool := c ∈ [' ', '\t', '\n', '\x0c', '\r']

def Tag.with (tag : Tag) (name value : List Char) : Tag :=
  { tag with attributes := tag.attributes ++ [(String.ofList name, String.ofList (resolve value))] }

namespace Reading

def beginAttribute (tag : Tag) (c : Char) : Option Tag × Reading :=
  if c = '>' then (some tag, inText)
  else if isSpace c || c = '/' then (none, between tag)
  else (none, attributeName tag [c])

def next (c : Char) : Reading → Option Tag × Reading
  | inText => (none, if c = '<' then opened else inText)
  | opened =>
    (none, if c = '/' then name true [] else if c.isAlpha then name false [c] else inText)
  | name closing n =>
    let tag : Tag := { closing, name := String.ofList n, attributes := [] }
    if c = '>' || isSpace c || c = '/' then beginAttribute tag c else (none, name closing (n ++ [c]))
  | between tag => beginAttribute tag c
  | attributeName tag n =>
    if c = '=' then (none, equals tag n)
    else if isSpace c then (none, named tag n)
    else if c = '>' || c = '/' then beginAttribute (tag.with n []) c
    else (none, attributeName tag (n ++ [c]))
  | named tag n =>
    if c = '=' then (none, equals tag n)
    else if isSpace c then (none, named tag n)
    else beginAttribute (tag.with n []) c
  | equals tag n =>
    if isSpace c then (none, equals tag n)
    else if c = '"' || c = '\'' then (none, quoted tag n c [])
    else if c = '>' then (some (tag.with n []), inText)
    else (none, unquoted tag n [c])
  | quoted tag n mark v =>
    (none, if c = mark then between (tag.with n v) else quoted tag n mark (v ++ [c]))
  | unquoted tag n v =>
    if c = '>' then (some (tag.with n v), inText)
    else if isSpace c then (none, between (tag.with n v))
    else (none, unquoted tag n (v ++ [c]))

def run : Reading → List Char → List Tag × Reading
  | r, [] => ([], r)
  | r, c :: cs => (((r.next c).1.toList ++ (run (r.next c).2 cs).1), (run (r.next c).2 cs).2)

def first? : Reading → List Char → Option (Tag × List Char)
  | _, [] => none
  | r, c :: cs =>
    match r.next c with
    | (some tag, _) => some (tag, cs)
    | (none, r) => first? r cs

end Reading

def tags (html : String) : List Tag := (Reading.inText.run html.toList).1

def firstTag? (html : String) : Option (Tag × String) :=
  (Reading.inText.first? html.toList).map fun (tag, rest) => (tag, String.ofList rest)

def openTag (name : String) (attributes : List (String × String)) : Tag :=
  { closing := false, name, attributes }

def closeTag (name : String) : Tag := { closing := true, name, attributes := [] }

def formattingTags : List Tag :=
  [openTag "i" [], openTag "b" [], openTag "span" [("style", "font-variant:small-caps;")],
    openTag "span" [("style", "text-decoration:underline;")], openTag "sup" [], openTag "sub" [],
    openTag "div" [("class", "csl-block")], openTag "div" [("class", "csl-left-margin")],
    openTag "div" [("class", "csl-right-inline")], openTag "div" [("class", "csl-indent")]] ++
  ["i", "b", "span", "sup", "sub", "div"].map closeTag

example : tags "a <i class=x id='y'>b</i> <sup/>" =
    [openTag "i" [("class", "x"), ("id", "y")], closeTag "i", openTag "sup" []] := rfl

example : tags "<div class=\"csl-indent\"  id=\"&lt;&amp;lt;\" checked>" =
    [openTag "div" [("class", "csl-indent"), ("id", "<&lt;"), ("checked", "")]] := rfl

namespace Reading

theorem run_append (r : Reading) (cs ds : List Char) : r.run (cs ++ ds) =
    ((r.run cs).1 ++ ((r.run cs).2.run ds).1, ((r.run cs).2.run ds).2) := by
  induction cs generalizing r with
  | nil => rfl
  | cons c cs ih => simp [run, ih]

theorem head?_run (r : Reading) (cs : List Char) : (r.run cs).1.head? = (r.first? cs).map (·.1) := by
  induction cs generalizing r with
  | nil => rfl
  | cons c cs ih =>
    rw [run, first?]
    split
    · next tag r' h => simp [h]
    · next r' h => simp [h, ih]

theorem first?_append {r r' : Reading} {cs : List Char} (h : r.run cs = ([], r')) (ds : List Char) :
    r.first? (cs ++ ds) = r'.first? ds := by
  induction cs generalizing r with
  | nil =>
    obtain ⟨-, rfl⟩ := Prod.mk.inj h
    rfl
  | cons c cs ih =>
    obtain ⟨htags, hrest⟩ := Prod.mk.inj h
    obtain ⟨hnone, htags⟩ := List.append_eq_nil_iff.mp htags
    rw [Option.toList_eq_nil_iff] at hnone
    rw [List.cons_append, first?]
    split
    · next heq => simp [heq] at hnone
    · next r₁ heq =>
      rw [heq] at htags hrest
      exact ih (Prod.ext htags hrest)

theorem run_quoted {value : List Char} (h : '"' ∉ value) (tag : Tag) (name before : List Char) :
    (quoted tag name '"' before).run value = ([], quoted tag name '"' (before ++ value)) := by
  induction value generalizing before with
  | nil => simp [run]
  | cons c value ih =>
    rw [List.mem_cons, not_or] at h
    simp [run, next, Ne.symm h.1, ih h.2]

def attributes : Reading → List (String × String)
  | inText | opened | name _ _ => []
  | between tag | attributeName tag _ | named tag _ | equals tag _ | quoted tag _ _ _ | unquoted tag _ _ =>
    tag.attributes

theorem prefix_with (tag : Tag) (name value : List Char) :
    tag.attributes <+: (tag.with name value).attributes :=
  List.prefix_append _ _

def known (step : Option Tag × Reading) : List (String × String) :=
  step.1.elim step.2.attributes (·.attributes)

theorem prefix_beginAttribute (tag : Tag) (c : Char) :
    tag.attributes <+: known (beginAttribute tag c) := by
  unfold beginAttribute
  split
  · exact List.prefix_refl _
  · split <;> exact List.prefix_refl _

theorem prefix_next (r : Reading) (c : Char) : r.attributes <+: known (r.next c) := by
  have hbegin (tag : Tag) (name : List Char) :
      tag.attributes <+: known (beginAttribute (tag.with name []) c) :=
    (prefix_with tag name []).trans (prefix_beginAttribute _ c)
  cases r with
  | inText => exact List.nil_prefix
  | opened => exact List.nil_prefix
  | name => exact List.nil_prefix
  | between tag => exact prefix_beginAttribute tag c
  | attributeName tag name =>
    simp only [next]
    repeat' split
    all_goals first | exact List.prefix_refl _ | exact hbegin tag name
  | named tag name =>
    simp only [next]
    repeat' split
    all_goals first | exact List.prefix_refl _ | exact hbegin tag name
  | equals tag name =>
    simp only [next]
    repeat' split
    all_goals first | exact List.prefix_refl _ | exact prefix_with tag name []
  | quoted tag name mark value =>
    simp only [next]
    split
    · exact prefix_with tag name value
    · exact List.prefix_refl _
  | unquoted tag name value =>
    simp only [next]
    repeat' split
    all_goals first | exact List.prefix_refl _ | exact prefix_with tag name value

theorem prefix_first? {r : Reading} {cs rest : List Char} {tag : Tag}
    (h : r.first? cs = some (tag, rest)) :
    r.attributes <+: tag.attributes := by
  induction cs generalizing r with
  | nil => cases h
  | cons c cs ih =>
    have hstep := prefix_next r c
    rw [first?] at h
    split at h
    · next found _ heq =>
      obtain ⟨rfl, -⟩ := Prod.mk.inj (Option.some.inj h)
      rwa [heq] at hstep
    · next r' heq =>
      rw [heq] at hstep
      exact hstep.trans (ih h)

end Reading

open Reading (inText between quoted run_append run_quoted)

theorem run_escapeChar (c : Char) : inText.run (escapeChar c) = ([], inText) := by
  obtain rfl | rfl | rfl | ⟨⟨-, hless, -⟩, hc⟩ := escapeChar_cases c
  · decide
  · decide
  · decide
  · simp [hc, Reading.run, Reading.next, hless]

theorem run_element : ∀ e ∈ elements, ∀ html ∈ [e.1, e.2],
    (inText.run html.toList).2 = inText ∧ ∀ tag ∈ (inText.run html.toList).1, tag ∈ formattingTags := by
  decide +kernel

theorem StandsFor.run_inText {html text : List Char} (h : StandsFor html text) :
    (inText.run html).2 = inText ∧ ∀ tag ∈ (inText.run html).1, tag ∈ formattingTags := by
  induction h with
  | nil => exact ⟨rfl, by simp [Reading.run]⟩
  | char c => simp [run_escapeChar]
  | append _ _ ih ih' =>
    rw [run_append, ih.1]
    exact ⟨ih'.1, List.forall_mem_append.mpr ⟨ih.2, ih'.2⟩⟩
  | element hel _ _ ih =>
    have hopening := run_element _ hel _ (List.mem_cons_self)
    have hclosing := run_element _ hel _ (List.mem_cons_of_mem _ List.mem_cons_self)
    rw [run_append, run_append, hopening.1, ih.1]
    exact ⟨hclosing.1,
      List.forall_mem_append.mpr ⟨List.forall_mem_append.mpr ⟨hopening.2, ih.2⟩, hclosing.2⟩⟩

section Entry

def entryTag (id : String) : Tag := openTag "div" [("class", "csl-entry"), ("id", "ref-" ++ id)]

theorem resolve_escape (cs : List Char) : resolve (cs.flatMap escapeChar) = cs := by
  induction cs with
  | nil => rfl
  | cons c cs ih => rw [List.flatMap_cons, resolve_escapeChar, ih]

theorem notMem_escape {cs : List Char} (h : '"' ∉ cs) : '"' ∉ cs.flatMap escapeChar := by
  rw [List.mem_flatMap]
  rintro ⟨c, hc, hmem⟩
  obtain rfl | rfl | rfl | ⟨-, hplain⟩ := escapeChar_cases c
  · exact absurd hmem (by decide)
  · exact absurd hmem (by decide)
  · exact absurd hmem (by decide)
  · rw [hplain, List.mem_singleton] at hmem
    exact h (hmem ▸ hc)

theorem run_entry_id {front : List Char} (h : '"' ∉ front) :
    inText.run ("<div class=\"csl-entry\" id=\"ref-".toList ++ (front.flatMap escapeChar ++ ['"'])) =
      ([], between (entryTag (String.ofList front))) := by
  have hopening : inText.run "<div class=\"csl-entry\" id=\"ref-".toList =
      ([], quoted (openTag "div" [("class", "csl-entry")]) "id".toList '"' "ref-".toList) := by
    decide +kernel
  have hvalue : String.ofList (resolve ("ref-".toList ++ front.flatMap escapeChar)) =
      "ref-" ++ String.ofList front := by
    apply String.toList_injective
    simp [resolve, resolve_escape]
  rw [run_append, run_append, hopening]
  dsimp only
  rw [run_quoted (notMem_escape h), entryTag, ← hvalue]
  rfl

theorem toList_entry (id content : String) : (entry id content).toList =
    "<div class=\"csl-entry\" id=\"ref-".toList ++ (id.toList.flatMap escapeChar ++ ['"']) ++
      '>' :: (content.toList ++ "</div>".toList) := by
  have happend (a b c d : String) : (a ++ escape b ++ "\">" ++ c ++ d).toList =
      a.toList ++ (b.toList.flatMap escapeChar ++ ['"']) ++ '>' :: (c.toList ++ d.toList) := by
    simp [escape]
  exact happend _ _ _ _

variable {id : String} (content : String)

theorem run_entry (h : '"' ∉ id.toList) (rest : List Char) :
    inText.run ((entry id content).toList ++ rest) =
      (entryTag id :: (inText.run (content.toList ++ ("</div>".toList ++ rest))).1,
        (inText.run (content.toList ++ ("</div>".toList ++ rest))).2) := by
  have hid := run_entry_id h
  rw [String.ofList_toList] at hid
  rw [toList_entry, List.append_assoc, run_append, hid, List.cons_append, List.append_assoc]
  rfl

theorem first?_entry (h : '"' ∉ id.toList) (rest : List Char) :
    inText.first? ((entry id content).toList ++ rest) =
      some (entryTag id, content.toList ++ ("</div>".toList ++ rest)) := by
  have hid := run_entry_id h
  rw [String.ofList_toList] at hid
  rw [toList_entry, List.append_assoc, Reading.first?_append hid, List.cons_append, List.append_assoc]
  rfl

theorem not_entryTag_of_mem (h : '"' ∈ id.toList) (rest : List Char) :
    entryTag id ∉ (inText.first? ((entry id content).toList ++ rest)).map (·.1) := by
  obtain ⟨front, back, heq, hfront⟩ := List.eq_append_cons_of_mem h
  have hchars : (entry id content).toList ++ rest =
      "<div class=\"csl-entry\" id=\"ref-".toList ++ (front.flatMap escapeChar ++ ['"']) ++
        (back.flatMap escapeChar ++ (['"'] ++
          ('>' :: (content.toList ++ "</div>".toList) ++ rest))) := by
    simp only [toList_entry, heq, List.flatMap_append, List.flatMap_cons, List.append_assoc]
    rfl
  rw [hchars, Reading.first?_append (run_entry_id hfront)]
  intro hmem
  obtain ⟨⟨tag, rest'⟩, hfirst, htag⟩ := Option.map_eq_some_iff.mp hmem
  obtain rfl : tag = entryTag id := htag
  have hknown := Reading.prefix_first? hfirst
  have hsame := hknown.eq_of_length rfl
  have hid : "ref-" ++ String.ofList front = "ref-" ++ id :=
    congrArg (fun attributes : List (String × String) => (attributes.getLastD ("", "")).2) hsame
  have hlength := congrArg (·.toList.length) hid
  simp [heq] at hlength

theorem firstTag?_entry_iff (id content : String) :
    firstTag? (entry id content) = some (entryTag id, content ++ "</div>") ↔ '"' ∉ id.toList := by
  have hwhole : (entry id content).toList = (entry id content).toList ++ [] := (List.append_nil _).symm
  rw [firstTag?, hwhole]
  constructor
  · intro hfirst hmem
    apply not_entryTag_of_mem content hmem []
    obtain ⟨⟨tag, rest⟩, hfound, htag⟩ := Option.map_eq_some_iff.mp hfirst
    exact Option.map_eq_some_iff.mpr ⟨_, hfound, (Prod.mk.inj htag).1⟩
  · intro h
    rw [first?_entry content h, Option.map_some, ← String.ofList_toList (s := content ++ "</div>"),
      String.toList_append, List.append_nil]

theorem run_entry_closed (h : '"' ∉ id.toList) (hcontent : (inText.run content.toList).2 = inText)
    (rest : List Char) : (inText.run ((entry id content).toList ++ rest)).1 =
      entryTag id :: (tags content ++ closeTag "div" :: (inText.run rest).1) := by
  have hclosing : inText.run "</div>".toList = ([closeTag "div"], inText) := rfl
  rw [run_entry content h, run_append, hcontent, run_append, hclosing]
  rfl

theorem run_entries_iff {entries : List (String × String)}
    (hcontents : ∀ e ∈ entries, (inText.run e.2.toList).2 = inText) (rest : List Char) :
    (inText.run (['\n'].intercalate (entries.map fun e => (entry e.1 e.2).toList) ++ rest)).1 =
        (entries.flatMap fun e => entryTag e.1 :: (tags e.2 ++ [closeTag "div"])) ++
          (inText.run rest).1 ↔
      ∀ e ∈ entries, '"' ∉ e.1.toList := by
  induction entries with
  | nil => simp
  | cons e entries ih =>
    rw [List.forall_mem_cons] at hcontents
    obtain ⟨behind, hentries, hbehind⟩ : ∃ behind : List Char,
        ['\n'].intercalate ((e :: entries).map fun e => (entry e.1 e.2).toList) ++ rest =
          (entry e.1 e.2).toList ++ behind ∧
        inText.run behind =
          inText.run (['\n'].intercalate (entries.map fun e => (entry e.1 e.2).toList) ++ rest) := by
      cases entries with
      | nil => exact ⟨rest, by simp, by simp⟩
      | cons e' entries =>
        refine ⟨'\n' :: (['\n'].intercalate ((e' :: entries).map fun e => (entry e.1 e.2).toList) ++
          rest),
          ?_, rfl⟩
        simp [List.intercalate_cons_cons]
    rw [hentries, List.forall_mem_cons]
    by_cases hquote : '"' ∈ e.1.toList
    · refine iff_of_false (fun htags => ?_) (fun h => h.1 hquote)
      apply not_entryTag_of_mem e.2 hquote behind
      rw [← Reading.head?_run, htags]
      rfl
    · rw [run_entry_closed e.2 hquote hcontents.1, hbehind, List.flatMap_cons]
      simpa [hquote] using ih hcontents.2

theorem toList_bibliography (entries : List String) : (bibliography entries).toList =
    "<div class=\"csl-bib-body\">\n".toList ++
      (['\n'].intercalate (entries.map String.toList) ++ "\n</div>".toList) := by
  have happend (a b : String) : (a ++ "\n".intercalate entries ++ b).toList =
      a.toList ++ (['\n'].intercalate (entries.map String.toList) ++ b.toList) := by
    rw [String.toList_append, String.toList_append, String.toList_intercalate, List.append_assoc]
    rfl
  exact happend _ _

theorem tags_bibliography_iff {entries : List (String × String)}
    (hcontents : ∀ e ∈ entries, (inText.run e.2.toList).2 = inText) :
    tags (bibliography (entries.map fun e => entry e.1 e.2)) =
        openTag "div" [("class", "csl-bib-body")] ::
          ((entries.flatMap fun e => entryTag e.1 :: (tags e.2 ++ [closeTag "div"])) ++
            [closeTag "div"]) ↔
      ∀ e ∈ entries, '"' ∉ e.1.toList := by
  have hopening : inText.run "<div class=\"csl-bib-body\">\n".toList =
      ([openTag "div" [("class", "csl-bib-body")]], inText) := rfl
  have hclosing : inText.run "\n</div>".toList = ([closeTag "div"], inText) := rfl
  have hiff := run_entries_iff hcontents "\n</div>".toList
  rw [hclosing] at hiff
  rw [← hiff, tags, toList_bibliography, run_append, hopening, List.map_map, List.singleton_append,
    List.cons_inj_right]
  rfl

end Entry

theorem run_finish (marks : QuoteMarks) (o : Output) :
    (inText.run (format.finish marks o).toList).2 = inText ∧
      ∀ tag ∈ tags (format.finish marks o), tag ∈ formattingTags :=
  (standsFor_renderAt marks 0 (o.tidy marks)).run_inText

end Html

/-- The element of an entry begins with the tag meant, with these two attributes and no other, just
when its id holds no quotation mark; and so the tags of a bibliography are those of its entries and
of the formatting in them just when no id holds one. -/
theorem Session.tags_bibliographyText (s : Session) :
    (∀ id content : String,
      Html.firstTag? (Html.entry id content) = some (Html.entryTag id, content ++ "</div>") ↔
        '"' ∉ id.toList) ∧
    (Html.tags (s.bibliographyText Html.format) =
        Html.openTag "div" [("class", "csl-bib-body")] ::
          ((s.referenceOutputs.flatMap fun (id, o) =>
              Html.entryTag id :: (Html.tags (Html.format.finish s.quoteMarks o) ++
                [Html.closeTag "div"])) ++
            [Html.closeTag "div"]) ↔
      ∀ r ∈ s.referenceOutputs, '"' ∉ r.1.toList) ∧
    ∀ r ∈ s.referenceOutputs, ∀ tag ∈ Html.tags (Html.format.finish s.quoteMarks r.2),
      tag ∈ Html.formattingTags := by
  refine ⟨Html.firstTag?_entry_iff, ?_, fun r _ => (Html.run_finish s.quoteMarks r.2).2⟩
  have hcontents : ∀ e ∈ s.referenceOutputs.map fun r => (r.1, Html.format.finish s.quoteMarks r.2),
      (Html.Reading.inText.run e.2.toList).2 = .inText :=
    List.forall_mem_map.mpr fun r _ => (Html.run_finish s.quoteMarks r.2).1
  have hiff := Html.tags_bibliography_iff hcontents
  rw [List.map_map, List.flatMap_map, List.forall_mem_map] at hiff
  exact hiff

theorem Html.entry_adds_attribute : Html.firstTag? (Html.entry "a\" onclick=\"f()" "A") =
    some (Html.openTag "div" [("class", "csl-entry"), ("id", "ref-a"), ("onclick", "f()")],
      "A</div>") := by
  decide +kernel

end Citeproc
