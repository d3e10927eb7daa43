import Citeproc.Output.Html
import Citeproc.Output.PlainText

namespace Citeproc.Html

def tagName (tag : List Char) : List Char := tag.takeWhile (· ≠ ' ')

def passTag (opened : List (List Char)) : List Char → Option (List (List Char))
  | '/' :: name =>
    match opened with
    | [] => none
    | innermost :: others => if innermost = name then some others else none
  | tag => some (tagName tag :: opened)

def nests (opened : List (List Char)) : Option (List Char) → List Char → Bool
  | none, [] => opened.isEmpty
  | some _, [] => false
  | none, c :: cs => if c = '<' then nests opened (some []) cs else c ≠ '>' && nests opened none cs
  | some tag, c :: cs =>
    if c = '>' then
      match passTag opened tag with
      | some opened => nests opened none cs
      | none => false
    else c ≠ '<' && nests opened (some (tag ++ [c])) cs

def WellNested (html : String) : Prop := nests [] none html.toList = true

instance (html : String) : Decidable (WellNested html) := inferInstanceAs (Decidable (_ = _))

def outside (inTag : Bool) : List Char → List Char
  | [] => []
  | c :: cs =>
    if inTag then outside (c ≠ '>') cs
    else if c = '<' then outside true cs
    else c :: outside false cs

def resolve : List Char → List Char
  | '&' :: 'a' :: 'm' :: 'p' :: ';' :: cs => '&' :: resolve cs
  | '&' :: 'l' :: 't' :: ';' :: cs => '<' :: resolve cs
  | '&' :: 'g' :: 't' :: ';' :: cs => '>' :: resolve cs
  | c :: cs => c :: resolve cs
  | [] => []

def erase (html : String) : String := String.ofList (outside false html.toList)

def unescape (s : String) : String := String.ofList (resolve s.toList)

example : WellNested "<i>R &amp; <b>D</b></i>" ∧ ¬WellNested "<i>R <b>D</i></b>" := by decide +kernel

example : unescape (erase "<i>R &amp;lt; D</i>") = "R &lt; D" := by decide +kernel

def IsElement (opening closing : String) : Prop :=
  ∃ tag : List Char, opening.toList = '<' :: (tag ++ ['>']) ∧
    closing.toList = '<' :: '/' :: (tagName tag ++ ['>']) ∧
    tag.head? ≠ some '/' ∧ '<' ∉ tag ∧ '>' ∉ tag

def elements : List (String × String) :=
  [("<i>", "</i>"), ("<b>", "</b>"), ("<span style=\"font-variant:small-caps;\">", "</span>"),
    ("<span style=\"text-decoration:underline;\">", "</span>"), ("<sup>", "</sup>"),
    ("<sub>", "</sub>"), ("<div class=\"csl-block\">", "</div>"),
    ("<div class=\"csl-left-margin\">", "</div>"), ("<div class=\"csl-right-inline\">", "</div>"),
    ("<div class=\"csl-indent\">", "</div>")]

inductive StandsFor : List Char → List Char → Prop
  | nil : StandsFor [] []
  | char (c : Char) : StandsFor (escapeChar c) [c]
  | append {html text html' text' : List Char} :
    StandsFor html text → StandsFor html' text' → StandsFor (html ++ html') (text ++ text')
  | element {opening closing : String} {html text : List Char} :
    (opening, closing) ∈ elements → html ≠ [] → StandsFor html text →
      StandsFor (opening.toList ++ html ++ closing.toList) text

section Reading

theorem escapeChar_cases (c : Char) :
    c = '&' ∨ c = '<' ∨ c = '>' ∨ (c ≠ '&' ∧ c ≠ '<' ∧ c ≠ '>') ∧ escapeChar c = [c] := by
  unfold escapeChar
  split <;> simp_all

theorem nests_escapeChar (opened : List (List Char)) (c : Char) (rest : List Char) :
    nests opened none (escapeChar c ++ rest) = nests opened none rest := by
  obtain rfl | rfl | rfl | ⟨hplain, hc⟩ := escapeChar_cases c
  · simp [escapeChar, nests]
  · simp [escapeChar, nests]
  · simp [escapeChar, nests]
  · simp [hc, nests, hplain]

theorem outside_escapeChar (c : Char) (rest : List Char) :
    outside false (escapeChar c ++ rest) = escapeChar c ++ outside false rest := by
  obtain rfl | rfl | rfl | ⟨hplain, hc⟩ := escapeChar_cases c
  · simp [escapeChar, outside]
  · simp [escapeChar, outside]
  · simp [escapeChar, outside]
  · simp [hc, outside, hplain]

theorem resolve_escapeChar (c : Char) (rest : List Char) :
    resolve (escapeChar c ++ rest) = c :: resolve rest := by
  obtain rfl | rfl | rfl | ⟨hplain, hc⟩ := escapeChar_cases c
  · simp [escapeChar, resolve]
  · simp [escapeChar, resolve]
  · simp [escapeChar, resolve]
  · rw [hc, List.singleton_append, resolve]
    all_goals simp_all

theorem nests_tag (opened : List (List Char)) {tag : List Char} (hless : '<' ∉ tag)
    (hgreater : '>' ∉ tag) (before rest : List Char) :
    nests opened (some before) (tag ++ '>' :: rest) =
      match passTag opened (before ++ tag) with
      | some opened => nests opened none rest
      | none => false := by
  induction tag generalizing before with
  | nil => simp [nests]
  | cons c tag ih =>
    rw [List.mem_cons, not_or] at hless hgreater
    rw [List.cons_append, nests, if_neg (Ne.symm hgreater.1), ih hless.2 hgreater.2]
    simp [Ne.symm hless.1]

theorem outside_tag {tag : List Char} (h : '>' ∉ tag) (rest : List Char) :
    outside true (tag ++ '>' :: rest) = outside false rest := by
  induction tag with
  | nil => simp [outside]
  | cons c tag ih =>
    rw [List.mem_cons, not_or] at h
    simpa [outside, Ne.symm h.1] using ih h.2

theorem notMem_closing {tag : List Char} {c : Char} (h : c ∉ tag) (hc : c ≠ '/') :
    c ∉ '/' :: tagName tag :=
  List.not_mem_cons_of_ne_of_not_mem hc fun hmem => h ((List.takeWhile_sublist _).subset hmem)

namespace IsElement

variable {opening closing : String} (h : IsElement opening closing)
include h

theorem nests_opening (opened : List (List Char)) (rest : List Char) :
    ∃ name, nests opened none (opening.toList ++ rest) = nests (name :: opened) none rest ∧
      ∀ rest, nests (name :: opened) none (closing.toList ++ rest) = nests opened none rest := by
  obtain ⟨tag, hopening, hclosing, hslash, hless, hgreater⟩ := h
  have hpass : passTag opened tag = some (tagName tag :: opened) := by
    unfold passTag
    split <;> simp_all
  refine ⟨tagName tag, ?_, fun rest => ?_⟩
  · rw [hopening, List.cons_append, nests, if_pos rfl, List.append_assoc, List.singleton_append,
      nests_tag opened hless hgreater, List.nil_append, hpass]
  · rw [hclosing, ← List.cons_append, List.cons_append, nests, if_pos rfl, List.append_assoc,
      List.singleton_append, nests_tag _ (notMem_closing hless (by decide))
        (notMem_closing hgreater (by decide)), List.nil_append]
    simp only [passTag, if_true]

theorem outside_opening (rest : List Char) :
    outside false (opening.toList ++ rest) = outside false rest := by
  obtain ⟨tag, hopening, -, -, -, hgreater⟩ := h
  rw [hopening, List.cons_append, List.append_assoc, List.singleton_append]
  exact outside_tag hgreater rest

theorem outside_closing (rest : List Char) :
    outside false (closing.toList ++ rest) = outside false rest := by
  obtain ⟨tag, -, hclosing, -, -, hgreater⟩ := h
  rw [hclosing, ← List.cons_append, List.cons_append, List.append_assoc, List.singleton_append]
  exact outside_tag (notMem_closing hgreater (by decide)) rest

end IsElement

theorem isElement_of_mem {opening closing : String} (h : (opening, closing) ∈ elements) :
    IsElement opening closing := by
  have hall : elements.all (fun e =>
      let tag := (e.1.toList.drop 1).dropLast
      e.1.toList = '<' :: (tag ++ ['>']) && e.2.toList = '<' :: '/' :: (tagName tag ++ ['>']) &&
        tag.head? ≠ some '/' && !tag.contains '<' && !tag.contains '>') = true := by
    decide +kernel
  have hparts := List.all_eq_true.mp hall _ h
  simp only [Bool.and_eq_true, decide_eq_true_eq, Bool.not_eq_true', List.contains_eq_mem,
    decide_eq_false_iff_not] at hparts
  obtain ⟨⟨⟨⟨hopening, hclosing⟩, hslash⟩, hless⟩, hgreater⟩ := hparts
  exact ⟨_, hopening, hclosing, hslash, hless, hgreater⟩

namespace StandsFor

variable {html text : List Char}

theorem eq_nil_iff (h : StandsFor html text) : html = [] ↔ text = [] := by
  induction h with
  | nil => simp
  | char c => unfold escapeChar; split <;> simp
  | append _ _ ih ih' => simp [ih, ih']
  | element _ hne _ ih => simp [hne, ← ih]

theorem nests_append (h : StandsFor html text) (opened : List (List Char)) (rest : List Char) :
    nests opened none (html ++ rest) = nests opened none rest := by
  induction h generalizing opened rest with
  | nil => rfl
  | char c => exact nests_escapeChar opened c rest
  | append _ _ ih ih' => rw [List.append_assoc, ih, ih']
  | element hel _ _ ih =>
    rw [List.append_assoc, List.append_assoc]
    obtain ⟨name, hopening, hclosing⟩ := (isElement_of_mem hel).nests_opening opened _
    rw [hopening, ih, hclosing]

theorem resolve_outside (h : StandsFor html text) (rest : List Char) :
    resolve (outside false (html ++ rest)) = text ++ resolve (outside false rest) := by
  induction h generalizing rest with
  | nil => rfl
  | char c => rw [outside_escapeChar, resolve_escapeChar, List.singleton_append]
  | append _ _ ih ih' => rw [List.append_assoc, ih, ih', List.append_assoc]
  | element hel _ _ ih =>
    have hel := isElement_of_mem hel
    rw [List.append_assoc, List.append_assoc, hel.outside_opening, ih, hel.outside_closing]

end StandsFor

end Reading

section Writing

theorem standsFor_escape (s : String) : StandsFor (escape s).toList s.toList := by
  have chars (cs : List Char) : StandsFor (cs.flatMap escapeChar) cs := by
    induction cs with
    | nil => exact .nil
    | cons c cs ih => exact .append (.char c) ih
  simpa [escape] using chars s.toList

theorem toList_joined (items : List String) :
    ("".intercalate items).toList = items.flatMap String.toList := by
  rw [String.toList_intercalate]
  induction items with
  | nil => rfl
  | cons s items ih =>
    cases items with
    | nil => simp
    | cons s' items =>
      rw [List.map_cons, List.map_cons, List.intercalate_cons_cons, ← List.map_cons, ih]
      simp

theorem isEmpty_eq_false {s : String} (h : s.isEmpty = false) : s.toList ≠ [] := by
  simpa [← String.toList_eq_nil_iff, String.isEmpty_iff] using h

variable {html text : String} (h : StandsFor html.toList text.toList)
include h

theorem standsFor_wrap {opening closing : String} (hel : (opening, closing) ∈ elements) :
    StandsFor (wrap opening html closing).toList text.toList := by
  unfold wrap
  cases hempty : html.isEmpty with
  | true => exact h
  | false =>
    simp only [Bool.false_eq_true, if_false, String.toList_append]
    exact .element hel (isEmpty_eq_false hempty) h

theorem standsFor_quote (opening closing : String) :
    StandsFor (format.quote opening html closing).toList
      (PlainText.format.quote opening text closing).toList := by
  have hempty : html.isEmpty = text.isEmpty := by
    rw [Bool.eq_iff_iff, String.isEmpty_iff, String.isEmpty_iff, ← String.toList_eq_nil_iff,
      ← String.toList_eq_nil_iff]
    exact h.eq_nil_iff
  simp only [format, PlainText.format, wrap, hempty]
  cases text.isEmpty with
  | true => exact h
  | false =>
    simp only [Bool.false_eq_true, if_false, String.toList_append]
    exact .append (.append (standsFor_escape opening) h) (standsFor_escape closing)

theorem standsFor_display (d : Display) : StandsFor (format.display d html).toList text.toList := by
  cases d <;> exact standsFor_wrap h (by decide +kernel)

theorem standsFor_withFormatting (f : Formatting) :
    StandsFor (format.withFormatting f html).toList
      (PlainText.format.withFormatting f text).toList := by
  have hplain : PlainText.format.withFormatting f text = text := by
    simp only [Format.withFormatting, PlainText.format, ite_self]
    split <;> rfl
  have optional {html : String} (h : StandsFor html.toList text.toList) (b : Bool)
      (opening closing : String) (hel : (opening, closing) ∈ elements) :
      StandsFor (if b then wrap opening html closing else html).toList text.toList := by
    cases b with
    | true => exact standsFor_wrap h hel
    | false => exact h
  have hemph := optional h (f.fontStyle == some .italic || f.fontStyle == some .oblique)
    "<i>" "</i>" (by decide)
  have hstrong := optional hemph (f.fontWeight == some .bold)
    "<b>" "</b>" (by decide)
  have hcaps := optional hstrong (f.fontVariant == some .smallCaps)
    "<span style=\"font-variant:small-caps;\">" "</span>" (by decide)
  have hline := optional hcaps (f.textDecoration == some .underline)
    "<span style=\"text-decoration:underline;\">" "</span>" (by decide)
  rw [hplain, Format.withFormatting]
  split
  · exact standsFor_wrap hline (by decide)
  · exact standsFor_wrap hline (by decide)
  · exact hline

end Writing

mutual

theorem standsFor_renderAt (marks : QuoteMarks) (depth : Nat) (o : Output) :
    StandsFor (format.renderAt marks depth o).toList
      (PlainText.format.renderAt marks depth o).toList := by
  match o with
  | .null => exact .nil
  | .text s => exact standsFor_escape s
  | .seq items =>
    have hitems := standsFor_renderAll marks depth items
    rw [← toList_joined, ← toList_joined] at hitems
    exact hitems
  | .tagged _ child => exact standsFor_renderAt marks depth child
  | .formatted formatting quotes display child =>
    have hchild := standsFor_withFormatting
      (standsFor_renderAt marks (if quotes then depth + 1 else depth) child) formatting
    have hquoted (pair : String × String) := standsFor_quote hchild pair.1 pair.2
    have hdisplayed {html text : String} (h : StandsFor html.toList text.toList) :
        StandsFor (display.elim html (format.display · html)).toList
          (display.elim text (PlainText.format.display · text)).toList := by
      cases display with
      | none => exact h
      | some d => exact standsFor_display h d
    apply hdisplayed
    cases quotes with
    | false => exact hchild
    | true => exact hquoted (if depth % 2 == 0 then marks.outer else marks.inner)

theorem standsFor_renderAll (marks : QuoteMarks) (depth : Nat) (items : List Output) :
    StandsFor ((format.renderAll marks depth items).flatMap String.toList)
      ((PlainText.format.renderAll marks depth items).flatMap String.toList) := by
  match items with
  | [] => exact .nil
  | o :: os =>
    exact .append (standsFor_renderAt marks depth o) (standsFor_renderAll marks depth os)

end

/-- For every output HTML nests, and is read back as the plain text. -/
theorem wellNested_render (marks : QuoteMarks) (o : Output) :
    WellNested (format.render marks o) ∧
      unescape (erase (format.render marks o)) = PlainText.format.render marks o := by
  have h := standsFor_renderAt marks 0 o
  constructor
  · have hnests := h.nests_append [] []
    rw [List.append_nil] at hnests
    exact hnests
  · have hresolve := h.resolve_outside []
    rw [List.append_nil] at hresolve
    apply String.toList_injective
    simp [unescape, erase, Format.render, hresolve, outside, resolve]

end Citeproc.Html
