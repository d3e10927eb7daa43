import Citeproc.Session.Placement
import Mathlib.Data.List.Induction

namespace Citeproc.Placement

def citesFrom (index : Nat) : List Citation → List (CitationItem × Nat)
  | [] => []
  | c :: cs => c.items.map (·, noteOf index c) ++ citesFrom (index + 1) cs

def notesOf (id : String) (cites : List (CitationItem × Nat)) : List Nat :=
  (cites.filter (·.1.id == id)).map (·.2)

def recordAll (history : CiteHistory) (cites : List (CitationItem × Nat)) : CiteHistory :=
  cites.foldl (fun history cite => record cite.2 history cite.1) history

def summary (notes : List Nat) : Option CitedNotes :=
  notes.getLast?.map fun last => { first := notes.headD last, last }

theorem summary_concat (notes : List Nat) (note : Nat) :
    summary (notes ++ [note]) =
      some { first := ((summary notes).map (·.first)).getD note, last := note } := by
  cases notes with
  | nil => rfl
  | cons first notes => simp [summary, List.getLast?_cons]

theorem notesOf_concat (id : String) (cites : List (CitationItem × Nat)) (item : CitationItem)
    (note : Nat) : notesOf id (cites ++ [(item, note)]) =
      if id = item.id then notesOf id cites ++ [note] else notesOf id cites := by
  by_cases h : id = item.id
  · simp [notesOf, h]
  · simp [notesOf, h, Ne.symm h]

theorem recordAll_append (history : CiteHistory) (before after : List (CitationItem × Nat)) :
    recordAll history (before ++ after) = recordAll (recordAll history before) after :=
  List.foldl_append

theorem get?_recordAll (cites : List (CitationItem × Nat)) (id : String) :
    (recordAll [] cites).get? id = summary (notesOf id cites) := by
  induction cites using List.reverseRecOn with
  | nil => rfl
  | append_singleton cites cite ih =>
    obtain ⟨item, note⟩ := cite
    have hstep : recordAll [] (cites ++ [(item, note)]) = record note (recordAll [] cites) item :=
      recordAll_append [] cites [(item, note)]
    rw [hstep, record, Table.get?_modify, notesOf_concat]
    split
    · rw [ih, summary_concat]
    · exact ih

variable (distance : Nat)

theorem ofItems_history (note : Nat) (history : CiteHistory) (preceding : Option CitationItem)
    (items : List CitationItem) :
    (ofItems distance note history preceding items).2 =
      recordAll history (items.map (·, note)) := by
  induction items generalizing history preceding with
  | nil => rfl
  | cons item items ih => exact ih (record note history item) (some item)

theorem length_ofItems (note : Nat) (history : CiteHistory) (preceding : Option CitationItem)
    (items : List CitationItem) :
    (ofItems distance note history preceding items).1.length = items.length := by
  induction items generalizing history preceding with
  | nil => rfl
  | cons item items ih => exact congrArg (· + 1) (ih (record note history item) (some item))

theorem ofItems_append (note : Nat) (history : CiteHistory) (preceding : Option CitationItem)
    (before after : List CitationItem) :
    (ofItems distance note history preceding (before ++ after)).1 =
      (ofItems distance note history preceding before).1 ++
        (ofItems distance note (recordAll history (before.map (·, note)))
          (before.getLast?.or preceding) after).1 := by
  induction before generalizing history preceding with
  | nil => rfl
  | cons item before ih =>
    have hlast : (item :: before).getLast?.or preceding = before.getLast?.or (some item) := by
      rw [List.getLast?_cons]
      cases before.getLast? <;> rfl
    rw [hlast]
    exact congrArg _ (ih (record note history item) (some item))

theorem map_length_ofCitationsFrom (index : Nat) (history : CiteHistory)
    (preceding : Option CitationItem) (citations : List Citation) :
    (ofCitationsFrom distance index history preceding citations).map (·.length) =
      citations.map (·.items.length) := by
  induction citations generalizing index history preceding with
  | nil => rfl
  | cons c citations ih =>
    simp only [ofCitationsFrom, List.map_cons, length_ofItems, ih]

theorem length_ofCitationsFrom (index : Nat) (history : CiteHistory)
    (preceding : Option CitationItem) (citations : List Citation) :
    (ofCitationsFrom distance index history preceding citations).length = citations.length := by
  have h := map_length_ofCitationsFrom distance index history preceding citations
  simpa using congrArg List.length h

theorem ofCitationsFrom_append (index : Nat) (history : CiteHistory)
    (preceding : Option CitationItem) (before after : List Citation) :
    ofCitationsFrom distance index history preceding (before ++ after) =
      ofCitationsFrom distance index history preceding before ++
        ofCitationsFrom distance (index + before.length)
          (recordAll history (citesFrom index before))
          (before.getLast?.elim preceding onlyItem?) after := by
  induction before generalizing index history preceding with
  | nil => rfl
  | cons c before ih =>
    have hlast : (c :: before).getLast?.elim preceding onlyItem? =
        before.getLast?.elim (onlyItem? c) onlyItem? := by
      rw [List.getLast?_cons]
      cases before.getLast? <;> rfl
    have hindex : index + (c :: before).length = index + 1 + before.length := by
      rw [List.length_cons]
      omega
    have hhistory : recordAll history (citesFrom index (c :: before)) =
        recordAll (recordAll history (c.items.map (·, noteOf index c)))
          (citesFrom (index + 1) before) := recordAll_append _ _ _
    simp only [List.cons_append, ofCitationsFrom, ofItems_history, ih, hlast, hindex, hhistory]

theorem place_eq (before after : List Citation) {c : Citation} {items others : List CitationItem}
    {item : CitationItem} (hitems : c.items = items ++ item :: others) :
    (ofCitations distance (before ++ c :: after))[before.length]?.bind (·[items.length]?) =
      some (ofItem distance (noteOf before.length c)
        (recordAll [] (citesFrom 0 before ++ items.map (·, noteOf before.length c)))
        (items.getLast?.or (before.getLast?.bind onlyItem?)) item) := by
  have hbefore := length_ofCitationsFrom distance 0 [] none before
  have hitem := length_ofItems distance (noteOf before.length c) (recordAll [] (citesFrom 0 before))
    (before.getLast?.elim none onlyItem?) items
  rw [ofCitations, ofCitationsFrom_append,
    List.getElem?_append_right (Nat.le_of_eq hbefore), hbefore,
    Nat.sub_self, Nat.zero_add, ofCitationsFrom, List.getElem?_cons_zero, Option.bind_some, hitems,
    ofItems_append, List.getElem?_append_right (Nat.le_of_eq hitem), hitem, Nat.sub_self,
      recordAll_append]
  cases before.getLast? <;> rfl

theorem ofItem_eq (note : Nat) {history : CiteHistory} (preceding : Option CitationItem)
    {item : CitationItem} {notes : List Nat} (h : history.get? item.id = summary notes) :
    ofItem distance note history preceding item =
      { position := item.position.getD (derived (!notes.isEmpty) preceding item)
        nearNote := notes.getLast?.any (note - · ≤ distance)
        firstNote := (notes ++ [note]).head? } := by
  rw [ofItem, h]
  cases notes with
  | nil => rfl
  | cons first notes => simp [summary, List.getLast?_cons]

theorem repeated_ne_first (preceding item : CitationItem) : repeated preceding item ≠ .first := by
  rw [repeated]
  split
  · decide
  · decide
  · decide
  · split <;> decide

theorem derived_eq_first (seen : Bool) (preceding : Option CitationItem) (item : CitationItem) :
    derived seen preceding item = .first ↔ seen = false := by
  cases seen with
  | false => exact iff_of_true rfl rfl
  | true =>
    rw [derived]
    cases preceding.filter (·.id == item.id) with
    | none => simp
    | some preceding => simp [repeated_ne_first]

theorem derived_of_seen (preceding : Option CitationItem) (item : CitationItem) :
    derived true preceding item =
      match preceding with
      | some preceding => if preceding.id = item.id then repeated preceding item else .subsequent
      | none => .subsequent := by
  cases preceding with
  | none => rfl
  | some preceding =>
    by_cases h : preceding.id = item.id
    · simp [derived, Option.filter, h]
    · simp [derived, Option.filter, h]

/-- The places of a document. There is one for each cite. A cite takes its place from its own position,
the notes of the earlier cites of its entry, and the cite right before it, which counts as such across
citations only if it stands alone in its own. So a document that goes on keeps its places. -/
theorem ofCitations_from_earlier :
    (∀ citations, (ofCitations distance citations).map (·.length) =
      citations.map (·.items.length)) ∧
    (∀ citations later, (ofCitations distance (citations ++ later)).take citations.length =
      ofCitations distance citations) ∧
    ∀ (before after : List Citation) (id : Option String) (noteNumber : Option Nat)
      (items : List CitationItem) (item : CitationItem) (others : List CitationItem),
      let c : Citation := { id, items := items ++ item :: others, noteNumber }
      let note := noteOf before.length c
      let earlier := notesOf item.id (citesFrom 0 before ++ items.map (·, note))
      let follows : Position :=
        if earlier = [] then .first
        else
          match items.getLast?.or (before.getLast?.bind onlyItem?) with
          | some preceding => if preceding.id = item.id then repeated preceding item else .subsequent
          | none => .subsequent
      ∃ place, (ofCitations distance (before ++ c :: after))[before.length]?.bind
          (·[items.length]?) = some place ∧
        place.position = item.position.getD follows ∧ (follows = .first ↔ earlier = []) ∧
        (place.nearNote = true ↔ ∃ last ∈ earlier.getLast?, note - last ≤ distance) ∧
        place.firstNote = (earlier ++ [note]).head? := by
  refine ⟨map_length_ofCitationsFrom distance 0 [] none, fun citations later => ?_, ?_⟩
  · rw [ofCitations, ofCitationsFrom_append]
    exact List.take_left' (length_ofCitationsFrom distance 0 [] none citations)
  · intro before after id noteNumber items item others c note earlier follows
    have hfollows : follows = derived (!earlier.isEmpty)
        (items.getLast?.or (before.getLast?.bind onlyItem?)) item := by
      cases h : earlier with
      | nil => simp [follows, h, derived]
      | cons first rest => simp [follows, h, derived_of_seen]
    have hplace := place_eq distance before after (c := c) rfl
    rw [ofItem_eq distance _ _ (get?_recordAll _ item.id)] at hplace
    refine ⟨_, hplace, ?_, ?_, ?_, rfl⟩
    · rw [hfollows]
    · rw [hfollows, derived_eq_first]
      simp
    · rw [Option.any_eq_true]
      simp only [decide_eq_true_eq]
      rfl

end Citeproc.Placement
