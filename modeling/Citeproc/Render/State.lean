import Citeproc.Output.Basic
import Citeproc.Style.Basic

namespace Citeproc

/-- Counts of variables, which are exact. Counts in words of 64 bits are the same below
`UInt64.size`, and `VarStats.words_eq_zero_iff` says what they tell of an empty group. -/
structure VarStats where
  called : Nat := 0
  filled : Nat := 0
  deriving Repr, DecidableEq, Inhabited

namespace VarStats

def one (filled : Bool) : VarStats := { called := 1, filled := if filled then 1 else 0 }

def add (a b : VarStats) : VarStats where
  called := a.called + b.called
  filled := a.filled + b.filled

def words (s : VarStats) : UInt64 × UInt64 := (.ofNat s.called, .ofNat s.filled)

theorem words_add (a b : VarStats) :
    (a.add b).words = (a.words.1 + b.words.1, a.words.2 + b.words.2) := by
  simp only [words, add, UInt64.ofNat_add]

theorem words_eq_zero_iff {s : VarStats} (hcalled : s.called < UInt64.size)
    (hfilled : s.filled < UInt64.size) :
    (s.words.1 = 0 ↔ s.called = 0) ∧ (s.words.2 = 0 ↔ s.filled = 0) := by
  simp only [words, ← UInt64.toNat_inj, UInt64.toNat_ofNat_of_lt' hcalled,
    UInt64.toNat_ofNat_of_lt' hfilled]
  exact ⟨.rfl, .rfl⟩

end VarStats

structure MemoKey where
  name : String
  afterDigit : Bool
  firstNamesDone : Bool
  yearSuffixDone : Bool
  suppressed : Nat
  inherited : Nat
  deriving Repr, DecidableEq, Inhabited

structure MacroResult where
  output : Output
  stats : VarStats
  firstNamesDone : Bool
  yearSuffixDone : Bool
  suppressed : List String
  rendered : List String
  deriving Repr, Inhabited

structure RenderState where
  memo : List (MemoKey × MacroResult) := []
  suppressed : List String := []
  rendered : List String := []
  firstNamesDone : Bool := false
  yearSuffixDone : Bool := false
  tail : Option Char := none
  depth : Nat := 0
  inherited : List NamesElement := []
  macroExpansions : Nat := 0
  deriving Repr, Inhabited

namespace RenderState

def isSuppressed (st : RenderState) (var : String) : Bool := st.suppressed.contains var

def noteShown (st : RenderState) (vars : List String) : RenderState :=
  { st with rendered := st.rendered ++ vars }

def afterDigit (st : RenderState) : Bool := st.tail.any Char.isDigit

def memoKey (st : RenderState) (name : String) : MemoKey where
  name
  afterDigit := st.afterDigit
  firstNamesDone := st.firstNamesDone
  yearSuffixDone := st.yearSuffixDone
  suppressed := st.suppressed.length
  inherited := st.inherited.length

def replay (st : RenderState) (hit : MacroResult) : RenderState :=
  { st with
    firstNamesDone := hit.firstNamesDone
    yearSuffixDone := hit.yearSuffixDone
    suppressed := st.suppressed ++ hit.suppressed
    rendered := st.rendered ++ hit.rendered
    tail := if hit.output.isEmpty then st.tail else hit.output.lastChar? }

end RenderState

structure Rendered where
  output : Output
  state : RenderState
  stats : VarStats := {}
  deriving Repr, Inhabited

structure Collected where
  outputs : List Output := []
  state : RenderState
  stats : VarStats := {}
  deriving Repr, Inhabited

namespace Collected

def one (r : Rendered) : Collected := { outputs := [r.output], state := r.state, stats := r.stats }

def settle (c : Collected) : Collected :=
  let outputs := c.outputs.filter (!·.isEmpty)
  { c with
    outputs
    state := { c.state with tail := (outputs.getLast?.bind (·.lastChar?)) <|> c.state.tail } }

def joined (c : Collected) (delimiter : String) : Rendered :=
  { output := .join c.outputs delimiter, state := c.state, stats := c.stats }

end Collected

end Citeproc
