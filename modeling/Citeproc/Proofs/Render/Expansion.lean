import Citeproc.Proofs.Render.Lockstep
import Mathlib.Data.List.Induction

namespace Citeproc

def Visit.names? (v : Visit) : Option NamesElement :=
  match v.element with
  | .names e _ => some e
  | _ => none

def Visit.Shallow (v : Visit) : Prop := v.macro?.isSome → v.state.depth < Renderer.maxMacroDepth

theorem Visit.Shallow.depth_lt {s : RenderState} {e : TextElement} {name : String}
    (h : Visit.Shallow ⟨s, .text e⟩) (he : e.macro? = some name) :
    s.depth < Renderer.maxMacroDepth := by
  apply h
  simp [Visit.macro?, he]

def Visit.ShowsSame (r : Renderer) (ctx : RenderContext) (a b : List NamesElement) (v : Visit) : Prop :=
  ∀ e ∈ v.names?, v.state.inherited.length = b.length →
    r.namesShown ctx v.state e a.getLast? = r.namesShown ctx v.state e b.getLast?

instance (v : Visit) : Decidable v.Shallow := inferInstanceAs (Decidable (_ → _))

namespace RenderState

variable {a b : List NamesElement} {s t s' t' : RenderState}

theorem Alike.enter (h : Alike a b s t) : Alike a b s.enter t.enter := { h with }

theorem Moves.leave (h : Moves s.enter t.enter s' t') : Moves s t s'.leave t'.leave := { h with }

theorem Moves.withMemo (h : Moves s t s' t') (memo : List (MemoKey × MacroResult)) :
    Moves s t { s' with memo } t' := { h with }

theorem Alike.shows (h : Alike a b s t) {r : Renderer} {ctx : RenderContext} {e : NamesElement}
    {substitute : Option (List Element)} (hsame : Visit.ShowsSame r ctx a b ⟨t, .names e substitute⟩) :
    r.namesShown ctx s e s.inherited.getLast? = r.namesShown ctx t e t.inherited.getLast? := by
  rw [r.namesShown_of_agrees ctx h.toAgrees]
  obtain ⟨inner, hs, ht⟩ := h.inherited
  cases inner using List.reverseRecOn with
  | nil =>
    -- the element takes over from outside
    rw [List.append_nil] at hs ht
    rw [hs, ht]
    exact hsame e rfl (congrArg List.length ht)
  | append_singleton inner last =>
    rw [hs, ht, ← List.append_assoc, ← List.append_assoc, List.getLast?_concat,
      List.getLast?_concat]

end RenderState

open RenderState

namespace Renderer

variable {r : Renderer} {ctx : RenderContext}

theorem expandMacro_unknown {name : String} (hbody : r.style.macroBody? name = none) (levels : Nat)
    (s : RenderState) : r.expandMacro ctx levels s name = { output := .null, state := s } := by
  cases levels with
  | zero => rfl
  | succ levels => rw [expandMacro, hbody]

def expandBody (r : Renderer) (ctx : RenderContext) (levels : Nat) (s : RenderState)
    (body : List Element) : Rendered :=
  (r.collect (r.expandMacro ctx levels) ctx s.enter body).joined ""

theorem expandMacro_fresh (hr : r.memoize = false) {name : String} {body : List Element}
    (hbody : r.style.macroBody? name = some body) {s : RenderState} (hs : s.depth < maxMacroDepth)
    (levels : Nat) : r.expandMacro ctx (levels + 1) s name =
      { r.expandBody ctx levels s body with
        state := (r.expandBody ctx levels s body).state.leave } := by
  simp only [expandMacro, hbody, Nat.not_le.mpr hs, hr, if_false, Bool.false_eq_true]
  rfl

theorem macroVisits_fresh (hr : r.memoize = false) {name : String} {body : List Element}
    (hbody : r.style.macroBody? name = some body) {s : RenderState} (hs : s.depth < maxMacroDepth)
    (levels : Nat) : r.macroVisits ctx (levels + 1) s name =
      r.visits (r.expandMacro ctx levels) (r.macroVisits ctx levels) ctx s.enter body := by
  simp only [macroVisits, hbody, Nat.not_le.mpr hs, hr, if_false, Bool.false_eq_true]

def Levels (n m : Nat) (s t : RenderState) : Prop :=
  n + s.depth = maxMacroDepth ∧ m + t.depth = maxMacroDepth

theorem expandMacro_alike (hr : r.memoize = false) {a b : List NamesElement}
    (hab : a.isEmpty = b.isEmpty) (n m : Nat) {s t : RenderState} (hlevels : Levels n m s t)
    (h : Alike a b s t) (name : String) (hs : s.depth < maxMacroDepth) (ht : t.depth < maxMacroDepth)
    (h₁ : ∀ v ∈ r.macroVisits ctx n s name, v.Shallow)
    (h₂ : ∀ v ∈ r.macroVisits ctx m t name, v.Shallow ∧ v.ShowsSame r ctx a b) :
    (r.expandMacro ctx n s name).Follows (Levels n m) s t (r.expandMacro ctx m t name) := by
  induction n generalizing m s t name with
  | zero =>
    have := hlevels.1
    omega
  | succ n ih =>
    obtain ⟨m, rfl⟩ : ∃ k, m = k + 1 := ⟨m - 1, by have := hlevels.2; omega⟩
    cases hbody : r.style.macroBody? name with
    | none =>
      rw [expandMacro_unknown hbody, expandMacro_unknown hbody]
      exact ⟨⟨rfl, rfl, h.moves⟩, hlevels⟩
    | some body =>
      have L : Lockstep r ctx (r.expandMacro ctx n) (r.expandMacro ctx m) (r.macroVisits ctx n)
          (r.macroVisits ctx m) a b (fun _ => Levels n m) Visit.Shallow
          (fun log => ∀ v ∈ log, v.Shallow ∧ v.ShowsSame r ctx a b) := {
        late_of_append hlate v hv := hlate v (List.mem_append_left _ hv)
        isEmpty := hab
        rel_of_keeps _ hl hs ht := ⟨hs.depth ▸ hl.1, ht.depth ▸ hl.2⟩
        shows h hlate := h.shows (hlate _ List.mem_concat_self).2
        expands he h hl h₁ h₂ := by
          have h₂ := (List.forall_mem_append.mp h₂).2
          rw [List.forall_mem_cons] at h₁ h₂
          exact ih m hl h _ (h₁.1.depth_lt he) (h₂.1.1.depth_lt he) h₁.2 h₂.2 }
      have henter : Levels n m s.enter t.enter := by
        simp only [Levels, enter] at hlevels ⊢
        omega
      rw [macroVisits_fresh hr hbody hs] at h₁
      rw [macroVisits_fresh hr hbody ht] at h₂
      have hc := L.collect [] h.enter henter body h₁ h₂
      have hj := hc.joined ""
      have hl := hc.rel
      rw [expandMacro_fresh hr hbody hs, expandMacro_fresh hr hbody ht]
      constructor
      · exact ⟨hj.output, hj.stats, hj.moves.leave⟩
      · simp only [Levels, leave, expandBody, Collected.joined] at hlevels hl ⊢
        omega

theorem expansion_eq {levels : Nat} {s : RenderState} (h : levels + s.depth = maxMacroDepth)
    (name : String) : r.expansion ctx s name = r.expandMacro ctx levels s name := by
  rw [expansion, ← h, Nat.add_sub_cancel]

theorem expansionVisits_eq {levels : Nat} {s : RenderState} (h : levels + s.depth = maxMacroDepth)
    (name : String) : r.expansionVisits ctx s name = r.macroVisits ctx levels s name := by
  rw [expansionVisits, ← h, Nat.add_sub_cancel]

theorem expansion_alike (hr : r.memoize = false) {a b : List NamesElement}
    (hab : a.isEmpty = b.isEmpty) {s t : RenderState} (h : Alike a b s t) (name : String)
    (hs : s.depth < maxMacroDepth) (ht : t.depth < maxMacroDepth)
    (h₁ : ∀ v ∈ r.expansionVisits ctx s name, v.Shallow)
    (h₂ : ∀ v ∈ r.expansionVisits ctx t name, v.Shallow ∧ v.ShowsSame r ctx a b) :
    (r.expansion ctx s name).Follows (fun _ t' => t'.depth = t.depth) s t
      (r.expansion ctx t name) := by
  have hlevels : Levels (maxMacroDepth - s.depth) (maxMacroDepth - t.depth) s t := by
    constructor <;> omega
  have hx := expandMacro_alike hr hab _ _ hlevels h name hs ht h₁ h₂
  have hdepth := hx.rel.2
  constructor
  · exact hx.toAlike
  · rw [expansion]
    omega

end Renderer

end Citeproc
