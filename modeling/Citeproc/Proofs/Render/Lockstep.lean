import Citeproc.Proofs.Render.Alike

namespace Citeproc

open RenderState Renderer

/-- What has to be known of the expansions of two renders. `a` and `b` are the outer names elements,
`Rel` relates the states behind a list of visits of the second render, `Early` holds for the visits
of the first render and `Late` for those of the second. -/
structure Lockstep (r : Renderer) (ctx : RenderContext)
    (expand₁ expand₂ : RenderState → String → Rendered)
    (inside₁ inside₂ : RenderState → String → List Visit) (a b : List NamesElement)
    (Rel : List Visit → RenderState → RenderState → Prop) (Early : Visit → Prop)
    (Late : List Visit → Prop) : Prop where
  late_of_append : ∀ {log more}, Late (log ++ more) → Late log
  isEmpty : a.isEmpty = b.isEmpty
  rel_of_keeps : ∀ {log s t s' t'} (more), Rel log s t → s.Keeps s' → t.Keeps t' →
    Rel (log ++ more) s' t'
  shows : ∀ {log s t e substitute}, Alike a b s t → Late (log ++ [⟨t, .names e substitute⟩]) →
    r.namesShown ctx s e s.inherited.getLast? = r.namesShown ctx t e t.inherited.getLast?
  expands : ∀ {log s t e name}, e.macro? = some name → Alike a b s t → Rel log s t →
    (∀ v ∈ ⟨s, .text e⟩ :: inside₁ s name, Early v) →
    Late (log ++ ⟨t, .text e⟩ :: inside₂ t name) →
    (expand₁ s name).Follows (Rel (log ++ ⟨t, .text e⟩ :: inside₂ t name)) s t (expand₂ t name)

namespace Lockstep

variable {r : Renderer} {ctx : RenderContext}
  {expand₁ expand₂ : RenderState → String → Rendered}
  {inside₁ inside₂ : RenderState → String → List Visit} {a b : List NamesElement}
  {Rel : List Visit → RenderState → RenderState → Prop} {Early : Visit → Prop}
  {Late : List Visit → Prop}
  (L : Lockstep r ctx expand₁ expand₂ inside₁ inside₂ a b Rel Early Late)
  {log : List Visit} {s t : RenderState}

include L

theorem keeps {s' t' : RenderState} (hrel : Rel log s t) (hs : s.Keeps s') (ht : t.Keeps t') :
    Rel log s' t' := by
  have hkept := L.rel_of_keeps [] hrel hs ht
  rwa [List.append_nil] at hkept

theorem visited (hrel : Rel log s t) (v : Visit) : Rel (log ++ [v]) s t :=
  L.rel_of_keeps [v] hrel (.refl s) (.refl t)

theorem leaf (hrel : Rel log s t) {x y : Rendered} (h : Rendered.Leaf s t x y)
    (more : List Visit) : (Collected.one x).Follows (Rel (log ++ more)) s t (.one y) where
  toAlike := h.toAlike.one
  rel := L.rel_of_keeps more hrel h.keeps₁ h.keeps₂

theorem text (h : Alike a b s t) (hrel : Rel log s t) (e : TextElement)
    (h₁ : ∀ v ∈ ⟨s, .text e⟩ :: r.within expand₁ inside₁ ctx s (.text e), Early v)
    (h₂ : Late (log ++ ⟨t, .text e⟩ :: r.within expand₂ inside₂ ctx t (.text e))) :
    (r.renderParts expand₁ ctx s (.text e)).Follows
      (Rel (log ++ ⟨t, .text e⟩ :: r.within expand₂ inside₂ ctx t (.text e))) s t
      (r.renderParts expand₂ ctx t (.text e)) := by
  simp only [renderParts]
  cases he : e.macro? with
  | none =>
    apply L.leaf hrel
    exact r.leaf_renderText ctx h.toAgrees he expand₁ expand₂
  | some name =>
    have hsource : e.source = .macroCall name := by
      simp only [TextElement.macro?] at he
      split at he <;> simp_all
    simp only [within, he, Option.elim_some] at h₁ h₂ ⊢
    have hx := L.expands he h hrel h₁ h₂
    simp only [renderText, hsource, hx.output]
    exact ⟨⟨rfl, hx.stats, hx.moves⟩, hx.rel⟩

theorem names (h : Alike a b s t) (hrel : Rel log s t) (e : NamesElement)
    (substitute : Option (List Element)) (more : List Visit)
    (hlate : Late (log ++ [⟨t, .names e substitute⟩]))
    (hsubstitute : (nameLists ctx t e).isEmpty = true →
      (r.renderSubstitute expand₁ ctx (s.push e) substitute).Follows (Rel (log ++ more)) (s.push e)
        (t.push e) (r.renderSubstitute expand₂ ctx (t.push e) substitute)) :
    (r.renderParts expand₁ ctx s (.names e substitute)).Follows (Rel (log ++ more)) s t
      (r.renderParts expand₂ ctx t (.names e substitute)) := by
  have hlists := nameLists_of_agrees ctx h.toAgrees e
  rw [r.renderParts_names ctx expand₁, r.renderParts_names ctx expand₂]
  simp only [hlists, h.firstNamesDone, h.isEmpty_inherited L.isEmpty]
  cases hempty : (nameLists ctx t e).isEmpty with
  | true =>
    have hx := hsubstitute hempty
    have hpop := hx.moves.pop
    obtain ⟨hout, hfinish⟩ := moves_finishNames ctx hpop.toAgrees e
      (!t.firstNamesDone && t.inherited.isEmpty)
      (r.renderSubstitute expand₂ ctx (t.push e) substitute).output
    simp only [if_true, hx.output, hout]
    constructor
    · exact ⟨rfl, rfl, hpop.trans hfinish⟩
    · apply L.keeps hx.rel
      · exact (keeps_pop _).trans (keeps_finishNames ctx _ e _ _)
      · exact (keeps_pop _).trans (keeps_finishNames ctx _ e _ _)
  | false =>
    have hshown := h.noteShown ((nameLists ctx t e).flatMap fun list => shownRoles list.1)
    obtain ⟨hout, hfinish⟩ := moves_finishNames ctx hshown.toAgrees e
      (!t.firstNamesDone && t.inherited.isEmpty) (r.namesShown ctx t e t.inherited.getLast?)
    simp only [L.shows h hlate, Bool.false_eq_true, if_false, hout]
    constructor
    · exact ⟨rfl, rfl, hshown.trans hfinish⟩
    · apply L.rel_of_keeps more hrel
      · exact (keeps_noteShown _ _).trans (keeps_finishNames ctx _ e _ _)
      · exact (keeps_noteShown _ _).trans (keeps_finishNames ctx _ e _ _)

theorem settled (e : Element)
    (h : (r.renderParts expand₁ ctx s e).Follows (Rel log) s t (r.renderParts expand₂ ctx t e)) :
    (r.collect expand₁ ctx s [e]).Follows (Rel log) s t (r.collect expand₂ ctx t [e]) := by
  rw [collect_singleton, collect_singleton]
  cases e with
  | choose branches otherwise => exact h
  | _ =>
    constructor
    · exact h.settle
    · exact L.keeps h.rel (Collected.keeps_settle _) (Collected.keeps_settle _)

-- One case for each constructor; the list of visits grows by an element before those inside it, so
-- that what is known of an element's own visit is at hand where it is rendered.
set_option linter.unusedSectionVars false in
mutual

theorem parts (log : List Visit) {s t : RenderState} (h : Alike a b s t) (hrel : Rel log s t)
    (e : Element) (h₁ : ∀ v ∈ ⟨s, e⟩ :: r.within expand₁ inside₁ ctx s e, Early v)
    (h₂ : Late (log ++ ⟨t, e⟩ :: r.within expand₂ inside₂ ctx t e)) :
    (r.renderParts expand₁ ctx s e).Follows (Rel (log ++ ⟨t, e⟩ :: r.within expand₂ inside₂ ctx t e))
      s t (r.renderParts expand₂ ctx t e) := by
  have h₁' := (List.forall_mem_cons.mp h₁).2
  match e with
  | .text e => exact L.text h hrel e h₁ h₂
  | .date e =>
    simp only [renderParts]
    exact L.leaf hrel (r.leaf_renderDate ctx h.toAgrees e) _
  | .number e =>
    simp only [renderParts]
    exact L.leaf hrel (r.leaf_renderNumber ctx h.toAgrees e) _
  | .label e =>
    simp only [renderParts, r.renderLabel_of_agrees ctx h.toAgrees]
    exact L.leaf hrel (.of_agrees h.toAgrees _ _) _
  | .group e children =>
    simp only [within] at h₁' h₂ ⊢
    rw [List.append_cons log] at h₂ ⊢
    have hc := collect _ h (L.visited hrel _) children h₁' h₂
    simp only [renderParts]
    constructor
    · apply Rendered.Alike.one
      exact alike_closeGroup h.toAgrees e (hc.joined (e.delimiter.getD ""))
    · apply L.keeps hc.rel
      · exact keeps_closeGroup s e (Collected.joined _ _)
      · exact keeps_closeGroup t e (Collected.joined _ _)
  | .names e es =>
    have hlate := h₂
    rw [List.append_cons log] at hlate
    apply L.names h hrel e es _ (L.late_of_append hlate)
    intro hempty
    have hempty' : (nameLists ctx s e).isEmpty = true := by
      rw [nameLists_of_agrees ctx h.toAgrees, hempty]
    simp only [within, hempty, hempty', if_true] at h₁' hlate ⊢
    rw [List.append_cons log]
    have hpush := L.keeps (L.visited hrel ⟨t, .names e es⟩) (keeps_push s e) (keeps_push t e)
    exact substitute _ (h.push e) hpush es h₁' hlate
  | .choose branches otherwise =>
    simp only [within] at h₁' h₂ ⊢
    rw [List.append_cons log] at h₂ ⊢
    simp only [renderParts]
    obtain ⟨hx, hy, hv, hw⟩ | ⟨x, y, v, w, hx, hy, hv, hw, hxy⟩ :=
      branch _ h (L.visited hrel ⟨t, .choose branches otherwise⟩) branches
    · simp only [hx, hy, hv, hw, Option.getD_none] at h₁' h₂ ⊢
      exact option _ h (L.visited hrel _) otherwise h₁' h₂
    · simp only [hx, hy, hv, hw, Option.getD_some] at h₁' h₂ ⊢
      exact hxy h₁' h₂

theorem collect (log : List Visit) {s t : RenderState} (h : Alike a b s t) (hrel : Rel log s t)
    (es : List Element) (h₁ : ∀ v ∈ r.visits expand₁ inside₁ ctx s es, Early v)
    (h₂ : Late (log ++ r.visits expand₂ inside₂ ctx t es)) :
    (r.collect expand₁ ctx s es).Follows (Rel (log ++ r.visits expand₂ inside₂ ctx t es)) s t
      (r.collect expand₂ ctx t es) := by
  match es with
  | [] =>
    simp only [Renderer.collect]
    exact ⟨⟨rfl, rfl, h.moves⟩, L.rel_of_keeps _ hrel (.refl s) (.refl t)⟩
  | e :: es =>
    rw [visits, List.forall_mem_append] at h₁
    rw [visits, ← List.append_assoc] at h₂ ⊢
    have he := L.settled e (parts log h hrel e h₁.1 (L.late_of_append h₂))
    have hes := collect _ (h.of_moves he.moves) he.rel es h₁.2 h₂
    rw [r.collect_cons ctx expand₁ s e es, r.collect_cons ctx expand₂ t e es]
    simp only [he.outputs, he.stats, hes.outputs, hes.stats]
    exact ⟨⟨rfl, rfl, he.moves.trans hes.moves⟩, hes.rel⟩

theorem option (log : List Visit) {s t : RenderState} (h : Alike a b s t) (hrel : Rel log s t)
    (es : Option (List Element)) (h₁ : ∀ v ∈ r.withinOption expand₁ inside₁ ctx s es, Early v)
    (h₂ : Late (log ++ r.withinOption expand₂ inside₂ ctx t es)) :
    (r.collectOption expand₁ ctx s es).Follows
      (Rel (log ++ r.withinOption expand₂ inside₂ ctx t es)) s t
      (r.collectOption expand₂ ctx t es) := by
  match es with
  | none =>
    simp only [collectOption]
    exact ⟨⟨rfl, rfl, h.moves⟩, L.rel_of_keeps _ hrel (.refl s) (.refl t)⟩
  | some es =>
    simp only [withinOption] at h₁ h₂ ⊢
    simp only [collectOption]
    exact collect log h hrel es h₁ h₂

theorem branch (log : List Visit) {s t : RenderState} (h : Alike a b s t) (hrel : Rel log s t)
    (branches : List Branch) :
    (r.collectBranch expand₁ ctx s branches = none ∧
      r.collectBranch expand₂ ctx t branches = none ∧
      r.withinBranch expand₁ inside₁ ctx s branches = none ∧
      r.withinBranch expand₂ inside₂ ctx t branches = none) ∨
    ∃ x y v w, r.collectBranch expand₁ ctx s branches = some x ∧
      r.collectBranch expand₂ ctx t branches = some y ∧
      r.withinBranch expand₁ inside₁ ctx s branches = some v ∧
      r.withinBranch expand₂ inside₂ ctx t branches = some w ∧
      ((∀ u ∈ v, Early u) → Late (log ++ w) → x.Follows (Rel (log ++ w)) s t y) := by
  match branches with
  | [] => exact .inl ⟨rfl, rfl, rfl, rfl⟩
  | ⟨condition, children⟩ :: rest =>
    simp only [collectBranch, withinBranch]
    cases condition.holds ctx with
    | true => exact .inr ⟨_, _, _, _, rfl, rfl, rfl, rfl, collect log h hrel children⟩
    | false => exact branch log h hrel rest

theorem substitute (log : List Visit) {s t : RenderState} (h : Alike a b s t)
    (hrel : Rel log s t) (es : Option (List Element))
    (h₁ : ∀ v ∈ r.withinSubstitute expand₁ inside₁ ctx s es, Early v)
    (h₂ : Late (log ++ r.withinSubstitute expand₂ inside₂ ctx t es)) :
    (r.renderSubstitute expand₁ ctx s es).Follows
      (Rel (log ++ r.withinSubstitute expand₂ inside₂ ctx t es)) s t
      (r.renderSubstitute expand₂ ctx t es) := by
  match es with
  | none =>
    simp only [renderSubstitute]
    exact ⟨⟨rfl, rfl, h.moves⟩, L.rel_of_keeps _ hrel (.refl s) (.refl t)⟩
  | some es =>
    simp only [withinSubstitute] at h₁ h₂ ⊢
    simp only [renderSubstitute]
    exact firstShown log h hrel es h₁ h₂

theorem firstShown (log : List Visit) {s t : RenderState} (h : Alike a b s t)
    (hrel : Rel log s t) (es : List Element)
    (h₁ : ∀ v ∈ r.visitsUntilShown expand₁ inside₁ ctx s es, Early v)
    (h₂ : Late (log ++ r.visitsUntilShown expand₂ inside₂ ctx t es)) :
    (r.firstShown expand₁ ctx s es).Follows
      (Rel (log ++ r.visitsUntilShown expand₂ inside₂ ctx t es)) s t
      (r.firstShown expand₂ ctx t es) := by
  match es with
  | [] =>
    simp only [Renderer.firstShown]
    exact ⟨⟨rfl, rfl, h.moves⟩, L.rel_of_keeps _ hrel (.refl s) (.refl t)⟩
  | e :: es =>
    rw [visitsUntilShown, List.forall_mem_append] at h₁
    rw [visitsUntilShown, ← List.append_assoc] at h₂ ⊢
    have he := parts log h hrel e h₁.1 (L.late_of_append h₂)
    have hj := he.joined ""
    simp only [Renderer.firstShown, hj.output] at h₁ ⊢
    by_cases hempty : ((r.renderParts expand₂ ctx t e).joined "").output.isEmpty = true
    · simp only [if_pos hempty] at h₁ h₂ ⊢
      have hes := firstShown _ (h.of_moves hj.moves) he.rel es h₁.2 h₂
      exact ⟨⟨hes.output, hes.stats, hj.moves.trans hes.moves⟩, hes.rel⟩
    · simp only [if_neg hempty]
      -- what has been shown before may differ, what the element shows does not
      obtain ⟨shown, hs, ht⟩ := hj.moves.rendered
      have hs : ((r.renderParts expand₁ ctx s e).joined "").state.rendered.drop s.rendered.length =
          shown := by rw [hs, List.drop_left]
      have ht : ((r.renderParts expand₂ ctx t e).joined "").state.rendered.drop t.rendered.length =
          shown := by rw [ht, List.drop_left]
      simp only [hs, ht]
      constructor
      · exact ⟨rfl, rfl, hj.moves.trans (hj.moves.toAgrees.withSuppressed shown)⟩
      · apply L.rel_of_keeps _ he.rel
        · exact keeps_withSuppressed _ shown
        · exact keeps_withSuppressed _ shown

end

end Lockstep

end Citeproc
