import Citeproc.Locale.Resolver
import Citeproc.Proofs.Session.Run
import Citeproc.Proofs.Table

/-!
Layered locales. What a table can define falls into slots. Each slot of a resolved locale is that of the
last table that defines it, whatever was resolved before.
-/

namespace Citeproc

inductive Slot
  | term (name : String) (form : TermForm)
  | date (form : DateForm)
  | punctuationInQuote
  | limitDayOrdinalsToDay1

abbrev Slot.Value : Slot → Type
  | term _ _ => TermValue
  | date _ => DateElement
  | punctuationInQuote => Bool
  | limitDayOrdinalsToDay1 => Bool

namespace Locale

def slot? (l : Locale) : (slot : Slot) → Option slot.Value
  | .term name form => (l.terms.get? name).bind (·.get? form)
  | .date form => l.dateFormats.get? form
  | .punctuationInQuote => l.punctuationInQuote?
  | .limitDayOrdinalsToDay1 => l.limitDayOrdinalsToDay1?

def lastDefinition? (tables : List Locale) (slot : Slot) : Option slot.Value :=
  tables.reverse.findSome? (·.slot? slot)

theorem lastDefinition?_append (before after : List Locale) (slot : Slot) :
    lastDefinition? (before ++ after) slot =
      (lastDefinition? after slot <|> lastDefinition? before slot) := by
  simp [lastDefinition?, List.findSome?_append]

theorem lastDefinition?_cons (table : Locale) (tables : List Locale) (slot : Slot) :
    lastDefinition? (table :: tables) slot = (lastDefinition? tables slot <|> table.slot? slot) := by
  rw [← List.singleton_append, lastDefinition?_append]
  simp [lastDefinition?]

theorem form_overlaid (own : Option TermForms) (upper : TermForms) (form : TermForm) :
    ((own.getD {}).overlay upper).get? form = (upper.get? form <|> own.bind (·.get? form)) := by
  rw [TermForms.get?_overlay]
  cases own with
  | none => cases form <;> rfl
  | some forms => rfl

theorem form_merged {upper : Table TermForms} (hupper : (Table.keys upper).Nodup)
    (terms : Table TermForms)
    (name : String) (form : TermForm) :
    ((upper.foldl (fun terms (name, forms) =>
        terms.modify name fun own => (own.getD {}).overlay forms) terms).get? name).bind (·.get? form) =
      ((upper.get? name).bind (·.get? form) <|> (terms.get? name).bind (·.get? form)) := by
  induction upper generalizing terms with
  | nil => rfl
  | cons entry upper ih =>
    obtain ⟨key, forms⟩ := entry
    have hkeys : key ∉ Table.keys upper ∧ (Table.keys upper).Nodup := by simpa [Table.keys] using hupper
    rw [List.foldl_cons, ih hkeys.2, Table.get?_modify]
    by_cases hname : name = key
    · subst hname
      have habsent : Table.get? upper name = none := by
        rw [← Option.not_isSome_iff_eq_none, Table.get?_isSome_iff]
        exact hkeys.1
      have hhead : Table.get? ((name, forms) :: upper) name = some forms := by simp [Table.get?]
      rw [if_pos rfl, habsent, hhead, Option.bind_some, form_overlaid]
      rfl
    · have htail : Table.get? ((key, forms) :: upper) name = Table.get? upper name := by
        simp [Table.get?, List.lookup_cons, beq_eq_false_iff_ne.mpr hname]
      rw [if_neg hname, htail]

theorem slot?_merge {upper : Locale} (hupper : upper.terms.keys.Nodup) (l : Locale) (slot : Slot) :
    (l.merge upper).slot? slot = (upper.slot? slot <|> l.slot? slot) := by
  cases slot with
  | term name form => exact form_merged hupper l.terms name form
  | date form => cases form <;> rfl
  | punctuationInQuote => rfl
  | limitDayOrdinalsToDay1 => rfl

theorem slot?_foldl_merge {tables : List Locale} (htables : ∀ table ∈ tables, table.terms.keys.Nodup)
    (l : Locale) (slot : Slot) :
    (tables.foldl merge l).slot? slot = lastDefinition? (l :: tables) slot := by
  induction tables generalizing l with
  | nil => simp [lastDefinition?]
  | cons table tables ih =>
    obtain ⟨htable, htables⟩ := List.forall_mem_cons.mp htables
    rw [List.foldl_cons, ih htables, lastDefinition?_cons, lastDefinition?_cons, slot?_merge htable,
      lastDefinition?_cons]
    cases lastDefinition? tables slot <;> rfl

theorem nodup_keys_ofBlock (block : LocaleBlock) : (ofBlock block).terms.keys.Nodup := by
  have hset (terms : List TermDefinition) (l : Locale) (h : l.terms.keys.Nodup) :
      (terms.foldl (fun l term => l.setTerm term.name term.form
        (term.multiple.elim (.simple term.single) (.plural term.single))) l).terms.keys.Nodup := by
    induction terms generalizing l with
    | nil => exact h
    | cons term terms ih => exact ih _ (Table.nodup_keys_modify h term.name _)
  exact hset _ _ List.nodup_nil

end Locale

namespace LocaleResolver

inductive Call
  | add (table : Locale)
  | resolve (lang : String)

def Call.table? : Call → Option Locale
  | add table => some table
  | resolve _ => none

def Call.tables (calls : List Call) : List Locale := calls.filterMap table?

def call (r : LocaleResolver) : Call → LocaleResolver
  | .add table => r.add table
  | .resolve lang => (r.resolve lang).2

def run (r : LocaleResolver) (calls : List Call) : LocaleResolver := calls.foldl call r

structure Current (r : LocaleResolver) (blocks : List LocaleBlock) (tables : List Locale) : Prop where
  added : r.added = tables
  ofStyle : r.ofStyle = blocks.map Locale.ofBlock
  cached : ∀ lang, ∀ locale ∈ r.cache.get? lang, locale = r.layered lang

variable {r : LocaleResolver} {blocks : List LocaleBlock} {tables : List Locale}

theorem Current.resolve_eq (h : r.Current blocks tables) (lang : String) :
    (r.resolve lang).1 = r.layered lang := by
  rw [resolve]
  cases hcache : r.cache.get? lang with
  | none => rfl
  | some locale => exact h.cached lang locale hcache

theorem Current.call (h : r.Current blocks tables) (call : Call) :
    (r.call call).Current blocks (tables ++ call.table?.toList) := by
  cases call with
  | add table =>
    refine ⟨?_, h.ofStyle, ?_⟩
    · simp [LocaleResolver.call, add, h.added, Call.table?]
    · intro lang locale hlocale
      simp [LocaleResolver.call, add, Table.get?] at hlocale
  | resolve lang =>
    have hresolve : r.call (.resolve lang) = r ∨
        r.call (.resolve lang) = { r with cache := r.cache.put lang (r.layered lang) } := by
      simp only [LocaleResolver.call, resolve]
      split
      · exact .inl rfl
      · exact .inr rfl
    rw [Call.table?, Option.toList_none, List.append_nil]
    rcases hresolve with heq | heq
    · rwa [heq]
    · rw [heq]
      refine ⟨h.added, h.ofStyle, fun other locale hlocale => ?_⟩
      rw [Table.get?_put] at hlocale
      split at hlocale
      · next hother =>
        subst hother
        exact (Option.some.inj hlocale).symm
      · exact h.cached other locale hlocale

theorem current_run (blocks : List LocaleBlock) (calls : List Call) :
    ((ofBlocks blocks).run calls).Current blocks (Call.tables calls) := by
  induction calls using List.reverseRecOn with
  | nil => exact ⟨rfl, rfl, fun lang locale hlocale => nomatch hlocale⟩
  | append_singleton calls call ih =>
    have hlast := ih.call call
    rw [run, List.foldl_append]
    rw [Call.tables, List.filterMap_append]
    cases call <;> exact hlast

end LocaleResolver

theorem Locale.lastDefinition?_shadowed (p q : Locale → Bool) (tables : List Locale) (slot : Slot) :
    lastDefinition? (tables.filter p ++ tables.filter q) slot =
      lastDefinition? (tables.filter (fun table => p table && !q table) ++ tables.filter q) slot := by
  rw [lastDefinition?_append, lastDefinition?_append]
  cases hlast : lastDefinition? (tables.filter q) slot with
  | some value => rfl
  | none =>
    have hnone : ∀ table ∈ tables, q table = true → table.slot? slot = none := by
      simpa [lastDefinition?] using hlast
    clear hlast
    induction tables with
    | nil => rfl
    | cons table tables ih =>
      obtain ⟨htable, htables⟩ := List.forall_mem_cons.mp hnone
      by_cases hp : p table = true <;> by_cases hq : q table = true <;>
        simp_all [lastDefinition?_cons]

namespace LocaleResolver

def SharesPrimary (lang : String) (l : Locale) : Prop :=
  l.lang ≠ "" ∧ primarySubtag l.lang = primarySubtag lang

instance (lang : String) (l : Locale) : Decidable (SharesPrimary lang l) :=
  inferInstanceAs (Decidable (_ ∧ _))

def sequence (added ofStyle : List Locale) (lang : String) : List Locale :=
  added.filter (fun l => SharesPrimary lang l ∧ l.lang ≠ lang) ++ added.filter (·.lang = lang) ++
    ofStyle.filter (·.lang = "") ++ ofStyle.filter (SharesPrimary lang ·) ++
    ofStyle.filter (·.lang = lang)

theorem lastDefinition?_sequence (r : LocaleResolver) (lang : String) (slot : Slot) :
    Locale.lastDefinition? (sequence r.added r.ofStyle lang) slot =
      Locale.lastDefinition? (r.layers lang) slot := by
  have hbase (l : Locale) : (decide (SharesPrimary lang l) && !decide (l.lang = lang)) =
      isBase lang l := by
    rw [Bool.eq_iff_iff, Bool.and_eq_true, decide_eq_true_iff]
    simp [SharesPrimary, isBase, and_right_comm]
  have hneutral (l : Locale) : decide (l.lang = "") = l.lang.isEmpty := by
    rw [Bool.eq_iff_iff]
    simp
  have hshadowed := Locale.lastDefinition?_shadowed (SharesPrimary lang ·) (·.lang = lang) r.ofStyle slot
  rw [sequence, layers, List.append_assoc _ _ (r.ofStyle.filter (·.lang = lang)),
    Locale.lastDefinition?_append, hshadowed, ← Locale.lastDefinition?_append, ← List.append_assoc]
  simp only [Bool.decide_and, decide_not, hbase, hneutral]
  rfl

theorem nodup_keys_of_mem_layers {r : LocaleResolver} {table : Locale} {lang : String}
    (hadded : ∀ table ∈ r.added, table.terms.keys.Nodup)
    (hofStyle : ∀ table ∈ r.ofStyle, table.terms.keys.Nodup) (h : table ∈ r.layers lang) :
    table.terms.keys.Nodup := by
  simp only [layers, List.mem_append, List.mem_filter] at h
  rcases h with (((h | h) | h) | h) | h
  · exact hadded table h.1
  · exact hadded table h.1
  · exact hofStyle table h.1
  · exact hofStyle table h.1
  · exact hofStyle table h.1

/-- Each slot of a locale is that of the last table that defines it, the built-in one being the
first, and what was resolved before does not matter. -/
theorem resolve_last_definition (blocks : List LocaleBlock) (calls : List Call)
    (hcalls : ∀ table ∈ Call.tables calls, table.terms.keys.Nodup) (lang : String) :
    let builtIn : Locale :=
      if primarySubtag lang ≠ "en" ∨ lang = "en-GB" then
        { Locale.english with punctuationInQuote? := some false }
      else Locale.english
    let resolved := (((ofBlocks blocks).run calls).resolve lang).1
    resolved.lang = lang ∧ ∀ slot, resolved.slot? slot = Locale.lastDefinition?
      (builtIn :: sequence (Call.tables calls) (blocks.map Locale.ofBlock) lang) slot := by
  intro builtIn resolved
  have hcurrent := current_run blocks calls
  have hresolved : resolved = ((ofBlocks blocks).run calls).layered lang := hcurrent.resolve_eq lang
  refine ⟨by rw [hresolved, layered_lang], fun slot => ?_⟩
  have hbuiltIn : (LocaleResolver.builtIn lang).slot? slot = builtIn.slot? slot := by
    simp only [builtIn, LocaleResolver.builtIn, Bool.or_eq_true, bne_iff_ne, beq_iff_eq]
    generalize Locale.english = english
    split <;> cases slot <;> rfl
  have hofStyle : ∀ table ∈ blocks.map Locale.ofBlock, table.terms.keys.Nodup := by
    simpa using fun block _ => Locale.nodup_keys_ofBlock block
  have hlayers : ∀ table ∈ ((ofBlocks blocks).run calls).layers lang, table.terms.keys.Nodup := by
    intro table htable
    apply nodup_keys_of_mem_layers _ _ htable
    · rwa [hcurrent.added]
    · rwa [hcurrent.ofStyle]
  have hsequence := lastDefinition?_sequence ((ofBlocks blocks).run calls) lang slot
  rw [hcurrent.added, hcurrent.ofStyle] at hsequence
  rw [hresolved, layered, Locale.slot?_foldl_merge hlayers, Locale.lastDefinition?_cons,
    Locale.lastDefinition?_cons, hsequence, hbuiltIn]

def tableWithAnd (lang text : String) : Locale := Locale.setTerm { lang } "and" .long (.simple text)

def germanCalls : List Call :=
  [.add (tableWithAnd "de-AT" "und (AT)"), .resolve "de-DE", .add (tableWithAnd "de-DE" "und"),
    .resolve "de-AT", .add (tableWithAnd "de" "u.")]

theorem resolve_last_definition_of_german :
    (∀ table ∈ Call.tables germanCalls, table.terms.keys.Nodup) ∧
      let resolved := (((ofBlocks []).run germanCalls).resolve "de-DE").1
      resolved.lang = "de-DE" ∧
        resolved.slot? (.term "and" .long) = some (TermValue.simple "und") ∧
        resolved.slot? (.term "and" .symbol) = some (TermValue.simple "&") ∧
        resolved.slot? .punctuationInQuote = some false := by
  have hcalls : ∀ table ∈ Call.tables germanCalls, table.terms.keys.Nodup := by decide
  obtain ⟨hlang, hslots⟩ := resolve_last_definition [] germanCalls hcalls "de-DE"
  refine ⟨hcalls, hlang, ?_, ?_, ?_⟩
  · rw [hslots]
    decide +kernel
  · rw [hslots]
    decide +kernel
  · rw [hslots]
    decide +kernel

end LocaleResolver

end Citeproc
