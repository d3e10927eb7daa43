import Citeproc.Session.Basic
import Mathlib.Data.List.Induction

namespace Citeproc

theorem Locale.merge_lang (l upper : Locale) : (l.merge upper).lang = l.lang := rfl

namespace LocaleResolver

theorem layered_lang (r : LocaleResolver) (lang : String) : (r.layered lang).lang = lang := by
  have fold (tables : List Locale) (l : Locale) : (tables.foldl Locale.merge l).lang = l.lang := by
    induction tables generalizing l with
    | nil => rfl
    | cons table tables ih => rw [List.foldl_cons, ih, Locale.merge_lang]
  exact fold _ _

theorem resolve_of_cache_nil (r : LocaleResolver) (lang : String) (h : r.cache = []) :
    r.resolve lang = (r.layered lang, { r with cache := [(lang, r.layered lang)] }) := by
  simp only [resolve, h, Table.get?, List.lookup_nil, Table.put, Table.modify]

theorem layered_congr {r q : LocaleResolver} (ha : r.added = q.added) (hs : r.ofStyle = q.ofStyle)
    (lang : String) : r.layered lang = q.layered lang := by
  rw [layered, layered, layers, layers, ha, hs]

end LocaleResolver

namespace Session

inductive Call
  | register (citations : List Citation)
  | addLocale (table : Locale)

namespace Call

def table? : Call → Option Locale
  | register _ => none
  | addLocale table => some table

def citations? : Call → Option (List Citation)
  | register citations => some citations
  | addLocale _ => none

def tables (calls : List Call) : List Locale := calls.filterMap table?

def lastCitations? (calls : List Call) : Option (List Citation) :=
  (calls.filterMap citations?).getLast?

end Call

def call (s : Session) : Call → Session
  | .register citations => s.register citations
  | .addLocale table => s.addLocale table

def run (s : Session) (calls : List Call) : Session := calls.foldl call s

def addLocales (s : Session) (tables : List Locale) : Session := tables.foldl addLocale s

def registerLast (s : Session) : Option (List Citation) → Session
  | none => s
  | some citations => s.register citations

@[simp] theorem run_nil (s : Session) : s.run [] = s := rfl

theorem run_concat (s : Session) (calls : List Call) (call : Call) :
    s.run (calls ++ [call]) = (s.run calls).call call := by
  rw [run, List.foldl_append]
  rfl

theorem register_register (s : Session) (earlier later : List Citation) :
    (s.register earlier).register later = s.register later := rfl

theorem addLocale_register (s : Session) (citations : List Citation) (table : Locale) :
    (s.register citations).addLocale table = (s.addLocale table).register citations := by
  simp only [register, addLocale, refresh, renderer]

theorem run_eq_registerLast (s : Session) (calls : List Call) :
    s.run calls = (s.addLocales (Call.tables calls)).registerLast (Call.lastCitations? calls) := by
  induction calls using List.reverseRecOn with
  | nil => rfl
  | append_singleton calls call ih =>
    rw [run_concat, ih]
    cases call with
    | register citations =>
      have hl : Call.lastCitations? (calls ++ [.register citations]) = some citations := by
        simp [Call.lastCitations?, Call.citations?]
      have ht : Call.tables (calls ++ [.register citations]) = Call.tables calls := by
        simp [Call.tables, Call.table?]
      rw [hl, ht]
      cases Call.lastCitations? calls with
      | none => rfl
      | some earlier => exact register_register _ earlier citations
    | addLocale table =>
      have hl : Call.lastCitations? (calls ++ [.addLocale table]) = Call.lastCitations? calls := by
        simp [Call.lastCitations?, Call.citations?]
      have ht : Call.tables (calls ++ [.addLocale table]) = Call.tables calls ++ [table] := by
        simp [Call.tables, Call.table?]
      have ha : s.addLocales (Call.tables calls ++ [table]) =
          (s.addLocales (Call.tables calls)).addLocale table := by
        rw [addLocales, List.foldl_append]
        rfl
      rw [hl, ht, ha]
      cases Call.lastCitations? calls with
      | none => rfl
      | some citations => exact addLocale_register _ citations table

structure Layered (s : Session) (style : Style) (lang : String) (tables : List Locale) : Prop where
  added : s.resolver.added = tables
  ofStyle : s.resolver.ofStyle = style.locales.map Locale.ofBlock
  locale : s.locale = s.resolver.layered lang

theorem layered_new (style : Style) (bibliography : Bibliography) (options : SessionOptions) :
    (new style bibliography options).Layered style (language style options) [] := by
  have hr := LocaleResolver.resolve_of_cache_nil (.ofBlocks style.locales)
    (language style options) rfl
  simp only [new, hr]
  exact ⟨rfl, rfl, rfl⟩

theorem Layered.addLocale {s : Session} {style : Style} {lang : String} {tables : List Locale}
    (h : s.Layered style lang tables) (table : Locale) :
    (s.addLocale table).Layered style lang (tables ++ [table]) := by
  have hlang : s.locale.lang = lang := by rw [h.locale, LocaleResolver.layered_lang]
  have hr := LocaleResolver.resolve_of_cache_nil (s.resolver.add table) lang rfl
  simp only [Session.addLocale, hlang, hr]
  constructor
  · simp only [refresh, LocaleResolver.add, h.added]
  · exact h.ofStyle
  · rfl

theorem layered_addLocales (style : Style) (bibliography : Bibliography) (options : SessionOptions)
    (tables : List Locale) :
    ((new style bibliography options).addLocales tables).Layered style (language style options)
      tables := by
  induction tables using List.reverseRecOn with
  | nil => exact layered_new style bibliography options
  | append_singleton tables table ih =>
    rw [addLocales, List.foldl_append]
    exact ih.addLocale table

theorem registerLast_locale (s : Session) (citations? : Option (List Citation)) :
    (s.registerLast citations?).locale = s.locale := by
  cases citations? <;> rfl

/-- A session has no hidden history. -/
theorem run_new_eq (style : Style) (bibliography : Bibliography) (options : SessionOptions)
    (calls : List Call) :
    let tables := Call.tables calls
    let fresh := (new style bibliography options).addLocales tables
    (new style bibliography options).run calls = fresh.registerLast (Call.lastCitations? calls) ∧
      ((new style bibliography options).run calls).locale =
        { LocaleResolver.ofBlocks style.locales with added := tables }.layered
          (language style options) := by
  intro tables fresh
  have hrun := run_eq_registerLast (new style bibliography options) calls
  have hl := layered_addLocales style bibliography options tables
  refine ⟨hrun, ?_⟩
  rw [hrun, registerLast_locale, hl.locale]
  exact LocaleResolver.layered_congr hl.added hl.ofStyle _

end Session

end Citeproc
