import Citeproc.Entry.CslJson
import Citeproc.Proofs.Data.Members
import Citeproc.Proofs.FirstOccurrence
import Citeproc.Proofs.Table
import Mathlib.Data.List.Induction

namespace Citeproc

open Data

namespace CslJson

def id? (item : Value) : Option String :=
  match item.member? "id" with
  | some (.text s) => some s
  | some (.number n) => some (Json.numberText n)
  | _ => none

def IsUsable (v : Value) : Prop :=
  ∃ name ∈ ["family", "literal"], ∃ s, v.member? name = some (.text s) ∧ Text.trimmed s ≠ ""

def fieldText? : Value → Option String
  | .text s => some s
  | .number n => some (Json.numberText n)
  | .object members => date? (.object members)
  | _ => none

def memberNames? : Value → Option (List Name)
  | .list items => some (items.filterMap name?) |>.filter (!·.isEmpty)
  | _ => none

structure IsAdaptation (item : Value) (e : Entry) : Prop where
  id : id? item = some e.id
  type : e.type = ((item.member? "type").bind (·.text?)).getD "article"
  field (name text : String) : e.fields.get? name = some text ↔
    name ∉ ["id", "type"] ∧ ∃ v, item.member? name = some v ∧ fieldText? v = some text
  names (role : String) (names : List Name) : e.names.get? role = some names ↔
    role ∉ ["id", "type"] ∧ ∃ items, item.member? role = some (.list items) ∧
      (∃ v ∈ items, IsUsable v) ∧ names = items.filterMap name?
  nodup_fields : e.fields.keys.Nodup
  nodup_names : e.names.keys.Nodup

section Sorted

variable (v : Value)

theorem textMember?_sorted (name : String) : textMember? v.sorted name = textMember? v name := by
  simp only [textMember?, Value.member?_sorted]
  cases v.member? name with
  | none => rfl
  | some w => cases w <;> rfl

theorem name?_sorted : name? v.sorted = name? v := by
  have hmembers : v.sorted.members?.isSome = v.members?.isSome := by cases v <;> rfl
  unfold name?
  simp only [textMember?_sorted]
  cases hv : v.members? <;> cases hs : v.sorted.members? <;> simp_all

theorem int?_sorted : int? v.sorted = int? v := by
  cases v <;> rfl

theorem isTrue_sorted : isTrue v.sorted = isTrue v := by
  cases v <;> rfl

theorem list?_sorted : v.sorted.list? = v.list?.map (·.map Value.sorted) := by
  cases v with
  | list items => rw [Value.sorted, Value.sortedAll_eq_map]; rfl
  | _ => rfl

theorem id?_sorted : id? v.sorted = id? v := by
  simp only [id?, Value.member?_sorted]
  cases v.member? "id" with
  | none => rfl
  | some w => cases w <;> rfl

theorem map_parts_sorted (f : List Int → String) (parts : List Value) :
    ((parts.map Value.sorted).filterMap (·.list?)).map (fun part => f (part.filterMap int?)) =
      (parts.filterMap (·.list?)).map (fun part => f (part.filterMap int?)) := by
  have hint : int? ∘ Value.sorted = int? := funext int?_sorted
  rw [List.filterMap_map, List.map_filterMap, List.map_filterMap]
  congr 1
  funext part
  rw [Function.comp_apply, list?_sorted, Option.map_map]
  congr 1
  funext part
  rw [Function.comp_apply, List.filterMap_map, hint]

theorem text_orElse_sorted (w w' : Option Value) :
    (match w.map Value.sorted <|> w'.map Value.sorted with | some (.text s) => some s | _ => none) =
      match w <|> w' with | some (.text s) => some s | _ => none := by
  cases w with
  | none =>
    cases w' with
    | none => rfl
    | some w' => cases w' <;> rfl
  | some w => cases w <;> rfl

theorem date?_sorted : date? v.sorted = date? v := by
  cases v with
  | object members =>
    have hmember := Value.member?_sorted (.object members)
    rw [Value.sorted] at hmember ⊢
    simp only [date?, Value.members?, Option.bind_eq_bind, Option.bind_some]
    simp only [hmember, Option.bind_map, Option.any_map, Function.comp_def, int?_sorted, isTrue_sorted]
    have htexts := map_parts_sorted fun numbers =>
      partsText (withSeason (((Value.object members).member? "season").bind int?) numbers)
    cases (Value.object members).member? "date-parts" with
    | none => exact text_orElse_sorted _ _
    | some w =>
      cases w with
      | list parts =>
        simp only [Option.map_some, Value.sorted, Value.sortedAll_eq_map]
        rw [htexts]
      | _ => exact text_orElse_sorted _ _
  | _ => rfl

theorem fieldText?_sorted : fieldText? v.sorted = fieldText? v := by
  cases v with
  | object members =>
    have hdate := date?_sorted (.object members)
    rw [Value.sorted] at hdate ⊢
    exact hdate
  | _ => rfl

theorem memberNames?_sorted : memberNames? v.sorted = memberNames? v := by
  cases v with
  | list items =>
    have hnames : (items.map Value.sorted).filterMap name? = items.filterMap name? := by
      rw [List.filterMap_map]
      exact congrArg (items.filterMap ·) (funext name?_sorted)
    rw [Value.sorted, Value.sortedAll_eq_map, memberNames?, memberNames?, hnames]
  | _ => rfl

end Sorted

theorem textMember?_eq_some_iff {v : Value} {name text : String} : textMember? v name = some text ↔
    ∃ s, v.member? name = some (.text s) ∧ Text.trimmed s = text ∧ text ≠ "" := by
  unfold textMember?
  split
  · next s heq => simp [heq, and_comm]
  · next hne =>
    refine iff_of_false nofun ?_
    rintro ⟨s, heq, -⟩
    exact hne s heq

theorem isSome_name?_iff (v : Value) : (name? v).isSome ↔ IsUsable v := by
  have hmember (name : String) : (textMember? v name).isSome ↔
      ∃ s, v.member? name = some (.text s) ∧ Text.trimmed s ≠ "" := by
    rw [Option.isSome_iff_exists]
    simp only [textMember?_eq_some_iff]
    constructor
    · rintro ⟨text, s, heq, rfl, hne⟩
      exact ⟨s, heq, hne⟩
    · rintro ⟨s, heq, hne⟩
      exact ⟨_, s, heq, rfl, hne⟩
  have hname : (name? v).isSome ↔ (textMember? v "family").isSome ∨
      (textMember? v "literal").isSome := by
    cases v with
    | object members =>
      simp only [name?, Value.members?, Option.bind_eq_bind, Option.bind_some]
      split <;> simp_all
    | _ => exact iff_of_false nofun (or_self_iff.not.mpr nofun)
  rw [hname, hmember, hmember]
  simp [IsUsable]

section Collect

variable {α : Type} (f : Value → Option α)

def collect (t : Table α) (members : List (String × Value)) : Table α :=
  members.foldl (fun t m => if m.1 ∈ ["id", "type"] then t else (f m.2).elim t (t.put m.1)) t

theorem get?_elim_put (t : Table α) (key name : String) (value : Option α) :
    (value.elim t (t.put key)).get? name =
      if name = key then value.or (t.get? name) else t.get? name := by
  cases value with
  | none => simp
  | some value => simp [Table.get?_put]

theorem get?_collect {members : List (String × Value)} (h : (members.map (·.1)).Nodup) (t : Table α)
    (name : String) : (collect f t members).get? name =
      if name ∈ ["id", "type"] then t.get? name
      else ((members.lookup name).bind f).or (t.get? name) := by
  induction members generalizing t with
  | nil => simp [collect]
  | cons member members ih =>
    obtain ⟨key, v⟩ := member
    obtain ⟨hnotMem, hnodup⟩ := List.nodup_cons.mp h
    have hnone : members.lookup key = none := Value.lookup_eq_none_of_notMem hnotMem
    rw [collect, List.foldl_cons, ← collect, ih hnodup, Value.lookup_cons_ite]
    by_cases hname : name = key
    · subst hname
      split
      · rfl
      · simp [hnone, get?_elim_put]
    · have hstep : (if key ∈ ["id", "type"] then t else (f v).elim t (t.put key)).get? name =
          t.get? name := by
        split
        · rfl
        · rw [get?_elim_put, if_neg hname]
      rw [hstep, if_neg hname]

theorem nodup_keys_collect {t : Table α} (h : t.keys.Nodup) (members : List (String × Value)) :
    (collect f t members).keys.Nodup := by
  induction members generalizing t with
  | nil => exact h
  | cons member members ih =>
    rw [collect, List.foldl_cons]
    apply ih
    split
    · exact h
    · cases f member.2 with
      | none => exact h
      | some value => exact Table.nodup_keys_modify h member.1 _

theorem get?_collect_sorted {f : Value → Option α} (hf : ∀ v, f v.sorted = f v)
    (members : List (String × Value)) (name : String) (value : α) :
    (collect f [] (Value.sortedMembers [] members)).get? name = some value ↔
      name ∉ ["id", "type"] ∧ ∃ v, (Value.object members).member? name = some v ∧ f v = some value := by
  have hlookup : (Value.sortedMembers [] members).lookup name =
      ((Value.object members).member? name).map Value.sorted := by
    rw [Value.lookup_sortedMembers, List.lookup_nil, Option.or_none]
    rfl
  have hcomp : f ∘ Value.sorted = f := funext hf
  rw [get?_collect f (Value.nodup_sortedMembers members), hlookup, Option.bind_map, hcomp, Table.get?,
    List.lookup_nil, Option.or_none]
  split
  · next h => simp [h]
  · next h => simp only [h, not_false_eq_true, true_and, Option.bind_eq_some_iff]

end Collect

theorem addMember_eq (e : Entry) (key : String) (v : Value) : addMember e (key, v) =
    if key ∈ ["id", "type"] then e
    else { e with
      fields := (fieldText? v).elim e.fields (e.fields.put key)
      names := (memberNames? v).elim e.names (e.names.put key) } := by
  by_cases h : key ∈ ["id", "type"]
  · have hkey : (key == "id" || key == "type") = true := by simpa using h
    simp only [addMember, hkey, h, if_true]
  · have hkey : (key == "id" || key == "type") = false := by simpa using h
    simp only [addMember, hkey, h, if_false, Bool.false_eq_true]
    cases v with
    | list items =>
      simp only [fieldText?, memberNames?, Option.filter_some, Bool.not_eq_eq_eq_not, Bool.not_true]
      cases (items.filterMap name?).isEmpty <;> rfl
    | object members =>
      simp only [fieldText?, memberNames?]
      cases date? (.object members) <;> rfl
    | _ => rfl

theorem foldl_addMember (members : List (String × Value)) (e : Entry) :
    members.foldl addMember e =
      { e with
        fields := collect fieldText? e.fields members
        names := collect memberNames? e.names members } := by
  induction members generalizing e with
  | nil => rfl
  | cons member members ih =>
    rw [List.foldl_cons, ih, addMember_eq, collect, collect, collect, collect, List.foldl_cons,
      List.foldl_cons]
    split <;> rfl

theorem type_sorted (item : Value) :
    (item.sorted.member? "type").bind (·.text?) = (item.member? "type").bind (·.text?) := by
  rw [Value.member?_sorted]
  cases item.member? "type" with
  | none => rfl
  | some v => cases v <;> rfl

def adapted (members : List (String × Value)) (id : String) : Entry where
  id
  type := (((Value.object members).member? "type").bind (·.text?)).getD "article"
  fields := collect fieldText? [] members
  names := collect memberNames? [] members

theorem ofCslJson_object (members : List (String × Value)) : Entry.ofCslJson (.object members) =
    (id? (.object members)).elim (.error .missingId) fun id => .ok (adapted members id) := by
  simp only [Entry.ofCslJson, Value.members?, id?, foldl_addMember]
  cases (Value.object members).member? "id" with
  | none => rfl
  | some v => cases v <;> rfl

theorem exists_ofCslJson_iff (item : Value) :
    (∃ e, Entry.ofCslJson item.sorted = .ok e) ↔ (id? item).isSome := by
  rw [← id?_sorted]
  cases item with
  | object members =>
    rw [Value.sorted, ofCslJson_object]
    cases id? (.object (Value.sortedMembers [] members)) with
    | none => simp
    | some id => simp
  | _ => simp [Value.sorted, Entry.ofCslJson, Value.members?, id?, Value.member?]

theorem memberNames?_eq_some_iff {v : Value} {names : List Name} : memberNames? v = some names ↔
    ∃ items, v = .list items ∧ (∃ v ∈ items, IsUsable v) ∧ names = items.filterMap name? := by
  cases v with
  | list items =>
    have husable : (items.filterMap name?).isEmpty = false ↔ ∃ v ∈ items, IsUsable v := by
      simp only [List.isEmpty_eq_false_iff, ne_eq, List.filterMap_eq_nil_iff, ← isSome_name?_iff,
        Option.isSome_iff_ne_none]
      simp
    rw [memberNames?, Option.filter_eq_some_iff, Bool.not_eq_eq_eq_not, Bool.not_true]
    constructor
    · rintro ⟨hnames, hne⟩
      obtain rfl := Option.some.inj hnames
      exact ⟨items, rfl, husable.mp hne, rfl⟩
    · rintro ⟨_, heq, hitems, rfl⟩
      obtain rfl := Value.list.inj heq
      exact ⟨rfl, husable.mpr hitems⟩
  | _ => simp [memberNames?]

theorem isAdaptation_of_ofCslJson {item : Value} {e : Entry} (h : Entry.ofCslJson item.sorted = .ok e) :
    IsAdaptation item e := by
  cases item with
  | object members =>
    have hmember := Value.member?_sorted (.object members)
    have hid := id?_sorted (.object members)
    have htype := type_sorted (.object members)
    rw [Value.sorted] at h hmember hid htype
    rw [ofCslJson_object, hid] at h
    cases hsome : id? (.object members) with
    | none => simp [hsome] at h
    | some id =>
      obtain rfl : adapted _ id = e := by simpa [hsome] using h
      constructor
      · exact hsome
      · exact congrArg (·.getD "article") htype
      · exact get?_collect_sorted fieldText?_sorted members
      · intro role names
        simp only [adapted, get?_collect_sorted memberNames?_sorted, memberNames?_eq_some_iff]
        refine and_congr_right fun _ => ⟨?_, ?_⟩
        · rintro ⟨_, hv, items, rfl, hitems⟩
          exact ⟨items, hv, hitems⟩
        · rintro ⟨items, hv, hitems⟩
          exact ⟨_, hv, items, rfl, hitems⟩
      · exact nodup_keys_collect fieldText? (t := []) .nil _
      · exact nodup_keys_collect memberNames? (t := []) .nil _
  | _ => cases h

end CslJson

namespace Bibliography

open CslJson

def load (items : List Value) : Except EntryError Bibliography :=
  (items.map Value.sorted).foldlM (fun b item =>
    do pure (Bibliography.add b (← Entry.ofCslJson item))) []

theorem parse_eq_ok_iff {json : String} {b : Bibliography} : parse json = .ok b ↔
    ∃ items, Json.parseStrict? json = some (.list items) ∧ load items = .ok b := by
  unfold parse
  cases Json.parseStrict? json with
  | none => simp
  | some v => cases v <;> simp [Value.sorted, Value.sortedAll_eq_map, load]

theorem load_concat_eq_ok_iff {items : List Value} {item : Value} {b : Bibliography} :
    load (items ++ [item]) = .ok b ↔
      ∃ before e, load items = .ok before ∧ Entry.ofCslJson item.sorted = .ok e ∧ before.add e = b := by
  have hload : load (items ++ [item]) =
      (load items).bind fun before => (Entry.ofCslJson item.sorted).bind fun e =>
        .ok (before.add e) := by
    rw [load, List.map_append, List.foldlM_append, ← load]
    cases load items with
    | error => rfl
    | ok before =>
      cases h : Entry.ofCslJson item.sorted <;> simp [h, Bind.bind, Except.bind, pure, Except.pure]
  rw [hload]
  cases load items with
  | error => exact iff_of_false nofun nofun
  | ok before =>
    cases Entry.ofCslJson item.sorted with
    | error => exact iff_of_false nofun nofun
    | ok e => simp [Except.bind]

theorem exists_load_iff (items : List Value) :
    (∃ b, load items = .ok b) ↔ ∀ item ∈ items, (id? item).isSome := by
  induction items using List.reverseRecOn with
  | nil => exact iff_of_true ⟨[], rfl⟩ nofun
  | append_singleton items item ih =>
    rw [List.forall_mem_append, List.forall_mem_singleton, ← ih, ← exists_ofCslJson_iff]
    simp only [load_concat_eq_ok_iff]
    constructor
    · rintro ⟨_, before, e, hbefore, he, rfl⟩
      exact ⟨⟨before, hbefore⟩, e, he⟩
    · rintro ⟨⟨before, hbefore⟩, e, he⟩
      exact ⟨_, before, e, hbefore, he, rfl⟩

structure Holds (items : List Value) (b : Bibliography) : Prop where
  keys : b.keys = (items.filterMap id?).eraseDups
  entry (key : String) (e : Entry) : b.get? key = some e → e.id = key ∧
    ∃ item, (items.filter (id? · = some key)).getLast? = some item ∧ IsAdaptation item e

theorem Holds.add {items : List Value} {item : Value} {b : Bibliography} {e : Entry} (h : Holds items b)
    (he : IsAdaptation item e) : Holds (items ++ [item]) (b.add e) := by
  constructor
  · have hids : (items ++ [item]).filterMap id? = items.filterMap id? ++ [e.id] := by
      simp [he.id]
    simp only [Bibliography.add, Table.put, Table.keys_modify, h.keys, hids,
      List.eraseDups_concat, List.mem_eraseDups]
  · intro key e' hget
    rw [Bibliography.add, Table.get?_put] at hget
    rw [List.filter_append]
    by_cases hkey : key = e.id
    · rw [if_pos hkey] at hget
      obtain rfl := Option.some.inj hget
      exact ⟨hkey.symm, item, by simp [he.id, hkey], he⟩
    · rw [if_neg hkey] at hget
      obtain ⟨hid, item', hlast, he'⟩ := h.entry key e' hget
      exact ⟨hid, item', by simp [he.id, Ne.symm hkey, hlast], he'⟩

theorem holds_of_load {items : List Value} {b : Bibliography} (h : load items = .ok b) :
    Holds items b := by
  induction items using List.reverseRecOn generalizing b with
  | nil =>
    obtain rfl := Except.ok.inj h
    exact ⟨rfl, nofun⟩
  | append_singleton items item ih =>
    obtain ⟨before, e, hbefore, he, rfl⟩ := load_concat_eq_ok_iff.mp h
    exact (ih hbefore).add (isAdaptation_of_ofCslJson he)

/-- A text is read as a bibliography just when it is a list of items with ids. Its keys are these
ids, each once and in order of first appearance, and the entry under a key is what the last item
with this id says. -/
theorem parse_adapts_items (json : String) :
    ((∃ b, parse json = .ok b) ↔
      ∃ items, Json.parseStrict? json = some (.list items) ∧ ∀ item ∈ items, (id? item).isSome) ∧
    ∀ items b, Json.parseStrict? json = some (.list items) → parse json = .ok b →
      b.keys = (items.filterMap id?).eraseDups ∧ b.keys.Nodup ∧
      ∀ key ∈ b.keys, ∃ e, b.get? key = some e ∧ e.id = key ∧
        ∃ item, (items.filter (id? · = some key)).getLast? = some item ∧ IsAdaptation item e := by
  constructor
  · simp only [parse_eq_ok_iff, ← exists_load_iff]
    constructor
    · rintro ⟨b, items, hitems, hload⟩
      exact ⟨items, hitems, b, hload⟩
    · rintro ⟨items, hitems, b, hload⟩
      exact ⟨b, items, hitems, hload⟩
  · intro items b hitems hparse
    obtain ⟨_, hitems', hload⟩ := parse_eq_ok_iff.mp hparse
    obtain rfl := Value.list.inj (Option.some.inj (hitems'.symm.trans hitems))
    have hholds := holds_of_load hload
    refine ⟨hholds.keys, hholds.keys ▸ List.nodup_eraseDups _, fun key hkey => ?_⟩
    obtain ⟨e, hget⟩ := Option.isSome_iff_exists.mp ((Table.get?_isSome_iff b key).mpr hkey)
    exact ⟨e, hget, hholds.entry key e hget⟩

theorem parse_adapts_items_of_repeated :
    let json := "[\x7b\"id\":\"1\",\"title\":\"A\"\x7d,\x7b\"id\":\"b\",\"id\":1,\"volume\":2\x7d]"
    let first := Value.object [("id", .text "1"), ("title", .text "A")]
    let last := Value.object [("id", .text "b"), ("id", .number (.int 1)), ("volume", .number (.int 2))]
    let e : Entry := { id := "1", type := "article", fields := [("volume", "2")] }
    Json.parseStrict? json = some (.list [first, last]) ∧ parse json = .ok [("1", e)] ∧
      Table.keys [("1", e)] = ([first, last].filterMap id?).eraseDups ∧
      ∃ item, ([first, last].filter (id? · = some "1")).getLast? = some item ∧ IsAdaptation item e := by
  intro json first last e
  have hitems : Json.parseStrict? json = some (.list [first, last]) := by
    simp only [json, Json.parseStrict?, Json.parse?, String.reduceToList]
    rfl
  have hload : load [first, last] = .ok [("1", e)] := rfl
  have hparse : parse json = .ok [("1", e)] := parse_eq_ok_iff.mpr ⟨_, hitems, hload⟩
  obtain ⟨hkeys, -, hentries⟩ := (parse_adapts_items json).2 _ _ hitems hparse
  obtain ⟨_, hget, -, hitem⟩ := hentries "1" List.mem_cons_self
  obtain rfl := Option.some.inj hget
  exact ⟨hitems, hparse, hkeys, hitem⟩

end Bibliography

end Citeproc
