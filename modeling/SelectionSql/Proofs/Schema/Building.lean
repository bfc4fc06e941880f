import Mathlib.Data.List.Induction
import Mathlib.Logic.Function.Basic
import SelectionSql.Proofs.Nesting.Alias
import SelectionSql.Proofs.Schema.Fields

/-!
# Schemas built by hand

Types and schemas are built step by step, by forms that refuse a name and by forms that replace
what stands under it. The two kinds mix in any order, and a refusal does not end the work.

* `SchemaType.addField`, `Schema.addType`: the refusing forms, as steps on what they change.
  `addField_eq`, `addType_eq`: they are `addField?` and `addType?`, written over the old value, so
  what these do is what a history does.
* `Bench`, `Operation`, `Operation.run`, `Bench.after`: what is being built, and histories of it.
* `OrderedMap.Put`: a value put under a name. `SchemaType.Adds`, `Schema.Adds`: what is refused.
* `Operation.Effect`, `Operation.effect_run`: what one operation does.
* `StoredByName`, `Bench.WellNamed`, `Bench.Traced`: what every operation preserves.
* `Schema.validate_eq_ok_iff`: what a validation asks for.
* `built_well_formed`: every history builds well-formed schemas.
-/
set_option autoImplicit false

namespace SelectionSql

/-! ## Steps in place -/

/-- Steps that change a value and may fail; what they have written by then stays. -/
abbrev Building (σ : Type) : Type → Type := ExceptT SchemaError (StateM σ)

/-- Writes the result over the value; a failure leaves the value alone. -/
def Building.overwrite {σ : Type} (m : σ → Except SchemaError σ) : Building σ Unit := fun s =>
  match m s with
  | .ok s' => (.ok (), s')
  | .error e => (.error e, s)

namespace SchemaType

def addField (f : FieldDef) : Building SchemaType Unit := do
  let t ← get
  t.checkName f.name
  if t.fields.contains f.name then throw (.duplicateField t.name f.name)
  set (t.withField f)

def putField (f : FieldDef) : Building SchemaType Unit := modify fun t => t.withField f

/-- The checks come before the only step that writes. -/
theorem addField_eq (f : FieldDef) : addField f = Building.overwrite fun t => t.addField? f := by
  funext t
  rw [addField, Run.bind_apply]
  show ((liftM (t.checkName f.name) : Building SchemaType Unit) >>= fun _ => _) t = _
  rw [Run.bind_apply, Run.lift_apply, Building.overwrite, addField?, checkName]
  cases Nesting.isReserved f.name with
  | true => rfl
  | false =>
    by_cases hknown : t.fields.contains f.name = true
    · rw [if_pos hknown, if_pos hknown]
      rfl
    · rw [if_neg hknown, if_neg hknown]
      rfl

end SchemaType

namespace Schema

def addType (t : SchemaType) : Building Schema Unit := do
  let s ← get
  if s.hasType t.name then throw (.duplicateType t.name)
  set (s.withType t)

def putType (t : SchemaType) : Building Schema Unit := modify fun s => s.withType t

theorem addType_eq (t : SchemaType) : addType t = Building.overwrite fun s => s.addType? t := by
  funext s
  rw [addType, Run.bind_apply, Building.overwrite, addType?]
  show (if s.hasType t.name = true then throw _ else set _ : Building _ _) s = _
  cases s.hasType t.name <;> rfl

end Schema

/-! ## Histories -/

/-- The types and the schemas that are being built. Each stands in a place of its own; a type that
goes into a schema stays in its place as well. -/
structure Bench where
  types : Nat → SchemaType
  schemas : Nat → Schema

namespace Bench

instance : Inhabited Bench := ⟨⟨fun _ => default, fun _ => default⟩⟩

def setType (b : Bench) (i : Nat) (t : SchemaType) : Bench :=
  { b with types := Function.update b.types i t }

def setSchema (b : Bench) (k : Nat) (s : Schema) : Bench :=
  { b with schemas := Function.update b.schemas k s }

/-- Takes a step on the type in one place. -/
def onType (b : Bench) (i : Nat) (m : Building SchemaType Unit) :
    Except SchemaError Unit × Bench :=
  ((m (b.types i)).1, b.setType i (m (b.types i)).2)

/-- Takes a step on the schema in one place. -/
def onSchema (b : Bench) (k : Nat) (m : Building Schema Unit) : Except SchemaError Unit × Bench :=
  ((m (b.schemas k)).1, b.setSchema k (m (b.schemas k)).2)

@[simp] theorem setType_self (b : Bench) (i : Nat) : b.setType i (b.types i) = b := by
  rw [setType, Function.update_eq_self]

@[simp] theorem setSchema_self (b : Bench) (k : Nat) : b.setSchema k (b.schemas k) = b := by
  rw [setSchema, Function.update_eq_self]

end Bench

/-- An operation on the type in place `i`, on the schema in place `k`, or on both. -/
inductive Operation where
  | newType (i : Nat) (name : String)
  | addField (i : Nat) (f : FieldDef)
  | field (i : Nat) (name : String) (type : TypeRef) (relation : Relation)
  | newSchema (k : Nat) (queryType : String)
  | addType (k i : Nat)
  | withType (k i : Nat)
deriving DecidableEq

def Operation.run (b : Bench) : Operation → Except SchemaError Unit × Bench
  | .newType i name => (.ok (), b.setType i (.ofName name))
  | .addField i f => b.onType i (SchemaType.addField f)
  | .field i name type relation => b.onType i (SchemaType.putField ⟨name, type, relation⟩)
  | .newSchema k queryType => (.ok (), b.setSchema k (.ofQueryType queryType))
  | .addType k i => b.onSchema k (Schema.addType (b.types i))
  | .withType k i => b.onSchema k (Schema.putType (b.types i))

/-- What has been built by the end of a history. -/
def Bench.after (history : List Operation) : Bench :=
  history.foldl (fun b op => (op.run b).2) default

theorem Bench.after_append (history : List Operation) (op : Operation) :
    after (history ++ [op]) = (op.run (after history)).2 := by
  rw [after, List.foldl_append]
  rfl

/-! ## What one operation does -/

/-- A value is put under a name: in the place of the one that stands there, else at the end. The
other entries keep their places and their values. -/
inductive OrderedMap.Put {α : Type} (m : OrderedMap α) (name : String) (value : α) :
    OrderedMap α → Prop
  | replaced {m' : OrderedMap α} {before after : Entries α} {old : α}
      (h : m.entries = before ++ (name, old) :: after)
      (h' : m'.entries = before ++ (name, value) :: after) : Put m name value m'
  | appended {m' : OrderedMap α} (hnew : name ∉ m.keys)
      (h' : m'.entries = m.entries ++ [(name, value)]) : Put m name value m'

/-- A field is added to a type, unless its name is reserved or stands there already. -/
inductive SchemaType.Adds (t : SchemaType) (f : FieldDef) :
    Except SchemaError Unit → SchemaType → Prop
  | reserved (h : ['_', '_'] <:+: f.name.toList) :
      Adds t f (.error (.reservedFieldName t.name f.name)) t
  | duplicate (hplain : ¬ ['_', '_'] <:+: f.name.toList) (h : f.name ∈ t.fields.keys) :
      Adds t f (.error (.duplicateField t.name f.name)) t
  | appended (hplain : ¬ ['_', '_'] <:+: f.name.toList) (hnew : f.name ∉ t.fields.keys)
      {fields : OrderedMap FieldDef} (h : fields.entries = t.fields.entries ++ [(f.name, f)]) :
      Adds t f (.ok ()) ⟨t.name, fields⟩

/-- A type is added to a schema, unless its name stands there already. -/
inductive Schema.Adds (s : Schema) (t : SchemaType) : Except SchemaError Unit → Schema → Prop
  | duplicate (h : t.name ∈ s.types.keys) : Adds s t (.error (.duplicateType t.name)) s
  | appended (hnew : t.name ∉ s.types.keys) {types : OrderedMap SchemaType}
      (h : types.entries = s.types.entries ++ [(t.name, t)]) :
      Adds s t (.ok ()) ⟨types, s.queryType⟩

/-- What an operation answers, and what it leaves behind. -/
inductive Operation.Effect (b : Bench) : Operation → Except SchemaError Unit → Bench → Prop
  | newType (i : Nat) (name : String) :
      Effect b (.newType i name) (.ok ()) (b.setType i ⟨name, .empty⟩)
  | addField {i : Nat} {f : FieldDef} {o : Except SchemaError Unit} {t : SchemaType}
      (h : (b.types i).Adds f o t) : Effect b (.addField i f) o (b.setType i t)
  | field {i : Nat} {name : String} {type : TypeRef} {relation : Relation}
      {fields : OrderedMap FieldDef}
      (h : (b.types i).fields.Put name ⟨name, type, relation⟩ fields) :
      Effect b (.field i name type relation) (.ok ()) (b.setType i ⟨(b.types i).name, fields⟩)
  | newSchema (k : Nat) (queryType : String) :
      Effect b (.newSchema k queryType) (.ok ()) (b.setSchema k ⟨.empty, queryType⟩)
  | addType {k i : Nat} {o : Except SchemaError Unit} {s : Schema}
      (h : (b.schemas k).Adds (b.types i) o s) : Effect b (.addType k i) o (b.setSchema k s)
  | withType {k i : Nat} {types : OrderedMap SchemaType}
      (h : (b.schemas k).types.Put (b.types i).name (b.types i) types) :
      Effect b (.withType k i) (.ok ()) (b.setSchema k ⟨types, (b.schemas k).queryType⟩)

theorem Entries.insert_of_split {α : Type} {before : Entries α} {name : String}
    (h : name ∉ keys before) (old value : α) (after : Entries α) :
    insert (before ++ (name, old) :: after) name value = before ++ (name, value) :: after := by
  induction before with
  | nil => exact if_pos rfl
  | cons e rest ih =>
    have hne : e.1 ≠ name := fun heq => h (heq ▸ List.mem_cons_self)
    have hrest : name ∉ keys rest := fun hmem => h (List.mem_cons_of_mem e.1 hmem)
    rw [List.cons_append, insert, if_neg hne, ih hrest, List.cons_append]

theorem OrderedMap.put_insert {α : Type} (m : OrderedMap α) (name : String) (value : α) :
    m.Put name value (m.insert name value) := by
  by_cases hname : name ∈ m.keys
  · obtain ⟨before, old, after, hsplit⟩ := exists_split hname
    refine .replaced hsplit ?_
    rw [entries_insert, hsplit, Entries.insert_of_split (nodup_of_split hsplit).1]
  · exact .appended hname (Entries.insert_of_notMem hname value)

theorem SchemaType.adds_addField (t : SchemaType) (f : FieldDef) :
    t.Adds f (addField f t).1 (addField f t).2 := by
  rw [addField_eq, Building.overwrite]
  have hplain : Nesting.isReserved f.name = false → ¬ ['_', '_'] <:+: f.name.toList := fun h =>
    Nesting.isReserved_iff.not.1 (by rw [h]; exact Bool.false_ne_true)
  cases hadd : t.addField? f with
  | ok t' =>
    obtain ⟨hfree, hnew, hname, hentries⟩ := addField?_ok hadd
    obtain ⟨name, fields⟩ := t'
    cases hname
    exact .appended (hplain hfree) hnew hentries
  | error e =>
    rcases addField?_error hadd with ⟨hreserved, rfl⟩ | ⟨hfree, hknown, rfl⟩
    · exact .reserved (Nesting.isReserved_iff.1 hreserved)
    · exact .duplicate (hplain hfree) hknown

theorem Schema.adds_addType (s : Schema) (t : SchemaType) :
    s.Adds t (addType t s).1 (addType t s).2 := by
  rw [addType_eq, Building.overwrite]
  cases hadd : s.addType? t with
  | ok s' =>
    obtain ⟨hnew, rfl⟩ := addType?_ok hadd
    exact .appended hnew (Entries.insert_of_notMem hnew t)
  | error e =>
    obtain ⟨hknown, rfl⟩ := addType?_error hadd
    exact .duplicate hknown

theorem Operation.effect_run (b : Bench) (op : Operation) :
    op.Effect b (op.run b).1 (op.run b).2 := by
  cases op with
  | newType i name => exact .newType i name
  | addField i f => exact .addField ((b.types i).adds_addField f)
  | field i name type relation => exact .field (OrderedMap.put_insert _ _ _)
  | newSchema k queryType => exact .newSchema k queryType
  | addType k i => exact .addType ((b.schemas k).adds_addType (b.types i))
  | withType k i => exact .withType (OrderedMap.put_insert _ _ _)

theorem Operation.Effect.eq_of_error {b b' : Bench} {op : Operation} {e : SchemaError}
    (h : op.Effect b (.error e) b') : b' = b := by
  cases h with
  | addField h => cases h <;> exact b.setType_self _
  | addType h => cases h; exact b.setSchema_self _

/-! ## What every operation preserves -/

/-- The values of a map stand under their own names, each once. -/
structure StoredByName {α : Type} (nameOf : α → String) (m : OrderedMap α) : Prop where
  own : ∀ e ∈ m.entries, e.1 = nameOf e.2
  once : (m.values.map nameOf).Nodup

section Own
variable {α : Type} {nameOf : α → String} {m : OrderedMap α}

theorem OrderedMap.keys_of_own (h : ∀ e ∈ m.entries, e.1 = nameOf e.2) :
    m.keys = m.values.map nameOf := by
  rw [values, List.map_map]
  exact List.map_congr_left h

theorem StoredByName.of_own (h : ∀ e ∈ m.entries, e.1 = nameOf e.2) : StoredByName nameOf m :=
  ⟨h, m.keys_of_own h ▸ m.nodup⟩

end Own

/-- What holds of the entries of a map and of a new one holds after it is put. -/
theorem OrderedMap.Put.forall_entries {α : Type} {m m' : OrderedMap α} {name : String} {value : α}
    (h : m.Put name value m') {P : String × α → Prop} (hm : ∀ e ∈ m.entries, P e)
    (hnew : P (name, value)) : ∀ e ∈ m'.entries, P e := by
  intro e he
  cases h with
  | @replaced before after _ h h' =>
    rw [h] at hm
    rw [h'] at he
    rcases List.mem_append.1 he with he | he
    · exact hm e (List.mem_append_left _ he)
    · rcases List.mem_cons.1 he with rfl | he
      · exact hnew
      · exact hm e (List.mem_append_right _ (List.mem_cons_of_mem _ he))
  | appended _ h' =>
    rw [h'] at he
    rcases List.mem_append.1 he with he | he
    · exact hm e he
    · rw [List.mem_singleton.1 he]
      exact hnew

def SchemaType.WellNamed (t : SchemaType) : Prop := StoredByName FieldDef.name t.fields

structure Schema.WellNamed (s : Schema) : Prop where
  types : StoredByName SchemaType.name s.types
  fields : ∀ e ∈ s.types.entries, e.2.WellNamed

structure Bench.WellNamed (b : Bench) : Prop where
  types : ∀ i, (b.types i).WellNamed
  schemas : ∀ k, (b.schemas k).WellNamed

section Empty
variable {α : Type} {P : String × α → Prop}

theorem OrderedMap.forall_entries_empty : ∀ e ∈ (empty : OrderedMap α).entries, P e :=
  fun _ he => absurd he List.not_mem_nil

end Empty

theorem Bench.WellNamed.default : (default : Bench).WellNamed :=
  ⟨fun _ => .of_own OrderedMap.forall_entries_empty,
    fun _ => ⟨.of_own OrderedMap.forall_entries_empty, OrderedMap.forall_entries_empty⟩⟩

theorem Bench.WellNamed.setType {b : Bench} (h : b.WellNamed) {i : Nat} {t : SchemaType}
    (ht : t.WellNamed) : (b.setType i t).WellNamed :=
  ⟨(Function.forall_update_iff b.types fun _ u => u.WellNamed).2 ⟨ht, fun j _ => h.types j⟩,
    h.schemas⟩

theorem Bench.WellNamed.setSchema {b : Bench} (h : b.WellNamed) {k : Nat} {s : Schema}
    (hs : s.WellNamed) : (b.setSchema k s).WellNamed :=
  ⟨h.types,
    (Function.forall_update_iff b.schemas fun _ u => u.WellNamed).2 ⟨hs, fun j _ => h.schemas j⟩⟩

theorem SchemaType.WellNamed.put {t : SchemaType} (h : t.WellNamed) {f : FieldDef}
    {fields : OrderedMap FieldDef} (hput : t.fields.Put f.name f fields) :
    (SchemaType.mk t.name fields).WellNamed :=
  .of_own (hput.forall_entries h.own rfl)

theorem Schema.WellNamed.put {s : Schema} (h : s.WellNamed) {t : SchemaType} (ht : t.WellNamed)
    {types : OrderedMap SchemaType} (hput : s.types.Put t.name t types) :
    (Schema.mk types s.queryType).WellNamed :=
  ⟨.of_own (hput.forall_entries h.types.own rfl), hput.forall_entries h.fields ht⟩

theorem Operation.Effect.wellNamed {b b' : Bench} {op : Operation} {o : Except SchemaError Unit}
    (h : op.Effect b o b') (hb : b.WellNamed) : b'.WellNamed := by
  cases h with
  | newType i name => exact hb.setType (.of_own OrderedMap.forall_entries_empty)
  | @addField i f o t h =>
    cases h with
    | reserved h => exact hb.setType (hb.types i)
    | duplicate hplain h => exact hb.setType (hb.types i)
    | appended hplain hnew h => exact hb.setType ((hb.types i).put (.appended hnew h))
  | @field i name type relation fields h =>
    exact hb.setType (SchemaType.WellNamed.put (f := ⟨name, type, relation⟩) (hb.types i) h)
  | newSchema k queryType =>
    exact hb.setSchema ⟨.of_own OrderedMap.forall_entries_empty, OrderedMap.forall_entries_empty⟩
  | @addType k i o s h =>
    cases h with
    | duplicate h => exact hb.setSchema (hb.schemas k)
    | appended hnew h => exact hb.setSchema ((hb.schemas k).put (hb.types i) (.appended hnew h))
  | @withType k i types h => exact hb.setSchema ((hb.schemas k).put (hb.types i) h)

theorem Bench.after_wellNamed (history : List Operation) : (after history).WellNamed := by
  induction history using List.reverseRecOn with
  | nil => exact .default
  | append_singleton history op ih =>
    rw [after_append]
    exact (op.effect_run _).wellNamed ih

/-! ## Where names and types come from -/

/-- Since the type in place `i` was new, a field of the name was put there by the form that takes
any name. -/
def PutUnchecked (history : List Operation) (i : Nat) (name : String) : Prop :=
  ∃ before type relation after, history = before ++ Operation.field i name type relation :: after ∧
    ∀ typeName, Operation.newType i typeName ∉ after

/-- Since the schema in place `k` was new, the type was taken over as it stood in some place. -/
def TakenOver (history : List Operation) (k : Nat) (t : SchemaType) : Prop :=
  ∃ before i after, (history = before ++ Operation.addType k i :: after ∨
      history = before ++ Operation.withType k i :: after) ∧
    (∀ queryType, Operation.newSchema k queryType ∉ after) ∧ t = (Bench.after before).types i

/-- Every reserved name in the place was put there unchecked. -/
def SchemaType.Traced (history : List Operation) (i : Nat) (t : SchemaType) : Prop :=
  ∀ e ∈ t.fields.entries, ['_', '_'] <:+: e.1.toList → PutUnchecked history i e.1

def Schema.Traced (history : List Operation) (k : Nat) (s : Schema) : Prop :=
  ∀ e ∈ s.types.entries, TakenOver history k e.2

section Append
variable {history : List Operation} {op : Operation}

theorem notMem_append_singleton {after : List Operation} {other : Operation} (h : other ∉ after)
    (hop : op ≠ other) : other ∉ after ++ [op] := fun hmem =>
  (List.mem_append.1 hmem).elim h fun hlast => hop (List.mem_singleton.1 hlast).symm

theorem SchemaType.Traced.append {i : Nat} {t : SchemaType} (h : t.Traced history i)
    (hop : ∀ name, op ≠ .newType i name) : t.Traced (history ++ [op]) i := by
  intro e he hreserved
  obtain ⟨before, type, relation, after, rfl, hafter⟩ := h e he hreserved
  refine ⟨before, type, relation, after ++ [op], List.append_assoc _ _ _, fun name => ?_⟩
  exact notMem_append_singleton (hafter name) (hop name)

theorem Schema.Traced.append {k : Nat} {s : Schema} (h : s.Traced history k)
    (hop : ∀ queryType, op ≠ .newSchema k queryType) : s.Traced (history ++ [op]) k := by
  intro e he
  obtain ⟨before, i, after, hhistory, hafter, ht⟩ := h e he
  refine ⟨before, i, after ++ [op], ?_, fun queryType => ?_, ht⟩
  · rcases hhistory with rfl | rfl
    · exact .inl (List.append_assoc _ _ _)
    · exact .inr (List.append_assoc _ _ _)
  · exact notMem_append_singleton (hafter queryType) (hop queryType)

end Append

theorem Operation.Effect.traced_types {history : List Operation} {b b' : Bench} {op : Operation}
    {o : Except SchemaError Unit} (h : op.Effect b o b')
    (hb : ∀ i, (b.types i).Traced history i) : ∀ i, (b'.types i).Traced (history ++ [op]) i := by
  -- Only `newType` makes a place new.
  have hkept : (∀ i name, op ≠ .newType i name) → ∀ i, (b.types i).Traced (history ++ [op]) i :=
    fun hop i => (hb i).append (hop i)
  cases h with
  | newType i name =>
    refine (Function.forall_update_iff b.types fun j t => t.Traced _ j).2
      ⟨OrderedMap.forall_entries_empty, fun j hj => (hb j).append fun other heq => ?_⟩
    cases heq
    exact hj rfl
  | @addField i f o t h =>
    have hold := hkept nofun
    refine (Function.forall_update_iff b.types fun j t => t.Traced _ j).2 ⟨?_, fun j _ => hold j⟩
    cases h with
    | reserved h => exact hold i
    | duplicate hplain h => exact hold i
    | appended hplain hnew h =>
      have hput := OrderedMap.Put.appended hnew h
      exact hput.forall_entries (hold i) fun hreserved => absurd hreserved hplain
  | @field i name type relation fields h =>
    have hold := hkept nofun
    refine (Function.forall_update_iff b.types fun j t => t.Traced _ j).2 ⟨?_, fun j _ => hold j⟩
    exact h.forall_entries (hold i) fun _ => ⟨history, type, relation, [], rfl, nofun⟩
  | newSchema k queryType => exact hkept nofun
  | addType h => exact hkept nofun
  | withType h => exact hkept nofun

theorem Operation.Effect.traced_schemas {history : List Operation} {b' : Bench} {op : Operation}
    {o : Except SchemaError Unit} (h : op.Effect (Bench.after history) o b')
    (hb : ∀ k, ((Bench.after history).schemas k).Traced history k) :
    ∀ k, (b'.schemas k).Traced (history ++ [op]) k := by
  have hkept : (∀ k queryType, op ≠ .newSchema k queryType) →
      ∀ k, ((Bench.after history).schemas k).Traced (history ++ [op]) k :=
    fun hop k => (hb k).append (hop k)
  cases h with
  | newSchema k queryType =>
    refine (Function.forall_update_iff (Bench.after history).schemas fun j s => s.Traced _ j).2
      ⟨OrderedMap.forall_entries_empty, fun j hj => (hb j).append fun other heq => ?_⟩
    cases heq
    exact hj rfl
  | @addType k i o s h =>
    have hold := hkept nofun
    refine (Function.forall_update_iff (Bench.after history).schemas fun j s => s.Traced _ j).2
      ⟨?_, fun j _ => hold j⟩
    cases h with
    | duplicate h => exact hold k
    | appended hnew h =>
      have hput := OrderedMap.Put.appended hnew h
      exact hput.forall_entries (hold k) ⟨history, i, [], .inl rfl, nofun, rfl⟩
  | @withType k i types h =>
    have hold := hkept nofun
    refine (Function.forall_update_iff (Bench.after history).schemas fun j s => s.Traced _ j).2
      ⟨?_, fun j _ => hold j⟩
    exact h.forall_entries (hold k) ⟨history, i, [], .inr rfl, nofun, rfl⟩
  | newType i name => exact hkept nofun
  | addField h => exact hkept nofun
  | field h => exact hkept nofun

theorem Bench.after_traced (history : List Operation) :
    (∀ i, ((after history).types i).Traced history i) ∧
      ∀ k, ((after history).schemas k).Traced history k := by
  induction history using List.reverseRecOn with
  | nil =>
    exact ⟨fun _ => OrderedMap.forall_entries_empty, fun _ => OrderedMap.forall_entries_empty⟩
  | append_singleton history op ih =>
    have heffect := op.effect_run (after history)
    rw [after_append]
    exact ⟨heffect.traced_types ih.1, heffect.traced_schemas ih.2⟩

/-! ## Validation -/

theorem SchemaType.checkName_eq_ok_iff {t : SchemaType} {name : String} :
    t.checkName name = .ok () ↔ ¬ ['_', '_'] <:+: name.toList := by
  rw [checkName, ← Nesting.isReserved_iff]
  cases Nesting.isReserved name <;> simp

theorem Schema.validate_eq_ok_iff {s : Schema} :
    s.validate = .ok () ↔ s.hasType s.queryType = true ∧
      ∀ t ∈ s.types.values, ∀ name ∈ t.fields.keys, ¬ ['_', '_'] <:+: name.toList := by
  rw [validate]
  by_cases hquery : s.hasType s.queryType = true
  · rw [if_pos hquery, forM_eq_ok_iff]
    simp only [forM_eq_ok_iff, SchemaType.checkName_eq_ok_iff, hquery, true_and]
  · rw [if_neg hquery]
    exact ⟨fun h => (nomatch h), fun h => absurd h.1 hquery⟩

theorem Schema.WellNamed.validate_eq_ok_iff {s : Schema} (h : s.WellNamed) :
    s.validate = .ok () ↔ (∃ t ∈ s.types.values, t.name = s.queryType) ∧
      ∀ t ∈ s.types.values, ∀ f ∈ t.fields.values, ¬ ['_', '_'] <:+: f.name.toList := by
  have hquery : s.hasType s.queryType = true ↔ ∃ t ∈ s.types.values, t.name = s.queryType := by
    rw [hasType, OrderedMap.contains_iff, OrderedMap.keys_of_own h.types.own, List.mem_map]
  rw [Schema.validate_eq_ok_iff, hquery]
  refine and_congr_right fun _ => forall₂_congr fun t ht => ?_
  obtain ⟨e, he, rfl⟩ := List.mem_map.1 ht
  rw [OrderedMap.keys_of_own (h.fields e he).own, List.forall_mem_map]

/-! ## All histories -/

/-- Whatever a history mixes: types and fields stand under their own names, once each; an operation
has its effect, and none where it is refused; names with a `__` are only put unchecked; and a
validation asks for the query type and for nothing else than names without a `__`. -/
theorem built_well_formed {history : List Operation} {b : Bench} (hb : Bench.after history = b) :
    b.WellNamed ∧
      (∀ op : Operation, op.Effect b (op.run b).1 (op.run b).2 ∧
        ∀ e, (op.run b).1 = .error e → (op.run b).2 = b) ∧
      (∀ i, ∀ f ∈ (b.types i).fields.values, ['_', '_'] <:+: f.name.toList →
        PutUnchecked history i f.name) ∧
      (∀ k, ∀ t ∈ (b.schemas k).types.values, TakenOver history k t) ∧
      ∀ k, (b.schemas k).validate = .ok () ↔
        (∃ t ∈ (b.schemas k).types.values, t.name = (b.schemas k).queryType) ∧
        ∀ t ∈ (b.schemas k).types.values, ∀ f ∈ t.fields.values,
          ¬ ['_', '_'] <:+: f.name.toList := by
  subst hb
  have hnamed := Bench.after_wellNamed history
  obtain ⟨htypes, hschemas⟩ := Bench.after_traced history
  refine ⟨hnamed, fun op => ?_, fun i f hf hreserved => ?_, fun k t ht => ?_, fun k => ?_⟩
  · have heffect := op.effect_run (Bench.after history)
    exact ⟨heffect, fun e he => (he ▸ heffect).eq_of_error⟩
  · obtain ⟨e, he, rfl⟩ := List.mem_map.1 hf
    have hown := (hnamed.types i).own e he
    rw [← hown] at hreserved ⊢
    exact htypes i e he hreserved
  · obtain ⟨e, he, rfl⟩ := List.mem_map.1 ht
    exact hschemas k e he
  · exact (hnamed.schemas k).validate_eq_ok_iff

/-- A type of posts with a field put twice and a reserved one, taken into a schema twice. -/
def postsHistory : List Operation :=
  [.newType 0 "Post", .addField 0 ⟨"id", ⟨"Int", false, false⟩, .none⟩,
    .addField 0 ⟨"tags", ⟨"Tag", true, true⟩, .toMany⟩,
    .field 0 "id" ⟨"String", false, true⟩ .none, .addField 0 ⟨"a__b", ⟨"Int", false, true⟩, .none⟩,
    .field 0 "tag__name" ⟨"String", false, true⟩ .none, .newSchema 0 "Post", .withType 0 0,
    .addType 0 0]

/-- The type that the history builds. -/
def postsType : SchemaType := ⟨"Post", .ofList [
  ("id", ⟨"id", ⟨"String", false, true⟩, .none⟩), ("tags", ⟨"tags", ⟨"Tag", true, true⟩, .toMany⟩),
  ("tag__name", ⟨"tag__name", ⟨"String", false, true⟩, .none⟩)]⟩

theorem built_well_formed_posts :
    (Bench.after postsHistory).types 0 = postsType ∧
      PutUnchecked postsHistory 0 "tag__name" ∧
      ((Operation.addType 0 0).run (Bench.after postsHistory)).1 =
        .error (.duplicateType "Post") ∧
      ((Operation.addType 0 0).run (Bench.after postsHistory)).2 = Bench.after postsHistory ∧
      ((Bench.after postsHistory).schemas 0).validate ≠ .ok () := by
  have htype : (Bench.after postsHistory).types 0 = postsType := by decide +kernel
  have hschema : (Bench.after postsHistory).schemas 0 =
      ⟨.ofList [("Post", postsType)], "Post"⟩ := by
    decide +kernel
  have hrefused : ((Operation.addType 0 0).run (Bench.after postsHistory)).1 =
      .error (.duplicateType "Post") := by
    decide +kernel
  have htag : ⟨"tag__name", ⟨"String", false, true⟩, .none⟩ ∈ postsType.fields.values := by decide
  have hreserved : ['_', '_'] <:+: "tag__name".toList := Nesting.isReserved_iff.1 rfl
  obtain ⟨-, hrun, hunchecked, -, hvalid⟩ :=
    built_well_formed (rfl : Bench.after postsHistory = Bench.after postsHistory)
  refine ⟨htype, hunchecked 0 _ (htype ▸ htag) hreserved, hrefused, (hrun _).2 _ hrefused,
    fun h => ?_⟩
  have hpost : postsType ∈ ((Bench.after postsHistory).schemas 0).types.values := by
    rw [hschema]
    exact List.mem_singleton.2 rfl
  exact ((hvalid 0).1 h).2 postsType hpost _ htag hreserved

end SelectionSql
