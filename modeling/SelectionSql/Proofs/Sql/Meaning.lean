import SelectionSql.Proofs.Sql.OutputColumns

/-!
# What a statement means

A statement is answered over a database by nested loops: a row of the first table is extended by
rows of the joined tables, one after the other, and what the condition is true of is returned.

* `Sql.Truth`: truth of three values. `Sql.Equality`: what `=` may be.
* `Sql.Database`, `Sql.Scope`: the tables, and one row of the joined tables under their names.
* `Sql.Expr.value`, `Sql.Expr.truth`: what an expression is for one row of the joined tables.
* `Sql.Query.isMeaningful`: each name that is used names exactly one table that stands before it.
* `Sql.Query.answer?`: the rows that a statement returns. Stars, raw text and orderings are left
  out, so a statement that has them has no answer here.
* `Sql.joinRow_keyJoin`, `Sql.joinRows_keyJoins`: left joins that follow keys into tables whose ids
  are unique keep a row and append one row for each key.
-/
set_option autoImplicit false

namespace SelectionSql
namespace Sql

/-! ## Truth of three values -/

/-- A truth value; `none` is unknown. -/
abbrev Truth : Type := Option Bool

namespace Truth

def and : Truth → Truth → Truth
  | some false, _ => some false
  | _, some false => some false
  | some true, some true => some true
  | _, _ => none

def isTrue (t : Truth) : Bool := t == some true

theorem isTrue_and (a b : Truth) : (a.and b).isTrue = (a.isTrue && b.isTrue) := by
  rcases a with _ | (_ | _) <;> rcases b with _ | (_ | _) <;> rfl

end Truth

/-- A relation that `=` may stand for: it is never true of null. -/
structure Equality where
  test : Scalar → Scalar → Truth
  null_left : ∀ v, (test .null v).isTrue = false
  null_right : ∀ v, (test v .null).isTrue = false

def Equality.holds (eq : Equality) (a b : Scalar) : Bool := (eq.test a b).isTrue

/-! ## Rows -/

/-- A row of a table: the value of each column. -/
abbrev Record : Type := String → Scalar

/-- The row that stands for a missing one. -/
def Record.allNull : Record := fun _ => .null

/-- The rows of each table. -/
abbrev Database : Type := String → List Record

/-- A row of the joined tables: one row of each, under the table's name. -/
abbrev Scope : Type := Entries Record

def Scope.record (scope : Scope) (table : String) : Record :=
  (Entries.find? scope table).getD .allNull

/-! ## Expressions -/

/-- The value that a literal is written as: a double that is not finite is written as null. -/
def literalValue : Scalar → Scalar
  | .float f => if f.isFinite then .float f else .null
  | v => v

def isFiniteValue : Scalar → Bool
  | .float f => f.isFinite
  | _ => true

theorem literalValue_of_isFiniteValue {v : Scalar} (h : isFiniteValue v = true) :
    literalValue v = v := by
  cases v with
  | float f => exact if_pos h
  | _ => rfl

namespace Expr

def value (scope : Scope) : Expr → Scalar
  | .column (some table) name => scope.record table name
  | .column none name =>
    match scope with
    | [(_, r)] => r name
    | _ => .null
  | .literal v => literalValue v
  | _ => .null

def truth (eq : Equality) (scope : Scope) : Expr → Truth
  | .equal a b => eq.test (a.value scope) (b.value scope)
  | .and a b => (a.truth eq scope).and (b.truth eq scope)
  | .isNull e => some (e.value scope).isNull
  | _ => none

def holds (eq : Equality) (scope : Scope) (e : Expr) : Bool := (e.truth eq scope).isTrue

/-- A value that can be told where these tables are in scope. A column without a table can be told
only if there is one table. -/
def isValue (names : List String) : Expr → Bool
  | .column (some table) _ => names.contains table
  | .column none _ => names.length == 1
  | .literal _ => true
  | _ => false

def isCondition (names : List String) : Expr → Bool
  | .equal a b => a.isValue names && b.isValue names
  | .and a b => a.isCondition names && b.isCondition names
  | .isNull e => e.isValue names
  | _ => false

end Expr

/-! ## Statements -/

/-- Every joined table has a name of its own, and its condition refers to no table behind it. -/
def joinsResolve : List String → List Join → Bool
  | _, [] => true
  | names, j :: rest =>
    !names.contains j.table.qualifier && j.on.isCondition (names ++ [j.table.qualifier]) &&
      joinsResolve (names ++ [j.table.qualifier]) rest

def Query.isMeaningful (q : Query) : Bool :=
  match q.source with
  | none => false
  | some t =>
    let names := t.qualifier :: q.joins.map fun j => j.table.qualifier
    joinsResolve [t.qualifier] q.joins && q.filter.all (fun c => c.isCondition names) &&
      q.orderBy.isEmpty && !q.select.isEmpty &&
      q.select.all fun item => item.outputName?.isSome && item.expr.isValue names

def SelectItem.output (scope : Scope) (item : SelectItem) : Option (String × Scalar) :=
  item.outputName?.map fun name => (name, item.expr.value scope)

section
variable (eq : Equality) (db : Database)

/-- A row extended by every row of one more table that meets the condition. A left join keeps the
row also if none does. -/
def joinRow (j : Join) (scope : Scope) : List Scope :=
  let extended (r : Record) : Scope := scope ++ [(j.table.qualifier, r)]
  match j.kind, (db j.table.table).filter fun r => j.on.holds eq (extended r) with
  | .left, [] => [extended .allNull]
  | _, found => found.map extended

def joinRows : List Join → Scope → List Scope
  | [], scope => [scope]
  | j :: rest, scope => (joinRow eq db j scope).flatMap (joinRows rest)

/-- The rows of the joined tables that a statement returns its columns of. -/
def Query.scopes (q : Query) (t : TableRef) : List Scope :=
  let joined := (db t.table).flatMap fun r => joinRows eq db q.joins [(t.qualifier, r)]
  let kept := joined.filter fun scope => q.filter.all (Expr.holds eq scope)
  match q.limit with
  | none => kept
  | some rows => kept.take rows.toNat

/-- The rows that a statement returns, each with its columns in order. -/
def Query.answer? (q : Query) : Option (List (Entries Scalar)) :=
  match q.source with
  | none => none
  | some t =>
    if q.isMeaningful then
      some ((q.scopes eq db t).map fun scope => q.select.filterMap (SelectItem.output scope))
    else none

end

/-! ## Following keys -/

/-- A left join of the row that a key points at. The key is called after the name that the row is
given. -/
def keyJoin (owner table name : String) : Join :=
  ⟨.left, ⟨table, some name⟩, .equal (.of owner (foreignKey name)) (.of name idColumn)⟩

theorem value_of {scope : Scope} (hnodup : (Entries.keys scope).Nodup) {table : String} {r : Record}
    (hmem : (table, r) ∈ scope) (column : String) :
    (Expr.of table column).value scope = r column := by
  have hfind : Entries.find? scope table = some r := (Entries.mem_iff_find? hnodup _ _).1 hmem
  show (Entries.find? scope table).getD .allNull column = _
  rw [hfind]
  rfl

section
variable (eq : Equality) (db : Database)

/-- No value is the id of two rows of the table. -/
def UniqueIds (table : String) : Prop :=
  ∀ v : Scalar, ((db table).filter fun r => eq.holds v (r idColumn)).length ≤ 1

/-- The row of a table that a key points at. Null points at none, and where there is none, every
column is null. -/
def referenced (table : String) (key : Scalar) : Record :=
  if key.isNull then .allNull
  else ((db table).find? fun r => eq.holds key (r idColumn)).getD .allNull

variable {eq db}

theorem joinRow_left {t : TableRef} {on : Expr} {scope : Scope}
    (hunique : ((db t.table).filter fun r =>
      on.holds eq (scope ++ [(t.qualifier, r)])).length ≤ 1) :
    joinRow eq db ⟨.left, t, on⟩ scope =
      [scope ++ [(t.qualifier, ((db t.table).find? fun r =>
        on.holds eq (scope ++ [(t.qualifier, r)])).getD .allNull)]] := by
  rw [← List.head?_filter]
  unfold joinRow
  dsimp only
  cases hfound : (db t.table).filter fun r => on.holds eq (scope ++ [(t.qualifier, r)]) with
  | nil => rfl
  | cons r more =>
    rw [hfound, List.length_cons] at hunique
    have hmore : more = [] := List.length_eq_zero_iff.1 (by omega)
    rw [hmore]
    rfl

theorem referenced_eq_find? (table : String) (key : Scalar) :
    referenced eq db table key =
      ((db table).find? fun r => eq.holds key (r idColumn)).getD .allNull := by
  unfold referenced
  split
  · next hnull =>
    cases key with
    | null =>
      have hnone : (db table).find? (fun r => eq.holds .null (r idColumn)) = none :=
        List.find?_eq_none.2 fun r _ => by simp [Equality.holds, eq.null_left]
      rw [hnone]
      rfl
    | _ => cases hnull
  · rfl

theorem joinRow_keyJoin {scope : Scope} {owner table name : String} {r : Record}
    (howner : (owner, r) ∈ scope) (hnodup : (Entries.keys scope ++ [name]).Nodup)
    (hids : UniqueIds eq db table) :
    joinRow eq db (keyJoin owner table name) scope =
      [scope ++ [(name, referenced eq db table (r (foreignKey name)))]] := by
  have hon : ∀ s : Record, (keyJoin owner table name).on.holds eq (scope ++ [(name, s)]) =
      eq.holds (r (foreignKey name)) (s idColumn) := by
    intro s
    have hkeys : (Entries.keys (scope ++ [(name, s)])).Nodup := by
      rwa [Entries.keys, List.map_append]
    show (eq.test ((Expr.of owner _).value _) ((Expr.of name _).value _)).isTrue = _
    rw [value_of hkeys (List.mem_append_left _ howner),
      value_of hkeys (List.mem_append_right _ (List.mem_singleton.2 rfl))]
    rfl
  have hmatches : (fun s => (keyJoin owner table name).on.holds eq (scope ++ [(name, s)])) =
      fun s => eq.holds (r (foreignKey name)) (s idColumn) := funext hon
  rw [referenced_eq_find?, ← hmatches]
  refine joinRow_left ?_
  show ((db table).filter fun s =>
    (keyJoin owner table name).on.holds eq (scope ++ [(name, s)])).length ≤ 1
  rw [hmatches]
  exact hids _

theorem joinRows_keyJoins {owner : String} {r : Record} (targets : List (String × String))
    {scope : Scope} (howner : (owner, r) ∈ scope)
    (hnodup : (Entries.keys scope ++ targets.map Prod.snd).Nodup)
    (hids : ∀ t ∈ targets, UniqueIds eq db t.1) :
    joinRows eq db (targets.map fun t => keyJoin owner t.1 t.2) scope =
      [scope ++ targets.map fun t => (t.2, referenced eq db t.1 (r (foreignKey t.2)))] := by
  -- Each join appends one name to the scope, so the names still to come stay new to it.
  induction targets generalizing scope with
  | nil => rw [List.map_nil, List.map_nil, List.append_nil, joinRows]
  | cons t rest ih =>
    rw [List.map_cons, ← List.singleton_append, ← List.append_assoc] at hnodup
    rw [List.map_cons, joinRows,
      joinRow_keyJoin howner (List.nodup_append.1 hnodup).1 (hids t List.mem_cons_self),
      List.flatMap_singleton,
      ih (List.mem_append_left _ howner) (by rwa [Entries.keys, List.map_append])
        fun t ht => hids t (List.mem_cons_of_mem _ ht),
      List.append_assoc, List.singleton_append, List.map_cons]

theorem joinsResolve_keyJoin {names : List String} {owner table name : String}
    (howner : owner ∈ names) (hnodup : (names ++ [name]).Nodup) (rest : List Join) :
    joinsResolve names (keyJoin owner table name :: rest) =
      joinsResolve (names ++ [name]) rest := by
  have hnew : names.contains name = false := by
    simpa using fun h => (List.nodup_append.1 hnodup).2.2 name h name (List.mem_singleton.2 rfl) rfl
  have hon : (keyJoin owner table name).on.isCondition (names ++ [name]) = true := by
    simp [keyJoin, Expr.isCondition, Expr.of, Expr.isValue, howner]
  show (!names.contains name && (keyJoin owner table name).on.isCondition (names ++ [name]) &&
    joinsResolve (names ++ [name]) rest) = _
  rw [hnew, hon]
  rfl

theorem joinsResolve_keyJoins {owner : String} (targets : List (String × String))
    {names : List String} (howner : owner ∈ names)
    (hnodup : (names ++ targets.map Prod.snd).Nodup) :
    joinsResolve names (targets.map fun t => keyJoin owner t.1 t.2) = true := by
  induction targets generalizing names with
  | nil => rfl
  | cons t rest ih =>
    rw [List.map_cons, ← List.singleton_append, ← List.append_assoc] at hnodup
    rw [List.map_cons, joinsResolve_keyJoin howner (List.nodup_append.1 hnodup).1]
    exact ih (List.mem_append_left _ howner) hnodup

end

end Sql
end SelectionSql
