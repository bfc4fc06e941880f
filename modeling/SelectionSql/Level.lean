import SelectionSql.Cardinality
import SelectionSql.Modifiers.Basic
import SelectionSql.Naming
import SelectionSql.Nesting
import SelectionSql.Sql.Query

/-!
# The statement of one level

One level of a selection is one SELECT.

* `ToOneJoin`: a to-one relation whose columns come with the row.
* `Level`: the table, the columns, the joins and the modifiers of a level. With a pivot target the
  table is a pivot: rows and filters are the pivot's, columns are those of the target, which is
  joined through it.
* `Level.query`: the statement, put together from `items`, `joinClauses`, `condition`, `rowLimit`.
* `Level.hidesId`: the id is selected although nobody asked for it, and is to be dropped later.
-/
set_option autoImplicit false

namespace SelectionSql

/-- A to-one relation whose columns are selected with the row. -/
structure ToOneJoin where
  relation : String
  targetType : String
  columns : List String
deriving DecidableEq

/-- One level of a selection. -/
structure Level where
  table : String
  /-- The type whose table is joined through `table`, if that is a pivot. -/
  pivotTarget : Option String
  columns : List String
  joins : List ToOneJoin
  modifiers : Modifiers
  cardinality : Cardinality
  /-- The id is needed even if it is not among the columns. -/
  ensureId : Bool

/-- A statement, and whether its id column is to be dropped from the answer. -/
structure Statement where
  query : Sql.Query
  hiddenId : Bool
deriving DecidableEq

namespace Level
open Sql

/-- A level that reads every row of a table and asks for no column. -/
def ofTable (table : String) : Level :=
  { table, pivotTarget := none, columns := [], joins := [], modifiers := .empty,
    cardinality := .many, ensureId := false }

/-- The name under which the level's entity is known in the statement. -/
def entityName (l : Level) : String :=
  match l.pivotTarget with
  | some target => lowercase target
  | none => l.table

def pivotJoins (l : Level) : List Join :=
  match l.pivotTarget with
  | some target =>
    let name := lowercase target
    [⟨.left, ⟨entityTable target, some name⟩,
      .equal (.of l.table (foreignKey name)) (.of name idColumn)⟩]
  | none => []

/-- The join of a to-one relation, if any of its columns is wanted. -/
def toOneJoins (l : Level) (j : ToOneJoin) : List Join :=
  if j.columns.isEmpty then []
  else [⟨.left, ⟨entityTable j.targetType, some j.relation⟩,
    .equal (.of l.entityName (foreignKey j.relation)) (.of j.relation idColumn)⟩]

/-- The joins of the statement: the pivot's first. -/
def joinClauses (l : Level) : List Join := l.pivotJoins ++ l.joins.flatMap l.toOneJoins

/-- One predicate for each column of the filter, conjoined in order. -/
def condition (l : Level) : Option Expr :=
  l.modifiers.filter.entries.foldl
    (fun acc e => some (conjoin acc ((Expr.of l.table e.1).equalTo e.2))) none

/-- The rows that are wanted: for one object at most one. -/
def rowLimit (l : Level) : Option UInt64 :=
  match l.cardinality, l.modifiers.effectiveLimit with
  | .one, .rows 0 => some 0
  | .one, _ => some 1
  | .many, limit => limit.rows?

def ownItems (l : Level) : List SelectItem := l.columns.map fun c => ⟨.of l.entityName c, none⟩

/-- The columns of the joined relations, under the names that nest them. -/
def joinedItems (l : Level) : List SelectItem :=
  l.joins.flatMap fun j => j.columns.map fun c =>
    ⟨.of j.relation c, some (Nesting.columnAlias j.relation c)⟩

/-- The id has to be selected without being asked for: rows need it to be told apart, or nothing
else is selected. -/
def hidesId (l : Level) : Bool :=
  !l.columns.contains idColumn && (l.ensureId || (l.ownItems ++ l.joinedItems).isEmpty)

def items (l : Level) : List SelectItem :=
  l.ownItems ++ l.joinedItems ++
    (if l.hidesId then [⟨.of l.entityName idColumn, none⟩] else [])

def query (l : Level) : Query :=
  { select := l.items, source := some ⟨l.table, none⟩, joins := l.joinClauses,
    filter := l.condition, orderBy := l.modifiers.orderBy.toList.map OrderBy.expr,
    limit := l.rowLimit }

def statement (l : Level) : Statement := ⟨l.query, l.hidesId⟩

end Level
end SelectionSql
