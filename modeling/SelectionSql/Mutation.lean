import SelectionSql.Executor
import SelectionSql.Identity
import SelectionSql.Naming
import SelectionSql.Sql.Query
import SelectionSql.Sql.Write

/-!
# Mutations

Creating, changing and deleting one row.

* `Mutation.Config`: a reducer that changes the input before it is written, and a hook that runs
  after the write with the row's id and the caller's own input.
* `Mutation.create`, `update`, `delete`: what is missing is reported before anything is written;
  then come the write, the hook, and, for a row that is left, the row as it is stored.
* `Mutation.insertOf`, `updateOf`, `deleteOf`, `readBackOf`: their statements.
-/
set_option autoImplicit false

namespace SelectionSql

inductive MutationError where
  | missingId (table : String)
  | emptyInput (table : String)
  | hook (text : String)
  | storage (cause : StorageError)
deriving DecidableEq

def MutationError.message : MutationError → String
  | .missingId table => "Mutation on `" ++ table ++ "` requires an id"
  | .emptyInput table => "Mutation on `" ++ table ++ "` has no input columns"
  | .hook text => "Post-query hook failed: " ++ text
  | .storage cause => cause.message

namespace Mutation
open Sql
variable {σ : Type}

/-- What can fail with an error of mutation, on a state. -/
abbrev Run (σ α : Type) : Type := ExceptT MutationError (StateM σ) α

/-- What may be done around a write. -/
structure Config (σ : Type) where
  reducer : Option (Row → Identity → Row)
  hook : Option (Executor σ → Scalar → Row → Run σ Unit)

namespace Config

/-- Nothing is done around the write. -/
def plain : Config σ := ⟨none, none⟩

def reduce (c : Config σ) (input : Row) (identity : Identity) : Row :=
  match c.reducer with
  | some reducer => reducer input identity
  | none => input

def after (c : Config σ) (x : Executor σ) (id : Scalar) (input : Row) : Run σ Unit :=
  match c.hook with
  | some hook => hook x id input
  | none => return ()

/-- Tells which of the two are given. -/
def description (c : Config σ) : String :=
  "MutationConfig \x7b input_reducer: " ++ boolText c.reducer.isSome ++ ", post_query: " ++
    boolText c.hook.isSome ++ " \x7d"

end Config

/-! ## Statements -/

def idCondition (id : Scalar) : Expr := (Expr.column none idColumn).equalTo id

def insertOf (table : String) (values : Row) : Insert :=
  { table, columns := values.keys, values := values.values.map Expr.literal }

def updateOf (table : String) (id : Scalar) (values : Row) : Update :=
  { table, assignments := values.entries.map fun e => (e.1, .literal e.2),
    filter := some (idCondition id) }

def deleteOf (table : String) (id : Scalar) : Delete := { table, filter := some (idCondition id) }

/-- The row of an id as it is stored. -/
def readBackOf (table : String) (id : Scalar) : Query :=
  (((Query.empty.selectStar).readFrom ⟨table, none⟩).addFilter (idCondition id)).withLimit 1

/-! ## Steps -/

def write (x : Executor σ) (sql : String) : Run σ WriteOutcome :=
  ExceptT.mk do return (← x.execute sql).mapError .storage

def readBack (x : Executor σ) (table : String) (id : Scalar) : Run σ (Option Row) :=
  ExceptT.mk do
    return (← x.fetchFirst ((readBackOf table id).render x.dialect)).mapError .storage

/-- The input that is written, unless there is none. -/
def reduced (c : Config σ) (table : String) (input : Row) (identity : Identity) :
    Except MutationError Row :=
  let values := c.reduce input identity
  if values.isEmpty then .error (.emptyInput table) else .ok values

/-- Fails without an id. -/
def requireId (table : String) (id : Scalar) : Except MutationError Unit :=
  if id.isNull then .error (.missingId table) else .ok ()

/-- The id of a row that was created: its own, or else the one that the database gave it. -/
def createdId (table : String) (values : Row) (outcome : WriteOutcome) :
    Except MutationError Scalar :=
  match values.find? idColumn with
  | some id => if id.isNull then generated else .ok id
  | none => generated
where
  /-- The id that the database gave. -/
  generated : Except MutationError Scalar :=
    match outcome.lastInsertId with
    | some n => .ok (.int n)
    | none => .error (.missingId table)

/-! ## Mutations -/

/-- Adds a row; the row as it is stored. -/
def create (x : Executor σ) (table : String) (input : Row) (c : Config σ) (identity : Identity) :
    Run σ (Option Row) := do
  let values ← reduced c table input identity
  let outcome ← write x ((insertOf table values).render x.dialect)
  let id ← createdId table values outcome
  c.after x id input
  readBack x table id

/-- Changes the row of an id; the row as it is stored. -/
def update (x : Executor σ) (table : String) (id : Scalar) (input : Row) (c : Config σ)
    (identity : Identity) : Run σ (Option Row) := do
  requireId table id
  let values ← reduced c table input identity
  let _ ← write x ((updateOf table id values).render x.dialect)
  c.after x id input
  readBack x table id

/-- Deletes the row of an id. The hook sees an empty input. -/
def delete (x : Executor σ) (table : String) (id : Scalar) (c : Config σ) : Run σ Unit := do
  requireId table id
  let _ ← write x ((deleteOf table id).render x.dialect)
  c.after x id .empty

end Mutation
end SelectionSql
