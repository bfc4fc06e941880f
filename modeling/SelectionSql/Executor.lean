import SelectionSql.Scalar
import SelectionSql.Sql.Dialect

/-!
# The storage seam

Everything that touches a database goes through an `Executor`: it takes the text of a statement and
answers with rows, or with the outcome of a write, or with an error. What it remembers between
statements is its state.

* `StorageError`: why a statement failed.
* `WriteOutcome`: what a write reports.
* `Executor`: the two operations, over any state; `Executor.logged` records the statements.
-/
set_option autoImplicit false

namespace SelectionSql

inductive StorageError where
  /-- The engine's own words. -/
  | engine (text : String)
  | lockPoisoned
  | unsupported (what : String)
deriving DecidableEq

def StorageError.message : StorageError → String
  | .engine text => "SQLite error: " ++ text
  | .lockPoisoned => "Connection lock poisoned"
  | .unsupported what => "Unsupported: " ++ what

structure WriteOutcome where
  rowsAffected : UInt64
  /-- The id that an INSERT generated, if the engine tells. -/
  lastInsertId : Option Int64
deriving DecidableEq

/-- Runs statements; `σ` is what it remembers between them. -/
structure Executor (σ : Type) where
  /-- The dialect in which statements are written for it. -/
  dialect : Dialect
  fetchAll : String → StateM σ (Except StorageError (List Row))
  execute : String → StateM σ (Except StorageError WriteOutcome)

namespace Executor
variable {σ : Type}

def fetchFirst (e : Executor σ) (sql : String) : StateM σ (Except StorageError (Option Row)) := do
  return (← e.fetchAll sql).map List.head?

/-- An executor that also records every statement, in order. -/
def logged (e : Executor σ) : Executor (σ × List String) where
  dialect := e.dialect
  fetchAll := fun sql s =>
    let (answer, s') := (e.fetchAll sql).run s.1
    (answer, (s', s.2 ++ [sql]))
  execute := fun sql s =>
    let (answer, s') := (e.execute sql).run s.1
    (answer, (s', s.2 ++ [sql]))

/-- An executor whose answer to a statement depends on its text alone. -/
def ofAnswers (dialect : Dialect) (rows : String → Except StorageError (List Row))
    (write : String → Except StorageError WriteOutcome) : Executor Unit where
  dialect := dialect
  fetchAll := fun sql => pure (rows sql)
  execute := fun sql => pure (write sql)

end Executor
end SelectionSql
