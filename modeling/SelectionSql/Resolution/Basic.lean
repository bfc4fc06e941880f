import SelectionSql.Resolution.Task

/-!
# Resolving a selection

* `Resolution.resolve`: runs the statement of a level, nests its rows, resolves every relation once
  for each distinct id, puts the results into the rows and orders their keys. What is below a node
  is resolved by the same function, which ends because selections are finite.
* `Resolution.query`: resolves a root field.

The first failure ends the resolution. A task is run only after the whole level is known to be
sound: its fields, its statement, the arguments of its relations and the ids of its rows.
-/
set_option autoImplicit false

namespace SelectionSql
namespace Resolution
open Selection (Node Classified)
variable {σ : Type}

/-- What can fail with an error of resolution, on a state. -/
abbrev Run (σ α : Type) : Type := ExceptT ResolveError (StateM σ) α

def fetch (x : Executor σ) (s : Statement) : Run σ (List Row) :=
  ExceptT.mk do return (← x.fetchAll (s.query.render x.dialect)).mapError .storage

/-- The rows that count, nested: for one object only the first. -/
def parentsOf (cardinality : Cardinality) (rows : List Row) : List ResultObject :=
  match cardinality with
  | .many => rows.map Nesting.nest
  | .one => (rows.take 1).map Nesting.nest

/-- One object was asked for, and there is none. -/
def isMissing (cardinality : Cardinality) (parents : List ResultObject) : Bool :=
  cardinality == .one && parents.isEmpty

/-- The result of a level: a list, or one object or null. -/
def resultOf (cardinality : Cardinality) (objects : List ResultObject) : ResultValue :=
  let values := objects.map fun o => ResultValue.object o.entries
  match cardinality with
  | .many => .list values
  | .one => values.head?.getD .null

/-- A row with its results in place. -/
def finish (node : Node) (selected : Classified node) (hiddenId : Bool) (results : Results)
    (row : ResultObject) : ResultObject :=
  arrange node hiddenId (attach (selected.relations.map fun s => s.node.name) results row)

/-- Resolves a request and everything below it. -/
def resolve (x : Executor σ) (schema : Schema) (options : Options) (r : Request) :
    Run σ ResultValue := do
  let selected ← classified schema options r
  let statement := (levelOf r selected).statement
  let parents := parentsOf r.cardinality (← fetch x statement)
  if isMissing r.cardinality parents then return .null
  let tasks ← tasksOf options r selected.relations parents
  let results ← tasks.mapM fun t => do
    return ((t.field, t.key), ← resolve x schema options t.request)
  return resultOf r.cardinality (parents.map (finish r.node selected statement.hiddenId results))
termination_by r.node
decreasing_by exact Selection.Node.sizeOf_lt_of_mem_children t.node_mem

/-- Resolves a root field. -/
def query (x : Executor σ) (schema : Schema) (options : Options) (entity : Entity)
    (identity : Identity) (field : Node) : Run σ ResultValue := do
  let r ← rootRequest schema options entity identity field
  resolve x schema options r

end Resolution
end SelectionSql
