import SelectionSql.Resolution.Request

/-!
# Sub-resolutions of a level

* `Resolution.rowId?`, `rowKey?`: the id of a row that was read, and its text.
* `Resolution.Task`: one sub-resolution: the field it fills, the key of the rows it belongs to, its
  request.
* `Resolution.tasksOf`: the tasks of a level: for every relation, one for every distinct id among
  the rows. All arguments and ids of the level are checked here, before anything is run.
* `Resolution.attach`: puts the results into the rows; it reads them by field and key, so their
  order does not matter.
* `Resolution.arrange`: the keys of a row in the order of the selection.
-/
set_option autoImplicit false

namespace SelectionSql
namespace Resolution
open Selection (Node Related Classified)

/-- A row with its nested objects and lists. -/
abbrev ResultObject : Type := OrderedMap ResultValue

/-- The id of a row; null is none. -/
def rowId? (row : ResultObject) : Option Scalar :=
  match row.find? idColumn with
  | some (.scalar id) => if id.isNull then none else some id
  | _ => none

/-- The text of a row's id. -/
def rowKey? (row : ResultObject) : Option String := (rowId? row).bind Scalar.idKey?

/-! ## Tasks -/

/-- One sub-resolution below a node. -/
structure Task (parent : Node) where
  field : String
  key : String
  request : Request
  node_mem : request.node ∈ parent.children

/-- The id of a row with its text; a row without one cannot have related rows. -/
def parentId (typeName field : String) (row : ResultObject) :
    Except ResolveError (String × Scalar) :=
  match rowId? row with
  | some id => .ok (id.idKey?.getD "", id)
  | none => .error (.missingParentId typeName field)

def taskOf (r : Request) (related : Related r.node) (caller : Modifiers) (key : String)
    (id : Scalar) : Task r.node where
  field := related.node.name
  key := key
  request := relationRequest r related id caller
  node_mem := by rw [relationRequest_node]; exact related.node_mem

/-- The tasks of one relation: rows with one id share a task. -/
def relationTasks (options : Options) (r : Request) (rows : List ResultObject)
    (related : Related r.node) : Except ResolveError (List (Task r.node)) := do
  let caller ← Modifiers.ofArguments related.node.arguments options.allowRawOrderBy
  let ids ← rows.mapM (parentId r.typeName related.node.name)
  return (Selection.firstOccurrences Prod.fst [] ids).map fun p => taskOf r related caller p.1 p.2

/-- The tasks of a level, relation by relation. -/
def tasksOf (options : Options) (r : Request) (relations : List (Related r.node))
    (rows : List ResultObject) : Except ResolveError (List (Task r.node)) := do
  return (← relations.mapM (relationTasks options r rows)).flatten

/-! ## Results -/

/-- Results by field and key. -/
abbrev Results : Type := List ((String × String) × ResultValue)

/-- Puts the result of one field into a row, if there is one for its key. -/
def attachField (results : Results) (key : String) (row : ResultObject) (field : String) :
    ResultObject :=
  match results.lookup (field, key) with
  | some value => row.insert field value
  | none => row

def attach (fields : List String) (results : Results) (row : ResultObject) : ResultObject :=
  match rowKey? row with
  | some key => fields.foldl (attachField results key) row
  | none => row

/-- The entries that the selection names, in its order. -/
def namedEntries (names : List String) (row : ResultObject) : List (String × ResultValue) :=
  (Selection.firstOccurrences id [] names).filterMap fun name =>
    (row.find? name).map fun value => (name, value)

/-- The entries that the selection does not name, in their own order. -/
def otherEntries (names : List String) (row : ResultObject) : List (String × ResultValue) :=
  row.entries.filter fun e => !names.contains e.1

/-- A row with its keys in the order of the selection, and without an id that nobody asked for. -/
def arrange (node : Node) (hiddenId : Bool) (row : ResultObject) : ResultObject :=
  let kept := if hiddenId then row.erase idColumn else row
  let names := node.children.map Node.name
  .ofList (namedEntries names kept ++ otherEntries names kept)

end Resolution
end SelectionSql
