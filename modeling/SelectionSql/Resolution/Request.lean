import SelectionSql.Identity
import SelectionSql.Modifiers.Inspection
import SelectionSql.Selection.Classified

/-!
# Requests

* `Resolution.Options`: what a resolution may do.
* `Resolution.Entity`: an entry point, the rows of a type in a table, with modifiers that it forces
  on every caller.
* `Resolution.Request`: one level to resolve.
* `Resolution.rootRequest`: the request of a root field; the caller's limit and ordering count
  before the forced ones, a forced filter always holds.
* `Resolution.relationRequest`: the request for the rows related to one row. They are those that
  point at the row, whatever the caller asks for.
* `Resolution.statementOf`: the statement of a request.
-/
set_option autoImplicit false

namespace SelectionSql
namespace Resolution
open Selection (Node Related Classified)

/-- What a resolution may do. -/
structure Options where
  /-- How many statements may be under way at once. -/
  maxConcurrency : Nat
  /-- Fields unknown to the schema are errors. -/
  strictFields : Bool
  /-- Orderings may be any text. -/
  allowRawOrderBy : Bool
deriving DecidableEq, Repr

namespace Options

def default : Options := ⟨4, true, true⟩

instance : Inhabited Options := ⟨default⟩

end Options

/-! ## Entities -/

/-- Modifiers that an entity forces on its callers. -/
inductive Forced where
  | none
  | fixed (modifiers : Modifiers)
  /-- Computed from who is asking and what is asked for. -/
  | computed (modifiers : Identity → Modifiers → Modifiers)

/-- The text that shows what is forced. -/
def Forced.inspected : Forced → String
  | .none => "None"
  | .fixed modifiers => "Static(" ++ modifiers.inspected ++ ")"
  | .computed _ => "Computed(..)"

/-- An entry point: the rows of a type, read from a table. -/
structure Entity where
  typeName : String
  table : String
  forced : Forced

def Entity.forcedFor (e : Entity) (identity : Identity) (caller : Modifiers) : Modifiers :=
  match e.forced with
  | .none => .empty
  | .fixed modifiers => modifiers
  | .computed modifiers => modifiers identity caller

/-! ## Requests -/

/-- One level to resolve. -/
structure Request where
  node : Node
  typeName : String
  /-- The table that the statement reads, which is the pivot where there is one. -/
  table : String
  /-- The table of the type's rows; pivots are named after it. -/
  entityTable : String
  /-- The type joined through the table, if that is a pivot. -/
  pivotTarget : Option String
  modifiers : Modifiers
  cardinality : Cardinality

def rootRequest (schema : Schema) (options : Options) (entity : Entity) (identity : Identity)
    (field : Node) : Except ResolveError Request :=
  match schema.queryField? field.name with
  | none => .error (.unknownQueryField field.name)
  | some declared => do
    let caller ← Modifiers.ofArguments field.arguments options.allowRawOrderBy
    let forced := entity.forcedFor identity caller
    return { node := field, typeName := entity.typeName, table := entity.table,
             entityTable := entity.table, pivotTarget := none,
             modifiers := caller.merge forced .caller,
             cardinality := .ofList declared.type.list }

/-- The filter that holds for all rows related to the row with the given id. -/
def parentFilter (parentType : String) (id : Scalar) : Modifiers :=
  Modifiers.empty.withFilter (foreignKey (lowercase parentType)) id

/-- The request for the rows related to one row of a request. -/
def relationRequest (parent : Request) (related : Related parent.node) (id : Scalar)
    (caller : Modifiers) : Request :=
  let modifiers := caller.merge (parentFilter parent.typeName id) .forced
  match related.field.relation with
  | .toManyMany first =>
    { node := related.node, typeName := related.targetType,
      table := pivotTable parent.entityTable related.node.name first,
      entityTable := entityTable related.targetType, pivotTarget := some related.targetType,
      modifiers, cardinality := related.cardinality }
  | _ =>
    { node := related.node, typeName := related.targetType,
      table := toManyTable related.node.name, entityTable := toManyTable related.node.name,
      pivotTarget := none, modifiers, cardinality := related.cardinality }

theorem relationRequest_node (parent : Request) (related : Related parent.node) (id : Scalar)
    (caller : Modifiers) : (relationRequest parent related id caller).node = related.node := by
  unfold relationRequest
  split <;> rfl

/-! ## Statements -/

def levelOf (r : Request) (selected : Classified r.node) : Level :=
  { selected.level r.table with
    modifiers := r.modifiers, cardinality := r.cardinality, pivotTarget := r.pivotTarget }

/-- The fields of a request by kind. -/
def classified (schema : Schema) (options : Options) (r : Request) :
    Except ResolveError (Classified r.node) :=
  Selection.classify schema r.typeName r.node options.strictFields

def statementOf (schema : Schema) (options : Options) (r : Request) :
    Except ResolveError Statement := do
  return (levelOf r (← classified schema options r)).statement

end Resolution
end SelectionSql
