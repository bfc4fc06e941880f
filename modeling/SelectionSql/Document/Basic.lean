import SelectionSql.Grammar.Value
import SelectionSql.ResolveError

/-!
# Query documents

* `Document.Selection`: a field, an inline fragment or the spread of a named fragment. Aliases and
  type conditions are read but not kept: nothing depends on them.
* `Document.Operation`, `Document.Fragment`: the two kinds of definitions.
* `Document`: the operations, either one without a name or any number of named ones, and the
  fragments by name.
* `Document.pick`: the operation that is to be resolved.
-/
set_option autoImplicit false

namespace SelectionSql
namespace Document
open Grammar (Value Directive OperationKind)

/-- One item of a selection set. -/
inductive Selection where
  | field (name : String) (arguments : List (String × Value)) (directives : List Directive)
      (selections : List Selection)
  | inlineFragment (directives : List Directive) (selections : List Selection)
  | spread (fragment : String) (directives : List Directive)

instance : Inhabited Selection := ⟨.spread "" []⟩

/-- A declared variable with its default. -/
structure VariableDefinition where
  name : String
  directives : List Directive
  default : Option Value

structure Operation where
  kind : OperationKind
  definitions : List VariableDefinition
  directives : List Directive
  selections : List Selection

structure Fragment where
  directives : List Directive
  selections : List Selection

inductive Definition where
  | operation (name : Option String) (operation : Operation)
  | fragment (name : String) (fragment : Fragment)

inductive Operations where
  /-- One operation without a name. -/
  | anonymous (operation : Operation)
  /-- Operations by name. -/
  | named (operations : OrderedMap Operation)

end Document

structure Document where
  operations : Document.Operations
  fragments : OrderedMap Document.Fragment

namespace Document

/-- The operation to resolve. One without a name is taken whatever name is asked for; of named ones
a single one needs no name. -/
def pick (d : Document) (operationName : Option String) : Except DocumentError Operation :=
  match d.operations, operationName with
  | .anonymous operation, _ => .ok operation
  | .named operations, some name =>
    match operations.find? name with
    | some operation => .ok operation
    | none => .error (.unknownOperation name)
  | .named operations, none =>
    match operations.values with
    | [operation] => .ok operation
    | _ => .error .ambiguousOperation

/-! ## Limits

The definitions of a document are checked in their order: a number too large for a double makes the
text unreadable, and selection sets nest at most sixty-four deep below the set of their operation or
fragment. -/

/-- How deep selection sets may nest below the outermost one. -/
def maxNesting : Nat := 64

/-- Fails unless the condition holds. -/
def requireReadable (condition : Bool) : Except DocumentError Unit :=
  if condition then .ok () else .error .unreadable

mutual

/-- Checks a selection that may hold sets nested `remaining` deep. -/
def checkSelection (remaining : Nat) : Selection → Except DocumentError Unit
  | .field _ arguments directives selections => do
    requireReadable
      (Grammar.Value.inRangeFields arguments && directives.all Grammar.Directive.inRange)
    if selections.isEmpty then return ()
    match remaining with
    | 0 => .error .tooDeep
    | r + 1 => checkSelections r selections
  | .inlineFragment directives selections => do
    requireReadable (directives.all Grammar.Directive.inRange)
    match remaining with
    | 0 => .error .tooDeep
    | r + 1 => checkSelections r selections
  | .spread _ directives => requireReadable (directives.all Grammar.Directive.inRange)

/-- Checks the items of a set in order. -/
def checkSelections (remaining : Nat) : List Selection → Except DocumentError Unit
  | [] => .ok ()
  | s :: rest => do
    checkSelection remaining s
    checkSelections remaining rest

end

def VariableDefinition.inRange (v : VariableDefinition) : Bool :=
  v.directives.all Grammar.Directive.inRange && (v.default.map Grammar.Value.inRange).getD true

/-- Checks one definition. -/
def Definition.check : Definition → Except DocumentError Unit
  | .operation _ o => do
    requireReadable (o.definitions.all VariableDefinition.inRange)
    requireReadable (o.directives.all Grammar.Directive.inRange)
    checkSelections maxNesting o.selections
  | .fragment _ f => do
    requireReadable (f.directives.all Grammar.Directive.inRange)
    checkSelections maxNesting f.selections

/-! ## From definitions -/

/-- What has been gathered from the definitions so far. -/
structure Gathered where
  operations : Option Operations
  fragments : OrderedMap Fragment

/-- Adds one definition. An operation without a name must be the only one, and no name is defined
twice. -/
def Gathered.add (g : Gathered) : Definition → Except DocumentError Gathered
  | .operation name o =>
    match g.operations, name with
    | none, none => .ok { g with operations := some (.anonymous o) }
    | none, some n => .ok { g with operations := some (.named (OrderedMap.empty.insert n o)) }
    | some (.named os), some n =>
      if os.contains n then .error (.duplicateOperation n)
      else .ok { g with operations := some (.named (os.insert n o)) }
    | some _, _ => .error .severalAnonymous
  | .fragment name f =>
    if g.fragments.contains name then .error (.duplicateFragment name)
    else .ok { g with fragments := g.fragments.insert name f }

def ofDefinitions (definitions : List Definition) : Except DocumentError Document := do
  definitions.forM Definition.check
  let gathered ← definitions.foldlM Gathered.add ⟨none, .empty⟩
  match gathered.operations with
  | some operations => return ⟨operations, gathered.fragments⟩
  | none => .error .noOperation

end Document
end SelectionSql
