import SelectionSql.Document.Basic

/-!
# Reading query documents

* `Document.selectionSet`: a selection set.
* `Document.definition`: an operation or a fragment.
* `Document.read`: a whole text as definitions, by the grammar alone.
* `Document.parse`: a whole text as a document.
-/
set_option autoImplicit false

namespace SelectionSql
namespace Document
open Grammar Reader

/-- `on` and a type's name, right here, with blanks but no comment between them. -/
def typeCondition : Reader String := do
  literal "on"
  let _ ← takeWhile1 isSpace
  bareName

def field (set : Reader (List Selection)) : Reader Selection := do
  let _ ← opt (do
    let _ ← name
    mark ':')
  let fieldName ← name
  let args ← opt (arguments true)
  let dirs ← directives true
  let selections ← opt set
  return .field fieldName (args.getD []) dirs (selections.getD [])

/-- An inline fragment around the reader of its selection set. -/
def inlineFragment (set : Reader (List Selection)) : Reader Selection := do
  word "..."
  let _ ← opt (part typeCondition)
  let dirs ← directives true
  return .inlineFragment dirs (← set)

/-- The spread of a named fragment; a type condition must not stand in the place of the name. -/
def fragmentSpread : Reader Selection := do
  word "..."
  part (absent typeCondition)
  let fragmentName ← name
  return .spread fragmentName (← directives true)

/-- A selection set in which sets nest at most `depth` deep. -/
def selectionSetWithin : Nat → Reader (List Selection)
  | 0 => refuse
  | depth + 1 => do
    mark '\x7b'
    let set := selectionSetWithin depth
    let selections ← many1 (field set <|> inlineFragment set <|> fragmentSpread)
    mark '\x7d'
    return selections

/-- A selection set. No set nests deeper than its text is long. -/
def selectionSet : Reader (List Selection) := fun cs => selectionSetWithin (cs.length + 1) cs

def variableDefinition : Reader VariableDefinition := do
  mark '$'
  let variableName ← name
  mark ':'
  let _ ← typeTerm
  let dirs ← directives true
  let default ← opt defaultValue
  return ⟨variableName, dirs, default⟩

def variableDefinitions : Reader (List VariableDefinition) := do
  mark '('
  let definitions ← many variableDefinition
  mark ')'
  return definitions

def kindOperation : Reader Definition := do
  let kind ← operationKind
  let operationName ← opt name
  let definitions ← opt variableDefinitions
  let dirs ← directives true
  let selections ← selectionSet
  return .operation operationName ⟨kind, definitions.getD [], dirs, selections⟩

/-- A selection set alone is a query without a name. -/
def bareOperation : Reader Definition := do
  let selections ← selectionSet
  return .operation none ⟨.query, [], [], selections⟩

def fragmentDefinition : Reader Definition := do
  word "fragment"
  let fragmentName ← name
  let _ ← part typeCondition
  let dirs ← directives true
  return .fragment fragmentName ⟨dirs, ← selectionSet⟩

def definition : Reader Definition := kindOperation <|> bareOperation <|> fragmentDefinition

def read (source : String) : Option (List Definition) :=
  Reader.run (do
    let definitions ← many1 definition
    skipIgnored
    return definitions) source.toList

def parse (source : String) : Except DocumentError Document :=
  match read source with
  | none => .error .unreadable
  | some definitions => ofDefinitions definitions

end Document
end SelectionSql
