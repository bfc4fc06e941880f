import SelectionSql.Grammar.Value
import SelectionSql.Schema.Basic

/-!
# Schema documents

* `Schema.Definition`: a definition of a document. Of the types only objects and interfaces are
  kept, both as objects; of all others only the constants written in them.
* `Schema.Definition.check`: numbers fit a double, and a schema definition names each root once and
  a query root unless it extends another.
* `Schema.definition`: the reader of one definition; `Schema.read` reads a whole text.
-/
set_option autoImplicit false

namespace SelectionSql
namespace Schema
open Grammar

/-- A field as it is defined. -/
structure FieldDefinition where
  name : String
  type : TypeTerm
  directives : List Directive
  /-- The constants in its arguments. -/
  constants : List Value

/-- A definition of a schema document. -/
inductive Definition where
  | schema (extending : Bool) (directives : List Directive) (roots : List (OperationKind × String))
  | object (extending : Bool) (name : String) (directives : List Directive)
      (fields : List FieldDefinition)
  | other (constants : List Value)

def constantsOf (directives : List Directive) : List Value :=
  directives.flatMap fun d => d.arguments.map Prod.snd

/-! ## Checks -/

/-- Fails unless no number is too large for a double. -/
def requireInRange (constants : List Value) : Except SchemaError Unit :=
  if Value.inRangeList constants then .ok () else .error .unreadable

/-- Fails where a kind of root stands a second time. -/
def checkRoots (seen : List OperationKind) :
    List (OperationKind × String) → Except SchemaError (List OperationKind)
  | [] => .ok seen
  | (kind, _) :: rest =>
    if kind ∈ seen then .error (.severalRoots kind.word) else checkRoots (kind :: seen) rest

def Definition.check : Definition → Except SchemaError Unit
  | .schema extending directives roots => do
    requireInRange (constantsOf directives)
    let kinds ← checkRoots [] roots
    if !extending && !kinds.contains .query then .error .missingQueryRoot else .ok ()
  | .object _ _ directives fields =>
    requireInRange (constantsOf directives ++
      fields.flatMap fun f => f.constants ++ constantsOf f.directives)
  | .other constants => requireInRange constants

/-! ## Reading -/

open Reader

def description : Reader Unit := do
  let _ ← opt (part bareString)

/-- An argument or a field of an input object; its constants. -/
def inputValue : Reader (List Value) := do
  description
  let _ ← Grammar.name
  mark ':'
  let _ ← typeTerm
  let default ← opt defaultValue
  let dirs ← directives false
  return default.toList ++ constantsOf dirs

/-- The arguments of a field or of a directive; their constants. -/
def argumentsDefinition : Reader (List Value) := do
  mark '('
  let constants ← many1 inputValue
  mark ')'
  return constants.flatten

def fieldDefinition : Reader FieldDefinition := do
  description
  let fieldName ← Grammar.name
  let constants ← opt argumentsDefinition
  mark ':'
  let type ← typeTerm
  let dirs ← directives false
  return ⟨fieldName, type, dirs, constants.getD []⟩

def fieldsDefinition : Reader (List FieldDefinition) := do
  mark '\x7b'
  let fields ← many1 fieldDefinition
  mark '\x7d'
  return fields

/-- Names behind a first word or mark, with a mark between any two and perhaps in front. -/
def markedNames (separator : Char) : Reader Unit := do
  let _ ← opt (mark separator)
  let _ ← Grammar.name
  let _ ← many (do
    mark separator
    Grammar.name)

def interfaces : Reader Unit := do
  word "implements"
  markedNames '&'

/-- An object type or an interface, called by its word. -/
def objectDefinition (kind : String) : Reader Definition := do
  description
  word kind
  let typeName ← Grammar.name
  let _ ← opt interfaces
  let dirs ← directives false
  let fields ← opt fieldsDefinition
  return .object false typeName dirs (fields.getD [])

/-- The extension of an object type or an interface. It adds fields or directives; an object type
may be extended by interfaces alone. -/
def objectExtension (kind : String) (byInterfaces : Bool) : Reader Definition := do
  word "extend"
  word kind
  let typeName ← Grammar.name
  (do
      let _ ← opt interfaces
      (do
          let dirs ← directives false
          return .object true typeName dirs (← fieldsDefinition))
        <|> (do return .object true typeName (← directives1 false) []))
    <|> (if byInterfaces then do
        interfaces
        return .object true typeName [] []
      else refuse)

/-- A type that has a body of its own kind: its definition, or its extension by a body or by
directives. What is kept are its constants. -/
def bodiedType (kind : String) (body : Reader (List Value)) : Reader Definition :=
  (do
    description
    word kind
    let _ ← Grammar.name
    let dirs ← directives false
    let constants ← opt body
    return .other (constantsOf dirs ++ constants.getD []))
  <|> (do
    word "extend"
    word kind
    let _ ← Grammar.name
    (do
        let dirs ← directives false
        return .other (constantsOf dirs ++ (← body)))
      <|> (do return .other (constantsOf (← directives1 false))))

def scalarType : Reader Definition := bodiedType "scalar" refuse

def unionType : Reader Definition := bodiedType "union" do
  mark '='
  markedNames '|'
  return []

/-- A value of an enumerated type; its constants. It must not start with a word for a truth value
or null. -/
def enumValue : Reader (List Value) := do
  description
  part (do
    absent (bareBoolean <|> (do literal "null"; return false))
    let _ ← bareName)
  return constantsOf (← directives false)

def enumType : Reader Definition := bodiedType "enum" do
  mark '\x7b'
  let constants ← many1 enumValue
  mark '\x7d'
  return constants.flatten

def inputType : Reader Definition := bodiedType "input" do
  mark '\x7b'
  let constants ← many1 inputValue
  mark '\x7d'
  return constants.flatten

def root : Reader (OperationKind × String) := do
  let kind ← operationKind
  mark ':'
  return (kind, ← Grammar.name)

def roots : Reader (List (OperationKind × String)) := do
  mark '\x7b'
  let pairs ← many1 root
  mark '\x7d'
  return pairs

def schemaDefinition : Reader Definition :=
  (do
    word "schema"
    let dirs ← directives false
    return .schema false dirs (← roots))
  <|> (do
    word "extend"
    word "schema"
    (do
        let dirs ← directives false
        return .schema true dirs (← roots))
      <|> (do return .schema true (← directives1 false) []))

/-- Where directives may stand, in the order in which the words are tried. -/
def locations : List String :=
  ["QUERY", "MUTATION", "SUBSCRIPTION", "FIELD_DEFINITION", "FIELD", "FRAGMENT_DEFINITION",
    "FRAGMENT_SPREAD", "INLINE_FRAGMENT", "VARIABLE_DEFINITION", "SCHEMA", "SCALAR", "OBJECT",
    "ARGUMENT_DEFINITION", "INTERFACE", "UNION", "ENUM_VALUE", "ENUM", "INPUT_OBJECT",
    "INPUT_FIELD_DEFINITION"]

def location : Reader Unit := part (locations.foldr (fun w r => literal w <|> r) refuse)

def directiveDefinition : Reader Definition := do
  description
  word "directive"
  mark '@'
  let _ ← Grammar.name
  let constants ← opt argumentsDefinition
  let _ ← opt (word "repeatable")
  word "on"
  let _ ← opt (mark '|')
  location
  let _ ← many (do
    mark '|'
    location)
  return .other (constants.getD [])

def definition : Reader Definition :=
  schemaDefinition <|> scalarType
    <|> objectDefinition "type" <|> objectExtension "type" true
    <|> objectDefinition "interface" <|> objectExtension "interface" false
    <|> unionType <|> enumType <|> inputType <|> directiveDefinition

def read (source : String) : Option (List Definition) :=
  Reader.run (do
    let definitions ← many1 definition
    skipIgnored
    return definitions) source.toList

end Schema
end SelectionSql
