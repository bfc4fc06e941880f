import SelectionSql.ArgumentValue
import SelectionSql.Grammar.Lexical

/-!
# Values and directives in GraphQL texts

* `Grammar.Value`: a value as it stands in a document, with references to variables.
* `Grammar.Directive`: a directive with its arguments.
* `Grammar.value`, `arguments`, `directives`: their readers; `allowVariables` tells the two kinds of
  values apart.
* `Grammar.Value.inRange`: no number in the value is too large for a double.
* `Grammar.Value.toJson`: a value without variables as JSON.
-/
set_option autoImplicit false

namespace SelectionSql
namespace Grammar

/-- A value as it stands in a document. -/
inductive Value where
  | variable (name : String)
  | null
  | number (text : String)
  | string (text : String)
  | boolean (value : Bool)
  | enum (name : String)
  | list (items : List Value)
  | object (fields : List (String × Value))

instance : Inhabited Value := ⟨.null⟩

/-- A directive: its name and its arguments. -/
structure Directive where
  name : String
  arguments : List (String × Value)

namespace Directive

def argument? (d : Directive) (name : String) : Option Value :=
  (d.arguments.find? fun a => a.1 = name).map Prod.snd

end Directive

/-! ## Reading -/

open Reader

/-- A truth value, right here. -/
def bareBoolean : Reader Bool :=
  (do literal "true"; return true) <|> (do literal "false"; return false)

/-- A value without parts, right here. -/
def leafValue (allowVariables : Bool) : Reader Value :=
  (if allowVariables then do
      char '$'
      return .variable (← name)
    else refuse)
    <|> (do return .number (← bareNumber))
    <|> (do return .string (← bareString))
    <|> (do return .boolean (← bareBoolean))
    <|> (do literal "null"; return .null)
    <|> (do return .enum (← bareName))

/-- A value that nests at most `depth` deep, behind blanks and comments. -/
def valueWithin (allowVariables : Bool) : Nat → Reader Value
  | 0 => part (leafValue allowVariables)
  | depth + 1 => part (leafValue allowVariables
      <|> (do
        char '['
        let items ← many (valueWithin allowVariables depth)
        mark ']'
        return .list items)
      <|> (do
        char '\x7b'
        let fields ← many (do
          let key ← name
          mark ':'
          return (key, ← valueWithin allowVariables depth))
        mark '\x7d'
        return .object fields))

/-- A value, behind blanks and comments. No value nests deeper than its text is long. -/
def value (allowVariables : Bool) : Reader Value := fun cs =>
  valueWithin allowVariables cs.length cs

def argument (allowVariables : Bool) : Reader (String × Value) := do
  let key ← name
  mark ':'
  return (key, ← value allowVariables)

/-- Arguments in parentheses, at least one. -/
def arguments (allowVariables : Bool) : Reader (List (String × Value)) := do
  mark '('
  let args ← many1 (argument allowVariables)
  mark ')'
  return args

def directive (allowVariables : Bool) : Reader Directive := do
  mark '@'
  let directiveName ← name
  let args ← opt (arguments allowVariables)
  return ⟨directiveName, args.getD []⟩

def directives (allowVariables : Bool) : Reader (List Directive) := many (directive allowVariables)

def directives1 (allowVariables : Bool) : Reader (List Directive) :=
  many1 (directive allowVariables)

/-- A type, right here: a name or a list, perhaps never null. Blanks must not stand inside. -/
inductive TypeTerm where
  | named (name : String) (nonNull : Bool)
  | list (item : TypeTerm) (nonNull : Bool)
deriving DecidableEq, Repr

/-- A type that nests at most `depth` deep, right here. -/
def typeWithin : Nat → Reader TypeTerm
  | 0 => do
    let typeName ← bareName
    return .named typeName (← opt (char '!')).isSome
  | depth + 1 =>
    (do
      let typeName ← bareName
      return .named typeName (← opt (char '!')).isSome)
    <|> (do
      char '['
      let item ← typeWithin depth
      char ']'
      return .list item (← opt (char '!')).isSome)

/-- A type, behind blanks and comments. -/
def typeTerm : Reader TypeTerm := part fun cs => typeWithin cs.length cs

def defaultValue : Reader Value := do
  mark '='
  value false

/-! ## Kinds of operations -/

inductive OperationKind where
  | query
  | mutation
  | subscription
deriving DecidableEq, Repr

def OperationKind.word : OperationKind → String
  | .query => "query"
  | .mutation => "mutation"
  | .subscription => "subscription"

/-- The word for a kind of operation, behind blanks and comments. -/
def operationKind : Reader OperationKind :=
  (do Grammar.word "query"; return .query) <|> (do Grammar.word "mutation"; return .mutation)
    <|> (do Grammar.word "subscription"; return .subscription)

/-! ## Numbers in range, and JSON -/

mutual

/-- No number in the value is too large for a double. -/
def Value.inRange : Value → Bool
  | .number text => (Number.ofText text).inRange
  | .list items => Value.inRangeList items
  | .object fields => Value.inRangeFields fields
  | _ => true

def Value.inRangeList : List Value → Bool
  | [] => true
  | v :: rest => v.inRange && Value.inRangeList rest

def Value.inRangeFields : List (String × Value) → Bool
  | [] => true
  | (_, v) :: rest => v.inRange && Value.inRangeFields rest

end

/-- No number in the arguments is too large for a double. -/
def Directive.inRange (d : Directive) : Bool := Value.inRangeFields d.arguments

mutual

/-- The value as JSON; an enumerated value is its name, a variable is null. -/
def Value.toJson : Value → Json
  | .variable _ => .null
  | .null => .null
  | .number text => .number text
  | .string s => .string s
  | .boolean b => .bool b
  | .enum n => .string n
  | .list items => .array (Value.toJsonList items)
  | .object fields => .object (Value.toJsonFields fields)

def Value.toJsonList : List Value → List Json
  | [] => []
  | v :: rest => v.toJson :: Value.toJsonList rest

def Value.toJsonFields : List (String × Value) → List (String × Json)
  | [] => []
  | (k, v) :: rest => (k, v.toJson) :: Value.toJsonFields rest

end

end Grammar
end SelectionSql
