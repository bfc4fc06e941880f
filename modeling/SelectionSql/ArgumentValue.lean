import SelectionSql.Scalar

/-!
# Argument values

* `ArgumentValue`: the value of a field's argument: a scalar, a list or an object.
* `ArgumentValue.kind`: the name of its shape, for messages.
* `ArgumentValue.ofJson`: the argument that a JSON value is; of a repeated name the last member
  counts, at the first place.
* `ArgumentValue.render`: its compact JSON text.
-/
set_option autoImplicit false

namespace SelectionSql

inductive ArgumentValue where
  | scalar (value : Scalar)
  | list (items : List ArgumentValue)
  | object (fields : List (String × ArgumentValue))

instance : Inhabited ArgumentValue := ⟨.scalar .null⟩

namespace ArgumentValue

def asScalar? : ArgumentValue → Option Scalar
  | .scalar s => some s
  | _ => none

/-- The name of the value's shape. -/
def kind : ArgumentValue → String
  | .scalar .null => "null"
  | .scalar (.bool _) => "boolean"
  | .scalar (.int _) => "integer"
  | .scalar (.float _) => "float"
  | .scalar (.string _) => "string"
  | .list _ => "list"
  | .object _ => "object"

mutual

def ofJson : Json → ArgumentValue
  | .null => .scalar .null
  | .bool b => .scalar (.bool b)
  | .number text => .scalar (.ofNumber (Number.ofText text))
  | .string s => .scalar (.string s)
  | .array items => .list (ofJsonList items)
  | .object members => .object (Entries.ofList (ofJsonMembers members))

def ofJsonList : List Json → List ArgumentValue
  | [] => []
  | v :: rest => ofJson v :: ofJsonList rest

def ofJsonMembers : List (String × Json) → List (String × ArgumentValue)
  | [] => []
  | (k, v) :: rest => (k, ofJson v) :: ofJsonMembers rest

end

mutual

/-- The value as JSON, the fields of objects in their own order. -/
def toJson : ArgumentValue → Json
  | .scalar s => s.toJson
  | .list items => .array (toJsonList items)
  | .object fields => .object (toJsonFields fields)

def toJsonList : List ArgumentValue → List Json
  | [] => []
  | v :: rest => toJson v :: toJsonList rest

def toJsonFields : List (String × ArgumentValue) → List (String × Json)
  | [] => []
  | (k, v) :: rest => (k, toJson v) :: toJsonFields rest

end

def render (v : ArgumentValue) : String := v.toJson.render

end ArgumentValue
end SelectionSql
