import SelectionSql.Scalar

/-!
# Results

* `ResultValue`: what a resolution hands back: scalars, objects with their fields in order, lists.
* `ResultValue.field?`, `setField?`, `removeField?`: reading and changing an object.
* `ResultValue.render`: the compact JSON text, fields in the object's own order.
* `ResultValue.toJson`: the same as a JSON value, members sorted by name.
* `ResultValue.sameValue`: equality up to the order of fields.
-/
set_option autoImplicit false

namespace SelectionSql

inductive ResultValue where
  | scalar (value : Scalar)
  | object (fields : List (String × ResultValue))
  | list (items : List ResultValue)

instance : Inhabited ResultValue := ⟨.scalar .null⟩

namespace ResultValue

def null : ResultValue := .scalar .null

def isNull : ResultValue → Bool
  | .scalar s => s.isNull
  | _ => false

def fields? : ResultValue → Option (Entries ResultValue)
  | .object fields => some fields
  | _ => none

def items? : ResultValue → Option (List ResultValue)
  | .list items => some items
  | _ => none

def field? (v : ResultValue) (name : String) : Option ResultValue :=
  v.fields?.bind fun fields => Entries.find? fields name

/-- An object with one field changed, and the value the field had. -/
def setField? (v : ResultValue) (name : String) (value : ResultValue) :
    Option (ResultValue × Option ResultValue) :=
  v.fields?.map fun fields =>
    (.object (Entries.insert fields name value), Entries.find? fields name)

/-- An object without one field, and the value the field had. -/
def removeField? (v : ResultValue) (name : String) : Option (ResultValue × Option ResultValue) :=
  v.fields?.map fun fields => (.object (Entries.erase fields name), Entries.find? fields name)

/-! ## JSON -/

mutual

/-- The compact JSON text. -/
def renderChars : ResultValue → List Char
  | .scalar s => s.jsonChars
  | .object fields => '\x7b' :: (renderFields fields ++ ['\x7d'])
  | .list items => '[' :: (renderItems items ++ [']'])

def renderItems : List ResultValue → List Char
  | [] => []
  | [v] => renderChars v
  | v :: rest => renderChars v ++ ',' :: renderItems rest

def renderFields : List (String × ResultValue) → List Char
  | [] => []
  | [(k, v)] => Json.quote k ++ ':' :: renderChars v
  | (k, v) :: rest => Json.quote k ++ ':' :: renderChars v ++ ',' :: renderFields rest

end

/-- The compact JSON text of a result. -/
def render (v : ResultValue) : String := String.ofList (renderChars v)

mutual

def toJson : ResultValue → Json
  | .scalar s => s.toJson
  | .object fields => .object (Json.sortMembers (toJsonFields fields))
  | .list items => .array (toJsonList items)

def toJsonList : List ResultValue → List Json
  | [] => []
  | v :: rest => toJson v :: toJsonList rest

def toJsonFields : List (String × ResultValue) → List (String × Json)
  | [] => []
  | (k, v) :: rest => (k, toJson v) :: toJsonFields rest

end

/-! ## Equality -/

mutual

/-- Equality up to the order of fields; doubles are compared as numbers. -/
def sameValue : ResultValue → ResultValue → Bool
  | .scalar a, .scalar b => a.sameValue b
  | .list as, .list bs => sameItems as bs
  | .object as, .object bs => as.length == bs.length && sameFields as bs
  | _, _ => false

def sameItems : List ResultValue → List ResultValue → Bool
  | [], [] => true
  | a :: as, b :: bs => sameValue a b && sameItems as bs
  | _, _ => false

/-- Every field of the first list has an equal value in the second. -/
def sameFields : List (String × ResultValue) → Entries ResultValue → Bool
  | [], _ => true
  | (k, v) :: rest, others =>
    (match Entries.find? others k with
      | some w => sameValue v w
      | none => false) && sameFields rest others

end

end ResultValue
end SelectionSql
