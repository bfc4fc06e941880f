import SelectionSql.Nesting

/-!
# Schemas

The object types of a schema, their fields, and how fields relate types.

* `Relation`, `TypeRef`, `FieldDef`: a field, its declared type, and the kind of relation it is.
* `SchemaType`: a type with its fields in order; `addField?` refuses a name that is known or
  reserved, `withField` replaces.
* `Schema`: the types by name and the name of the query type; `addType?` refuses a known name,
  `withType` replaces; `field?`, `relationOf`, `targetOf?`, `queryField?` look fields up.
* `Schema.validate`: there is a query type, and no field name holds a `__`.
-/
set_option autoImplicit false

namespace SelectionSql

/-- How a field relates its type to its target. -/
inductive Relation where
  /-- A plain column. -/
  | none
  /-- The row points at a row of the target. -/
  | toOne
  /-- Rows of the target point at the row. -/
  | toMany
  /-- Rows of a pivot point at both; `first` puts the field's own side first in its name. -/
  | toManyMany (first : Bool)
deriving DecidableEq, Repr

/-- The field leads to other rows. -/
def Relation.isRelation : Relation → Bool
  | .none => false
  | _ => true

/-- A declared type, of whose wrappers only the outermost is kept. -/
structure TypeRef where
  /-- The innermost name. -/
  name : String
  list : Bool
  nullable : Bool
deriving DecidableEq, Repr

def TypeRef.text (t : TypeRef) : String :=
  (if t.list then "[" ++ t.name ++ "]" else t.name) ++ (if t.nullable then "" else "!")

structure FieldDef where
  name : String
  type : TypeRef
  relation : Relation
deriving DecidableEq, Repr

instance : Inhabited FieldDef := ⟨⟨"", ⟨"", false, true⟩, .none⟩⟩

inductive SchemaError where
  /-- The text does not follow the grammar, or holds a number too large for a double. -/
  | unreadable
  /-- A schema definition names two roots of one kind, called by its word. -/
  | severalRoots (kind : String)
  | missingQueryRoot
  | conflictingDirectives (typeName field : String)
  | duplicateType (typeName : String)
  | duplicateField (typeName field : String)
  | missingQueryType (typeName : String)
  | reservedFieldName (typeName field : String)
deriving DecidableEq, Repr

def SchemaError.message : SchemaError → String
  | .unreadable => "Failed to parse schema: the text does not follow the grammar"
  | .severalRoots kind =>
    "Failed to parse schema: multiple " ++ kind ++ " roots in schema definition"
  | .missingQueryRoot => "Failed to parse schema: schema definition is missing query root"
  | .conflictingDirectives typeName field =>
    "Field `" ++ typeName ++ "." ++ field ++ "` carries more than one relation directive"
  | .duplicateType typeName => "Type `" ++ typeName ++ "` is defined more than once"
  | .duplicateField typeName field =>
    "Field `" ++ typeName ++ "." ++ field ++ "` is defined more than once"
  | .missingQueryType typeName => "Schema has no `" ++ typeName ++ "` type"
  | .reservedFieldName typeName field =>
    "Field `" ++ typeName ++ "." ++ field ++ "` contains the reserved `__` delimiter"

/-- A type with its fields, in the order of their definitions. -/
structure SchemaType where
  name : String
  fields : OrderedMap FieldDef
deriving DecidableEq

namespace SchemaType

def ofName (name : String) : SchemaType := ⟨name, .empty⟩

instance : Inhabited SchemaType := ⟨ofName ""⟩

def field? (t : SchemaType) (name : String) : Option FieldDef := t.fields.find? name

/-- Refuses a field name that would be read as a nested column. -/
def checkName (t : SchemaType) (name : String) : Except SchemaError Unit :=
  if Nesting.isReserved name then .error (.reservedFieldName t.name name) else .ok ()

def addField? (t : SchemaType) (f : FieldDef) : Except SchemaError SchemaType := do
  t.checkName f.name
  if t.fields.contains f.name then .error (.duplicateField t.name f.name)
  else .ok { t with fields := t.fields.insert f.name f }

/-- Adds a field, or replaces the one of its name where it stands. Any name is taken. -/
def withField (t : SchemaType) (f : FieldDef) : SchemaType :=
  { t with fields := t.fields.insert f.name f }

def addFields? (t : SchemaType) (fs : List FieldDef) : Except SchemaError SchemaType :=
  fs.foldlM addField? t

/-- The two types have one name and the same fields, in any order. -/
def sameFields (t u : SchemaType) : Bool :=
  t.name == u.name && t.fields.entries.length == u.fields.entries.length &&
    t.fields.entries.all fun e => u.fields.find? e.1 == some e.2

end SchemaType

/-- The query type's name where none is given. -/
def defaultQueryType : String := "Query"

structure Schema where
  types : OrderedMap SchemaType
  queryType : String
deriving DecidableEq

namespace Schema

def ofQueryType (queryType : String) : Schema := ⟨.empty, queryType⟩

instance : Inhabited Schema := ⟨ofQueryType defaultQueryType⟩

def type? (s : Schema) (name : String) : Option SchemaType := s.types.find? name

def hasType (s : Schema) (name : String) : Bool := s.types.contains name

def addType? (s : Schema) (t : SchemaType) : Except SchemaError Schema :=
  if s.hasType t.name then .error (.duplicateType t.name)
  else .ok { s with types := s.types.insert t.name t }

/-- Adds a type, or replaces the one of its name. -/
def withType (s : Schema) (t : SchemaType) : Schema :=
  { s with types := s.types.insert t.name t }

def field? (s : Schema) (typeName field : String) : Option FieldDef :=
  (s.type? typeName).bind fun t => t.field? field

/-- The relation that a field is; an unknown field is none. -/
def relationOf (s : Schema) (typeName field : String) : Relation :=
  ((s.field? typeName field).map FieldDef.relation).getD .none

def targetOf? (s : Schema) (typeName field : String) : Option String :=
  (s.field? typeName field).map fun f => f.type.name

def queryField? (s : Schema) (field : String) : Option FieldDef := s.field? s.queryType field

/-- There is a query type, and no field name of any type is reserved. -/
def validate (s : Schema) : Except SchemaError Unit := do
  if s.hasType s.queryType then
    s.types.values.forM fun t => t.fields.keys.forM t.checkName
  else .error (.missingQueryType s.queryType)

end Schema
end SelectionSql
