import SelectionSql.Schema.Document

/-!
# The schema of a document

* `Schema.relationOfDirectives`: the relation that the directives `@toOne`, `@toMany` and
  `@toManyMany` declare. A field must not carry two of them; `@first` counts only beside the last.
* `Schema.typeOfFields`: the type that a definition of an object describes.
* `Schema.ofDefinitions`: types first, then the extensions, each in document order, wherever they
  stand; an extension of an unknown type is that type.
* `Schema.parse`: the schema of a text.
-/
set_option autoImplicit false

namespace SelectionSql
namespace Schema
open Grammar (Directive TypeTerm)

def innermostName : TypeTerm → String
  | .named name _ => name
  | .list item _ => innermostName item

/-- The outermost wrapper and the innermost name of a type. -/
def typeRefOf : TypeTerm → TypeRef
  | .named name nonNull => ⟨name, false, !nonNull⟩
  | .list item nonNull => ⟨innermostName item, true, !nonNull⟩

/-- A directive of the given name is among them. -/
def carries (directives : List Directive) (name : String) : Bool :=
  directives.any fun d => d.name == name

def declaredRelations (directives : List Directive) : List Relation :=
  (if carries directives "toOne" then [.toOne] else []) ++
  (if carries directives "toMany" then [.toMany] else []) ++
  (if carries directives "toManyMany" then [.toManyMany (carries directives "first")] else [])

/-- The relation that directives declare, unless they declare several. -/
def relationOfDirectives (directives : List Directive) : Option Relation :=
  match declaredRelations directives with
  | [] => some .none
  | [relation] => some relation
  | _ => none

def fieldOf (typeName : String) (f : FieldDefinition) : Except SchemaError FieldDef :=
  match relationOfDirectives f.directives with
  | some relation => .ok ⟨f.name, typeRefOf f.type, relation⟩
  | none => .error (.conflictingDirectives typeName f.name)

/-- The type of the given name with the fields that definitions describe. -/
def typeOfFields (typeName : String) (fields : List FieldDefinition) :
    Except SchemaError SchemaType :=
  fields.foldlM (fun t f => do t.addField? (← fieldOf typeName f)) (SchemaType.ofName typeName)

/-- What has been gathered from the definitions so far. -/
structure Gathered where
  queryType : String
  types : List SchemaType
  extensions : List SchemaType

/-- Adds one definition. The query root named last counts. -/
def Gathered.add (g : Gathered) : Definition → Except SchemaError Gathered
  | .schema _ _ roots =>
    match roots.find? fun r => r.1 = .query with
    | some (_, name) => .ok { g with queryType := name }
    | none => .ok g
  | .object extending name _ fields => do
    let t ← typeOfFields name fields
    if extending then .ok { g with extensions := g.extensions ++ [t] }
    else .ok { g with types := g.types ++ [t] }
  | .other _ => .ok g

/-- Adds the fields of an extension to its type, which it is if there is none. -/
def extend? (s : Schema) (extension : SchemaType) : Except SchemaError Schema :=
  match s.type? extension.name with
  | some t => do return s.withType (← t.addFields? extension.fields.values)
  | none => s.addType? extension

def ofDefinitions (definitions : List Definition) : Except SchemaError Schema := do
  let g ← definitions.foldlM Gathered.add ⟨defaultQueryType, [], []⟩
  let s ← g.types.foldlM addType? (ofQueryType g.queryType)
  g.extensions.foldlM extend? s

def parse (source : String) : Except SchemaError Schema :=
  match read source with
  | none => .error .unreadable
  | some definitions => do
    definitions.forM Definition.check
    ofDefinitions definitions

end Schema
end SelectionSql
