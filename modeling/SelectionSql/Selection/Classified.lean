import SelectionSql.Level
import SelectionSql.ResolveError
import SelectionSql.Schema.Basic
import SelectionSql.Selection.Node

/-!
# Selections by kind of relation

The fields requested below one node, each put where its relation belongs: a column of the level, a
join, or a relation that is resolved on its own.

* `Selection.firstOccurrences`: each name once, at its first place.
* `Selection.Related`: a requested field that leads to many rows. It remembers that it stands below
  its node.
* `Selection.Classified`: the requested fields, each as one item, in order; `scalars`, `toOne`,
  `toMany` and `toManyMany` are the items of one kind.
* `Selection.joinedColumns`: the columns of a joined relation. No relation may be requested there.
* `Selection.classify`: all fields below a node; strictly, so that a field unknown to the schema is
  an error, or leniently, so that it is a column.
* `Classified.level`: the level of a statement that reads the selection.
-/
set_option autoImplicit false

namespace SelectionSql
namespace Selection

/-- The elements whose name is neither `seen` nor that of an earlier element. -/
def firstOccurrences {α : Type} (name : α → String) (seen : List String) : List α → List α
  | [] => []
  | a :: rest =>
    if seen.contains (name a) then firstOccurrences name seen rest
    else a :: firstOccurrences name (name a :: seen) rest

/-- A field requested below a node. -/
abbrev Child (parent : Node) : Type := { n : Node // n ∈ parent.children }

/-- The fields requested below a node, each name once; the name of the type is none of them. -/
def requested (parent : Node) : List (Child parent) :=
  firstOccurrences (fun c => c.1.name) [typenameField] parent.children.attach

/-- A requested field that leads to many rows. -/
structure Related (parent : Node) where
  node : Node
  field : FieldDef
  node_mem : node ∈ parent.children

namespace Related
variable {parent : Node}

def targetType (r : Related parent) : String := r.field.type.name

def cardinality (r : Related parent) : Cardinality := .ofList r.field.type.list

end Related

/-- What a requested field is. -/
inductive Item (parent : Node) where
  | scalar (name : String)
  | toOne (join : ToOneJoin)
  | toMany (related : Related parent)
  | toManyMany (related : Related parent)

namespace Item
variable {parent : Node}

def scalar? : Item parent → Option String
  | .scalar name => some name
  | _ => none

def toOne? : Item parent → Option ToOneJoin
  | .toOne join => some join
  | _ => none

def toMany? : Item parent → Option (Related parent)
  | .toMany related => some related
  | _ => none

def toManyMany? : Item parent → Option (Related parent)
  | .toManyMany related => some related
  | _ => none

end Item

/-- The fields requested below a node, by kind. -/
structure Classified (parent : Node) where
  items : List (Item parent)

namespace Classified
variable {parent : Node}

def scalars (c : Classified parent) : List String := c.items.filterMap Item.scalar?

def toOne (c : Classified parent) : List ToOneJoin := c.items.filterMap Item.toOne?

def toMany (c : Classified parent) : List (Related parent) := c.items.filterMap Item.toMany?

def toManyMany (c : Classified parent) : List (Related parent) :=
  c.items.filterMap Item.toManyMany?

/-- The relations that are resolved on their own, those through a pivot last. -/
def relations (c : Classified parent) : List (Related parent) := c.toMany ++ c.toManyMany

/-- A relation needs the id of the row. -/
def hasManyRelations (c : Classified parent) : Bool := !c.relations.isEmpty

def level (c : Classified parent) (table : String) : Level :=
  { Level.ofTable table with
    columns := c.scalars, joins := c.toOne, ensureId := c.hasManyRelations }

end Classified

/-! ## Classification -/

/-- The column that a field requested below a joined relation is. -/
def joinedColumn (target : Option SchemaType) (targetName : String) (strict : Bool) (child : Node) :
    Except ResolveError String :=
  match target.bind fun t => t.field? child.name with
  | some field =>
    if field.relation.isRelation || child.isComposite then
      .error (.nestedRelation targetName child.name)
    else .ok child.name
  | none => if strict then .error (.fieldNotFound targetName child.name) else .ok child.name

/-- The columns requested below a joined relation. -/
def joinedColumns (schema : Schema) (targetName : String) (strict : Bool) (node : Node) :
    Except ResolveError (List String) :=
  match schema.type? targetName with
  | none =>
    if strict then .error (.unknownType targetName)
    else (requested node).mapM fun c => joinedColumn none targetName strict c.1
  | some target => (requested node).mapM fun c => joinedColumn (some target) targetName strict c.1

/-- What a requested field is on a type. -/
def classifyChild {parent : Node} (schema : Schema) (typeName : String) (t : SchemaType)
    (strict : Bool) (child : Child parent) : Except ResolveError (Item parent) :=
  let name := child.1.name
  match t.field? name with
  | none => if strict then .error (.fieldNotFound typeName name) else .ok (.scalar name)
  | some field =>
    match field.relation with
    | .none => .ok (.scalar name)
    | .toOne => do
      let columns ← joinedColumns schema field.type.name strict child.1
      return .toOne ⟨name, field.type.name, columns⟩
    | .toMany => .ok (.toMany ⟨child.1, field, child.2⟩)
    | .toManyMany _ => .ok (.toManyMany ⟨child.1, field, child.2⟩)

/-- The fields requested below a node on a type, by kind. -/
def classify (schema : Schema) (typeName : String) (node : Node) (strict : Bool) :
    Except ResolveError (Classified node) :=
  match schema.type? typeName with
  | none => .error (.unknownType typeName)
  | some t => do return ⟨← (requested node).mapM (classifyChild schema typeName t strict)⟩

end Selection
end SelectionSql
