import SelectionSql.ArgumentValue

/-!
# Requested fields

* `Selection.Node`: one requested field: its name, its arguments, the fields requested below it.
* `Node.ofName`, `leaves`, `withArgument`: building nodes.
* `Node.isComposite`: something is requested below the field.
-/
set_option autoImplicit false

namespace SelectionSql
namespace Selection

/-- The field that names the type of an object. It is no column. -/
def typenameField : String := "__typename"

/-- One requested field. -/
structure Node where
  name : String
  arguments : OrderedMap ArgumentValue
  children : List Node

namespace Node

/-- A field without arguments and with nothing below it. -/
def ofName (name : String) : Node := ⟨name, .empty, []⟩

instance : Inhabited Node := ⟨ofName ""⟩

/-- A field with the given fields below it, which have nothing below them. -/
def leaves (name : String) (children : List String) : Node :=
  ⟨name, .empty, children.map ofName⟩

def withArgument (n : Node) (name : String) (value : ArgumentValue) : Node :=
  { n with arguments := n.arguments.insert name value }

/-- Something is requested below the field. -/
def isComposite (n : Node) : Bool := !n.children.isEmpty

theorem sizeOf_lt_of_mem_children {n parent : Node} (h : n ∈ parent.children) :
    sizeOf n < sizeOf parent := by
  cases parent
  have := List.sizeOf_lt_of_mem h
  simp at *
  omega

end Node
end Selection
end SelectionSql
