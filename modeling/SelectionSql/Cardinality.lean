/-!
# Cardinality

Whether a resolution yields one object or a list of objects.
-/
set_option autoImplicit false

namespace SelectionSql

inductive Cardinality where
  | one
  | many
deriving DecidableEq, Repr

namespace Cardinality

/-- The cardinality of a field whose declared type is a list, or is not. -/
def ofList (isList : Bool) : Cardinality := if isList then .many else .one

def text : Cardinality → String
  | .one => "one"
  | .many => "many"

end Cardinality
end SelectionSql
