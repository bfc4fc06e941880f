import SelectionSql.ResultValue

/-!
# Nested columns in flat rows

The columns of a joined relation stand in a flat row under `relation__column`.

* `Nesting.columnAlias`: the name of a joined column in a flat row.
* `Nesting.split?`: a column name taken apart at its first `__`.
* `Nesting.nest`: a flat row as an object, columns of one group gathered in a nested object.
-/
set_option autoImplicit false

namespace SelectionSql
namespace Nesting

/-- The name in a flat row of a joined column. -/
def columnAlias (relation column : String) : String := relation ++ "__" ++ column

/-- What stands before and behind the first `__`. -/
def splitChars : List Char → Option (List Char × List Char)
  | [] => none
  | c :: rest =>
    match c, rest with
    | '_', '_' :: after => some ([], after)
    | _, _ => (splitChars rest).map fun parts => (c :: parts.1, parts.2)

/-- The group and the field that a column name consists of, if it holds a `__`. -/
def split? (name : String) : Option (String × String) :=
  (splitChars name.toList).map fun parts => (String.ofList parts.1, String.ofList parts.2)

/-- The name holds a `__`, so a column of that name would be read as a nested one. -/
def isReserved (name : String) : Bool := (splitChars name.toList).isSome

/-- The fields gathered so far under a group. A plain column of that name does not count. -/
def groupFields (row : OrderedMap ResultValue) (group : String) : Entries ResultValue :=
  match row.find? group with
  | some (.object fields) => fields
  | _ => []

/-- Adds one column: a plain one as it is, one of a group to the group's object. -/
def addColumn (row : OrderedMap ResultValue) (column : String) (value : Scalar) :
    OrderedMap ResultValue :=
  match split? column with
  | none => row.insert column (.scalar value)
  | some (group, field) =>
    row.insert group (.object (Entries.insert (groupFields row group) field (.scalar value)))

/-- A flat row as an object. -/
def nest (row : Row) : OrderedMap ResultValue :=
  row.entries.foldl (fun acc e => addColumn acc e.1 e.2) .empty

end Nesting
end SelectionSql
