import SelectionSql.Text.Lowercase

/-!
# Names of tables and key columns

Tables and columns are not declared; they follow from the names of types and fields.

* `entityTable`: the rows of `User` are in `users`.
* `foreignKey`: a row points at an `author` through `authorId`.
* `toManyTable`: a to-many field `comments` reads `comments`.
* `pivotTable`: the pivot between a table and a field, in one of two orders.
-/
set_option autoImplicit false

namespace SelectionSql

/-- The primary key of every entity table. -/
def idColumn : String := "id"

def entityTable (typeName : String) : String := lowercase typeName ++ "s"

/-- The column that points at a row called `name`. -/
def foreignKey (name : String) : String := name ++ "Id"

def toManyTable (field : String) : String := lowercase field

/-- The pivot table between `table` and a many-to-many field; `first` puts the table in front. -/
def pivotTable (table field : String) (first : Bool) : String :=
  if first then table ++ "_" ++ lowercase field else lowercase field ++ "_" ++ table

end SelectionSql
