import SelectionSql.Proofs.Sql.LevelMeaning

/-!
# Which tables a statement refers to

* `Sql.Expr.refersTo`: every column of an expression is qualified by one of the given names.
* `Sql.Query.qualifiers`: the names by which the clauses of a statement call its tables.
* `Sql.joinsReferBack`: the condition of a join refers to no table behind it.
* `Level.refersTo_items`, `refersTo_condition`, `joinsReferBack_joinClauses`: the statement of a
  level refers to its own tables only, whether or not their names are distinct.
* `Level.nodup_qualifiers_iff`: when their names are distinct.
-/
set_option autoImplicit false

namespace SelectionSql
namespace Sql

/-! ## References -/

/-- Raw text may refer to anything, and a star without a table refers to all tables. -/
def Expr.refersTo (names : List String) : Expr → Bool
  | .column (some table) _ => names.contains table
  | .literal _ => true
  | .equal a b => a.refersTo names && b.refersTo names
  | .and a b => a.refersTo names && b.refersTo names
  | .isNull e => e.refersTo names
  | .star (some table) => names.contains table
  | _ => false

theorem Expr.refersTo_of {names : List String} {table : String} (h : table ∈ names)
    (column : String) : (Expr.of table column).refersTo names = true := List.contains_iff_mem.2 h

def Query.qualifiers (q : Query) : List String :=
  q.source.toList.map TableRef.qualifier ++ q.joins.map fun j => j.table.qualifier

/-- Each condition refers to the tables called `names`, to joins before its own, or to its own. -/
def joinsReferBack : List String → List Join → Bool
  | _, [] => true
  | names, j :: rest =>
    j.on.refersTo (names ++ [j.table.qualifier]) &&
      joinsReferBack (names ++ [j.table.qualifier]) rest

theorem refersTo_keyJoin {names : List String} {owner : String} (h : owner ∈ names)
    (table name : String) : (keyJoin owner table name).on.refersTo (names ++ [name]) = true := by
  apply Bool.and_eq_true_iff.2
  constructor
  · exact Expr.refersTo_of (List.mem_append_left _ h) (foreignKey name)
  · exact Expr.refersTo_of (List.mem_append_right _ List.mem_cons_self) idColumn

theorem joinsReferBack_keyJoins {owner : String} (targets : List (String × String))
    {names : List String} (h : owner ∈ names) :
    joinsReferBack names (targets.map fun t => keyJoin owner t.1 t.2) = true := by
  induction targets generalizing names with
  | nil => rfl
  | cons t rest ih =>
    apply Bool.and_eq_true_iff.2
    exact ⟨refersTo_keyJoin h t.1 t.2, ih (List.mem_append_left _ h)⟩

end Sql

/-! ## The statement of a level -/

namespace Level
open Sql
variable {l : Level}

theorem qualifiers_query (l : Level) : l.query.qualifiers = l.qualifiers :=
  l.qualifier_joinClauses

theorem refersTo_items (l : Level) : ∀ item ∈ l.items,
    item.expr.refersTo l.qualifiers = true := by
  intro item hitem
  obtain ⟨table, htable, column, as, rfl⟩ := exists_of_mem_items hitem
  exact Expr.refersTo_of htable column

/-- The filter is one of the table that is read: of the pivot, where there is one. -/
theorem refersTo_condition {names : List String} (h : l.table ∈ names) :
    l.condition.all (Expr.refersTo names) = true := by
  show (filterCondition l.table none _).all _ = true
  rw [all_filterCondition fun a b => rfl, Option.all_none, Bool.true_and, List.all_eq_true]
  rintro ⟨column, v⟩ -
  cases v <;> simp [Expr.equalTo, Expr.of, Expr.refersTo, h]

theorem joinsReferBack_joinClauses (l : Level) :
    joinsReferBack [l.table] l.joinClauses = true := by
  rw [joinClauses, flatMap_toOneJoins]
  unfold pivotJoins entityName
  cases l.pivotTarget with
  | none => exact joinsReferBack_keyJoins _ (List.mem_singleton.2 rfl)
  | some target =>
    apply Bool.and_eq_true_iff.2
    constructor
    · exact refersTo_keyJoin (List.mem_singleton.2 rfl) (entityTable target) (lowercase target)
    · exact joinsReferBack_keyJoins _ (List.mem_append_right _ List.mem_cons_self)

/-- Names clash only between the places they come from, never among the joined relations. -/
theorem nodup_qualifiers_iff (hjoins : (l.wantedJoins.map ToOneJoin.relation).Nodup) :
    l.qualifiers.Nodup ↔
      l.table ∉ l.wantedJoins.map ToOneJoin.relation ∧
      ∀ target ∈ l.pivotTarget, lowercase target ≠ l.table ∧
        lowercase target ∉ l.wantedJoins.map ToOneJoin.relation := by
  unfold qualifiers
  cases l.pivotTarget with
  | none => simp [hjoins]
  | some target =>
    simp only [Option.toList_some, List.map_cons, List.map_nil, List.singleton_append,
      List.nodup_cons, List.mem_cons, not_or, Option.mem_some_iff, forall_eq']
    constructor
    · rintro ⟨⟨hne, htable⟩, htarget, -⟩
      exact ⟨htable, Ne.symm hne, htarget⟩
    · rintro ⟨htable, hne, htarget⟩
      exact ⟨⟨Ne.symm hne, htable⟩, htarget, hjoins⟩

end Level
end SelectionSql
