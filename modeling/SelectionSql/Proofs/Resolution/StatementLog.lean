import SelectionSql.Proofs.Resolution.RootRestriction
import SelectionSql.Proofs.Resolution.Sequential

/-!
# What a resolution asks

* `Resolution.exists_row_of_task`: a task belongs to a relation of its level and to a row with an
  id, and its request is the one for the rows related to that id.
* `Resolution.find?_filter_relationRequest`: the filter of such a request, column by column. The
  caller cannot take the restriction to the row's own id away.
* `Resolution.predicates_on_parentColumn`: the statement of such a request says one thing of the
  column that points at the row.
* `Resolution.statement_log`: the exchanges of a resolution, and what holds of every request below.
-/
set_option autoImplicit false

namespace SelectionSql
namespace Resolution
open Selection (Node Related Classified)

/-- The column by which rows point at a row of a request. -/
def parentColumn (p : Request) : String := foreignKey (lowercase p.typeName)

/-! ## The requests below a level -/

theorem exists_row_of_task {options : Options} {p : Request} {relations : List (Related p.node)}
    {rows : List ResultObject} {tasks : List (Task p.node)}
    (h : tasksOf options p relations rows = .ok tasks) {t : Task p.node} (ht : t ∈ tasks) :
    ∃ related ∈ relations, ∃ caller,
      Modifiers.ofArguments related.node.arguments options.allowRawOrderBy = .ok caller ∧
      ∃ row ∈ rows, ∃ id, rowId? row = some id ∧ rowKey? row = some t.key ∧
        t.field = related.node.name ∧ t.request = relationRequest p related id caller := by
  obtain ⟨caller, hcaller, -, rfl⟩ := tasksOf_eq_ok_iff.1 h
  obtain ⟨related, hrelated, htask⟩ := List.mem_flatMap.1 ht
  obtain ⟨⟨key, id⟩, hid, rfl⟩ := List.mem_map.1 htask
  obtain ⟨row, hrow, hrowId, hrowKey⟩ := exists_row_of_mem_distinctIds hid
  exact ⟨related, hrelated, caller related, hcaller related hrelated, row, hrow, id, hrowId,
    hrowKey, rfl, rfl⟩

/-- The rows related to a row point at it; of every other column the caller decides. -/
theorem find?_filter_relationRequest (p : Request) (related : Related p.node) (id : Scalar)
    (caller : Modifiers) (column : String) :
    (relationRequest p related id caller).modifiers.filter.find? column =
      if parentColumn p = column then some id else caller.filter.find? column := by
  rw [modifiers_relationRequest, Modifiers.find?_filter_merge]
  have hforced : (parentFilter p.typeName id).filter.find? column =
      if parentColumn p = column then some id else none := rfl
  rw [hforced]
  split <;> rfl

theorem predicates_on_parentColumn {schema : Schema} {options : Options} {p : Request}
    {related : Related p.node} {id : Scalar} {caller : Modifiers} {statement : Statement}
    (h : statementOf schema options (relationRequest p related id caller) = .ok statement) :
    ∃ clause predicates, Sql.whereClause? statement.query.tokens = some clause ∧
      Sql.readCondition clause = some predicates ∧
      predicates.filter (fun q => q.column = parentColumn p) =
        [⟨some (relationRequest p related id caller).table, parentColumn p, .of id⟩] := by
  obtain ⟨selected, -, rfl⟩ := statementOf_ok h
  have hfind : (relationRequest p related id caller).modifiers.filter.find? (parentColumn p) =
      some id := by
    rw [find?_filter_relationRequest, if_pos rfl]
  have hon := (levelOf _ selected).predicates_on (parentColumn p)
  have hlevel : (levelOf _ selected).modifiers =
      (relationRequest p related id caller).modifiers := rfl
  rw [hlevel, hfind] at hon
  rcases (levelOf _ selected).whereClause?_tokens with ⟨-, hempty⟩ | ⟨clause, hclause, -, hread⟩
  · rw [OrderedMap.find?, ← hlevel, hempty] at hfind
    cases hfind
  · exact ⟨clause, _, hclause, hread, hon⟩

/-! ## The exchanges of a resolution -/

/-- A resolution that succeeds, in whatever order it is run, has exchanged its own statement once
and, for every relation and every distinct id, what the rows related to that id cost. The statement
of a request is the one that is built for it. Every request below is for the rows that point at a
row of its level by that row's own id, whatever the caller asks for. -/
theorem statement_log {σ : Type} (x : Executor σ) (schema : Schema) (options : Options)
    (r : Request) :
    (∀ (s s' : σ) (v : ResultValue), resolve x schema options r s = (.ok v, s') →
      ∃ log, resolve x.transcribed schema options r (s, []) = (.ok v, (s', log)) ∧
        Yields schema options x.dialect r log v) ∧
    (∀ (s s' : σ) (log : List Exchange) (v : ResultValue),
      Course x schema options s (.waiting r) log s' (.finished (.ok v)) →
        Yields schema options x.dialect r log v) ∧
    (∀ (p : Request) (selected : Classified p.node), classified schema options p = .ok selected →
      ∃ statement, statementOf schema options p = .ok statement ∧
        statement.query.render x.dialect = sqlOf x.dialect p selected) ∧
    (∀ (p : Request) (selected : Classified p.node) (rows : List ResultObject)
      (tasks : List (Task p.node)), tasksOf options p selected.relations rows = .ok tasks →
      ∀ t ∈ tasks, ∃ related ∈ selected.relations, ∃ row ∈ rows, ∃ id,
        rowId? row = some id ∧ id.isNull = false ∧ rowKey? row = some t.key ∧
        t.field = related.node.name ∧
        (∃ caller, Modifiers.ofArguments related.node.arguments options.allowRawOrderBy =
          .ok caller ∧ t.request = relationRequest p related id caller) ∧
        t.request.modifiers.filter.find? (parentColumn p) = some id ∧
        (∀ column, column ≠ parentColumn p → t.request.modifiers.filter.find? column =
          Modifiers.givenValue? (related.node.arguments.find? "where") column) ∧
        ∀ statement, statementOf schema options t.request = .ok statement →
          ∃ clause predicates, Sql.whereClause? statement.query.tokens = some clause ∧
            Sql.readCondition clause = some predicates ∧
            predicates.filter (fun q => q.column = parentColumn p) =
              [⟨some t.request.table, parentColumn p, .of id⟩]) := by
  refine ⟨fun s s' v h => yields_of_resolve h, fun s s' log v h => h.yields,
    fun p selected h => ⟨_, statementOf_eq h, rfl⟩, ?_⟩
  intro p selected rows tasks htasks t ht
  obtain ⟨related, hrelated, caller, hcaller, row, hrow, id, hid, hkey, hfield, hrequest⟩ :=
    exists_row_of_task htasks ht
  refine ⟨related, hrelated, row, hrow, id, hid, isNull_of_rowId? hid, hkey, hfield,
    ⟨caller, hcaller, hrequest⟩, ?_, ?_, ?_⟩
  · rw [hrequest, find?_filter_relationRequest, if_pos rfl]
  · intro column hne
    rw [hrequest, find?_filter_relationRequest, if_neg (Ne.symm hne)]
    exact Modifiers.find?_filter_ofArguments hcaller column
  · intro statement hstatement
    rw [hrequest] at hstatement ⊢
    exact predicates_on_parentColumn hstatement

theorem statement_log_blog :
    (∃ log, resolve (Blog.executor [Blog.row 1]).transcribed Blog.schema .default
        (Blog.request .empty) ((), []) = (.ok Blog.answer, ((), log)) ∧
      Yields Blog.schema .default .sqlite (Blog.request .empty) log Blog.answer) ∧
    (∃ log, Course (Blog.executor [Blog.row 1]) Blog.schema .default ()
        (.waiting (Blog.request .empty)) log () (.finished (.ok Blog.answer)) ∧
      Yields Blog.schema .default .sqlite (Blog.request .empty) log Blog.answer) ∧
    ∃ t : Task (Blog.request .empty).node,
      t.request.modifiers.filter.find? "postId" = some (.int 1) ∧
      ∃ statement clause predicates,
        statementOf Blog.schema .default t.request = .ok statement ∧
        Sql.whereClause? statement.query.tokens = some clause ∧
        Sql.readCondition clause = some predicates ∧
        predicates.filter (fun q => q.column = "postId") =
          [⟨some "comments", "postId", .equals (.int 1)⟩] := by
  obtain ⟨hresolve, hcourses, -, htasks⟩ :=
    statement_log (Blog.executor [Blog.row 1]) Blog.schema .default (Blog.request .empty)
  refine ⟨hresolve () () Blog.answer Blog.resolve_request, ?_, ?_⟩
  · obtain ⟨log, hcourse⟩ := exists_course (Blog.executor [Blog.row 1]) Blog.schema .default
      (Blog.request .empty) ()
    rw [Blog.resolve_request] at hcourse
    exact ⟨log, hcourse, hcourses () () log Blog.answer hcourse⟩
  · have hplanned : tasksOf .default (Blog.request .empty) (Blog.selected .empty).relations
        (parentsOf .many [Blog.row 1]) =
          .ok [taskOf (Blog.request .empty) (Blog.related .empty) .empty "i:1" (.int 1)] := rfl
    obtain ⟨related, -, row, hrow, id, hid, -, -, -, -, hfilter, -, hstatement⟩ :=
      htasks _ _ _ _ hplanned _ List.mem_cons_self
    obtain rfl := List.mem_singleton.1 hrow
    cases hid
    obtain ⟨clause, predicates, hclause, hread, hone⟩ := hstatement _ rfl
    exact ⟨_, hfilter, _, clause, predicates, rfl, hclause, hread, hone⟩

end Resolution
end SelectionSql
