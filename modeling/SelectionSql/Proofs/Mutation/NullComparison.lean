import SelectionSql.Proofs.Mutation.RowId
import SelectionSql.Proofs.Sql.WrittenCondition

/-!
# Comparisons with null

Nothing equals null, so a column is asked for null by `IS NULL`. But SQL has no literal for a double
that is not finite either: it is written as null, behind an `=`, and then no row is found.

* `Mutation.Issues`: the statements that a watched computation notes down are all of one kind.
* `Operation.Issued`, `Operation.Runs.issued`: the statements that a mutation issues.
* `Operation.Issued.writtenCondition?`: the WHERE clauses of these.
* `Sql.compared_with_null_iff`: which predicates compare with null, and that no others are false of
  every row.
* `Sql.nan_compared_by_equals`: a level that can find no row.
-/
set_option autoImplicit false

namespace SelectionSql
open Sql

namespace Mutation
variable {σ : Type}

/-! ## The statements of a run -/

section Issues
variable {α β : Type} {P : String → Prop}

/-- The statements that a computation adds to what is noted down all have a property. -/
def Issues (P : String → Prop) (w : Run (σ × List Event) α) : Prop :=
  ∀ s, ∃ events, (w s).2.2 = s.2 ++ events ∧ ∀ sql ∈ statements events, P sql

theorem issues_lift (m : Except MutationError α) : Issues P (σ := σ) (liftM m) :=
  fun s => ⟨[], (List.append_nil s.2).symm, fun _ h => absurd h List.not_mem_nil⟩

theorem Issues.bind {w : Run (σ × List Event) α} {f : α → Run (σ × List Event) β}
    (hw : Issues P w) (hf : ∀ s a, (w s).1 = .ok a → Issues P (f a)) : Issues P (w >>= f) := by
  intro s
  obtain ⟨events, hevents, hall⟩ := hw s
  rw [Run.bind_apply]
  rcases hstep : w s with ⟨e | a, s'⟩
  · rw [hstep] at hevents
    exact ⟨events, hevents, hall⟩
  · rw [hstep] at hevents
    obtain ⟨more, hmore, hall'⟩ := hf s a (congrArg Prod.fst hstep) s'
    refine ⟨events ++ more, ?_, fun sql hsql => ?_⟩
    · rw [hmore, hevents, List.append_assoc]
    · rw [statements, List.filterMap_append] at hsql
      exact (List.mem_append.1 hsql).elim (hall sql) (hall' sql)

theorem issues_write (x : Executor σ) {sql : String} (h : P sql) :
    Issues P (write x.watched sql) :=
  fun _ => ⟨[.write sql], rfl, fun _ hsql => List.mem_singleton.1 hsql ▸ h⟩

/-- The hook is called on the executor itself, so what it executes is not the mutation's own. -/
theorem issues_after (x : Executor σ) (c : Config σ) (id : Scalar) (input : Row) :
    Issues P ((c.watched x).after x.watched id input) := by
  cases hhook : c.hook with
  | none =>
    have hw : (c.watched x).hook = none := by rw [Config.watched, hhook, Option.map_none]
    rw [Config.after, hw]
    exact issues_lift (.ok ())
  | some f =>
    have hw : (c.watched x).hook = some fun _ id input s =>
        ((f x id input s.1).1, ((f x id input s.1).2, s.2 ++ [.hook id input])) := by
      rw [Config.watched, hhook, Option.map_some]
    rw [Config.after, hw]
    exact fun s => ⟨[.hook id input], rfl, fun _ h => absurd h List.not_mem_nil⟩

theorem issues_readBack (x : Executor σ) {table : String} {id : Scalar}
    (h : P ((readBackOf table id).render x.dialect)) :
    Issues P (readBack x.watched table id) :=
  fun _ => ⟨[.read _], rfl, fun _ hsql => List.mem_singleton.1 hsql ▸ h⟩

end Issues

namespace Operation
variable {x : Executor σ} {c : Config σ} {identity : Identity} {op : Operation}

/-- The write of a mutation, or the question for its row. -/
inductive Issued (x : Executor σ) (c : Config σ) (identity : Identity) (op : Operation)
    (sql : String) : Prop
  | write (h : op.text x.dialect c identity = .ok sql)
  | read {id : Scalar} (hnull : id.isNull = false)
      (hgiven : ∀ given, op.givenId? = some given → id = given)
      (h : sql = (readBackOf op.table id).render x.dialect)

theorem eq_given_of_rowId {outcome : WriteOutcome} {id : Scalar}
    (h : op.RowId c identity outcome id) : ∀ given, op.givenId? = some given → id = given := by
  intro given hgiven
  cases op with
  | create table input => cases hgiven
  | update table id' input =>
    cases hgiven
    exact h
  | delete table id' =>
    cases hgiven
    exact h

theorem issues_answer {id : Scalar} (hnull : id.isNull = false)
    (hgiven : ∀ given, op.givenId? = some given → id = given) :
    Issues (op.Issued x c identity) (op.answer x.watched id) := by
  rw [answer]
  cases op.input? with
  | none => exact issues_lift (.ok Answer.deleted)
  | some input =>
    exact (issues_readBack x (.read hnull hgiven rfl)).bind fun _ row _ =>
      issues_lift (.ok (Answer.row row))

theorem issues_run (x : Executor σ) (c : Config σ) (identity : Identity) (op : Operation) :
    Issues (op.Issued x c identity) (op.run x.watched (c.watched x) identity) := by
  rw [op.run_eq x.watched (c.watched x) identity, op.text_watched x c identity]
  simp only [op.rowId_watched x c identity]
  refine (issues_lift _).bind fun _ sql hsql => ?_
  obtain ⟨hready, -⟩ := ready_and_says_of_text hsql
  refine (issues_write x (.write hsql)).bind fun _ outcome _ => ?_
  refine (issues_lift _).bind fun _ id hid => ?_
  have hrow := rowId_eq_ok_iff.1 hid
  refine (issues_after x c id op.shown).bind fun _ _ _ => ?_
  exact issues_answer (isNull_of_rowId hready hrow) (eq_given_of_rowId hrow)

theorem Runs.issued {s s' : σ} {r : Except MutationError Answer} {events : List Event}
    (h : op.Runs x c identity s r events s') :
    ∀ sql ∈ statements events, op.Issued x c identity sql := by
  obtain ⟨events', hevents, hall⟩ := issues_run x c identity op (s, [])
  rw [h.2 []] at hevents
  cases hevents
  exact hall

/-- The clause of an addition is missing; every other statement asks for the id alone. -/
theorem Issued.writtenCondition? {sql : String} (h : op.Issued x c identity sql) :
    (op.givenId? = none ∧ Sql.writtenCondition? x.dialect sql = some []) ∨
      ∃ id, id.isNull = false ∧ (∀ given, op.givenId? = some given → id = given) ∧
        Sql.writtenCondition? x.dialect sql =
          some [⟨none, idColumn, .equals (literalLexeme x.dialect id)⟩] := by
  have hid : ∀ id : Scalar, id.isNull = false →
      Predicate.written x.dialect ⟨none, idColumn, .of id⟩ =
        ⟨none, idColumn, .equals (literalLexeme x.dialect id)⟩ := by
    intro id hnull
    rw [testOf_eq hnull]
    rfl
  cases h with
  | write htext =>
    obtain ⟨hready, -⟩ := ready_and_says_of_text htext
    cases op with
    | create table input =>
      obtain ⟨values, -, htext⟩ := bind_eq_ok_iff.1 htext
      cases htext
      exact .inl ⟨rfl, writtenCondition?_insertOf x.dialect table values⟩
    | update table id input =>
      obtain ⟨_, -, htext⟩ := bind_eq_ok_iff.1 htext
      obtain ⟨values, -, htext⟩ := bind_eq_ok_iff.1 htext
      cases htext
      have hnull := hready.id id rfl
      refine .inr ⟨id, hnull, fun given hgiven => Option.some.inj hgiven, ?_⟩
      rw [writtenCondition?_updateOf, hid id hnull]
    | delete table id =>
      obtain ⟨_, -, htext⟩ := bind_eq_ok_iff.1 htext
      cases htext
      have hnull := hready.id id rfl
      refine .inr ⟨id, hnull, fun given hgiven => Option.some.inj hgiven, ?_⟩
      rw [writtenCondition?_deleteOf, hid id hnull]
  | @read id hnull hgiven hread =>
    refine .inr ⟨id, hnull, hgiven, ?_⟩
    rw [hread, writtenCondition?_readBackOf, hid id hnull]

end Operation
end Mutation

/-! ## What compares with null -/

namespace Sql
open Mutation (Config Event statements)

theorem written_eq_isNull_iff (d : Dialect) (v : Scalar) :
    (Test.of v).written d = .isNull ↔ v = .null := by
  cases v <;> simp [Test.of, Test.written]

theorem written_eq_equals_null_iff (d : Dialect) (v : Scalar) :
    (Test.of v).written d = .equals (.word "NULL") ↔ isFiniteValue v = false := by
  cases v with
  | null => simp [Test.of, Test.written, isFiniteValue]
  | _ =>
    simp only [Test.of, Test.written, WrittenTest.equals.injEq, literalLexeme_eq_null_iff]
    simp

/-- Every predicate of a clause is `IS NULL`, for null, or an `=` behind which the value stands.
There the word NULL stands exactly for doubles that are not finite, and exactly these predicates are
true of no row. -/
theorem compared_with_null_iff (d : Dialect) :
    (∀ l : Level, writtenCondition? d (l.query.render d) =
      some (l.modifiers.filter.entries.map fun e =>
        ⟨some l.table, e.1, (Test.of e.2).written d⟩)) ∧
    (∀ (σ : Type) (x : Executor σ) (c : Config σ) (identity : Identity) (op : Mutation.Operation)
      (s : σ) (r : Except MutationError Mutation.Answer) (events : List Event) (s' : σ),
      x.dialect = d → op.Runs x c identity s r events s' → ∀ sql ∈ statements events,
        (op.givenId? = none ∧ writtenCondition? d sql = some []) ∨
          ∃ id, id.isNull = false ∧ (∀ given, op.givenId? = some given → id = given) ∧
            writtenCondition? d sql =
              some [⟨none, idColumn, .equals (literalLexeme d id)⟩]) ∧
    ∀ v : Scalar,
      ((Test.of v).written d = .isNull ↔ v = .null) ∧
      (v ≠ .null → (Test.of v).written d = .equals (literalLexeme d v)) ∧
      ((Test.of v).written d = .equals (.word "NULL") ↔ isFiniteValue v = false) ∧
      ∀ (table : Option String) (column : String),
        (∃ eq scope, ((Expr.column table column).equalTo v).holds eq scope = true) ↔
          (Test.of v).written d ≠ .equals (.word "NULL") := by
  refine ⟨fun l => l.writtenCondition?_render d, ?_, fun v => ?_⟩
  · rintro σ x c identity op s r events s' rfl hruns sql hsql
    exact (hruns.issued sql hsql).writtenCondition?
  · refine ⟨written_eq_isNull_iff d v, fun hv => ?_, written_eq_equals_null_iff d v,
      fun table column => ?_⟩
    · cases v with
      | null => exact absurd rfl hv
      | _ => rfl
    · rw [exists_holds_equalTo_iff, ne_eq, written_eq_equals_null_iff, Bool.not_eq_false]

/-- A level that is asked for two columns, one of them for null. -/
def hiddenLevel : Level :=
  { Level.ofTable "posts" with
    columns := ["id"]
    modifiers := { Modifiers.empty with
      filter := .ofList [("hiddenAt", .null), ("title", .string "NULL")] } }

theorem compared_with_null_iff_hidden :
    writtenCondition? .mysql (hiddenLevel.query.render .mysql) =
        some [⟨some "posts", "hiddenAt", .isNull⟩,
          ⟨some "posts", "title", .equals (.string "NULL")⟩] ∧
      (Mutation.Operation.delete "post" (.float .nan)).Runs Mutation.Untold.executor .plain .guest
        () (.ok .deleted)
        [.write ((Mutation.deleteOf "post" (.float .nan)).render .sqlite)] () ∧
      writtenCondition? .sqlite ((Mutation.deleteOf "post" (.float .nan)).render .sqlite) =
        some [⟨none, idColumn, .equals (.word "NULL")⟩] := by
  have hruns : (Mutation.Operation.delete "post" (.float .nan)).Runs Mutation.Untold.executor
      .plain .guest () (.ok .deleted)
      [.write ((Mutation.deleteOf "post" (.float .nan)).render .sqlite)] () :=
    Mutation.Operation.runs_of_watched rfl
  refine ⟨(compared_with_null_iff .mysql).1 hiddenLevel, hruns, ?_⟩
  rcases (compared_with_null_iff .sqlite).2.1 _ _ _ _ _ _ _ _ _ rfl hruns _
    (List.mem_singleton_self _) with ⟨hnone, -⟩ | ⟨id, -, hgiven, hclause⟩
  · exact absurd hnone (by simp [Mutation.Operation.givenId?])
  · rw [hgiven _ rfl] at hclause
    exact hclause

/-- A level whose score is asked for, and is not a number. -/
def scoreLevel : Level :=
  { Level.ofTable "posts" with
    columns := ["id"]
    modifiers := { Modifiers.empty with filter := .ofList [("score", .float .nan)] } }

/-- What stands for the score is null, behind an `=`: no row can be found. -/
theorem nan_compared_by_equals :
    scoreLevel.query.render .sqlite =
        "SELECT\n  \"posts\".\"id\"\nFROM \"posts\"\nWHERE \"posts\".\"score\" = NULL" ∧
      writtenCondition? .sqlite (scoreLevel.query.render .sqlite) =
        some [⟨some "posts", "score", .equals (.word "NULL")⟩] ∧
      ¬∃ eq scope, ((Expr.column (some "posts") "score").equalTo (.float .nan)).holds eq scope =
        true := by
  refine ⟨by decide, scoreLevel.writtenCondition?_render .sqlite, fun hholds => ?_⟩
  have hfinite := (exists_holds_equalTo_iff (some "posts") "score" (.float .nan)).1 hholds
  exact absurd hfinite (by decide)

end Sql
end SelectionSql
