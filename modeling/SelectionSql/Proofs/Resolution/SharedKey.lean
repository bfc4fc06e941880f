import SelectionSql.Proofs.Entries
import SelectionSql.Proofs.Resolution.RowKey
import SelectionSql.Proofs.Resolution.Yields
import SelectionSql.Proofs.Sql.Condition

/-!
# Ids with one key are asked for alike

Rows whose ids have one key share a sub-resolution, although their ids may be different values: any
two doubles that are no numbers have one key. What is asked of the executor is the same text.

* `Sql.sameText_filterCondition`: a condition is written alike if one of its values is.
* `Resolution.sqlOf_relationRequest`: so is the statement for the rows related to an id.
-/
set_option autoImplicit false

namespace SelectionSql
open Sql (Token Expr Query renderChars renderChars_append literalChars)

/-! ## Conditions -/

namespace Sql
variable {d : Dialect}

theorem renderChars_equalTo (table column : String) {a b : Scalar} (ha : a.isNull = false)
    (hb : b.isNull = false) (h : literalChars d a = literalChars d b) :
    renderChars d ((Expr.of table column).equalTo a).tokens =
      renderChars d ((Expr.of table column).equalTo b).tokens := by
  have hequal : ∀ v : Scalar, v.isNull = false →
      ((Expr.of table column).equalTo v).tokens =
        (Expr.of table column).tokens ++ [.space, .mark .equals, .space] ++ [.literal v] := by
    intro v hv
    cases v with
    | null => cases hv
    | _ => rfl
  have hliteral : ∀ v : Scalar, renderChars d [.literal v] = literalChars d v := by
    intro v
    rw [renderChars, List.flatMap_singleton, Token.chars]
  rw [hequal a ha, hequal b hb, renderChars_append, renderChars_append d _ [.literal b], hliteral,
    hliteral, h]

/-- Two conditions, or none, are written alike. -/
def SameText (d : Dialect) (e e' : Option Expr) : Prop :=
  e.map (fun c => renderChars d c.tokens) = e'.map fun c => renderChars d c.tokens

theorem SameText.conjoin {e e' : Option Expr} (h : SameText d e e') {c c' : Expr}
    (hc : renderChars d c.tokens = renderChars d c'.tokens) :
    SameText d (some (Sql.conjoin e c)) (some (Sql.conjoin e' c')) := by
  cases e with
  | none =>
    cases e' with
    | none => exact congrArg some hc
    | some x' => cases h
  | some x =>
    cases e' with
    | none => cases h
    | some x' =>
      have hx : renderChars d x.tokens = renderChars d x'.tokens := Option.some.inj h
      refine congrArg some ?_
      show renderChars d (Expr.and x c).tokens = renderChars d (Expr.and x' c').tokens
      rw [Expr.tokens, Expr.tokens, renderChars_append, renderChars_append, renderChars_append,
        renderChars_append, hx, hc]

theorem SameText.filterCondition {e e' : Option Expr} (h : SameText d e e') (table : String)
    (filter : Entries Scalar) :
    SameText d (Sql.filterCondition table e filter) (Sql.filterCondition table e' filter) := by
  induction filter generalizing e e' with
  | nil => exact h
  | cons entry rest ih => exact ih (h.conjoin rfl)

/-- A condition is written alike if one of its values is. -/
theorem sameText_filterCondition (table : String) (before after : Entries Scalar)
    (column : String) {a b : Scalar} (ha : a.isNull = false) (hb : b.isNull = false)
    (h : literalChars d a = literalChars d b) :
    SameText d (filterCondition table none (before ++ (column, a) :: after))
      (filterCondition table none (before ++ (column, b) :: after)) := by
  have hsplit : ∀ v, filterCondition table none (before ++ (column, v) :: after) =
      filterCondition table (some (conjoin (filterCondition table none before)
        ((Expr.of table column).equalTo v))) after := by
    intro v
    rw [filterCondition, List.foldl_append]
    rfl
  have hbefore : SameText d (filterCondition table none before)
      (filterCondition table none before) := rfl
  rw [hsplit, hsplit]
  exact (hbefore.conjoin (renderChars_equalTo table column ha hb h)).filterCondition table after

theorem render_eq_of_sameText (q : Query) {condition : Option Expr}
    (h : SameText d q.filter condition) :
    q.render d = { q with filter := condition }.render d := by
  refine congrArg String.ofList ?_
  cases hq : q.filter with
  | none =>
    rw [hq] at h
    cases condition with
    | some c => cases h
    | none => rw [← hq]
  | some e =>
    rw [hq] at h
    cases condition with
    | none => cases h
    | some c =>
      have hc : renderChars d e.tokens = renderChars d c.tokens := Option.some.inj h
      have htokens := Query.tokens_of_filter { q with filter := some c } rfl
      have hhead : { q with filter := some c }.headTokens = q.headTokens := rfl
      have htail : { q with filter := some c }.tailTokens = q.tailTokens := rfl
      rw [hhead, htail] at htokens
      rw [q.tokens_of_filter hq, htokens, renderChars_append, renderChars_append]
      refine congrArg (renderChars d q.headTokens ++ ·) ?_
      have hcons : ∀ ts : List Token, renderChars d (.newline :: .keyword .WHERE :: .space :: ts) =
          renderChars d [.newline, .keyword .WHERE, .space] ++ renderChars d ts := fun ts =>
        renderChars_append d [.newline, .keyword .WHERE, .space] ts
      rw [hcons (e.tokens ++ q.tailTokens), hcons (c.tokens ++ q.tailTokens),
        renderChars_append d e.tokens, renderChars_append d c.tokens, hc]

end Sql

/-! ## Statements for the rows related to an id -/

namespace Resolution
open Selection (Related Classified)

/-- The requests for the rows related to two ids of one parent differ in their modifiers only. -/
theorem relationRequest_eq (p : Request) (related : Related p.node) (a b : Scalar)
    (caller : Modifiers) :
    relationRequest p related b caller =
      { relationRequest p related a caller with
        modifiers := caller.merge (parentFilter p.typeName b) .forced } := by
  unfold relationRequest
  split <;> rfl

/-- A statement is written alike for parents whose ids are written alike. -/
theorem sqlOf_parentFilter {r : Request} {caller : Modifiers} {typeName : String} {a b : Scalar}
    (hr : r.modifiers = caller.merge (parentFilter typeName a) .forced) (ha : a.isNull = false)
    (hb : b.isNull = false) {dialect : Dialect}
    (h : Sql.literalChars dialect a = Sql.literalChars dialect b) (selected : Classified r.node) :
    sqlOf dialect r selected =
      sqlOf dialect { r with modifiers := caller.merge (parentFilter typeName b) .forced }
        selected := by
  obtain ⟨before, after, hinsert⟩ :=
    Entries.exists_insert_eq caller.filter.entries (foreignKey (lowercase typeName))
  have hentries : ∀ id, (caller.merge (parentFilter typeName id) .forced).filter.entries =
      before ++ (foreignKey (lowercase typeName), id) :: after := hinsert
  have hlevel : (levelOf r selected).modifiers.filter.entries =
      before ++ (foreignKey (lowercase typeName), a) :: after := by
    rw [← hentries, ← hr]
    rfl
  have hsame : Sql.SameText dialect (levelOf r selected).query.filter
      (Sql.filterCondition r.table none
        (before ++ (foreignKey (lowercase typeName), b) :: after)) := by
    rw [Level.filter_query, hlevel]
    exact Sql.sameText_filterCondition _ before after _ ha hb h
  refine (Sql.render_eq_of_sameText _ hsame).trans ?_
  rw [← hentries]
  cases r
  cases hr
  rfl

/-- Ids with one key are asked for in the same words. -/
theorem sqlOf_relationRequest {p : Request} {related : Related p.node} {a b : Scalar}
    {key : String} (ha : a.idKey? = some key) (hb : b.idKey? = some key) (caller : Modifiers)
    (dialect : Dialect) (selected : Classified (relationRequest p related a caller).node) :
    sqlOf dialect (relationRequest p related a caller) selected =
      sqlOf dialect
        { relationRequest p related a caller with
          modifiers := caller.merge (parentFilter p.typeName b) .forced } selected :=
  sqlOf_parentFilter (modifiers_relationRequest p related a caller)
    (Scalar.idKey?_eq_some_iff.1 ha).1 (Scalar.idKey?_eq_some_iff.1 hb).1
    ((Scalar.exists_idKey?_iff.1 ⟨key, ha, hb⟩).literalChars_eq dialect) selected

end Resolution
end SelectionSql
