import Mathlib.Data.List.TakeWhile
import SelectionSql.Level

/-!
# Reading a condition

A statement has no parentheses, so what its WHERE clause says depends on how tightly the operators
bind: `=` and `IS NULL` bind tighter than `AND`. This module reads the clause that way, from the
tokens alone.

* `Sql.whereClause?`: the tokens of the WHERE clause of a statement, if there is one.
* `Sql.conjuncts`: a condition cut at its `AND`s; `Sql.Predicate.read` reads one piece.
* `Sql.readCondition`: the predicates that a condition conjoins; nothing else can be read.
* `Query.whereClause?_of_filter`: the clause of a statement is its condition.
* `Level.whereClause?_tokens`: the clause of a level conjoins one predicate for each column of the
  filter, in the filter's order, and is missing only if there is no column.
-/
set_option autoImplicit false

namespace SelectionSql
namespace Sql

/-- Layout, which says nothing. -/
def Token.isLayout : Token → Bool
  | .space => true
  | .newline => true
  | .indent _ => true
  | _ => false

inductive Test where
  | isNull
  | equals (value : Scalar)
deriving DecidableEq

/-- The test by which a value is asked for: nothing equals null. -/
def Test.of : Scalar → Test
  | .null => .isNull
  | value => .equals value

structure Predicate where
  table : Option String
  column : String
  test : Test
deriving DecidableEq

/-- The comparison that a piece of a condition is. A piece has no layout. -/
def Predicate.read : List Token → Option Predicate
  | [.identifier t, .mark .dot, .identifier c, .mark .equals, .literal v] =>
    some ⟨some t, c, .equals v⟩
  | [.identifier t, .mark .dot, .identifier c, .keyword .IS_NULL] => some ⟨some t, c, .isNull⟩
  | [.identifier c, .mark .equals, .literal v] => some ⟨none, c, .equals v⟩
  | [.identifier c, .keyword .IS_NULL] => some ⟨none, c, .isNull⟩
  | _ => none

/-- A condition cut at every `AND`, which binds loosest. -/
def conjuncts : List Token → List (List Token)
  | [] => [[]]
  | .keyword .AND :: rest => [] :: conjuncts rest
  | t :: rest =>
    match conjuncts rest with
    | [] => [[t]]
    | piece :: others => (t :: piece) :: others

/-- The predicates that a condition conjoins, if it is a conjunction of comparisons. -/
def readCondition (tokens : List Token) : Option (List Predicate) :=
  (conjuncts (tokens.filter fun t => !t.isLayout)).mapM Predicate.read

/-- The WHERE clause of a statement: what follows the word, up to the next clause. -/
def whereClause? (tokens : List Token) : Option (List Token) :=
  match tokens.dropWhile fun t => t != .keyword .WHERE with
  | [] => none
  | _ :: rest =>
    some (rest.takeWhile fun t => t != .keyword .ORDER_BY && t != .keyword .LIMIT)

/-! ## Cutting at `AND` -/

theorem conjuncts_cons {t : Token} (h : t ≠ .keyword .AND) (rest : List Token) :
    conjuncts (t :: rest) = match conjuncts rest with
      | [] => [[t]]
      | piece :: others => (t :: piece) :: others := by
  rw [conjuncts]
  exact h

theorem conjuncts_ne_nil (ts : List Token) : conjuncts ts ≠ [] := by
  fun_cases conjuncts ts <;> simp

theorem conjuncts_append_and (a b : List Token) :
    conjuncts (a ++ .keyword .AND :: b) = conjuncts a ++ conjuncts b := by
  induction a with
  | nil => rfl
  | cons t rest ih =>
    by_cases ht : t = .keyword .AND
    · subst ht
      rw [List.cons_append, conjuncts, conjuncts, ih, List.cons_append]
    · rw [List.cons_append, conjuncts_cons ht, conjuncts_cons ht, ih]
      cases hc : conjuncts rest with
      | nil => exact absurd hc (conjuncts_ne_nil rest)
      | cons piece others => rfl

theorem readCondition_and (a b : List Token) :
    readCondition (a ++ [.space, .keyword .AND, .space] ++ b) =
      (do return (← readCondition a) ++ (← readCondition b)) := by
  have hf : (a ++ [Token.space, .keyword .AND, .space] ++ b).filter (fun t => !t.isLayout) =
      a.filter (fun t => !t.isLayout) ++ .keyword .AND :: b.filter (fun t => !t.isLayout) := by
    simp [List.filter_append, Token.isLayout]
  unfold readCondition
  rw [hf, conjuncts_append_and, List.mapM_append]

/-! ## The condition of a filter -/

def Predicate.of (table : String) (e : String × Scalar) : Predicate := ⟨some table, e.1, .of e.2⟩

theorem readCondition_equalTo (table column : String) (value : Scalar) :
    readCondition ((Expr.of table column).equalTo value).tokens =
      some [.of table (column, value)] := by
  cases value <;> rfl

/-- The condition of a filter, conjoined to what there is. -/
def filterCondition (table : String) (acc : Option Expr) (filter : Entries Scalar) : Option Expr :=
  filter.foldl (fun acc e => some (conjoin acc ((Expr.of table e.1).equalTo e.2))) acc

/-- A test of conditions that a conjunction passes with both its parts. -/
theorem all_filterCondition {f : Expr → Bool} (hand : ∀ a b, f (.and a b) = (f a && f b))
    (table : String) (acc : Option Expr) (filter : Entries Scalar) :
    (filterCondition table acc filter).all f =
      (acc.all f && filter.all fun e => f ((Expr.of table e.1).equalTo e.2)) := by
  induction filter generalizing acc with
  | nil => exact (Bool.and_true _).symm
  | cons e rest ih =>
    have hconjoin : (some (conjoin acc ((Expr.of table e.1).equalTo e.2))).all f =
        (acc.all f && f ((Expr.of table e.1).equalTo e.2)) := by
      cases acc with
      | none => exact (Bool.true_and _).symm
      | some existing => exact hand _ _
    rw [List.all_cons, ← Bool.and_assoc, ← hconjoin]
    exact ih _

theorem filterCondition_some (table : String) (existing : Expr) (ps : List Predicate)
    (h : readCondition existing.tokens = some ps) (filter : Entries Scalar) :
    ∃ e, filterCondition table (some existing) filter = some e ∧
      readCondition e.tokens = some (ps ++ filter.map (Predicate.of table)) := by
  induction filter generalizing existing ps with
  | nil => exact ⟨existing, rfl, by simpa using h⟩
  | cons e rest ih =>
    have hand : readCondition (Expr.and existing ((Expr.of table e.1).equalTo e.2)).tokens =
        some (ps ++ [.of table e]) := by
      rw [Expr.tokens, readCondition_and, h, readCondition_equalTo]
      rfl
    obtain ⟨whole, hw, hr⟩ := ih _ _ hand
    refine ⟨whole, hw, ?_⟩
    rw [hr, List.append_assoc, List.singleton_append, List.map_cons]

/-- The condition of a filter is missing exactly if the filter is empty, and else says one thing of
each of its columns. -/
theorem filterCondition_none (table : String) (filter : Entries Scalar) :
    (filterCondition table none filter = none ∧ filter = []) ∨
      ∃ e, filterCondition table none filter = some e ∧ filter ≠ [] ∧
        readCondition e.tokens = some (filter.map (Predicate.of table)) := by
  cases filter with
  | nil => exact .inl ⟨rfl, rfl⟩
  | cons e rest =>
    obtain ⟨whole, hw, hr⟩ := filterCondition_some table _ _
      (readCondition_equalTo table e.1 e.2) rest
    exact .inr ⟨whole, hw, by simp, by simpa using hr⟩

/-! ## Finding the clause -/

/-- The token is none of the words behind which the clauses after the tables stand. -/
def Token.isInside (t : Token) : Prop :=
  t ≠ .keyword .WHERE ∧ t ≠ .keyword .ORDER_BY ∧ t ≠ .keyword .LIMIT

theorem tablePart_inside (table : Option String) : ∀ t ∈ Expr.tablePart table, t.isInside := by
  cases table <;> simp [Expr.tablePart, Token.isInside]

theorem aliasPart_inside (name : Option String) : ∀ t ∈ aliasPart name, t.isInside := by
  cases name <;> simp [aliasPart, Token.isInside]

theorem Expr.tokens_inside (e : Expr) : ∀ t ∈ e.tokens, t.isInside := by
  induction e with
  | column table name =>
    intro t ht
    rcases List.mem_append.1 ht with h | h
    · exact tablePart_inside table t h
    · simp [List.mem_singleton.1 h, Token.isInside]
  | literal value => simp [Expr.tokens, Token.isInside]
  | equal left right ihl ihr =>
    intro t ht
    simp only [Expr.tokens, List.mem_append, List.mem_cons, List.not_mem_nil, or_false] at ht
    rcases ht with (h | rfl | rfl | rfl) | h
    · exact ihl t h
    · simp [Token.isInside]
    · simp [Token.isInside]
    · simp [Token.isInside]
    · exact ihr t h
  | and left right ihl ihr =>
    intro t ht
    simp only [Expr.tokens, List.mem_append, List.mem_cons, List.not_mem_nil, or_false] at ht
    rcases ht with (h | rfl | rfl | rfl) | h
    · exact ihl t h
    · simp [Token.isInside]
    · simp [Token.isInside]
    · simp [Token.isInside]
    · exact ihr t h
  | isNull operand ih =>
    intro t ht
    simp only [Expr.tokens, List.mem_append, List.mem_cons, List.not_mem_nil, or_false] at ht
    rcases ht with h | rfl | rfl
    · exact ih t h
    · simp [Token.isInside]
    · simp [Token.isInside]
  | star table =>
    intro t ht
    rcases List.mem_append.1 ht with h | h
    · exact tablePart_inside table t h
    · simp [List.mem_singleton.1 h, Token.isInside]
  | raw sql => simp [Expr.tokens, Token.isInside]

theorem joinTokens_inside {between : List Token} (hb : ∀ t ∈ between, t.isInside)
    {pieces : List (List Token)} (hp : ∀ piece ∈ pieces, ∀ t ∈ piece, t.isInside) :
    ∀ t ∈ joinTokens between pieces, t.isInside := by
  fun_induction joinTokens between pieces with
  | case1 => simp
  | case2 ts => exact hp ts List.mem_cons_self
  | case3 ts rest _ ih =>
    intro t ht
    rw [List.mem_append, List.mem_append] at ht
    rcases ht with (h | h) | h
    · exact hp ts List.mem_cons_self t h
    · exact hb t h
    · exact ih (fun piece hpiece => hp piece (List.mem_cons_of_mem ts hpiece)) t h

theorem TableRef.tokens_inside (r : TableRef) : ∀ t ∈ r.tokens, t.isInside := by
  intro t ht
  rcases List.mem_cons.1 ht with rfl | h
  · simp [Token.isInside]
  · exact aliasPart_inside r.as t h

theorem Join.tokens_inside (j : Join) : ∀ t ∈ j.tokens, t.isInside := by
  intro t ht
  simp only [Join.tokens, List.mem_append, List.mem_cons, List.not_mem_nil, or_false] at ht
  have hword : Token.isInside (.keyword j.kind.word) := by
    cases j.kind <;> simp [JoinKind.word, Token.isInside]
  rcases ht with (((rfl | rfl | rfl | rfl) | h) | rfl | rfl | rfl) | h
  · exact hword
  · simp [Token.isInside]
  · simp [Token.isInside]
  · simp [Token.isInside]
  · exact j.table.tokens_inside t h
  · simp [Token.isInside]
  · simp [Token.isInside]
  · simp [Token.isInside]
  · exact j.on.tokens_inside t h

namespace Query

theorem selectTokens_inside (q : Query) : ∀ t ∈ q.selectTokens, t.isInside := by
  unfold selectTokens
  split
  · simp
  · next items _ =>
    intro t ht
    rcases List.mem_append.1 ht with h | h
    · simp only [List.mem_cons, List.not_mem_nil, or_false] at h
      rcases h with rfl | rfl <;> simp [Token.isInside]
    · refine joinTokens_inside (by simp [Token.isInside]) ?_ t h
      intro piece hpiece u hu
      obtain ⟨item, -, rfl⟩ := List.mem_map.1 hpiece
      rcases List.mem_append.1 hu with hu | hu
      · exact item.expr.tokens_inside u hu
      · exact aliasPart_inside item.as u hu

def headTokens (q : Query) : List Token :=
  let source := match q.source with
    | none => []
    | some t => [.newline, .keyword .FROM, .space] ++ t.tokens
  .keyword .SELECT :: (q.selectTokens ++ source ++ q.joins.flatMap fun j => .newline :: j.tokens)

def tailTokens (q : Query) : List Token :=
  let order := match q.orderBy with
    | [] => []
    | es => [.newline, .keyword .ORDER_BY, .space] ++
        joinTokens [.mark .comma, .space] (es.map Expr.tokens)
  let limit := match q.limit with
    | none => []
    | some rows => [.newline, .keyword .LIMIT, .space, .literal (limitLiteral rows)]
  order ++ limit

def whereTokens (q : Query) : List Token :=
  match q.filter with
  | none => []
  | some condition => [.newline, .keyword .WHERE, .space] ++ condition.tokens

theorem tokens_eq (q : Query) : q.tokens = q.headTokens ++ (q.whereTokens ++ q.tailTokens) := by
  have hclauses (select source joins filter order limit : List Token) :
      Token.keyword .SELECT :: (select ++ source ++ joins ++ filter ++ order ++ limit) =
        (Token.keyword .SELECT :: (select ++ source ++ joins)) ++ (filter ++ (order ++ limit)) := by
    simp only [List.cons_append, List.append_assoc]
  exact hclauses _ _ _ _ _ _

theorem tokens_of_no_filter (q : Query) (h : q.filter = none) :
    q.tokens = q.headTokens ++ q.tailTokens := by
  have hwhere : q.whereTokens = [] := by
    unfold whereTokens
    rw [h]
  rw [tokens_eq, hwhere, List.nil_append]

theorem tokens_of_filter (q : Query) {condition : Expr} (h : q.filter = some condition) :
    q.tokens = q.headTokens ++
      .newline :: .keyword .WHERE :: .space :: (condition.tokens ++ q.tailTokens) := by
  have hwhere : q.whereTokens = [.newline, .keyword .WHERE, .space] ++ condition.tokens := by
    unfold whereTokens
    rw [h]
  rw [tokens_eq, hwhere, List.append_assoc]
  rfl

theorem headTokens_inside (q : Query) : ∀ t ∈ q.headTokens, t.isInside := by
  intro t ht
  simp only [headTokens, List.mem_cons, List.mem_append, List.mem_flatMap] at ht
  rcases ht with rfl | (h | h) | ⟨j, -, rfl | h⟩
  · simp [Token.isInside]
  · exact q.selectTokens_inside t h
  · split at h
    · simp at h
    · next r _ =>
      rcases List.mem_append.1 h with h | h
      · simp only [List.mem_cons, List.not_mem_nil, or_false] at h
        rcases h with rfl | rfl | rfl <;> simp [Token.isInside]
      · exact r.tokens_inside t h
  · simp [Token.isInside]
  · exact j.tokens_inside t h

theorem headTokens_ne_where (q : Query) : ∀ t ∈ q.headTokens, t ≠ .keyword .WHERE :=
  fun t ht => (q.headTokens_inside t ht).1

/-- What follows a condition starts with a line break and the word of the next clause, apart from
what the clause says. -/
theorem tailTokens_cases (q : Query) :
    q.tailTokens = [] ∨ ∃ word rest, q.tailTokens = .newline :: .keyword word :: .space :: rest ∧
      (word = .ORDER_BY ∨ word = .LIMIT) := by
  unfold tailTokens
  cases q.orderBy with
  | nil =>
    cases q.limit with
    | none => exact .inl rfl
    | some rows => exact .inr ⟨.LIMIT, _, rfl, .inr rfl⟩
  | cons e es => exact .inr ⟨.ORDER_BY, _, rfl, .inl rfl⟩

theorem tailTokens_ne_where (q : Query) : ∀ t ∈ q.tailTokens, t ≠ .keyword .WHERE := by
  intro t ht
  unfold tailTokens at ht
  rcases List.mem_append.1 ht with h | h
  · split at h
    · simp at h
    · next es _ =>
      rcases List.mem_append.1 h with h | h
      · simp only [List.mem_cons, List.not_mem_nil, or_false] at h
        rcases h with rfl | rfl | rfl <;> simp
      · refine (joinTokens_inside (by simp [Token.isInside]) ?_ t h).1
        intro piece hpiece u hu
        obtain ⟨e, -, rfl⟩ := List.mem_map.1 hpiece
        exact e.tokens_inside u hu
  · split at h
    · simp at h
    · simp only [List.mem_cons, List.not_mem_nil, or_false] at h
      rcases h with rfl | rfl | rfl | rfl <;> simp

theorem whereClause?_of_no_filter (q : Query) (h : q.filter = none) :
    whereClause? q.tokens = none := by
  have hall : ∀ t ∈ q.tokens, (t != Token.keyword .WHERE) = true := by
    intro t ht
    rw [q.tokens_of_no_filter h] at ht
    rcases List.mem_append.1 ht with ht | ht
    · exact bne_iff_ne.2 (q.headTokens_ne_where t ht)
    · exact bne_iff_ne.2 (q.tailTokens_ne_where t ht)
  unfold whereClause?
  rw [List.dropWhile_eq_nil_iff.2 hall]

/-- The WHERE clause of a statement is its condition, with layout around it. -/
theorem whereClause?_of_filter (q : Query) {condition : Expr} (h : q.filter = some condition) :
    ∃ clause, whereClause? q.tokens = some clause ∧
      readCondition clause = readCondition condition.tokens := by
  have hhead : ∀ t ∈ q.headTokens ++ [.newline], (t != Token.keyword .WHERE) = true := by
    intro t ht
    rcases List.mem_append.1 ht with ht | ht
    · exact bne_iff_ne.2 (q.headTokens_ne_where t ht)
    · simp [List.mem_singleton.1 ht]
  have hinside : ∀ t ∈ Token.space :: condition.tokens,
      (t != Token.keyword .ORDER_BY && t != .keyword .LIMIT) = true := by
    intro t ht
    rcases List.mem_cons.1 ht with rfl | ht
    · rfl
    · have hi := condition.tokens_inside t ht
      simp [hi.2.1, hi.2.2]
  have hdrop : q.tokens.dropWhile (fun t => t != .keyword .WHERE) =
      .keyword .WHERE :: ((.space :: condition.tokens) ++ q.tailTokens) := by
    have hsplit : q.tokens = (q.headTokens ++ [.newline]) ++
        .keyword .WHERE :: ((.space :: condition.tokens) ++ q.tailTokens) := by
      rw [q.tokens_of_filter h]
      simp
    rw [hsplit, List.dropWhile_append_of_pos hhead]
    rfl
  refine ⟨_, by unfold whereClause?; rw [hdrop], ?_⟩
  rw [List.takeWhile_append_of_pos hinside]
  unfold readCondition
  rcases q.tailTokens_cases with htail | ⟨word, rest, htail, hword⟩
  · simp [htail, Token.isLayout]
  · rcases hword with rfl | rfl <;> simp [htail, Token.isLayout]

end Query
end Sql

/-! ## The condition of a level -/

namespace Level
open Sql

theorem filter_query (l : Level) :
    l.query.filter = filterCondition l.table none l.modifiers.filter.entries := rfl

/-- A level's statement has a WHERE clause unless its filter is empty, and the clause conjoins one
predicate for each column of the filter. -/
theorem whereClause?_tokens (l : Level) :
    (whereClause? l.query.tokens = none ∧ l.modifiers.filter.entries = []) ∨
      ∃ clause, whereClause? l.query.tokens = some clause ∧ l.modifiers.filter.entries ≠ [] ∧
        readCondition clause = some (l.modifiers.filter.entries.map (Predicate.of l.table)) := by
  rcases filterCondition_none l.table l.modifiers.filter.entries with ⟨hnone, hempty⟩ | hsome
  · exact .inl ⟨l.query.whereClause?_of_no_filter hnone, hempty⟩
  · obtain ⟨condition, hcondition, hne, hread⟩ := hsome
    obtain ⟨clause, hclause, heq⟩ := l.query.whereClause?_of_filter hcondition
    exact .inr ⟨clause, hclause, hne, heq.trans hread⟩

end Level
end SelectionSql
