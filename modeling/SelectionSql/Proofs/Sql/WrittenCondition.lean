import SelectionSql.Proofs.Outcome
import SelectionSql.Proofs.Sql.InjectionFree
import SelectionSql.Proofs.Sql.Meaning

/-!
# Conditions as a server reads them

The WHERE clause of a statement, read from its text by the lexical rules of the server. Only what a
literal is written as can be read there, not the value that it was made of.

* `Sql.WrittenTest`, `WrittenPredicate`: a comparison with a lexeme.
* `Sql.writtenCondition?`: the predicates of a WHERE clause. What stands behind the clause is not
  looked at, so it may be raw text.
* `Sql.writtenCondition?_of_clause`: they are those that the tokens of the clause spell.
* `Level.writtenCondition?_render`: the clause of a level.
* `Mutation.writtenCondition?_updateOf`, `_deleteOf`, `_readBackOf`, `_insertOf`: the clauses of
  mutations.
* `Sql.exists_holds_equalTo_iff`: the comparisons that are true of some row.
-/
set_option autoImplicit false

namespace SelectionSql
namespace Sql

/-! ## Reading -/

inductive WrittenTest where
  | isNull
  | equals (literal : Lexeme)
deriving DecidableEq

structure WrittenPredicate where
  table : Option String
  column : String
  test : WrittenTest
deriving DecidableEq

def WrittenPredicate.read : List Lexeme → Option WrittenPredicate
  | [.name t, .mark .dot, .name c, .mark .equals, literal] => some ⟨some t, c, .equals literal⟩
  | [.name t, .mark .dot, .name c, .word "IS", .word "NULL"] => some ⟨some t, c, .isNull⟩
  | [.name c, .mark .equals, literal] => some ⟨none, c, .equals literal⟩
  | [.name c, .word "IS", .word "NULL"] => some ⟨none, c, .isNull⟩
  | _ => none

/-- Lexemes cut at every `AND`. -/
def writtenConjuncts : List Lexeme → List (List Lexeme)
  | [] => [[]]
  | l :: rest =>
    if l = .word "AND" then [] :: writtenConjuncts rest
    else match writtenConjuncts rest with
      | [] => [[l]]
      | piece :: others => (l :: piece) :: others

/-- The lexeme belongs to none of the clauses behind the WHERE clause, nor do those in front. -/
def beforeTail (l : Lexeme) : Bool := l != .word "ORDER" && l != .word "LIMIT"

/-- The predicates that a WHERE clause conjoins; none where there is no clause. -/
def readWritten (lexemes : List Lexeme) : Option (List WrittenPredicate) :=
  match lexemes.dropWhile fun l => l != .word "WHERE" with
  | [] => some []
  | _ :: clause => (writtenConjuncts clause).mapM WrittenPredicate.read

def writtenCondition? (d : Dialect) (text : String) : Option (List WrittenPredicate) :=
  readWritten ((lexFrom d text.toList).1.takeWhile beforeTail)

/-! ## What is written -/

/-- How a test is written. -/
def Test.written (d : Dialect) : Test → WrittenTest
  | .isNull => .isNull
  | .equals value => .equals (literalLexeme d value)

def Predicate.written (d : Dialect) (p : Predicate) : WrittenPredicate :=
  ⟨p.table, p.column, p.test.written d⟩

/-- A literal is written as the word NULL exactly if it is null or a double that is not finite. -/
theorem literalLexeme_eq_null_iff (d : Dialect) (v : Scalar) :
    literalLexeme d v = .word "NULL" ↔ v = .null ∨ isFiniteValue v = false := by
  cases v with
  | null => exact ⟨fun _ => .inl rfl, fun _ => rfl⟩
  | bool b => cases d <;> cases b <;> simp [literalLexeme, boolText, isFiniteValue]
  | int n => simp [literalLexeme, isFiniteValue]
  | float f => cases h : f.isFinite <;> simp [literalLexeme, isFiniteValue, h]
  | string s => simp [literalLexeme, isFiniteValue]

/-! ## What can be true -/

/-- Values that are not null are equal if they are the same. -/
def Equality.identity : Equality where
  test a b := if a.isNull || b.isNull then none else some (a == b)
  null_left _ := rfl
  null_right v := by cases v <;> rfl

theorem exists_scope (table : Option String) (column : String) (v : Scalar) :
    ∃ scope, (Expr.column table column).value scope = v := by
  refine ⟨[(table.getD "", fun _ => v)], ?_⟩
  cases table with
  | none => rfl
  | some t =>
    show Scope.record [(t, fun _ => v)] t column = v
    rw [Scope.record, Entries.find?_cons, if_pos rfl]
    rfl

/-- What is written as null for a double equals nothing. -/
theorem holds_equalTo_of_not_finite {v : Scalar} (h : isFiniteValue v = false) (eq : Equality)
    (e : Expr) (scope : Scope) : (e.equalTo v).holds eq scope = false := by
  cases v with
  | float f =>
    have hnull : literalValue (.float f) = .null := if_neg (by simpa [isFiniteValue] using h)
    have hunknown := eq.null_right (e.value scope)
    rw [← hnull] at hunknown
    exact hunknown
  | _ => cases h

/-- A column can have a value, as it is asked for, unless the value is written as null. -/
theorem exists_holds_equalTo_iff (table : Option String) (column : String) (v : Scalar) :
    (∃ eq scope, ((Expr.column table column).equalTo v).holds eq scope = true) ↔
      isFiniteValue v = true := by
  constructor
  · rintro ⟨eq, scope, hholds⟩
    by_contra hfinite
    rw [holds_equalTo_of_not_finite (Bool.not_eq_true _ ▸ hfinite)] at hholds
    exact Bool.false_ne_true hholds
  · intro hfinite
    obtain ⟨scope, hcolumn⟩ := exists_scope table column v
    have hequal : v.isNull = false →
        ((Expr.column table column).equal (.literal v)).holds .identity scope = true := by
      intro hnull
      show ((Equality.identity.test _ (literalValue v)).isTrue) = true
      rw [hcolumn, literalValue_of_isFiniteValue hfinite]
      simp [Equality.identity, hnull, Truth.isTrue]
    refine ⟨.identity, scope, ?_⟩
    cases v with
    | null =>
      show Truth.isTrue (some (Scalar.isNull _)) = true
      rw [hcolumn]
      rfl
    | _ => exact hequal rfl

/-! ## From tokens to lexemes -/

section Words
variable {d : Dialect} {t : Token}

/-- A word that no literal is written as belongs to a keyword. -/
theorem exists_keyword_of_word {text : String} (htext : text ∉ ["NULL", "true", "false"])
    (h : Lexeme.word text ∈ t.lexemes d) :
    ∃ word : Keyword, t = .keyword word ∧ text ∈ word.words := by
  cases t with
  | keyword word =>
    obtain ⟨w, hw, heq⟩ := List.mem_map.1 h
    cases heq
    exact ⟨word, rfl, hw⟩
  | literal value =>
    have hliteral : Lexeme.word text = literalLexeme d value := List.mem_singleton.1 h
    cases value with
    | null => simp_all [literalLexeme]
    | bool b => cases d <;> cases b <;> simp_all [literalLexeme, boolText]
    | int n => cases hliteral
    | float f => cases hf : f.isFinite <;> simp_all [literalLexeme]
    | string s => cases hliteral
  | identifier name => cases List.mem_singleton.1 h
  | mark m => cases List.mem_singleton.1 h
  | _ => cases h

theorem where_notMem_lexemes (h : t ≠ .keyword .WHERE) :
    ∀ l ∈ t.lexemes d, (l != .word "WHERE") = true := by
  refine fun l hl => bne_iff_ne.2 fun heq => ?_
  subst heq
  obtain ⟨word, rfl, hword⟩ := exists_keyword_of_word (by simp) hl
  cases word <;> simp_all [Keyword.words, Keyword.text]

theorem and_notMem_lexemes (h : t ≠ .keyword .AND) : ∀ l ∈ t.lexemes d, l ≠ .word "AND" := by
  rintro l hl rfl
  obtain ⟨word, rfl, hword⟩ := exists_keyword_of_word (by simp) hl
  cases word <;> simp_all [Keyword.words, Keyword.text]

theorem beforeTail_lexemes (horder : t ≠ .keyword .ORDER_BY) (hlimit : t ≠ .keyword .LIMIT) :
    ∀ l ∈ t.lexemes d, beforeTail l = true := by
  intro l hl
  refine Bool.and_eq_true_iff.2 ⟨bne_iff_ne.2 fun heq => ?_, bne_iff_ne.2 fun heq => ?_⟩
  · subst heq
    obtain ⟨word, rfl, hword⟩ := exists_keyword_of_word (by simp) hl
    cases word <;> simp_all [Keyword.words, Keyword.text]
  · subst heq
    obtain ⟨word, rfl, hword⟩ := exists_keyword_of_word (by simp) hl
    cases word <;> simp_all [Keyword.words, Keyword.text]

end Words

/-- A piece is written by its lexemes in the place where it stands. -/
theorem writtenConjuncts_append {lexemes : List Lexeme} (h : ∀ l ∈ lexemes, l ≠ .word "AND")
    {rest piece : List Lexeme} {others : List (List Lexeme)}
    (hrest : writtenConjuncts rest = piece :: others) :
    writtenConjuncts (lexemes ++ rest) = (lexemes ++ piece) :: others := by
  induction lexemes with
  | nil => exact hrest
  | cons l lexemes ih =>
    obtain ⟨hl, hlexemes⟩ := List.forall_mem_cons.1 h
    rw [List.cons_append, writtenConjuncts, if_neg hl, ih hlexemes]
    rfl

theorem writtenConjuncts_flatMap (d : Dialect) (ts : List Token) :
    writtenConjuncts (ts.flatMap (Token.lexemes d)) =
      (conjuncts ts).map (List.flatMap (Token.lexemes d)) := by
  induction ts with
  | nil => rfl
  | cons t rest ih =>
    by_cases ht : t = .keyword .AND
    · subst ht
      show writtenConjuncts (.word "AND" :: rest.flatMap (Token.lexemes d)) = _
      rw [writtenConjuncts, if_pos rfl, ih, conjuncts, List.map_cons, List.flatMap_nil]
    · obtain ⟨piece, others, hpieces⟩ := List.exists_cons_of_ne_nil (conjuncts_ne_nil rest)
      rw [hpieces, List.map_cons] at ih
      rw [List.flatMap_cons, writtenConjuncts_append (and_notMem_lexemes ht) ih,
        conjuncts_cons ht, hpieces]
      rfl

theorem flatMap_lexemes_filter (d : Dialect) (ts : List Token) :
    (ts.filter fun t => !t.isLayout).flatMap (Token.lexemes d) =
      ts.flatMap (Token.lexemes d) := by
  induction ts with
  | nil => rfl
  | cons t rest ih =>
    cases h : t.isLayout with
    | false =>
      rw [List.filter_cons_of_pos (by simp [h]), List.flatMap_cons, List.flatMap_cons, ih]
    | true =>
      have hnone : t.lexemes d = [] := by
        cases t <;> first | rfl | cases h
      rw [List.filter_cons_of_neg (by simp [h]), List.flatMap_cons, hnone, List.nil_append, ih]

theorem read_written {d : Dialect} {piece : List Token} {p : Predicate}
    (h : Predicate.read piece = some p) :
    WrittenPredicate.read (piece.flatMap (Token.lexemes d)) = some (p.written d) := by
  unfold Predicate.read at h
  split at h
  all_goals cases h
  all_goals rfl

theorem mapM_read_written {d : Dialect} {clause : List Token} {ps : List Predicate}
    (h : readCondition clause = some ps) :
    (writtenConjuncts (clause.flatMap (Token.lexemes d))).mapM WrittenPredicate.read =
      some (ps.map (Predicate.written d)) := by
  rw [← flatMap_lexemes_filter, writtenConjuncts_flatMap, mapM_eq_some_iff]
  refine List.forall₂_map_left_iff.2 (List.forall₂_map_right_iff.2 ?_)
  exact (mapM_eq_some_iff.1 h).imp fun piece p hp => read_written hp

/-! ## Clauses of statements -/

/-- The tokens are the WHERE clause of a condition, if there is one. -/
inductive IsClause : List Token → Option Expr → Prop
  | none : IsClause [] none
  | some {layout : Token} (h : layout.isLayout = true) (condition : Expr) :
      IsClause (layout :: .keyword .WHERE :: .space :: condition.tokens) (some condition)

theorem IsClause.beforeTail {clause : List Token} {filter : Option Expr}
    (h : IsClause clause filter) {d : Dialect} :
    ∀ t ∈ clause, ∀ l ∈ t.lexemes d, beforeTail l = true := by
  intro t ht
  cases h with
  | none => cases ht
  | @some layout h condition =>
    simp only [List.mem_cons] at ht
    rcases ht with rfl | rfl | rfl | ht
    · exact beforeTail_lexemes (fun heq => by cases heq; cases h) fun heq => by cases heq; cases h
    · exact beforeTail_lexemes (by simp) (by simp)
    · exact beforeTail_lexemes (by simp) (by simp)
    · obtain ⟨-, horder, hlimit⟩ := condition.tokens_inside t ht
      exact beforeTail_lexemes horder hlimit

/-- What a condition conjoins; nothing if there is none. -/
def readFilter : Option Expr → Option (List Predicate)
  | none => some []
  | some condition => readCondition condition.tokens

section Clause
variable {d : Dialect} {front clause : List Token} {filter : Option Expr} {ps : List Predicate}

theorem readWritten_of_clause (hfront : ∀ t ∈ front, t ≠ .keyword .WHERE)
    (hclause : IsClause clause filter) (hread : readFilter filter = some ps) :
    readWritten ((front ++ clause).flatMap (Token.lexemes d)) =
      some (ps.map (Predicate.written d)) := by
  have hall : ∀ l ∈ front.flatMap (Token.lexemes d), (l != .word "WHERE") = true := by
    intro l hl
    obtain ⟨t, ht, hl⟩ := List.mem_flatMap.1 hl
    exact where_notMem_lexemes (hfront t ht) l hl
  cases hclause with
  | none =>
    cases hread
    rw [List.append_nil, readWritten, List.dropWhile_eq_nil_iff.2 hall, List.map_nil]
  | @some layout h condition =>
    have hlayout : layout.lexemes d = [] := by
      cases layout <;> first | rfl | cases h
    have hlexemes : (layout :: .keyword .WHERE :: .space :: condition.tokens).flatMap
        (Token.lexemes d) = .word "WHERE" :: condition.tokens.flatMap (Token.lexemes d) := by
      rw [List.flatMap_cons, hlayout]
      rfl
    rw [List.flatMap_append, hlexemes, readWritten, List.dropWhile_append_of_pos hall]
    exact mapM_read_written hread

/-- What stands behind the clause does not matter, as long as its first word ends the clause. -/
theorem writtenCondition?_of_clause {text : String} {tail : List Lexeme}
    (hfront : ∀ t ∈ front, t.isInside) (hclause : IsClause clause filter)
    (hread : readFilter filter = some ps)
    (htext : (lexFrom d text.toList).1 = (front ++ clause).flatMap (Token.lexemes d) ++ tail)
    (htail : ∀ l ∈ tail.head?, beforeTail l = false) :
    writtenCondition? d text = some (ps.map (Predicate.written d)) := by
  have hbefore : ∀ l ∈ (front ++ clause).flatMap (Token.lexemes d), beforeTail l = true := by
    intro l hl
    obtain ⟨t, ht, hl⟩ := List.mem_flatMap.1 hl
    rcases List.mem_append.1 ht with ht | ht
    · exact beforeTail_lexemes (hfront t ht).2.1 (hfront t ht).2.2 l hl
    · exact hclause.beforeTail t ht l hl
  have hends : tail.takeWhile beforeTail = [] := by
    cases tail with
    | nil => rfl
    | cons l tail => rw [List.takeWhile_cons, htail l rfl, if_neg Bool.false_ne_true]
  rw [writtenCondition?, htext, List.takeWhile_append_of_pos hbefore, hends, List.append_nil]
  exact readWritten_of_clause (fun t ht => (hfront t ht).1) hclause hread

end Clause

namespace Query

theorem isClause_whereTokens (q : Query) : IsClause q.whereTokens q.filter := by
  unfold whereTokens
  cases q.filter with
  | none => exact .none
  | some condition => exact .some rfl condition

/-- The parts of a statement up to its WHERE clause are put together without raw text. -/
def IsPlainInFront (q : Query) : Prop := { q with orderBy := [], limit := none }.IsPlain

theorem spaced_front {q : Query} (h : q.IsPlainInFront) :
    Spaced (q.headTokens ++ q.whereTokens) := by
  have hspaced := spaced_tokens h
  rw [tokens_eq, tailTokens, List.append_nil, List.append_nil] at hspaced
  exact hspaced

/-- What stands behind the WHERE clause starts on a line of its own. -/
theorem head_tailTokens (d : Dialect) (q : Query) :
    ∀ c ∈ (renderChars d q.tailTokens).head?, isFreeChar c = true := by
  rcases q.tailTokens_cases with htail | ⟨word, rest, htail, -⟩
  · rw [htail]
    simp [renderChars]
  · rw [htail]
    intro c hc
    cases hc
    rfl

/-- What stands behind the WHERE clause starts with a word that ends it. -/
theorem beforeTail_tailTokens (d : Dialect) (q : Query) :
    ∀ l ∈ (lexFrom d (renderChars d q.tailTokens)).1.head?, beforeTail l = false := by
  rcases q.tailTokens_cases with htail | ⟨word, rest, htail, hword⟩
  · rw [htail, renderChars, List.flatMap_nil, lexFrom_nil]
    simp
  · have hkeyword : Spaced [.newline, .keyword word] := .cons rfl rfl (.singleton rfl)
    have hblank : ∀ c ∈ (renderChars d (.space :: rest)).head?, isFreeChar c = true := by
      intro c hc
      cases hc
      rfl
    have hread := reads_tokens d hkeyword hblank
    rw [Reads, ← renderChars_append] at hread
    have htext : (.newline :: .keyword word :: .space :: rest : List Token) =
      [.newline, .keyword word] ++ (.space :: rest) := rfl
    rw [htail, htext, hread]
    rcases hword with rfl | rfl
    · intro l hl
      cases hl
      rfl
    · intro l hl
      cases hl
      rfl

theorem lexFrom_render_front (d : Dialect) {q : Query} (h : q.IsPlainInFront) :
    (lexFrom d (q.render d).toList).1 =
      (q.headTokens ++ q.whereTokens).flatMap (Token.lexemes d) ++
        (lexFrom d (renderChars d q.tailTokens)).1 := by
  have hchars : (q.render d).toList =
      renderChars d (q.headTokens ++ q.whereTokens) ++ renderChars d q.tailTokens := by
    rw [render, Sql.render, String.toList_ofList, tokens_eq, ← List.append_assoc,
      renderChars_append]
  have hfront : Reads d _ _ (renderChars d q.tailTokens) :=
    reads_tokens d (spaced_front h) (head_tailTokens d q)
  rw [hchars, hfront]

theorem writtenCondition?_render (d : Dialect) {q : Query} (h : q.IsPlainInFront)
    {ps : List Predicate} (hread : readFilter q.filter = some ps) :
    writtenCondition? d (q.render d) = some (ps.map (Predicate.written d)) :=
  writtenCondition?_of_clause q.headTokens_inside q.isClause_whereTokens hread
    (lexFrom_render_front d h) (beforeTail_tailTokens d q)

end Query

/-- A statement that ends with its WHERE clause. -/
theorem writtenCondition?_of_spaced {d : Dialect} {front clause : List Token} {filter : Option Expr}
    {ps : List Predicate} (hspaced : Spaced (front ++ clause)) (hfront : ∀ t ∈ front, t.isInside)
    (hclause : IsClause clause filter) (hread : readFilter filter = some ps) :
    writtenCondition? d (render d (front ++ clause)) = some (ps.map (Predicate.written d)) := by
  have hend : ∀ l ∈ ([] : List Lexeme).head?, beforeTail l = false := nofun
  refine writtenCondition?_of_clause hfront hclause hread ?_ hend
  rw [lexFrom_render d hspaced, List.append_nil]

end Sql

/-! ## Statements of levels -/

namespace Level
open Sql

theorem isPlainInFront_query (l : Level) : l.query.IsPlainInFront := by
  -- Only the ordering of a level may be raw text.
  have hplain := isPlain_query (l := { l with modifiers := { l.modifiers with orderBy := none } })
    rfl
  exact ⟨hplain.select, hplain.joins, hplain.filter, nofun⟩

theorem readFilter_query (l : Level) : readFilter l.query.filter =
    some (l.modifiers.filter.entries.map (Predicate.of l.table)) := by
  rw [filter_query]
  rcases filterCondition_none l.table l.modifiers.filter.entries with ⟨hnone, hempty⟩ | hsome
  · rw [hnone, hempty]
    rfl
  · obtain ⟨condition, hcondition, -, hread⟩ := hsome
    rw [hcondition]
    exact hread

/-- The clause that is written for a level has one predicate for each column of the filter. -/
theorem writtenCondition?_render (l : Level) (d : Dialect) :
    writtenCondition? d (l.query.render d) =
      some (l.modifiers.filter.entries.map fun e => (Predicate.of l.table e).written d) := by
  rw [Query.writtenCondition?_render d l.isPlainInFront_query l.readFilter_query, List.map_map]
  rfl

end Level

/-! ## Statements of mutations -/

namespace Mutation
open Sql

theorem isClause_whereTokens (filter : Option Expr) : IsClause (Sql.whereTokens filter) filter := by
  cases filter with
  | none => exact .none
  | some condition => exact .some rfl condition

theorem listComma_inside {pieces : List (List Token)}
    (h : ∀ piece ∈ pieces, ∀ t ∈ piece, t.isInside) :
    ∀ t ∈ joinTokens listComma pieces, t.isInside :=
  joinTokens_inside (by simp [listComma, Token.isInside]) h

theorem readFilter_idCondition (id : Scalar) :
    readFilter (some (idCondition id)) = some [⟨none, idColumn, .of id⟩] := by
  cases id <;> rfl

section Texts
variable (d : Dialect) (table : String) (id : Scalar) (values : Row)

theorem writtenCondition?_insertOf :
    writtenCondition? d ((insertOf table values).render d) = some [] := by
  have hspaced : Spaced (insertOf table values).tokens := by
    refine Insert.spaced_tokens fun e he => ?_
    obtain ⟨value, -, rfl⟩ := List.mem_map.1 he
    rfl
  have hinside : ∀ t ∈ (insertOf table values).tokens, t.isInside := by
    simp only [Insert.tokens, List.forall_mem_append]
    refine ⟨⟨⟨⟨by simp [Token.isInside], listComma_inside fun piece hpiece => ?columns⟩,
      by simp [Token.isInside]⟩, listComma_inside fun piece hpiece => ?values⟩,
      by simp [Token.isInside]⟩
    case columns =>
      obtain ⟨c, -, rfl⟩ := List.mem_map.1 hpiece
      simp [Token.isInside]
    case values =>
      obtain ⟨e, -, rfl⟩ := List.mem_map.1 hpiece
      exact e.tokens_inside
  rw [← List.append_nil (insertOf table values).tokens] at hspaced
  have hwritten : writtenCondition? d (render d ((insertOf table values).tokens ++ [])) = some [] :=
    writtenCondition?_of_spaced hspaced hinside .none rfl
  rwa [List.append_nil] at hwritten

theorem writtenCondition?_updateOf :
    writtenCondition? d ((updateOf table id values).render d) =
      some [Predicate.written d ⟨none, idColumn, .of id⟩] := by
  have hspaced : Spaced (updateOf table id values).tokens := by
    refine Update.spaced_tokens (fun a ha => ?_) (isPlain_idCondition id)
    obtain ⟨entry, -, rfl⟩ := List.mem_map.1 ha
    rfl
  refine writtenCondition?_of_spaced hspaced ?_ (isClause_whereTokens _) (readFilter_idCondition id)
  refine List.forall_mem_append.2
    ⟨by simp [Token.isInside], listComma_inside fun piece hpiece => ?_⟩
  obtain ⟨a, -, rfl⟩ := List.mem_map.1 hpiece
  refine List.forall_mem_append.2 ⟨by simp [Token.isInside], a.2.tokens_inside⟩

theorem writtenCondition?_deleteOf :
    writtenCondition? d ((deleteOf table id).render d) =
      some [Predicate.written d ⟨none, idColumn, .of id⟩] := by
  have hspaced : Spaced (deleteOf table id).tokens := Delete.spaced_tokens (isPlain_idCondition id)
  refine writtenCondition?_of_spaced hspaced ?_ (isClause_whereTokens _) (readFilter_idCondition id)
  simp [Token.isInside]

theorem writtenCondition?_readBackOf :
    writtenCondition? d ((readBackOf table id).render d) =
      some [Predicate.written d ⟨none, idColumn, .of id⟩] := by
  have hplain : (readBackOf table id).IsPlainInFront := by
    refine ⟨fun item hitem => ?_, nofun, isPlain_idCondition id, nofun⟩
    rw [List.mem_singleton.1 hitem]
    rfl
  exact Query.writtenCondition?_render d hplain (readFilter_idCondition id)

end Texts

end Mutation
end SelectionSql
