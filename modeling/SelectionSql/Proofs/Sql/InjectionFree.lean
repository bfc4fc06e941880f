import SelectionSql.Mutation
import SelectionSql.Proofs.Sql.Condition
import SelectionSql.Proofs.Sql.ReadBack

/-!
# Statements are injection-free

Whatever names and values a caller gives, a server reads a statement as the tokens that it was put
together from.

* `Sql.Separator`: tokens that part what stands on either side of them.
* `Sql.Clause`: tokens that may follow any other.
* `Query.spaced_tokens`, `Insert.spaced_tokens`, `Update.spaced_tokens`, `Delete.spaced_tokens`:
  neighbours never run together.
* `Sql.statements_readBack`: the statements of levels and of mutations are read back.
-/
set_option autoImplicit false

namespace SelectionSql
namespace Sql

/-! ## Putting tokens together -/

/-- What stands in front is parted from the tokens. -/
def opens (ts : List Token) : Bool := ts.head?.all Token.isFree

/-- What follows is parted from the tokens. -/
def closes (ts : List Token) : Bool := ts.getLast?.all Token.isFree

structure Separator (ts : List Token) : Prop where
  spaced : Spaced ts
  ne_nil : ts ≠ []
  opens : opens ts = true
  closes : closes ts = true

structure Clause (ts : List Token) : Prop where
  spaced : Spaced ts
  opens : opens ts = true

theorem apart_of_isFree_left {t : Token} (h : t.isFree = true) (u : Token) :
    t.apart u = true := by
  cases t <;> first | rfl | exact Bool.or_eq_true_iff.2 (.inl h)

theorem apart_of_isFree_right (t : Token) {u : Token} (h : u.isFree = true) :
    t.apart u = true := by
  unfold Token.apart
  split
  · rfl
  · rfl
  · exact Bool.or_eq_true_iff.2 (.inr h)

namespace Spaced

theorem nil : Spaced [] := ⟨.nil, fun _ h => by cases h⟩

theorem singleton {t : Token} (h : t.isRaw = false) : Spaced [t] :=
  ⟨.singleton t, fun u hu => by rw [List.mem_singleton.1 hu]; exact h⟩

theorem cons {t u : Token} {ts : List Token} (ht : t.isRaw = false) (htu : t.apart u = true)
    (h : Spaced (u :: ts)) : Spaced (t :: u :: ts) := by
  refine ⟨List.isChain_cons_cons.2 ⟨htu, h.apart⟩, fun v hv => ?_⟩
  rcases List.mem_cons.1 hv with rfl | hv
  · exact ht
  · exact h.plain v hv

theorem append {a b : List Token} (ha : Spaced a) (hb : Spaced b)
    (hab : ∀ t ∈ a.getLast?, ∀ u ∈ b.head?, t.apart u = true) : Spaced (a ++ b) := by
  refine ⟨List.isChain_append.2 ⟨ha.apart, hb.apart, hab⟩, fun t ht => ?_⟩
  rcases List.mem_append.1 ht with ht | ht
  · exact ha.plain t ht
  · exact hb.plain t ht

theorem append_of_opens {a b : List Token} (ha : Spaced a) (hb : Spaced b)
    (h : opens b = true) : Spaced (a ++ b) :=
  ha.append hb fun t _ u hu => apart_of_isFree_right t ((Option.all_eq_true _ _).1 h u hu)

theorem append_of_closes {a b : List Token} (ha : Spaced a) (hb : Spaced b)
    (h : closes a = true) : Spaced (a ++ b) :=
  ha.append hb fun t ht u _ => apart_of_isFree_left ((Option.all_eq_true _ _).1 h t ht) u

end Spaced

namespace Separator

/-- The separator in front of something, which other tokens may precede. -/
theorem clause {m ts : List Token} (hm : Separator m) (h : Spaced ts) : Clause (m ++ ts) := by
  refine ⟨hm.spaced.append_of_closes h hm.closes, ?_⟩
  obtain ⟨t, rest, rfl⟩ := List.exists_cons_of_ne_nil hm.ne_nil
  exact hm.opens

theorem between {m a b : List Token} (hm : Separator m) (ha : Spaced a) (hb : Spaced b) :
    Spaced (a ++ m ++ b) := by
  rw [List.append_assoc]
  exact ha.append_of_opens (hm.clause hb).spaced (hm.clause hb).opens

theorem join {m : List Token} (hm : Separator m) {parts : List (List Token)}
    (h : ∀ ts ∈ parts, Spaced ts) : Spaced (joinTokens m parts) := by
  fun_induction joinTokens m parts with
  | case1 => exact .nil
  | case2 ts => exact h ts List.mem_cons_self
  | case3 ts rest hrest ih =>
    exact hm.between (h ts List.mem_cons_self) (ih fun us hus => h us (List.mem_cons_of_mem ts hus))

theorem word (w : Keyword) : Separator [.space, .keyword w, .space] :=
  ⟨.cons rfl rfl (.cons rfl rfl (.singleton rfl)), by simp, rfl, rfl⟩

theorem line (w : Keyword) : Separator [.newline, .keyword w, .space] :=
  ⟨.cons rfl rfl (.cons rfl rfl (.singleton rfl)), by simp, rfl, rfl⟩

theorem equals : Separator [.space, .mark .equals, .space] :=
  ⟨.cons rfl rfl (.cons rfl rfl (.singleton rfl)), by simp, rfl, rfl⟩

theorem comma : Separator listComma :=
  ⟨.cons rfl rfl (.singleton rfl), by simp [listComma], rfl, rfl⟩

theorem newItem : Separator [.mark .comma, .newline, .indent 1] :=
  ⟨.cons rfl rfl (.cons rfl rfl (.singleton rfl)), by simp, rfl, rfl⟩

theorem firstItem : Separator [.newline, .indent 1] :=
  ⟨.cons rfl rfl (.singleton rfl), by simp, rfl, rfl⟩

end Separator

namespace Clause

theorem nil : Clause [] := ⟨.nil, rfl⟩

theorem append {a b : List Token} (ha : Clause a) (hb : Clause b) : Clause (a ++ b) := by
  refine ⟨ha.spaced.append_of_opens hb.spaced hb.opens, ?_⟩
  cases a with
  | nil => exact hb.opens
  | cons t rest => exact ha.opens

theorem flatMap {α : Type} {f : α → List Token} {xs : List α} (h : ∀ x ∈ xs, Clause (f x)) :
    Clause (xs.flatMap f) := by
  induction xs with
  | nil => exact nil
  | cons x xs ih =>
    exact (h x List.mem_cons_self).append (ih fun y hy => h y (List.mem_cons_of_mem x hy))

end Clause

/-! ## Expressions -/

/-- No part of the expression is passed through. -/
def Expr.isPlain : Expr → Bool
  | .raw _ => false
  | .equal left right => left.isPlain && right.isPlain
  | .and left right => left.isPlain && right.isPlain
  | .isNull operand => operand.isPlain
  | _ => true

theorem Expr.isPlain_equalTo (table : Option String) (name : String) (value : Scalar) :
    ((Expr.column table name).equalTo value).isPlain = true := by
  cases value <;> rfl

theorem Expr.spaced_tablePart (table : Option String) {t : Token} (ht : t.isRaw = false) :
    Spaced (tablePart table ++ [t]) := by
  cases table with
  | none => exact .singleton ht
  | some name => exact .cons rfl rfl (.cons rfl rfl (.singleton ht))

theorem Expr.spaced_tokens {e : Expr} (h : e.isPlain = true) : Spaced e.tokens := by
  induction e with
  | column table name => exact spaced_tablePart table rfl
  | literal value => exact .singleton rfl
  | equal left right hleft hright =>
    obtain ⟨hl, hr⟩ := Bool.and_eq_true_iff.1 h
    exact Separator.equals.between (hleft hl) (hright hr)
  | and left right hleft hright =>
    obtain ⟨hl, hr⟩ := Bool.and_eq_true_iff.1 h
    exact (Separator.word .AND).between (hleft hl) (hright hr)
  | isNull operand ih =>
    exact (ih h).append_of_opens (.cons rfl rfl (.singleton rfl)) rfl
  | star table => exact spaced_tablePart table rfl
  | raw sql => cases h

/-! ## Statements -/

theorem clause_aliasPart (as : Option String) : Clause (aliasPart as) := by
  cases as with
  | none => exact .nil
  | some name => exact (Separator.word .AS).clause (.singleton rfl)

theorem SelectItem.spaced_tokens {item : SelectItem} (h : item.expr.isPlain = true) :
    Spaced item.tokens :=
  (Expr.spaced_tokens h).append_of_opens (clause_aliasPart item.as).spaced
    (clause_aliasPart item.as).opens

theorem TableRef.spaced_tokens (t : TableRef) : Spaced t.tokens :=
  (Spaced.singleton (t := .identifier t.table) rfl).append_of_opens (clause_aliasPart t.as).spaced
    (clause_aliasPart t.as).opens

theorem Join.spaced_tokens {j : Join} (h : j.on.isPlain = true) : Spaced j.tokens := by
  have hjoin : Spaced [.keyword j.kind.word, .space, .keyword .JOIN, .space] :=
    .cons rfl rfl (.cons rfl rfl (.cons rfl rfl (.singleton rfl)))
  have htable : Spaced ([.keyword j.kind.word, .space, .keyword .JOIN, .space] ++ j.table.tokens) :=
    hjoin.append_of_closes j.table.spaced_tokens rfl
  exact (Separator.word .ON).between htable (Expr.spaced_tokens h)

namespace Query

/-- No part of the statement is passed through. -/
structure IsPlain (q : Query) : Prop where
  select : ∀ item ∈ q.select, item.expr.isPlain = true
  joins : ∀ j ∈ q.joins, j.on.isPlain = true
  filter : ∀ e ∈ q.filter, e.isPlain = true
  orderBy : ∀ e ∈ q.orderBy, e.isPlain = true

theorem clause_selectTokens {q : Query} (h : ∀ item ∈ q.select, item.expr.isPlain = true) :
    Clause q.selectTokens := by
  unfold selectTokens
  split
  · exact .nil
  · refine Separator.firstItem.clause (Separator.newItem.join fun ts hts => ?_)
    obtain ⟨item, hitem, rfl⟩ := List.mem_map.1 hts
    exact SelectItem.spaced_tokens (h item hitem)

theorem spaced_tokens {q : Query} (h : q.IsPlain) : Spaced q.tokens := by
  suffices hclauses : Clause q.tokens.tail from
    (Spaced.singleton (t := .keyword .SELECT) rfl).append_of_opens hclauses.spaced hclauses.opens
  refine (((((clause_selectTokens h.select).append ?source).append ?joins).append ?filter).append
    ?order).append ?limit
  case source =>
    split
    · exact .nil
    · next t _ => exact (Separator.line .FROM).clause t.spaced_tokens
  case joins =>
    refine Clause.flatMap fun j hj => ⟨?_, rfl⟩
    exact (Spaced.singleton (t := .newline) rfl).append_of_closes
      (Join.spaced_tokens (h.joins j hj)) rfl
  case filter =>
    split
    · exact .nil
    · next e he => exact (Separator.line .WHERE).clause (Expr.spaced_tokens (h.filter e he))
  case order =>
    split
    · exact .nil
    · refine (Separator.line .ORDER_BY).clause (Separator.comma.join fun ts hts => ?_)
      obtain ⟨e, he, rfl⟩ := List.mem_map.1 hts
      exact Expr.spaced_tokens (h.orderBy e he)
  case limit =>
    split
    · exact .nil
    · exact (Separator.line .LIMIT).clause (.singleton rfl)

end Query

theorem clause_whereTokens {filter : Option Expr} (h : ∀ e ∈ filter, e.isPlain = true) :
    Clause (whereTokens filter) := by
  cases filter with
  | none => exact .nil
  | some e => exact (Separator.word .WHERE).clause (Expr.spaced_tokens (h e rfl))

theorem Insert.spaced_tokens {s : Insert} (h : ∀ e ∈ s.values, e.isPlain = true) :
    Spaced s.tokens := by
  have hhead : Spaced [.keyword .INSERT, .space, .keyword .INTO, .space, .identifier s.table,
      .space, .mark .leftParen] :=
    .cons rfl rfl (.cons rfl rfl (.cons rfl rfl (.cons rfl rfl (.cons rfl rfl (.cons rfl rfl
      (.singleton rfl))))))
  have hvalues : Separator
      [.mark .rightParen, .space, .keyword .VALUES, .space, .mark .leftParen] :=
    ⟨.cons rfl rfl (.cons rfl rfl (.cons rfl rfl (.cons rfl rfl (.singleton rfl)))), by simp, rfl,
      rfl⟩
  have hcolumns : Spaced (joinTokens listComma (s.columns.map fun c => [.identifier c])) := by
    refine Separator.comma.join fun ts hts => ?_
    obtain ⟨c, -, rfl⟩ := List.mem_map.1 hts
    exact .singleton rfl
  have hitems : Spaced (joinTokens listComma (s.values.map Expr.tokens)) := by
    refine Separator.comma.join fun ts hts => ?_
    obtain ⟨e, he, rfl⟩ := List.mem_map.1 hts
    exact Expr.spaced_tokens (h e he)
  exact (hvalues.between (hhead.append_of_closes hcolumns rfl) hitems).append_of_opens
    (.singleton rfl) rfl

theorem Update.spaced_tokens {s : Update} (h : ∀ a ∈ s.assignments, a.2.isPlain = true)
    (hfilter : ∀ e ∈ s.filter, e.isPlain = true) : Spaced s.tokens := by
  have hhead : Spaced [.keyword .UPDATE, .space, .identifier s.table, .space, .keyword .SET,
      .space] :=
    .cons rfl rfl (.cons rfl rfl (.cons rfl rfl (.cons rfl rfl (.cons rfl rfl (.singleton rfl)))))
  have hassignments : Spaced (joinTokens listComma (s.assignments.map assignmentTokens)) := by
    refine Separator.comma.join fun ts hts => ?_
    obtain ⟨a, ha, rfl⟩ := List.mem_map.1 hts
    exact Separator.equals.between (.singleton (t := .identifier a.1) rfl)
      (Expr.spaced_tokens (h a ha))
  have hwhere := clause_whereTokens hfilter
  exact (hhead.append_of_closes hassignments rfl).append_of_opens hwhere.spaced hwhere.opens

theorem Delete.spaced_tokens {s : Delete} (hfilter : ∀ e ∈ s.filter, e.isPlain = true) :
    Spaced s.tokens := by
  have hhead : Spaced [.keyword .DELETE, .space, .keyword .FROM, .space, .identifier s.table] :=
    .cons rfl rfl (.cons rfl rfl (.cons rfl rfl (.cons rfl rfl (.singleton rfl))))
  have hwhere := clause_whereTokens hfilter
  exact hhead.append_of_opens hwhere.spaced hwhere.opens

/-! ## The statements that are built -/

theorem isPlain_filterCondition (table : String) (filter : Entries Scalar) :
    ∀ e ∈ filterCondition table none filter, e.isPlain = true := by
  have hall : (filterCondition table none filter).all Expr.isPlain = true := by
    rw [all_filterCondition fun a b => rfl, Option.all_none, Bool.true_and, List.all_eq_true]
    exact fun e _ => Expr.isPlain_equalTo (some table) e.1 e.2
  exact (Option.all_eq_true _ _).1 hall

theorem isPlain_query {l : Level} (h : l.modifiers.orderBy = none) : l.query.IsPlain where
  select := by
    intro item hitem
    simp only [Level.query, Level.items, Level.ownItems, Level.joinedItems, List.mem_append,
      List.mem_map, List.mem_flatMap] at hitem
    rcases hitem with (⟨c, -, rfl⟩ | ⟨j, -, c, -, rfl⟩) | hid
    · rfl
    · rfl
    · split at hid
      · rw [List.mem_singleton.1 hid]
        rfl
      · cases hid
  joins := by
    intro j hj
    simp only [Level.query, Level.joinClauses, List.mem_append, List.mem_flatMap] at hj
    rcases hj with hpivot | ⟨toOne, -, hj⟩
    · unfold Level.pivotJoins at hpivot
      split at hpivot
      · rw [List.mem_singleton.1 hpivot]
        rfl
      · cases hpivot
    · unfold Level.toOneJoins at hj
      split at hj
      · cases hj
      · rw [List.mem_singleton.1 hj]
        rfl
  filter := isPlain_filterCondition l.table l.modifiers.filter.entries
  orderBy := by
    intro e he
    rw [Level.query, h] at he
    cases he

theorem isPlain_idCondition (id : Scalar) :
    ∀ e ∈ some (Mutation.idCondition id), e.isPlain = true := by
  rintro e he
  cases he
  exact Expr.isPlain_equalTo none idColumn id

/-- A server reads every statement as the tokens that it was built from: a statement of a level
without an ordering, an insertion, a change, a deletion, and the row read back. -/
theorem statements_readBack (d : Dialect) :
    (∀ l : Level, l.modifiers.orderBy = none → ReadsBack d (l.query.render d) l.query.tokens) ∧
    (∀ (table : String) (values : Row),
      ReadsBack d ((Mutation.insertOf table values).render d)
        (Mutation.insertOf table values).tokens) ∧
    (∀ (table : String) (id : Scalar) (values : Row),
      ReadsBack d ((Mutation.updateOf table id values).render d)
        (Mutation.updateOf table id values).tokens) ∧
    (∀ (table : String) (id : Scalar),
      ReadsBack d ((Mutation.deleteOf table id).render d) (Mutation.deleteOf table id).tokens) ∧
    ∀ (table : String) (id : Scalar),
      ReadsBack d ((Mutation.readBackOf table id).render d)
        (Mutation.readBackOf table id).tokens := by
  refine ⟨fun l h => ?_, fun table values => ?_, fun table id values => ?_, fun table id => ?_,
    fun table id => ?_⟩
  · exact (Query.spaced_tokens (isPlain_query h)).readsBack d
  · refine (Insert.spaced_tokens fun e he => ?_).readsBack d
    obtain ⟨value, -, rfl⟩ := List.mem_map.1 he
    rfl
  · refine (Update.spaced_tokens (fun a ha => ?_) (isPlain_idCondition id)).readsBack d
    obtain ⟨entry, -, rfl⟩ := List.mem_map.1 ha
    rfl
  · exact (Delete.spaced_tokens (isPlain_idCondition id)).readsBack d
  · refine (Query.spaced_tokens ⟨?_, ?_, isPlain_idCondition id, ?_⟩).readsBack d
    · rintro item hitem
      rw [List.mem_singleton.1 hitem]
      rfl
    · rintro j hj
      cases hj
    · rintro e he
      cases he

/-- A level whose names and values try to end their quotes. -/
def hostileLevel : Level :=
  { Level.ofTable "t\x60 -- \"" with
    columns := ["a\"\\", ""]
    joins := [⟨"r\x60\x60", "T", ["c"]⟩]
    modifiers := { Modifiers.empty with
      filter := .ofList [("k\x60=1", .string "\\\x27 OR 1=1; --")], limit := some (.rows 2) } }

theorem hostileLevel_readBack :
    hostileLevel.modifiers.orderBy = none ∧
      lex .mysql (hostileLevel.query.render .mysql) = some
        [.word "SELECT", .name "t\x60 -- \"", .mark .dot, .name "a\"\\", .mark .comma,
          .name "t\x60 -- \"", .mark .dot, .name "", .mark .comma, .name "r\x60\x60", .mark .dot,
          .name "c", .word "AS", .name "r\x60\x60__c", .word "FROM", .name "t\x60 -- \"",
          .word "LEFT", .word "JOIN", .name "ts", .word "AS", .name "r\x60\x60", .word "ON",
          .name "t\x60 -- \"", .mark .dot, .name "r\x60\x60Id", .mark .equals, .name "r\x60\x60",
          .mark .dot, .name "id", .word "WHERE", .name "t\x60 -- \"", .mark .dot, .name "k\x60=1",
          .mark .equals, .string "\\\x27 OR 1=1; --", .word "LIMIT", .number "2"] :=
  ⟨rfl, ((statements_readBack .mysql).1 hostileLevel rfl).1⟩

end Sql
end SelectionSql
