import SelectionSql.Proofs.Sql.InjectionFree

/-!
# Reading the statements of mutations

What a statement about one table says, read from its tokens alone.

* `Sql.Act`: values put into columns, values assigned or rows removed under conditions, rows asked
  for.
* `Sql.Act.read`: the act that tokens spell; lists are cut at their commas.
* `Sql.Says`: a server reads a text as tokens that spell an act.
* `Mutation.says_insertOf`, `says_updateOf`, `says_deleteOf`, `says_readBackOf`: what the statements
  of mutations say.
-/
set_option autoImplicit false

namespace SelectionSql
namespace Sql

/-- What a statement about one table says. -/
inductive Act where
  | insert (table : String) (columns : List String) (values : List Scalar)
  | update (table : String) (assignments : List (String × Scalar)) (conditions : List Predicate)
  | delete (table : String) (conditions : List Predicate)
  | select (table : String) (conditions : List Predicate) (limit : Option Scalar)
deriving DecidableEq

namespace Act

def readName : List Token → Option String
  | [.identifier name] => some name
  | _ => none

def readValue : List Token → Option Scalar
  | [.literal value] => some value
  | _ => none

def readAssignment : List Token → Option (String × Scalar)
  | [.identifier name, .mark .equals, .literal value] => some (name, value)
  | _ => none

/-- A list cut at its commas. -/
def readItems {α : Type} (item : List Token → Option α) (tokens : List Token) : Option (List α) :=
  (tokens.splitOn (.mark .comma)).mapM item

def readWhere : List Token → Option (List Predicate)
  | [] => some []
  | .keyword .WHERE :: condition => readCondition condition
  | _ => none

def readLimit : List Token → Option (Option Scalar)
  | [] => some none
  | [.keyword .LIMIT, .literal rows] => some (some rows)
  | _ => none

/-- The act that tokens without layout spell. -/
def readPlain : List Token → Option Act
  | .keyword .INSERT :: .keyword .INTO :: .identifier table :: .mark .leftParen :: rest =>
    match rest.dropWhile fun t => t != .mark .rightParen with
    | .mark .rightParen :: .keyword .VALUES :: .mark .leftParen :: values => do
      let columns ← readItems readName (rest.takeWhile fun t => t != .mark .rightParen)
      let given ← readItems readValue (values.takeWhile fun t => t != .mark .rightParen)
      if values.dropWhile (fun t => t != .mark .rightParen) = [.mark .rightParen] then
        return .insert table columns given
      else none
    | _ => none
  | .keyword .UPDATE :: .identifier table :: .keyword .SET :: rest => do
    let assignments ← readItems readAssignment (rest.takeWhile fun t => t != .keyword .WHERE)
    return .update table assignments (← readWhere (rest.dropWhile fun t => t != .keyword .WHERE))
  | .keyword .DELETE :: .keyword .FROM :: .identifier table :: rest => do
    return .delete table (← readWhere rest)
  | .keyword .SELECT :: .mark .star :: .keyword .FROM :: .identifier table :: rest => do
    let conditions ← readWhere (rest.takeWhile fun t => t != .keyword .LIMIT)
    return .select table conditions (← readLimit (rest.dropWhile fun t => t != .keyword .LIMIT))
  | _ => none

def read (tokens : List Token) : Option Act := readPlain (tokens.filter fun t => !t.isLayout)

end Act

/-- A server reads the text as tokens that spell the act. -/
def Says (d : Dialect) (text : String) (act : Act) : Prop :=
  ∃ tokens, ReadsBack d text tokens ∧ Act.read tokens = some act

/-! ## Lists -/

theorem filter_joinTokens (pieces : List (List Token)) :
    (joinTokens listComma pieces).filter (fun t => !t.isLayout) =
      [Token.mark .comma].intercalate (pieces.map (List.filter fun t => !t.isLayout)) := by
  fun_induction joinTokens listComma pieces with
  | case1 => rfl
  | case2 ts => simp
  | case3 ts rest hrest ih =>
    obtain ⟨u, us, rfl⟩ := List.exists_cons_of_ne_nil hrest
    have hcomma : listComma.filter (fun t => !t.isLayout) = [.mark .comma] := rfl
    rw [List.filter_append, List.filter_append, ih, hcomma]
    exact List.intercalate_cons_cons.symm

section Items
variable {α β : Type} {item : List Token → Option α} {tokens : β → List Token} {value : β → α}
  {l : List β}

theorem mapM_items (hitem : ∀ b ∈ l, item (tokens b) = some (value b)) :
    (l.map tokens).mapM item = some (l.map value) := by
  induction l with
  | nil => rfl
  | cons b rest ih =>
    obtain ⟨hb, hrest⟩ := List.forall_mem_cons.1 hitem
    rw [List.map_cons, List.mapM_cons, hb, ih hrest]
    rfl

theorem readItems_intercalate (hne : l ≠ [])
    (hitem : ∀ b ∈ l, item (tokens b) = some (value b))
    (hcomma : ∀ b ∈ l, Token.mark .comma ∉ tokens b) :
    Act.readItems item ([Token.mark .comma].intercalate (l.map tokens)) = some (l.map value) := by
  have hpieces : ∀ piece ∈ l.map tokens, Token.mark .comma ∉ piece := by
    intro piece hpiece
    obtain ⟨b, hb, rfl⟩ := List.mem_map.1 hpiece
    exact hcomma b hb
  rw [Act.readItems, List.splitOn_intercalate _ hpieces (by simpa using hne)]
  exact mapM_items hitem

/-- No token but commas and those of the items stands in a list. -/
theorem mem_intercalate {t : Token} (h : t ∈ [Token.mark .comma].intercalate (l.map tokens)) :
    t = .mark .comma ∨ ∃ b ∈ l, t ∈ tokens b := by
  induction l with
  | nil => cases h
  | cons b rest ih =>
    cases rest with
    | nil => exact .inr ⟨b, List.mem_cons_self, by simpa using h⟩
    | cons b' rest =>
      rw [List.map_cons, List.map_cons, List.intercalate_cons_cons, List.mem_append,
        List.mem_append, List.mem_singleton] at h
      rcases h with (h | h) | h
      · exact .inr ⟨b, List.mem_cons_self, h⟩
      · exact .inl h
      · rcases ih (by rwa [List.map_cons]) with h | ⟨c, hc, h⟩
        · exact .inl h
        · exact .inr ⟨c, List.mem_cons_of_mem b hc, h⟩

end Items

section Until
variable {l rest : List Token} {t : Token}

theorem takeWhile_until (h : ∀ u ∈ l, u ≠ t) :
    (l ++ t :: rest).takeWhile (fun u => u != t) = l := by
  rw [List.takeWhile_append_of_pos fun u hu => bne_iff_ne.2 (h u hu), List.takeWhile_cons]
  simp

theorem dropWhile_until (h : ∀ u ∈ l, u ≠ t) :
    (l ++ t :: rest).dropWhile (fun u => u != t) = t :: rest := by
  rw [List.dropWhile_append_of_pos fun u hu => bne_iff_ne.2 (h u hu), List.dropWhile_cons]
  simp

end Until

end Sql

/-! ## The statements of mutations -/

namespace Mutation
open Sql

/-- The condition on the id without its layout. -/
def idTokens (id : Scalar) : List Token := (idCondition id).tokens.filter fun t => !t.isLayout

theorem readWhere_idTokens (id : Scalar) :
    Act.readWhere (.keyword .WHERE :: idTokens id) = some [⟨none, idColumn, .of id⟩] := by
  cases id <;> rfl

theorem entries_ne_nil {values : Row} (h : values.isEmpty = false) : values.entries ≠ [] := by
  intro hnil
  rw [OrderedMap.isEmpty, hnil] at h
  cases h

theorem read_insertOf (table : String) {values : Row} (h : values.isEmpty = false) :
    Act.read (insertOf table values).tokens =
      some (.insert table values.keys values.values) := by
  have hne := entries_ne_nil h
  let columns := [Token.mark .comma].intercalate
    (values.entries.map fun e => [Token.identifier e.1])
  let given := [Token.mark .comma].intercalate (values.entries.map fun e => [Token.literal e.2])
  have htokens : (insertOf table values).tokens.filter (fun t => !t.isLayout) =
      .keyword .INSERT :: .keyword .INTO :: .identifier table :: .mark .leftParen ::
        (columns ++ .mark .rightParen :: .keyword .VALUES :: .mark .leftParen ::
          (given ++ [.mark .rightParen])) := by
    have hcolumns : (joinTokens listComma
        (values.keys.map fun c => [Token.identifier c])).filter (fun t => !t.isLayout) =
          columns := by
      rw [filter_joinTokens, List.map_map, OrderedMap.keys, Entries.keys, List.map_map]
      rfl
    have hgiven : (joinTokens listComma
        ((values.values.map Expr.literal).map Expr.tokens)).filter (fun t => !t.isLayout) =
          given := by
      rw [filter_joinTokens, List.map_map, List.map_map, OrderedMap.values, List.map_map]
      rfl
    rw [insertOf, Insert.tokens]
    simp only [List.filter_append, hcolumns, hgiven, List.append_assoc]
    rfl
  have hcolumns : ∀ u ∈ columns, u ≠ Token.mark .rightParen := by
    rintro u hu rfl
    rcases mem_intercalate hu with h | ⟨e, -, h⟩ <;> simp at h
  have hgiven : ∀ u ∈ given, u ≠ Token.mark .rightParen := by
    rintro u hu rfl
    rcases mem_intercalate hu with h | ⟨e, -, h⟩ <;> simp at h
  have hnames : Act.readItems Act.readName columns = some (values.entries.map Prod.fst) :=
    readItems_intercalate hne (fun e _ => rfl) (fun e _ => by simp)
  have hvalues : Act.readItems Act.readValue given = some (values.entries.map Prod.snd) :=
    readItems_intercalate hne (fun e _ => rfl) (fun e _ => by simp)
  rw [Act.read, htokens, Act.readPlain, dropWhile_until hcolumns, takeWhile_until hcolumns]
  dsimp only
  rw [takeWhile_until hgiven, dropWhile_until hgiven, hnames, hvalues]
  rfl

theorem read_updateOf (table : String) (id : Scalar) {values : Row} (h : values.isEmpty = false) :
    Act.read (updateOf table id values).tokens =
      some (.update table values.entries [⟨none, idColumn, .of id⟩]) := by
  have hne := entries_ne_nil h
  let assignments := [Token.mark .comma].intercalate
    (values.entries.map fun e => [Token.identifier e.1, .mark .equals, .literal e.2])
  have htokens : (updateOf table id values).tokens.filter (fun t => !t.isLayout) =
      .keyword .UPDATE :: .identifier table :: .keyword .SET ::
        (assignments ++ .keyword .WHERE :: idTokens id) := by
    have hassignments : (joinTokens listComma ((updateOf table id values).assignments.map
        Update.assignmentTokens)).filter (fun t => !t.isLayout) = assignments := by
      rw [filter_joinTokens, updateOf, List.map_map, List.map_map]
      rfl
    rw [Update.tokens]
    simp only [List.filter_append, hassignments, List.append_assoc]
    rfl
  have hassignments : ∀ u ∈ assignments, u ≠ Token.keyword .WHERE := by
    rintro u hu rfl
    rcases mem_intercalate hu with h | ⟨e, -, h⟩ <;> simp at h
  have hread : Act.readItems Act.readAssignment assignments =
      some (values.entries.map fun e => e) :=
    readItems_intercalate hne (fun e _ => rfl) (fun e _ => by simp)
  rw [Act.read, htokens, Act.readPlain, dropWhile_until hassignments,
    takeWhile_until hassignments, hread, readWhere_idTokens, List.map_id']
  rfl

theorem read_deleteOf (table : String) (id : Scalar) :
    Act.read (deleteOf table id).tokens = some (.delete table [⟨none, idColumn, .of id⟩]) := by
  have htokens : (deleteOf table id).tokens.filter (fun t => !t.isLayout) =
      .keyword .DELETE :: .keyword .FROM :: .identifier table :: .keyword .WHERE ::
        idTokens id := by
    rw [Delete.tokens, List.filter_append]
    rfl
  rw [Act.read, htokens, Act.readPlain, readWhere_idTokens]
  rfl

theorem read_readBackOf (table : String) (id : Scalar) :
    Act.read (readBackOf table id).tokens =
      some (.select table [⟨none, idColumn, .of id⟩] (some (.int 1))) := by
  let condition := Token.keyword .WHERE :: idTokens id
  have htokens : (readBackOf table id).tokens.filter (fun t => !t.isLayout) =
      .keyword .SELECT :: .mark .star :: .keyword .FROM :: .identifier table ::
        (condition ++ .keyword .LIMIT :: [.literal (.int 1)]) := by
    cases id <;> rfl
  have hcondition : ∀ u ∈ condition, u ≠ Token.keyword .LIMIT := by
    cases id <;> simp [condition, idTokens, idCondition, Expr.equalTo, Expr.tokens,
      Expr.tablePart, Token.isLayout]
  rw [Act.read, htokens, Act.readPlain, dropWhile_until hcondition,
    takeWhile_until hcondition, readWhere_idTokens]
  rfl

/-! ## Their texts -/

section Texts
variable (d : Dialect) (table : String) (id : Scalar) {values : Row}

theorem says_insertOf (h : values.isEmpty = false) :
    Says d ((insertOf table values).render d) (.insert table values.keys values.values) := by
  refine ⟨_, (Insert.spaced_tokens fun e he => ?_).readsBack d, read_insertOf table h⟩
  obtain ⟨value, -, rfl⟩ := List.mem_map.1 he
  rfl

theorem says_updateOf (h : values.isEmpty = false) :
    Says d ((updateOf table id values).render d)
      (.update table values.entries [⟨none, idColumn, .of id⟩]) := by
  refine ⟨_, (Update.spaced_tokens (fun a ha => ?_) (isPlain_idCondition id)).readsBack d,
    read_updateOf table id h⟩
  obtain ⟨entry, -, rfl⟩ := List.mem_map.1 ha
  rfl

theorem says_deleteOf :
    Says d ((deleteOf table id).render d) (.delete table [⟨none, idColumn, .of id⟩]) :=
  ⟨_, (Delete.spaced_tokens (isPlain_idCondition id)).readsBack d, read_deleteOf table id⟩

theorem says_readBackOf :
    Says d ((readBackOf table id).render d)
      (.select table [⟨none, idColumn, .of id⟩] (some (.int 1))) := by
  refine ⟨_, (Query.spaced_tokens ⟨?_, ?_, isPlain_idCondition id, ?_⟩).readsBack d,
    read_readBackOf table id⟩
  · intro item hitem
    rw [List.mem_singleton.1 hitem]
    rfl
  · intro j hj
    cases hj
  · intro e he
    cases he

end Texts

end Mutation
end SelectionSql
