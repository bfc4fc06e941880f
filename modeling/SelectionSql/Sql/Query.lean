import SelectionSql.Sql.Expr

/-!
# SELECT statements

* `Sql.SelectItem`, `Sql.TableRef`, `Sql.Join`: the parts, each with its tokens.
* `Sql.Query`: a SELECT statement; `addColumn`, `leftJoin`, `addFilter` and `addOrder` extend it.
* `Sql.Query.tokens`: one clause a line, one column a line.
-/
set_option autoImplicit false

namespace SelectionSql
namespace Sql

/-- A name given by `AS`, if there is one. -/
def aliasPart : Option String → List Token
  | none => []
  | some name => [.space, .keyword .AS, .space, .identifier name]

structure SelectItem where
  expr : Expr
  as : Option String
deriving DecidableEq

def SelectItem.tokens (item : SelectItem) : List Token := item.expr.tokens ++ aliasPart item.as

/-- A table, perhaps under another name. -/
structure TableRef where
  table : String
  as : Option String
deriving DecidableEq

namespace TableRef

/-- The name by which later clauses call the table. -/
def qualifier (t : TableRef) : String := t.as.getD t.table

def tokens (t : TableRef) : List Token := .identifier t.table :: aliasPart t.as

end TableRef

inductive JoinKind where
  | inner
  | left
deriving DecidableEq, Repr

def JoinKind.word : JoinKind → Keyword
  | .inner => .INNER
  | .left => .LEFT

/-- A joined table and the condition that relates it. -/
structure Join where
  kind : JoinKind
  table : TableRef
  on : Expr
deriving DecidableEq

def Join.tokens (j : Join) : List Token :=
  [.keyword j.kind.word, .space, .keyword .JOIN, .space] ++ j.table.tokens ++
    [.space, .keyword .ON, .space] ++ j.on.tokens

/-- A SELECT statement. -/
structure Query where
  select : List SelectItem
  source : Option TableRef
  joins : List Join
  filter : Option Expr
  orderBy : List Expr
  limit : Option UInt64
deriving DecidableEq

namespace Query

/-- The statement without any part. -/
def empty : Query :=
  { select := [], source := none, joins := [], filter := none, orderBy := [], limit := none }

instance : Inhabited Query := ⟨empty⟩

def addItem (q : Query) (item : SelectItem) : Query := { q with select := q.select ++ [item] }

/-- Appends a column to the select list. -/
def addColumn (q : Query) (e : Expr) : Query := q.addItem ⟨e, none⟩

/-- Selects every column. -/
def selectStar (q : Query) : Query := { q with select := [⟨.star none, none⟩] }

def readFrom (q : Query) (t : TableRef) : Query := { q with source := some t }

def addJoin (q : Query) (kind : JoinKind) (table : TableRef) (on : Expr) : Query :=
  { q with joins := q.joins ++ [⟨kind, table, on⟩] }

def leftJoin (q : Query) (table : TableRef) (on : Expr) : Query := q.addJoin .left table on

def addFilter (q : Query) (condition : Expr) : Query :=
  { q with filter := some (conjoin q.filter condition) }

def addOrder (q : Query) (e : Expr) : Query := { q with orderBy := q.orderBy ++ [e] }

def withLimit (q : Query) (rows : UInt64) : Query := { q with limit := some rows }

/-! ## Tokens -/

/-- The select list, one item a line. -/
def selectTokens (q : Query) : List Token :=
  match q.select with
  | [] => []
  | items => [.newline, .indent 1] ++
      joinTokens [.mark .comma, .newline, .indent 1] (items.map SelectItem.tokens)

/-- A row count as a literal. More rows than a signed integer can count are as good as no
limit. -/
def limitLiteral (rows : UInt64) : Scalar :=
  .int (Int64.ofNat (min rows.toNat (Nat.pow 2 63 - 1)))

def tokens (q : Query) : List Token :=
  let source := match q.source with
    | none => []
    | some t => [.newline, .keyword .FROM, .space] ++ t.tokens
  let joins := q.joins.flatMap fun j => .newline :: j.tokens
  let filter := match q.filter with
    | none => []
    | some condition => [.newline, .keyword .WHERE, .space] ++ condition.tokens
  let order := match q.orderBy with
    | [] => []
    | es => [.newline, .keyword .ORDER_BY, .space] ++
        joinTokens [.mark .comma, .space] (es.map Expr.tokens)
  let limit := match q.limit with
    | none => []
    | some rows => [.newline, .keyword .LIMIT, .space, .literal (limitLiteral rows)]
  .keyword .SELECT :: (q.selectTokens ++ source ++ joins ++ filter ++ order ++ limit)

/-- The text of a statement. -/
def render (d : Dialect) (q : Query) : String := Sql.render d q.tokens

end Query
end Sql
end SelectionSql
