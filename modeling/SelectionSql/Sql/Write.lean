import SelectionSql.Sql.Expr

/-!
# Writing statements

* `Sql.Insert`: one row of values.
* `Sql.Update`: assignments under a condition.
* `Sql.Delete`: the rows under a condition.

Each has its tokens on one line.
-/
set_option autoImplicit false

namespace SelectionSql
namespace Sql

/-- The separator of lists on one line. -/
def listComma : List Token := [.mark .comma, .space]

/-- A WHERE clause behind other tokens of the line. -/
def whereTokens : Option Expr → List Token
  | none => []
  | some condition => [.space, .keyword .WHERE, .space] ++ condition.tokens

structure Insert where
  table : String
  columns : List String
  values : List Expr

namespace Insert

def tokens (s : Insert) : List Token :=
  [.keyword .INSERT, .space, .keyword .INTO, .space, .identifier s.table, .space,
      .mark .leftParen] ++
    joinTokens listComma (s.columns.map fun c => [.identifier c]) ++
    [.mark .rightParen, .space, .keyword .VALUES, .space, .mark .leftParen] ++
    joinTokens listComma (s.values.map Expr.tokens) ++ [.mark .rightParen]

def render (d : Dialect) (s : Insert) : String := Sql.render d s.tokens

end Insert

/-- An UPDATE of the rows under a condition. -/
structure Update where
  table : String
  assignments : List (String × Expr)
  filter : Option Expr

namespace Update

def addFilter (s : Update) (condition : Expr) : Update :=
  { s with filter := some (conjoin s.filter condition) }

def assignmentTokens (a : String × Expr) : List Token :=
  [.identifier a.1, .space, .mark .equals, .space] ++ a.2.tokens

def tokens (s : Update) : List Token :=
  [.keyword .UPDATE, .space, .identifier s.table, .space, .keyword .SET, .space] ++
    joinTokens listComma (s.assignments.map assignmentTokens) ++ whereTokens s.filter

def render (d : Dialect) (s : Update) : String := Sql.render d s.tokens

end Update

/-- A DELETE of the rows under a condition. -/
structure Delete where
  table : String
  filter : Option Expr

namespace Delete

def addFilter (s : Delete) (condition : Expr) : Delete :=
  { s with filter := some (conjoin s.filter condition) }

def tokens (s : Delete) : List Token :=
  [.keyword .DELETE, .space, .keyword .FROM, .space, .identifier s.table] ++ whereTokens s.filter

def render (d : Dialect) (s : Delete) : String := Sql.render d s.tokens

end Delete
end Sql
end SelectionSql
