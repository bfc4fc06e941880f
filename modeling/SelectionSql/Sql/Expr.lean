import SelectionSql.Sql.Token

/-!
# SQL expressions

* `Sql.Expr`: columns, literals, equality, conjunction, `IS NULL`, the star, and raw text.
* `Sql.Expr.tokens`: the tokens of an expression, without parentheses.
* `Sql.Expr.equalTo`: a column compared with a value, where null is compared by `IS NULL`.
* `Sql.conjoin`: a condition added to those there are.
-/
set_option autoImplicit false

namespace SelectionSql
namespace Sql

inductive Expr where
  | column (table : Option String) (name : String)
  | literal (value : Scalar)
  | equal (left right : Expr)
  | and (left right : Expr)
  | isNull (operand : Expr)
  | star (table : Option String)
  | raw (sql : String)
deriving DecidableEq, Inhabited

namespace Expr

/-- A table's name and a dot, if a table is given. -/
def tablePart : Option String → List Token
  | none => []
  | some table => [.identifier table, .mark .dot]

def tokens : Expr → List Token
  | .column table name => tablePart table ++ [.identifier name]
  | .literal value => [.literal value]
  | .equal left right => left.tokens ++ [.space, .mark .equals, .space] ++ right.tokens
  | .and left right => left.tokens ++ [.space, .keyword .AND, .space] ++ right.tokens
  | .isNull operand => operand.tokens ++ [.space, .keyword .IS_NULL]
  | .star table => tablePart table ++ [.mark .star]
  | .raw sql => [.raw sql]

def of (table name : String) : Expr := .column (some table) name

/-- The condition that a column has a value. Nothing equals null, so null is asked for by
`IS NULL`. -/
def equalTo (column : Expr) : Scalar → Expr
  | .null => .isNull column
  | value => .equal column (.literal value)

def render (d : Dialect) (e : Expr) : String := Sql.render d e.tokens

end Expr

/-- Conjoins a condition to those there are. -/
def conjoin : Option Expr → Expr → Expr
  | none, condition => condition
  | some existing, condition => .and existing condition

end Sql
end SelectionSql
