import SelectionSql.Scalar
import SelectionSql.Sql.Dialect

/-!
# SQL tokens

A statement is a list of tokens, the same for every dialect; only writing a token down depends on
the dialect.

* `Sql.Keyword`, `Sql.Mark`: the fixed words and punctuation.
* `Sql.Token`: a fixed word, a mark, layout, a name, a literal, or text that is passed through.
* `Sql.Token.chars`, `Sql.render`: the text of a token and of a list of tokens.
-/
set_option autoImplicit false

namespace SelectionSql
namespace Sql

inductive Keyword where
  | SELECT
  | FROM
  | WHERE
  | AND
  | AS
  | ON
  | JOIN
  | INNER
  | LEFT
  | ORDER_BY
  | LIMIT
  | IS_NULL
  | NULL
  | INSERT
  | INTO
  | VALUES
  | UPDATE
  | SET
  | DELETE
deriving DecidableEq, Repr

def Keyword.text : Keyword → String
  | .SELECT => "SELECT"
  | .FROM => "FROM"
  | .WHERE => "WHERE"
  | .AND => "AND"
  | .AS => "AS"
  | .ON => "ON"
  | .JOIN => "JOIN"
  | .INNER => "INNER"
  | .LEFT => "LEFT"
  | .ORDER_BY => "ORDER BY"
  | .LIMIT => "LIMIT"
  | .IS_NULL => "IS NULL"
  | .NULL => "NULL"
  | .INSERT => "INSERT"
  | .INTO => "INTO"
  | .VALUES => "VALUES"
  | .UPDATE => "UPDATE"
  | .SET => "SET"
  | .DELETE => "DELETE"

/-- Every fixed word. -/
def Keyword.all : List Keyword :=
  [.SELECT, .FROM, .WHERE, .AND, .AS, .ON, .JOIN, .INNER, .LEFT, .ORDER_BY, .LIMIT, .IS_NULL,
    .NULL, .INSERT, .INTO, .VALUES, .UPDATE, .SET, .DELETE]

/-- Punctuation and the one operator. -/
inductive Mark where
  | comma
  | dot
  | star
  | leftParen
  | rightParen
  | equals
deriving DecidableEq, Repr

def Mark.char : Mark → Char
  | .comma => ','
  | .dot => '.'
  | .star => '*'
  | .leftParen => '('
  | .rightParen => ')'
  | .equals => '='

def Mark.all : List Mark := [.comma, .dot, .star, .leftParen, .rightParen, .equals]

/-- A piece of a statement. -/
inductive Token where
  | keyword (word : Keyword)
  | mark (mark : Mark)
  | space
  | newline
  | indent (levels : Nat)
  | identifier (name : String)
  | literal (value : Scalar)
  /-- Text that is written as it stands. The caller answers for it. -/
  | raw (sql : String)
deriving DecidableEq

/-- Doubles in SQL stand around the point in the same range as in JSON; a positive exponent has no
sign. -/
def floatLayout : Binary64.Layout :=
  { positional := some (-5, 16), wholeFraction := true, plusSign := false, tie := .toEven }

/-- A literal. SQL has no number that is not finite, so such a double is written as null. -/
def literalChars (d : Dialect) : Scalar → List Char
  | .null => Dialect.nullChars
  | .bool b => d.bool b
  | .int n => (intText n.toInt).toList
  | .float f => if f.isFinite then (floatLayout.text f).toList else Dialect.nullChars
  | .string s => d.string s

def Token.chars (d : Dialect) : Token → List Char
  | .keyword word => word.text.toList
  | .mark m => [m.char]
  | .space => [' ']
  | .newline => ['\n']
  | .indent levels => List.replicate (2 * levels) ' '
  | .identifier name => d.identifier name
  | .literal value => literalChars d value
  | .raw sql => sql.toList

def renderChars (d : Dialect) (tokens : List Token) : List Char := tokens.flatMap (Token.chars d)

def render (d : Dialect) (tokens : List Token) : String := String.ofList (renderChars d tokens)

theorem renderChars_append (d : Dialect) (a b : List Token) :
    renderChars d (a ++ b) = renderChars d a ++ renderChars d b := List.flatMap_append

/-- Lists of tokens one after the other, with `between` between each two. -/
def joinTokens (between : List Token) : List (List Token) → List Token
  | [] => []
  | [ts] => ts
  | ts :: rest => ts ++ between ++ joinTokens between rest

end Sql
end SelectionSql
