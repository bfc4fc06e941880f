import SelectionSql.ResolveError
import SelectionSql.Sql.Expr
import SelectionSql.Text.Basic

/-!
# Orderings

* `OrderBy`: the text behind `ORDER BY`.
* `isColumnList`: a list of columns, each perhaps qualified and followed by a direction.
* `OrderBy.parse`: the ordering of a text; a blank text is none, and unless any text is allowed
  it must be a column list.
-/
set_option autoImplicit false

namespace SelectionSql

/-- The small letter that a letter is read as, case aside: the long s is an s, the Kelvin sign
a k. -/
def foldedLetter (c : Char) : Char :=
  if c = '\u017F' then 's' else if c = '\u212A' then 'k' else c.toLower

def startsColumn (c : Char) : Bool :=
  let f := foldedLetter c
  ('a' ≤ f && f ≤ 'z') || f == '_'

def continuesColumn (c : Char) : Bool := startsColumn c || c.isDigit

/-- What follows the name at the start of a text, if there is one. -/
def afterName? : List Char → Option (List Char)
  | [] => none
  | c :: rest => if startsColumn c then some (rest.dropWhile continuesColumn) else none

/-- What follows the column, perhaps qualified, at the start of a text. -/
def afterColumn? (cs : List Char) : Option (List Char) :=
  match afterName? cs with
  | some ('.' :: rest) => afterName? rest
  | rest => rest

/-- The words `asc` and `desc`, in any case. -/
def isDirection (cs : List Char) : Bool :=
  let word := cs.map foldedLetter
  word == ['a', 's', 'c'] || word == ['d', 'e', 's', 'c']

/-- One item of a column list: a column, and behind blanks perhaps a direction. -/
def isColumnItem (cs : List Char) : Bool :=
  match afterColumn? cs with
  | none => false
  | some [] => true
  | some (c :: rest) => isBlank c && isDirection (rest.dropWhile isBlank)

/-- Items with commas between them, blanks allowed around each. -/
def isColumnList (cs : List Char) : Bool :=
  (pieces ',' cs).all fun piece => isColumnItem (trimBlanks piece)

/-- An ordering, written behind `ORDER BY` as it stands. -/
structure OrderBy where
  text : String
deriving DecidableEq, Repr

namespace OrderBy

/-- The ordering that a text asks for. -/
def parse (clause : String) (allowRaw : Bool) : Except ResolveError (Option OrderBy) :=
  let trimmed := trimText clause
  if trimmed = "" then .ok none
  else if !allowRaw && !isColumnList trimmed.toList then
    .error (.invalidArgument "orderBy" (.notColumnList trimmed))
  else .ok (some ⟨trimmed⟩)

def expr (o : OrderBy) : Sql.Expr := .raw o.text

end OrderBy
end SelectionSql
