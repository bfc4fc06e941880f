import SelectionSql.Text.Characters

/-!
# Texts with references

A text in which variables are named: behind a dollar sign, a name in braces or a bare name.

* `Environment`: the values of variables.
* `Template.ofChars`: the pieces of a text, each a character or a reference.
* `Template.references`: the names that are referred to, in order.
* `Template.fill`: the text in which every reference is replaced by its variable's value. Values are
  not read again.

A bare name starts with a letter or `_` and goes on as far as letters, digits and `_` do. A name in
braces ends at the next closing brace, or else with the text. Every other dollar sign stands for
itself.
-/
set_option autoImplicit false

namespace SelectionSql

/-- The values of variables, by name. -/
abbrev Environment : Type := String → Option String

namespace Template

inductive Piece where
  | char (c : Char)
  | reference (name : String)
deriving DecidableEq, Repr

def startsName (c : Char) : Bool := isAlphabetic c || c == '_'

def continuesName (c : Char) : Bool := isAlphanumeric c || c == '_'

theorem length_dropWhile_le {α : Type} (p : α → Bool) (l : List α) :
    (l.dropWhile p).length ≤ l.length :=
  (List.dropWhile_sublist p).length_le

def ofChars : List Char → List Piece
  | [] => []
  | '$' :: '\x7b' :: rest =>
    .reference (String.ofList (rest.takeWhile (· ≠ '\x7d'))) ::
      ofChars ((rest.dropWhile (· ≠ '\x7d')).drop 1)
  | '$' :: c :: rest =>
    if startsName c then
      .reference (String.ofList (c :: rest.takeWhile continuesName)) ::
        ofChars (rest.dropWhile continuesName)
    else .char '$' :: ofChars (c :: rest)
  | c :: rest => .char c :: ofChars rest
termination_by cs => cs.length
decreasing_by
  · have := length_dropWhile_le (· ≠ '\x7d') rest
    simp only [List.length_cons, List.length_drop]
    omega
  · have := length_dropWhile_le continuesName rest
    simp only [List.length_cons]
    omega
  · simp
  · simp

def ofText (text : String) : List Piece := ofChars text.toList

def references (pieces : List Piece) : List String :=
  pieces.filterMap fun p => match p with
    | .char _ => none
    | .reference name => some name

/-- The characters that a piece stands for, or the name of a variable that has no value. -/
def Piece.value (env : Environment) : Piece → Except String (List Char)
  | .char c => .ok [c]
  | .reference name => match env name with
    | some v => .ok v.toList
    | none => .error name

/-- The characters that pieces stand for, or the first name of a variable that has no value. -/
def fillPieces (env : Environment) : List Piece → Except String (List Char)
  | [] => .ok []
  | p :: rest => do
    let cs ← p.value env
    let others ← fillPieces env rest
    return cs ++ others

/-- The text with the values of its variables. -/
def fill (env : Environment) (text : String) : Except String String :=
  (fillPieces env (ofText text)).map String.ofList

end Template
end SelectionSql
