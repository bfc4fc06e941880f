import SelectionSql.Toml.Lexical

/-!
# Reading TOML

* `Toml.value depth`: a value whose lists and tables nest at most `depth` deep.
* `Toml.statement`: a heading or an entry.
* `Toml.parse?`: the table that a text describes.
-/
set_option autoImplicit false

namespace SelectionSql
namespace Toml
open Reader

/-! ## Values -/

def leaf : Reader Value :=
  (do let s ← string; return .string s)
    <|> (do moment; return .moment)
    <|> (do let f ← float; return .float f)
    <|> (do let n ← integer; return .integer n)
    <|> (do let b ← boolean; return .boolean b)

/-- Items between brackets; comments and line ends may stand between them, and a comma behind the
last. -/
def list (item : Reader Value) : Reader (List Value) := do
  char '['
  gaps
  let first ← opt item
  match first with
  | none =>
    char ']'
    return []
  | some v =>
    let others ← many (do
      gaps
      char ','
      gaps
      item)
    gaps
    let _ ← opt (char ',')
    gaps
    char ']'
    return v :: others

/-- A key and its value, with the given gaps around the equals sign. -/
def assignment (around : Reader Unit) (item : Reader Value) : Reader (Key × Value) := do
  let k ← key
  around
  char '='
  around
  let v ← item
  return (k, v)

/-- Entries between braces; comments and line ends may stand around each part of an entry, and a
comma behind the last. -/
def braced (item : Reader Value) : Reader (List (Key × Value)) := do
  char '\x7b'
  gaps
  let first ← opt (assignment gaps item)
  match first with
  | none =>
    char '\x7d'
    return []
  | some e =>
    let others ← many (do
      gaps
      char ','
      gaps
      assignment gaps item)
    gaps
    let _ ← opt (char ',')
    gaps
    char '\x7d'
    return e :: others

/-- A value in which lists and tables nest at most `depth` deep. -/
def value : Nat → Reader Value
  | 0 => leaf
  | depth + 1 => leaf
      <|> (do
        let items ← list (value depth)
        return .list false items)
      <|> (do
        let entries ← braced (value depth)
        match ofEntries? entries with
        | some t => return t.toValue
        | none => refuse)

/-! ## Statements -/

/-- A key between brackets. -/
def heading : Reader Statement :=
  (do
    literal "[["
    blanks
    let k ← key
    blanks
    literal "]]"
    return .itemHeading k)
  <|> (do
    char '['
    blanks
    let k ← key
    blanks
    char ']'
    return .heading k)

def statement : Reader Statement :=
  heading <|> (do
    let (k, v) ← assignment blanks (value maxDepth)
    return .entry k v)

def line : Reader (Option Statement) := do
  blanks
  let s ← opt statement
  blanks
  let _ ← opt comment
  return s

/-- The statements of a text; it may start with a byte-order mark. -/
def statements : Reader (List Statement) := do
  let _ ← opt (char '\uFEFF')
  let first ← line
  let others ← many (do
    lineEnd
    line)
  return (first :: others).filterMap id

def parse? (text : String) : Option Table := do
  ofStatements? (← Reader.run statements text.toList)

end Toml
end SelectionSql
