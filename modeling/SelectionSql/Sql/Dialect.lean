import SelectionSql.Text.Lowercase

/-!
# SQL dialects

What differs between the servers: how names and strings are quoted and how truth values are
written.

* `Dialect.identifier`: a name between the dialect's delimiters, a delimiter inside it doubled.
* `Dialect.string`: a string between single quotes, a quote inside it doubled; MySQL doubles
  backslashes too, as it reads them as escapes.
* `Dialect.bool`: `true` and `false`, or `1` and `0`.
* `Dialect.ofName?`: the dialect of a name, in any case; `Dialect.ofExactName?` knows only the name
  itself.
-/
set_option autoImplicit false

namespace SelectionSql

inductive Dialect where
  | mysql
  | postgres
  | sqlite
deriving DecidableEq, Repr

namespace Dialect

instance : Inhabited Dialect := ⟨.mysql⟩

/-- The name shown to users. -/
def name : Dialect → String
  | .mysql => "mysql"
  | .postgres => "postgres"
  | .sqlite => "sqlite"

/-- The name in capitals and small letters, as in the heading of a printed statement. -/
def title : Dialect → String
  | .mysql => "MySql"
  | .postgres => "Postgres"
  | .sqlite => "Sqlite"

/-- The dialect of a name or of one of its common short forms. -/
def ofName? (text : String) : Except String Dialect :=
  let word := lowercase text
  if word = "mysql" ∨ word = "mariadb" then .ok .mysql
  else if word = "postgres" ∨ word = "postgresql" ∨ word = "pg" then .ok .postgres
  else if word = "sqlite" ∨ word = "sqlite3" then .ok .sqlite
  else .error ("unsupported dialect: " ++ word)

def all : List Dialect := [.mysql, .postgres, .sqlite]

def ofExactName? (text : String) : Option Dialect := all.find? fun d => d.name == text

def nameDelimiter : Dialect → Char
  | .mysql => '\x60'
  | .postgres => '\x22'
  | .sqlite => '\x22'

/-- Whether a backslash escapes the character after it in strings. -/
def escapesBackslash : Dialect → Bool
  | .mysql => true
  | .postgres => false
  | .sqlite => false

/-- Writes each character of the class twice and every other once. -/
def doubling (special : Char → Bool) (cs : List Char) : List Char :=
  cs.flatMap fun c => if special c then [c, c] else [c]

/-- A name between delimiters. -/
def identifier (d : Dialect) (name : String) : List Char :=
  let q := d.nameDelimiter
  q :: (doubling (fun c => c == q) name.toList ++ [q])

/-- A string literal. -/
def string (d : Dialect) (text : String) : List Char :=
  let special (c : Char) : Bool := c == '\x27' || (d.escapesBackslash && c == '\\')
  '\x27' :: (doubling special text.toList ++ ['\x27'])

/-- A truth value. -/
def bool (d : Dialect) (b : Bool) : List Char :=
  match d, b with
  | .postgres, true => ['t', 'r', 'u', 'e']
  | .postgres, false => ['f', 'a', 'l', 's', 'e']
  | _, true => ['1']
  | _, false => ['0']

def nullChars : List Char := ['N', 'U', 'L', 'L']

end Dialect
end SelectionSql
