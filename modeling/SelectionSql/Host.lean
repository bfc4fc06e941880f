import SelectionSql.Text.Template

/-!
# The host seam

What a program asks of the machine it runs on: variables, files, the clock. A `Host m` answers
within the monad `m`, so that the same program runs on a machine and on a description of one.

* `FileError`: why a file cannot be read.
* `Host`: the questions.
* `Host.environment`: the values of the variables with given names.
-/
set_option autoImplicit false

namespace SelectionSql

/-- Why a file cannot be read. -/
inductive FileError where
  | notFound
  | notADirectory
  | isADirectory
  | nameTooLong
  | notText
  | other (text : String)
deriving DecidableEq, Repr

namespace FileError

def message : FileError → String
  | .notFound => "No such file or directory (os error 2)"
  | .notADirectory => "Not a directory (os error 20)"
  | .isADirectory => "Is a directory (os error 21)"
  | .nameTooLong => "File name too long (os error 36)"
  | .notText => "stream did not contain valid UTF-8"
  | .other text => text

/-- There is nothing under the path. -/
def isMissing : FileError → Bool
  | .notFound => true
  | .notADirectory => true
  | .nameTooLong => true
  | _ => false

end FileError

/-- The machine that a program runs on. -/
structure Host (m : Type → Type) where
  /-- The value of an environment variable. -/
  variableValue : String → m (Option String)
  /-- The text of the file at a path. -/
  contents : String → m (Except FileError String)
  /-- Seconds since the beginning of 1970. -/
  now : m UInt64

namespace Host
variable {m : Type → Type} [Monad m]

/-- The values of the variables that have one of the names. -/
def environment (host : Host m) (names : List String) : m Environment := do
  let values ← names.mapM fun name => do return (name, ← host.variableValue name)
  return fun name => (values.lookup name).join

end Host
end SelectionSql
