import SelectionSql.CommandLine.Run
import Std.Time.DateTime.Timestamp

/-!
# The program

The command line on a real machine. No database engine is linked in: a statement that is sent to a
database fails.
-/
set_option autoImplicit false

namespace SelectionSql
namespace CommandLine

/-- The system's number of an error, which may come with a minus sign. -/
def errorNumber (code : UInt32) : Nat :=
  if code < 0x80000000 then code.toNat else (0 - code).toNat

/-- Why a file could not be read. -/
def fileErrorOf : IO.Error → FileError
  | .noFileOrDirectory _ _ _ => .notFound
  | .inappropriateType _ code details =>
    if errorNumber code = 20 then .notADirectory
    else if errorNumber code = 21 then .isADirectory
    else .other details
  | .invalidArgument _ code details =>
    if errorNumber code = 36 then .nameTooLong else .other details
  | .permissionDenied _ _ _ => .other "Permission denied (os error 13)"
  | e => .other e.toString

/-- The text of a file on this machine. -/
def readContents (path : String) : IO (Except FileError String) := do
  try
    let bytes ← IO.FS.readBinFile path
    match String.fromUTF8? bytes with
    | some text => return .ok text
    | none => return .error .notText
  catch e => return .error (fileErrorOf e)

/-- A database without an engine: it answers no statement. -/
def noEngine : Executor Unit :=
  Executor.ofAnswers .sqlite (fun _ => .error (.unsupported "no database engine is linked in"))
    fun _ => .error (.unsupported "no database engine is linked in")

def thisMachine : Machine IO Unit where
  variableValue := fun name => IO.getEnv name
  contents := readContents
  now := do
    return UInt64.ofNat (← Std.Time.Timestamp.now).toSecondsSinceUnixEpoch.toInt.toNat
  openDatabase := fun _ => return .ok (noEngine, ())

end CommandLine
end SelectionSql

/-- Carries out the command line and reports what came of it. -/
def main (args : List String) : IO UInt32 := do
  let outcome ← SelectionSql.CommandLine.run SelectionSql.CommandLine.thisMachine args
  let out ← IO.getStdout
  out.putStr outcome.output
  out.flush
  match outcome with
  | .printed _ => pure ()
  | .failed cause => IO.eprintln cause.message
  | .misused => IO.eprintln SelectionSql.CommandLine.Topic.program.text
  return UInt32.ofNat outcome.exitCode
