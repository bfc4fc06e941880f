import SelectionSql.CommandLine.Command
import SelectionSql.CommandLine.Help
import SelectionSql.Document.Fields
import SelectionSql.Json.Printer
import SelectionSql.Json.Reader
import SelectionSql.Resolution.Basic
import SelectionSql.Schema.OfDocument
import SelectionSql.Settings.Load

/-!
# Carrying out commands

* `Machine`: a host that can open databases.
* `CommandError`: why a command failed, with the wording in `message`.
* `prepare`: schema, entity and first root field of a query.
* `resolveText`, `sqlText`, `tokenText`: what the three commands print.
* `Outcome`, `run`: what comes of a command line.

The settings are read first: without them no command is carried out.
-/
set_option autoImplicit false

namespace SelectionSql
namespace CommandLine
variable {m : Type → Type} [Monad m] {σ : Type}

/-- A host that can open databases. -/
structure Machine (m : Type → Type) (σ : Type) extends Host m where
  /-- The executor of the database at a path, with its first state. -/
  openDatabase : String → m (Except StorageError (Executor σ × σ))

inductive CommandError where
  | unreadableFile (path : String) (cause : FileError)
  | schema (cause : SchemaError)
  | notAnObject
  | resolve (cause : ResolveError)
  | noRootField
  | settings (cause : SettingsError)
  | noDatabase
  | storage (cause : StorageError)
  | auth (cause : AuthError)
deriving DecidableEq

def CommandError.message : CommandError → String
  | .unreadableFile path cause => "Error reading file '" ++ path ++ "': " ++ cause.message
  | .schema cause => cause.message
  | .notAnObject => "variables are not a JSON object"
  | .resolve cause => cause.message
  | .noRootField => "query selects no root field"
  | .settings cause => cause.message
  | .noDatabase => "no database given (use --database or database.url)"
  | .storage cause => cause.message
  | .auth cause => cause.message

/-- A command's result, or why it failed. -/
abbrev Attempt (m : Type → Type) (α : Type) : Type := ExceptT CommandError m α

/-- Takes a result over, with the cause of a failure in its place among the errors. -/
def attempt {α ε : Type} (wrap : ε → CommandError) (r : Except ε α) : Attempt m α :=
  ExceptT.mk (pure (r.mapError wrap))

/-! ## Queries -/

def fileText (host : Host m) (path : String) : Attempt m String := do
  let answer ← host.contents path
  attempt (.unreadableFile path) answer

/-- The text of a query, which may stand in a file. -/
def queryText (host : Host m) (query : String) : Attempt m String :=
  match query.toList with
  | '@' :: path => fileText host (String.ofList path)
  | _ => pure query

def variablesOf : Option String → Except CommandError Document.Variables
  | none => .ok .empty
  | some text => match Json.parse? text with
    | some (.object members) => .ok (OrderedMap.ofList members)
    | _ => .error .notAnObject

/-- What a query is resolved with. -/
structure Prepared where
  schema : Schema
  field : Selection.Node
  entity : Resolution.Entity

/-- Reads schema and query; of several root fields the first one counts. -/
def prepare (host : Host m) (q : QueryArguments) : Attempt m Prepared := do
  let schema ← attempt .schema (Schema.parse (← fileText host q.schema))
  let source ← queryText host q.query
  let given ← attempt id (variablesOf q.bindings)
  match ← attempt .resolve (Document.requestedFields source q.operation given) with
  | [] => throw .noRootField
  | field :: _ => return ⟨schema, field, ⟨q.typeName, q.table, .none⟩⟩

/-! ## Commands -/

/-- Where the database of a command is. -/
def databasePath (settings : Settings) (env : Environment)
    (given : Option String) : Except CommandError String :=
  match given with
  | some path => .ok path
  | none => match settings.resolvedUrl env with
    | .error cause => .error (.settings cause)
    | .ok none => .error .noDatabase
    | .ok (some path) => .ok path

/-- Who asks: the one that the token is for, or the guest. -/
def callerOf (settings : Settings) (env : Environment) (token : Option String) :
    Identity :=
  match settings.authority env with
  | .ok a => a.identity token
  | .error _ => settings.guest

def resolveText (machine : Machine m σ) (settings : Settings) (q : QueryArguments)
    (database token : Option String) : Attempt m String := do
  let p ← prepare machine.toHost q
  let env ← machine.toHost.environment settings.references
  let path ← attempt id (databasePath settings env database)
  let answer ← machine.openDatabase path
  let (executor, state) ← attempt .storage answer
  let (outcome, _) := (Resolution.query executor p.schema settings.options p.entity
    (callerOf settings env token) p.field).run.run state
  let value ← attempt .resolve outcome
  return (Json.object [(p.field.name, value.toJson)]).renderPretty ++ "\n"

/-- The first statement of a query. -/
def statementText (settings : Settings) (p : Prepared) (dialect : Dialect) :
    Except ResolveError String := do
  let options := settings.options
  let request ← Resolution.rootRequest p.schema options p.entity settings.guest p.field
  let statement ← Resolution.statementOf p.schema options request
  return "-- Graphweave SQL\n-- Root: " ++ p.field.name ++ " (" ++ request.cardinality.text ++
    ")\n-- Dialect: " ++ dialect.title ++ "\n\n" ++ statement.query.render dialect ++ "\n"

/-- Shows the first statement of a query. -/
def sqlText (host : Host m) (settings : Settings) (q : QueryArguments)
    (dialect : Option Dialect) : Attempt m String := do
  let p ← prepare host q
  attempt .resolve (statementText settings p (dialect.getD settings.dialect))

def tokenText (host : Host m) (settings : Settings) (identity : Identity) : Attempt m String := do
  let env ← host.environment settings.references
  let authority ← attempt .auth (settings.authority env)
  let now ← host.now
  return authority.login identity now ++ "\n"

def perform (machine : Machine m σ) (settings : Settings) : Command → Attempt m String
  | .resolve q database token => resolveText machine settings q database token
  | .sql q dialect => sqlText machine.toHost settings q dialect
  | .token name rules => tokenText machine.toHost settings ⟨name, rules⟩

/-! ## Outcomes -/

/-- Why nothing came of a command line that asks for a command. -/
inductive Failure where
  | settings (cause : SettingsError)
  | command (cause : CommandError)
deriving DecidableEq

def Failure.message : Failure → String
  | .settings cause => "Configuration error: " ++ cause.message
  | .command cause => "Error: " ++ cause.message

/-- What comes of a command line. -/
inductive Outcome where
  | printed (text : String)
  | failed (cause : Failure)
  | misused
deriving DecidableEq

namespace Outcome

def exitCode : Outcome → Nat
  | .printed _ => 0
  | .failed _ => 1
  | .misused => 2

def output : Outcome → String
  | .printed text => text
  | _ => ""

end Outcome

def settingsFor (host : Host m) : Option String → m (Except SettingsError Settings)
  | some path => Settings.ofFile host path
  | none => Settings.load host

/-- What comes of arguments that ask for no command. -/
def Refusal.outcome : Refusal → Outcome
  | .misuse => .misused
  | .help topic => .printed (topic.text ++ "\n")
  | .version => .printed (versionText ++ "\n")

/-- Carries out a command line. -/
def run (machine : Machine m σ) (args : List String) : m Outcome := do
  match Invocation.ofArguments args with
  | .error refusal => return refusal.outcome
  | .ok invocation =>
    match ← settingsFor machine.toHost invocation.config with
    | .error cause => return .failed (.settings cause)
    | .ok settings =>
      match ← (perform machine settings invocation.command).run with
      | .error cause => return .failed (.command cause)
      | .ok text => return .printed text

end CommandLine
end SelectionSql
