import SelectionSql.CommandLine.Scan
import SelectionSql.Sql.Dialect

/-!
# Commands

* `Command`: what can be asked for on the command line.
* `Invocation`: a command, and the file with the settings.
* `Invocation.ofArguments`: the command that arguments ask for.
-/
set_option autoImplicit false

namespace SelectionSql
namespace CommandLine

structure QueryArguments where
  /-- The file with the schema. -/
  schema : String
  typeName : String
  table : String
  /-- The text of the query, or an at sign and the file that holds it. -/
  query : String
  operation : Option String
  /-- The values of variables, as a JSON object. -/
  bindings : Option String
deriving DecidableEq, Repr

inductive Command where
  /-- Runs a query. -/
  | resolve (query : QueryArguments) (database token : Option String)
  /-- Shows the first statement of a query. -/
  | sql (query : QueryArguments) (dialect : Option Dialect)
  /-- Issues a token. -/
  | token (name : String) (rules : List String)
deriving DecidableEq, Repr

/-- What a help text is about. -/
inductive Topic where
  | program
  | resolve
  | sql
  | token
  | help
deriving DecidableEq, Repr

/-- A command, and the file with the settings. -/
structure Invocation where
  config : Option String
  command : Command
deriving DecidableEq, Repr

/-- What comes of arguments that ask for no command. -/
inductive Refusal where
  | misuse
  | help (topic : Topic)
  | version
deriving DecidableEq, Repr

def Refusal.ofStop (topic : Topic) : Stop → Refusal
  | .misuse => .misuse
  | .help => .help topic
  | .version => .version

/-! ## Options -/

def anyText (_ : String) : Bool := true

/-- A path has at least one character. -/
def isPath (text : String) : Bool := text ≠ ""

def configSwitch : Switch := ⟨"config", some 'c', isPath, false⟩

def querySwitches : List Switch :=
  [configSwitch, ⟨"schema", some 's', isPath, false⟩, ⟨"type", none, anyText, false⟩,
    ⟨"table", none, anyText, false⟩, ⟨"query", some 'q', anyText, false⟩,
    ⟨"operation", none, anyText, false⟩, ⟨"variables", none, anyText, false⟩]

def resolveSwitches : List Switch :=
  querySwitches ++ [⟨"database", some 'd', isPath, false⟩, ⟨"token", none, anyText, false⟩]

def sqlSwitches : List Switch :=
  querySwitches ++ [⟨"dialect", none, fun text => (Dialect.ofExactName? text).isSome, false⟩]

def tokenSwitches : List Switch :=
  [configSwitch, ⟨"name", some 'n', anyText, false⟩, ⟨"rule", some 'r', anyText, true⟩]

def helpFlag : Char × String × Stop := ('h', "help", .help)

def versionFlag : Char × String × Stop := ('V', "version", .version)

/-! ## Commands of options -/

/-- The value of an option; nothing if it is not given. -/
def valueOf? (given : List Given) (name : String) : Option String := given.lookup name

def valuesOf (given : List Given) (name : String) : List String :=
  given.filterMap fun g => if g.1 == name then some g.2 else none

def queryArguments? (given : List Given) : Option QueryArguments := do
  return {
    schema := ← valueOf? given "schema"
    typeName := ← valueOf? given "type"
    table := ← valueOf? given "table"
    query := ← valueOf? given "query"
    operation := valueOf? given "operation"
    bindings := valueOf? given "variables" }

def resolveCommand? (given : List Given) : Option Command := do
  return .resolve (← queryArguments? given) (valueOf? given "database") (valueOf? given "token")

def sqlCommand? (given : List Given) : Option Command := do
  return .sql (← queryArguments? given) ((valueOf? given "dialect").bind Dialect.ofExactName?)

def tokenCommand? (given : List Given) : Option Command := do
  return .token (← valueOf? given "name") (valuesOf given "rule")

/-- The command that the options behind its word make. The file with the settings may be named
before and behind the word; the one behind it counts. -/
def invocation (topic : Topic) (switches : List Switch) (command? : List Given → Option Command)
    (outer : List Given) (args : List String) : Except Refusal Invocation := do
  let (given, rest) ← (scan switches [helpFlag] [] args).mapError (Refusal.ofStop topic)
  match rest, command? given with
  | [], some command =>
    return ⟨(valueOf? given "config").or (valueOf? outer "config"), command⟩
  | _, _ => .error .misuse

/-- The help text that is asked for by words. -/
def helpFor : List String → Refusal
  | [] => .help .program
  | ["resolve"] => .help .resolve
  | ["sql"] => .help .sql
  | ["token"] => .help .token
  | ["help"] => .help .help
  | _ => .misuse

/-- The command that arguments ask for. -/
def Invocation.ofArguments (args : List String) : Except Refusal Invocation := do
  let (outer, rest) ←
    (scan [configSwitch] [helpFlag, versionFlag] [] args).mapError (Refusal.ofStop .program)
  match rest with
  | "resolve" :: args => invocation .resolve resolveSwitches resolveCommand? outer args
  | "sql" :: args => invocation .sql sqlSwitches sqlCommand? outer args
  | "token" :: args => invocation .token tokenSwitches tokenCommand? outer args
  | "help" :: words => .error (helpFor words)
  | _ => .error .misuse

end CommandLine
end SelectionSql
