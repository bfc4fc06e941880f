import SelectionSql.Auth.Authority
import SelectionSql.Host
import SelectionSql.Resolution.Request
import SelectionSql.Sql.Dialect

/-!
# Settings

* `Settings`: what can be set: the database, the resolution, the secret of tokens and the guest.
* `SettingsError`: why there are no settings, with the wording in `message`.
* `Settings.resolvedUrl`, `resolvedSecret`: the texts with the values of their variables.
* `Settings.effectiveConcurrency`, `options`: what the resolution is told.
* `Settings.authority`: who issues and reads tokens.
-/
set_option autoImplicit false

namespace SelectionSql

inductive SettingsError where
  | fileNotFound (path : String)
  | unreadableFile (cause : FileError)
  /-- The text is no TOML, or a value has another type than the one it needs. -/
  | unreadableText
  | missingVariable (name : String)
  | emptyPool
deriving DecidableEq, Repr

def SettingsError.message : SettingsError → String
  | .fileNotFound path => "Config file not found: " ++ path
  | .unreadableFile cause => "Failed to read config file: " ++ cause.message
  | .unreadableText => "Failed to parse config file: the text does not describe settings"
  | .missingVariable name => "Missing environment variable: " ++ name
  | .emptyPool => "Invalid configuration: database.pool_size must be at least 1"

structure Settings where
  dialect : Dialect
  /-- Where the database is; variables may be named in it. -/
  url : Option String
  /-- How many connections there are. -/
  poolSize : Nat
  /-- How many statements may be under way at once; zero for one on each connection. -/
  maxConcurrency : Nat
  strictFields : Bool
  allowRawOrderBy : Bool
  /-- What tokens are signed with; variables may be named in it. -/
  secret : Option String
  guest : Identity
deriving DecidableEq, Repr

namespace Settings

def default : Settings where
  dialect := .mysql
  url := none
  poolSize := 4
  maxConcurrency := 0
  strictFields := true
  allowRawOrderBy := true
  secret := none
  guest := .guest

instance : Inhabited Settings := ⟨default⟩

/-- The settings, if there is at least one connection. -/
def validated (s : Settings) : Except SettingsError Settings :=
  if s.poolSize = 0 then .error .emptyPool else .ok s

/-! ## Variables -/

/-- The names of the variables that the texts refer to. -/
def references (s : Settings) : List String :=
  (s.url.toList ++ s.secret.toList).flatMap fun text => Template.references (Template.ofText text)

/-- A text with the values of its variables. -/
def expand (env : Environment) (text : String) : Except SettingsError String :=
  (Template.fill env text).mapError .missingVariable

/-- Where the database is. -/
def resolvedUrl (s : Settings) (env : Environment) :
    Except SettingsError (Option String) :=
  s.url.mapM (expand env)

/-- What tokens are signed with; nothing if a variable is missing or no character is left. -/
def resolvedSecret (s : Settings) (env : Environment) : Option String :=
  (s.secret.bind fun text => (expand env text).toOption).filter (· ≠ "")

/-! ## What follows from the settings -/

/-- How many statements may be under way at once. -/
def effectiveConcurrency (s : Settings) : Nat :=
  if s.maxConcurrency = 0 then max s.poolSize 1 else s.maxConcurrency

def options (s : Settings) : Resolution.Options :=
  ⟨s.effectiveConcurrency, s.strictFields, s.allowRawOrderBy⟩

/-- Who issues and reads tokens. -/
def authority (s : Settings) (env : Environment) :
    Except AuthError Authority := do
  match s.resolvedSecret env with
  | none => .error .missingSecret
  | some secret => return (← Authority.ofSecret? (utf8Bytes secret)).withGuest s.guest

end Settings
end SelectionSql
