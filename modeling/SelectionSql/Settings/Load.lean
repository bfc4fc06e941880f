import SelectionSql.Settings.OfTable
import SelectionSql.Toml.Reader

/-!
# Settings from files

* `Settings.parse`: the settings that a text describes.
* `Settings.ofFile`: the settings of a file.
* `Settings.load`: the settings of the first file there is: the one that a variable names, the one
  in the working directory, the user's own. Without any the defaults count.
-/
set_option autoImplicit false

namespace SelectionSql
namespace Settings
variable {m : Type → Type} [Monad m]

def parse (text : String) : Except SettingsError Settings :=
  match (Toml.parse? text).bind ofTable? with
  | some s => s.validated
  | none => .error .unreadableText

def ofAnswer (path : String) : Except FileError String → Except SettingsError Settings
  | .ok text => parse text
  | .error cause => .error (if cause.isMissing then .fileNotFound path else .unreadableFile cause)

def ofFile (host : Host m) (path : String) : m (Except SettingsError Settings) := do
  return ofAnswer path (← host.contents path)

def fileVariable : String := "GRAPHWEAVE_CONFIG"

/-- The file in the working directory. -/
def localFile : String := "graphweave.toml"

def userDirectory (host : Host m) : m (Option String) := do
  match ← host.variableValue "XDG_CONFIG_HOME" with
  | some path =>
    if path.toList.head? = some '/' then return some path
    else inHome
  | none => inHome
where
  inHome : m (Option String) := do
    match ← host.variableValue "HOME" with
    | some home => return if home = "" then none else some (home ++ "/.config")
    | none => return none

def firstOf (host : Host m) : List String → m (Except SettingsError Settings)
  | [] => return .ok default
  | path :: rest => do
    match ← host.contents path with
    | .ok text => return parse text
    | .error cause =>
      if cause.isMissing then firstOf host rest else return .error (.unreadableFile cause)

/-- The settings of the first place that has some. -/
def load (host : Host m) : m (Except SettingsError Settings) := do
  match ← host.variableValue fileVariable with
  | some path => ofFile host path
  | none =>
    let user := (← userDirectory host).map (· ++ "/graphweave/config.toml")
    firstOf host (localFile :: user.toList)

end Settings
end SelectionSql
