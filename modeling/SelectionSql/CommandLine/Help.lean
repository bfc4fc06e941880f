import SelectionSql.CommandLine.Command

/-!
# Help texts

`Topic.text` is what is shown about the program and about each of its commands.
-/
set_option autoImplicit false

namespace SelectionSql
namespace CommandLine

def versionText : String := "graphweave 0.1.0"

/-- An option as it is shown: how it is written, and what it is for. -/
structure Entry where
  form : String
  meaning : String

def columns (entries : List Entry) : List String :=
  let width := (entries.map fun e => e.form.length).foldl max 0
  entries.map fun e =>
    let gap := List.replicate (width - e.form.length + 2) ' '
    "  " ++ e.form ++ String.ofList gap ++ e.meaning

def configEntry : Entry :=
  ⟨"-c, --config <CONFIG>", "Config file (defaults to GRAPHWEAVE_CONFIG, ./graphweave.toml, " ++
    "then the user config dir)"⟩

def helpEntry : Entry := ⟨"-h, --help", "Print help"⟩

def queryEntries : List Entry :=
  [configEntry,
    ⟨"-s, --schema <SCHEMA>", "Path to the GraphQL SDL with relation directives"⟩,
    ⟨"    --type <TYPE_NAME>", "Entity type of the root field"⟩,
    ⟨"    --table <TABLE>", "Table holding the entity rows"⟩,
    ⟨"-q, --query <QUERY>", "GraphQL query text, or @path to read it from a file"⟩,
    ⟨"    --operation <OPERATION>", "Operation to run when the document holds several"⟩,
    ⟨"    --variables <VARIABLES>", "Variables as a JSON object"⟩]

def querySynopsis : String :=
  " [OPTIONS] --schema <SCHEMA> --type <TYPE_NAME> --table <TABLE> --query <QUERY>"

def aboutResolve : String := "Resolve a query and print the result as JSON"

def aboutSql : String := "Print the top-level SQL statement for a query without running it"

def aboutToken : String := "Issue a signed token for an identity"

def aboutHelp : String := "Print this message or the help of the given subcommand(s)"

def Topic.lines : Topic → List String
  | .program =>
    ["Graphweave - declarative GraphQL to SQL resolution", "",
      "Usage: graphweave [OPTIONS] <COMMAND>", "", "Commands:"]
      ++ columns [⟨"resolve", aboutResolve⟩, ⟨"sql", aboutSql⟩, ⟨"token", aboutToken⟩,
        ⟨"help", aboutHelp⟩]
      ++ ["", "Options:"]
      ++ columns [configEntry, helpEntry, ⟨"-V, --version", "Print version"⟩]
  | .resolve =>
    [aboutResolve, "", "Usage: graphweave resolve" ++ querySynopsis, "", "Options:"]
      ++ columns (queryEntries ++
        [⟨"-d, --database <DATABASE>", "SQLite database file (defaults to database.url)"⟩,
          ⟨"    --token <TOKEN>", "Bearer token identifying the caller"⟩, helpEntry])
  | .sql =>
    [aboutSql, "", "Usage: graphweave sql" ++ querySynopsis, "", "Options:"]
      ++ columns (queryEntries ++
        [⟨"    --dialect <DIALECT>", "SQL dialect to generate (defaults to database.dialect) " ++
          "[possible values: mysql, postgres, sqlite]"⟩, helpEntry])
  | .token =>
    [aboutToken, "", "Usage: graphweave token [OPTIONS] --name <NAME>", "", "Options:"]
      ++ columns [configEntry, ⟨"-n, --name <NAME>", ""⟩,
        ⟨"-r, --rule <RULES>", "Rules carried by the identity (repeatable)"⟩, helpEntry]
  | .help =>
    [aboutHelp, "", "Usage: graphweave help [COMMAND]...", "", "Arguments:"]
      ++ columns [⟨"[COMMAND]...", "Print help for the subcommand(s)"⟩]

/-- What is shown about a topic. -/
def Topic.text (t : Topic) : String := "\n".intercalate t.lines

end CommandLine
end SelectionSql
