import SelectionSql.Executor

/-!
# Errors of a resolution

* `DocumentError`: why a query document cannot be resolved.
* `ArgumentFault`: why an argument is not accepted.
* `ResolveError`: every way in which a resolution can fail.

Each has its wording in `message`.
-/
set_option autoImplicit false

namespace SelectionSql

/-- Why a query document cannot be resolved. -/
inductive DocumentError where
  /-- The text does not follow the grammar, or holds a number too large for a double. -/
  | unreadable
  | severalAnonymous
  | duplicateOperation (name : String)
  | duplicateFragment (name : String)
  | noOperation
  | tooDeep
  | unknownOperation (name : String)
  | ambiguousOperation
  | notAQuery
  | fragmentCycle (name : String)
  | unknownFragment (name : String)
deriving DecidableEq

def DocumentError.message : DocumentError → String
  | .unreadable => "the text does not follow the grammar"
  | .severalAnonymous => "document contains multiple operations"
  | .duplicateOperation name => "operation " ++ name ++ " is defined twice"
  | .duplicateFragment name => "fragment " ++ name ++ " is defined twice"
  | .noOperation => "document does not contain an operation"
  | .tooDeep => "recursion limit exceeded."
  | .unknownOperation name => "operation `" ++ name ++ "` not found"
  | .ambiguousOperation => "document has several operations, pick one by name"
  | .notAQuery => "only query operations can be resolved"
  | .fragmentCycle name => "fragment `" ++ name ++ "` spreads itself"
  | .unknownFragment name => "unknown fragment `" ++ name ++ "`"

inductive ArgumentFault where
  /-- The argument has another shape than the one it needs. -/
  | expected (shape kind : String)
  /-- A column is compared with a value that is not a scalar. -/
  | notScalar (column kind : String)
  | negativeLimit (limit : Int64)
  | notColumnList (text : String)
deriving DecidableEq

def ArgumentFault.message : ArgumentFault → String
  | .expected shape kind => "expected " ++ shape ++ ", got " ++ kind
  | .notScalar column kind => "`" ++ column ++ "` must be a scalar, got " ++ kind
  | .negativeLimit limit => intText limit.toInt ++ " is negative; use -1 for no limit"
  | .notColumnList text => "`" ++ text ++ "` is not a column list"

inductive ResolveError where
  | unknownType (name : String)
  | fieldNotFound (typeName field : String)
  | unknownQueryField (field : String)
  | invalidDocument (cause : DocumentError)
  | invalidArgument (argument : String) (fault : ArgumentFault)
  | missingParentId (typeName field : String)
  | nestedRelation (typeName field : String)
  | storage (cause : StorageError)
deriving DecidableEq

def ResolveError.message : ResolveError → String
  | .unknownType name => "Unknown type `" ++ name ++ "`"
  | .fieldNotFound typeName field =>
    "Field `" ++ field ++ "` is not defined on type `" ++ typeName ++ "`"
  | .unknownQueryField field => "Query type has no field `" ++ field ++ "`"
  | .invalidDocument cause => "Invalid query document: " ++ cause.message
  | .invalidArgument argument fault => "Invalid argument `" ++ argument ++ "`: " ++ fault.message
  | .missingParentId typeName field =>
    "Cannot resolve `" ++ typeName ++ "." ++ field ++ "`: parent row has no id"
  | .nestedRelation typeName field =>
    "Relation `" ++ typeName ++ "." ++ field ++
      "` cannot be selected inside a joined to-one relation"
  | .storage cause => cause.message

end SelectionSql
