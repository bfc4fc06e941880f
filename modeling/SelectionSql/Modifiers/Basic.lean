import SelectionSql.ArgumentValue
import SelectionSql.Modifiers.Limit
import SelectionSql.Modifiers.OrderBy

/-!
# Modifiers of a resolution

What restricts, limits and orders the rows of one level.

* `Modifiers`: the filter by equal columns, the limit, the ordering; what is not given is `none`.
* `Modifiers.ofArguments`: the modifiers that the arguments `where`, `limit` and `orderBy` ask for.
* `Modifiers.merge`: the caller's modifiers joined with forced ones. A forced column always holds;
  limit and ordering are taken whole from the side that `Precedence` favours, if it has them.
-/
set_option autoImplicit false

namespace SelectionSql

/-- What restricts, limits and orders the rows of one level. -/
structure Modifiers where
  filter : OrderedMap Scalar
  limit : Option Limit
  orderBy : Option OrderBy
deriving DecidableEq

/-- The side whose limit and ordering count where both sides give one. -/
inductive Precedence where
  /-- The caller's, where forced ones are defaults. -/
  | caller
  /-- The forced ones. -/
  | forced
deriving DecidableEq, Repr

namespace Modifiers

/-- Nothing given. -/
def empty : Modifiers := { filter := .empty, limit := none, orderBy := none }

instance : Inhabited Modifiers := ⟨empty⟩

/-- Adds an equality. -/
def withFilter (m : Modifiers) (column : String) (value : Scalar) : Modifiers :=
  { m with filter := m.filter.insert column value }

/-- The limit that applies: none unless one is given. -/
def effectiveLimit (m : Modifiers) : Limit := m.limit.getD .unbounded

/-! ## From arguments -/

/-- The columns of a `where` object, each with a scalar. -/
def filterOfFields : List (String × ArgumentValue) → OrderedMap Scalar →
    Except ResolveError (OrderedMap Scalar)
  | [], acc => .ok acc
  | (column, value) :: rest, acc =>
    match value.asScalar? with
    | some s => filterOfFields rest (acc.insert column s)
    | none => .error (.invalidArgument "where" (.notScalar column value.kind))

def filterOf : Option ArgumentValue → Except ResolveError (OrderedMap Scalar)
  | none => .ok .empty
  | some (.scalar .null) => .ok .empty
  | some (.object fields) => filterOfFields fields .empty
  | some other => .error (.invalidArgument "where" (.expected "object" other.kind))

def limitOf : Option ArgumentValue → Except ResolveError (Option Limit)
  | none => .ok none
  | some (.scalar .null) => .ok none
  | some (.scalar (.int n)) =>
    match Limit.ofInt? n with
    | some limit => .ok (some limit)
    | none => .error (.invalidArgument "limit" (.negativeLimit n))
  | some other => .error (.invalidArgument "limit" (.expected "integer" other.kind))

def orderOf (allowRaw : Bool) : Option ArgumentValue → Except ResolveError (Option OrderBy)
  | none => .ok none
  | some (.scalar .null) => .ok none
  | some (.scalar (.string clause)) => OrderBy.parse clause allowRaw
  | some other => .error (.invalidArgument "orderBy" (.expected "string" other.kind))

/-- The modifiers that a field's arguments ask for. Other arguments do not count. -/
def ofArguments (arguments : OrderedMap ArgumentValue) (allowRaw : Bool) :
    Except ResolveError Modifiers := do
  let filter ← filterOf (arguments.find? "where")
  let limit ← limitOf (arguments.find? "limit")
  let orderBy ← orderOf allowRaw (arguments.find? "orderBy")
  return { filter, limit, orderBy }

/-! ## Merging -/

/-- The caller's modifiers joined with forced ones. -/
def merge (caller forced : Modifiers) (precedence : Precedence) : Modifiers where
  filter := caller.filter.extend forced.filter
  limit := match precedence with
    | .caller => caller.limit.or forced.limit
    | .forced => forced.limit.or caller.limit
  orderBy := match precedence with
    | .caller => caller.orderBy.or forced.orderBy
    | .forced => forced.orderBy.or caller.orderBy

end Modifiers
end SelectionSql
