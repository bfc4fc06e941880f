/-!
# Row limits

`Limit` is no limit or a number of rows; as an integer, `-1` stands for no limit.
-/
set_option autoImplicit false

namespace SelectionSql

inductive Limit where
  | unbounded
  | rows (count : UInt64)
deriving DecidableEq, Repr

namespace Limit

instance : Inhabited Limit := ⟨.unbounded⟩

/-- Minus one is no limit, zero is a limit, other negative numbers are refused. -/
def ofInt? (n : Int64) : Option Limit :=
  if n = -1 then some .unbounded
  else if n < 0 then none
  else some (.rows n.toUInt64)

def rows? : Limit → Option UInt64
  | .unbounded => none
  | .rows count => some count

end Limit
end SelectionSql
