import SelectionSql.Json.Printer
import SelectionSql.OrderedMap

/-!
# Column values

* `Scalar`: the value of one column: null, a truth value, an integer of 64 bits, a double, a text.
* `Row`: a flat row, its columns in order.
* `Scalar.idKey?`: the text under which child rows find their parent; null has none.
* `Scalar.display`, `Scalar.toJson`: the value as plain text and as JSON.
* `Scalar.sameValue`: equality, which for doubles is equality of numbers.
-/
set_option autoImplicit false

namespace SelectionSql

/-- The value of one column. -/
inductive Scalar where
  | null
  | bool (value : Bool)
  | int (value : Int64)
  | float (value : Binary64)
  | string (text : String)
deriving DecidableEq

instance : Inhabited Scalar := ⟨.null⟩

/-- A flat row. -/
abbrev Row : Type := OrderedMap Scalar

/-- Plain text writes every digit around the point, whole numbers without a fraction. -/
def plainFloatLayout : Binary64.Layout :=
  { positional := none, wholeFraction := false, plusSign := false, tie := .up }

/-- The decimal digits of an integer behind its sign. -/
def intText (n : Int) : String := if n < 0 then "-" ++ Nat.repr n.natAbs else Nat.repr n.natAbs

/-- A truth value as a word. -/
def boolText (b : Bool) : String := if b then "true" else "false"

namespace Scalar

def isNull : Scalar → Bool
  | .null => true
  | _ => false

def asInt? : Scalar → Option Int64
  | .int n => some n
  | _ => none

def asString? : Scalar → Option String
  | .string s => some s
  | _ => none

/-- The key of the row that carries this id: its kind and its text. Null identifies no row. -/
def idKey? : Scalar → Option String
  | .null => none
  | .bool b => some ("b:" ++ boolText b)
  | .int n => some ("i:" ++ intText n.toInt)
  | .float f => some ("f:" ++ plainFloatLayout.text f)
  | .string s => some ("s:" ++ s)

/-- The value as plain text. -/
def display : Scalar → String
  | .null => "null"
  | .bool b => boolText b
  | .int n => intText n.toInt
  | .float f => plainFloatLayout.text f
  | .string s => s

/-- The value as JSON, which has no number that is not finite. -/
def toJson : Scalar → Json
  | .null => .null
  | .bool b => .bool b
  | .int n => .number (intText n.toInt)
  | .float f => if f.isFinite then .number (Json.floatLayout.text f) else .null
  | .string s => .string s

/-- The text of the value in JSON. -/
def jsonChars (s : Scalar) : List Char := s.toJson.renderChars

/-- The scalar that a number is: an integer if it fits 64 bits with a sign, else a double. -/
def ofNumber : Number → Scalar
  | .int n =>
    if Int64.minValue.toInt ≤ n ∧ n ≤ Int64.maxValue.toInt then .int (Int64.ofInt n)
    else .float (Binary64.ofNat n.toNat)
  | .float f => .float f

/-- Equality of values; doubles are compared as numbers. -/
def sameValue : Scalar → Scalar → Bool
  | .null, .null => true
  | .bool a, .bool b => a == b
  | .int a, .int b => a == b
  | .float a, .float b => a.sameNumber b
  | .string a, .string b => a == b
  | _, _ => false

end Scalar
end SelectionSql
