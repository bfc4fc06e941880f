import SelectionSql.Binary64.Layout
import SelectionSql.Binary64.Reading

/-!
# JSON values

* `Json`: a JSON value; a number is kept as it is written, an object keeps its members in order.
* `Number`, `Number.ofText`: the value of a written number, an integer of at most 64 bits or a
  double.
* `Json.inRange`: no number of the value is too large for a double.
* `Json.nesting`: how deep arrays and objects nest.
* `Json.sorted`: every object in ascending order of its names, of a repeated name the last member.
* `Json.member?`, `single?`, `string?`, `strings?`: what stands under a name, what a string holds.
* `Json.floatLayout`: how doubles are written in JSON.
-/
set_option autoImplicit false

namespace SelectionSql

inductive Json where
  | null
  | bool (value : Bool)
  | number (text : String)
  | string (text : String)
  | array (items : List Json)
  | object (members : List (String × Json))

instance : Inhabited Json := ⟨.null⟩

/-! ## Numbers -/

/-- The value of a written number. -/
inductive Number where
  | int (value : Int)
  | float (value : Binary64)
deriving DecidableEq

/-- The value of a written number. Without point and power of ten it is an integer, if it fits 64
bits, signed or unsigned; the negative zero and everything else is a double, read in two roundings.
-/
def Number.ofText (text : String) : Number :=
  let d := (DecimalText.scan text.toList).1
  let n := digitsValue d.whole
  if d.isInteger ∧ d.negative = false ∧ n < Nat.pow 2 64 then .int n
  else if d.isInteger ∧ d.negative = true ∧ 0 < n ∧ n ≤ Nat.pow 2 63 then .int (-n)
  else .float d.scaled

/-- The number is not too large for a double. -/
def Number.inRange : Number → Bool
  | .int _ => true
  | .float f => f.isFinite

/-- Doubles in JSON stand around the point while their first digit is at most five places behind
it and at most sixteen before it; a whole number shows `.0`, a positive exponent its sign. -/
def Json.floatLayout : Binary64.Layout :=
  { positional := some (-5, 16), wholeFraction := true, plusSign := true, tie := .toEven }

namespace Json

mutual

/-- No number of the value is too large for a double. -/
def inRange : Json → Bool
  | .number text => (Number.ofText text).inRange
  | .array items => inRangeList items
  | .object members => inRangeMembers members
  | _ => true

def inRangeList : List Json → Bool
  | [] => true
  | v :: rest => inRange v && inRangeList rest

def inRangeMembers : List (String × Json) → Bool
  | [] => true
  | (_, v) :: rest => inRange v && inRangeMembers rest

end

/-! ## Depth -/

mutual

/-- How deep arrays and objects nest. -/
def nesting : Json → Nat
  | .array items => nestingList items + 1
  | .object members => nestingMembers members + 1
  | _ => 0

def nestingList : List Json → Nat
  | [] => 0
  | v :: rest => max (nesting v) (nestingList rest)

def nestingMembers : List (String × Json) → Nat
  | [] => 0
  | (_, v) :: rest => max (nesting v) (nestingMembers rest)

end

/-! ## Sorted members -/

/-- Puts a member at its place among members in ascending order; a member of the same name is
replaced. -/
def insertSorted (name : String) (value : Json) : List (String × Json) → List (String × Json)
  | [] => [(name, value)]
  | (k, v) :: rest =>
    if name = k then (name, value) :: rest
    else if name < k then (name, value) :: (k, v) :: rest
    else (k, v) :: insertSorted name value rest

/-- Members in ascending order of their names; of a repeated name the last one. -/
def sortMembers (members : List (String × Json)) : List (String × Json) :=
  members.foldl (fun acc m => insertSorted m.1 m.2 acc) []

mutual

/-- Every object with its members sorted. -/
def sorted : Json → Json
  | .array items => .array (sortedList items)
  | .object members => .object (sortMembers (sortedMembers members))
  | v => v

def sortedList : List Json → List Json
  | [] => []
  | v :: rest => sorted v :: sortedList rest

def sortedMembers : List (String × Json) → List (String × Json)
  | [] => []
  | (k, v) :: rest => (k, sorted v) :: sortedMembers rest

end

/-! ## Parts of a value -/

/-- The value of an object's member; of a repeated name the last one. -/
def member? : Json → String → Option Json
  | .object members, name => (members.reverse.find? fun m => m.1 = name).map Prod.snd
  | _, _ => none

/-- The value of a member that must not be given twice; `none` where it is. -/
def single? (members : List (String × Json)) (name : String) : Option (Option Json) :=
  match members.filter fun m => m.1 = name with
  | [] => some none
  | [m] => some (some m.2)
  | _ => none

def string? : Json → Option String
  | .string s => some s
  | _ => none

/-- The strings of a list that holds nothing else. -/
def strings? : Json → Option (List String)
  | .array items => items.mapM string?
  | _ => none

end Json
end SelectionSql
