import SelectionSql.Modifiers.Basic
import SelectionSql.Text.Quoted

/-!
# Inspecting modifiers

The text that shows modifiers with every part named, for logs.

* `Scalar.inspected`, `Limit.inspected`, `Modifiers.inspected`: the texts of the parts.
-/
set_option autoImplicit false

namespace SelectionSql

/-- Inspected doubles stand around the point while their first digit is at most four places behind
it and at most sixteen before it; a whole number shows `.0`, a positive exponent no sign. -/
def inspectedFloatLayout : Binary64.Layout :=
  { positional := some (-4, 16), wholeFraction := true, plusSign := false, tie := .up }

def Scalar.inspected : Scalar → String
  | .null => "Null"
  | .bool b => "Bool(" ++ boolText b ++ ")"
  | .int n => "Int(" ++ intText n.toInt ++ ")"
  | .float f => "Float(" ++ inspectedFloatLayout.text f ++ ")"
  | .string s => "String(" ++ quotedText s ++ ")"

def Limit.inspected : Limit → String
  | .unbounded => "Unbounded"
  | .rows n => "Rows(" ++ Nat.repr n.toNat ++ ")"

def OrderBy.inspected (o : OrderBy) : String := "OrderBy(" ++ quotedText o.text ++ ")"

/-- A part that may be missing. -/
def inspectedOption {α : Type} (text : α → String) : Option α → String
  | some a => "Some(" ++ text a ++ ")"
  | none => "None"

/-- The texts with commas between them. -/
def inspectedList (texts : List String) : String := ", ".intercalate texts

def Modifiers.inspected (m : Modifiers) : String :=
  "QueryModifiers \x7b filter: \x7b" ++
    inspectedList (m.filter.entries.map fun e => quotedText e.1 ++ ": " ++ e.2.inspected) ++
    "\x7d, limit: " ++ inspectedOption Limit.inspected m.limit ++
    ", order_by: " ++ inspectedOption OrderBy.inspected m.orderBy ++ " \x7d"

end SelectionSql
