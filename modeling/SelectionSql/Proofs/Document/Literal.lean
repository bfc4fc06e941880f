import SelectionSql.Document.Fields
import SelectionSql.Proofs.Json.Sorted

/-!
# Literals of JSON values

* `Grammar.Literal`: a value of a document is a JSON value written down, with the fields of every
  object in ascending order.
* `Grammar.Value.ofJson`: a JSON value as it stands; `literal_iff`: a value has one literal.
* `Document.evaluate_literal`: a literal stands for the argument that the JSON value is.
-/
set_option autoImplicit false

namespace SelectionSql

namespace Grammar
open Entries (Sorts)

mutual

/-- The value is the literal of the JSON value. Names in an object ascend; of a repeated name the
last value is written. -/
def Literal : Json → Value → Prop
  | .null, v => v = .null
  | .bool b, v => v = .boolean b
  | .number text, v => v = .number text
  | .string s, v => v = .string s
  | .array items, v => ∃ values, v = .list values ∧ Literals items values
  | .object members, v =>
    ∃ written fields, v = .object fields ∧ FieldLiterals members written ∧ Sorts written fields

/-- The values are literals of the items, one of each. -/
def Literals : List Json → List Value → Prop
  | [], vs => vs = []
  | j :: rest, vs => ∃ v others, vs = v :: others ∧ Literal j v ∧ Literals rest others

/-- The fields are literals of the members, under the same names. -/
def FieldLiterals : List (String × Json) → List (String × Value) → Prop
  | [], fs => fs = []
  | (k, j) :: rest, fs =>
    ∃ v others, fs = (k, v) :: others ∧ Literal j v ∧ FieldLiterals rest others

end

mutual

/-- A JSON value in a document, the members of objects in their own order. -/
def Value.ofJson : Json → Value
  | .null => .null
  | .bool b => .boolean b
  | .number text => .number text
  | .string s => .string s
  | .array items => .list (Value.ofJsonList items)
  | .object members => .object (Value.ofJsonMembers members)

def Value.ofJsonList : List Json → List Value
  | [] => []
  | j :: rest => Value.ofJson j :: Value.ofJsonList rest

def Value.ofJsonMembers : List (String × Json) → List (String × Value)
  | [] => []
  | (k, j) :: rest => (k, Value.ofJson j) :: Value.ofJsonMembers rest

end

theorem Value.ofJsonMembers_eq_map (members : List (String × Json)) :
    Value.ofJsonMembers members = members.map fun e => (e.1, Value.ofJson e.2) := by
  induction members with
  | nil => rfl
  | cons e rest ih => rw [Value.ofJsonMembers, ih, List.map_cons]

/-- Sorting members and writing them down can be exchanged. -/
theorem sorts_ofJsonMembers (members : List (String × Json)) :
    Sorts (Value.ofJsonMembers members) (Value.ofJsonMembers (Json.sortMembers members)) := by
  rw [Value.ofJsonMembers_eq_map, Value.ofJsonMembers_eq_map]
  exact (Json.sorts_sortMembers members).map Value.ofJson

mutual

/-- A JSON value has one literal. -/
theorem literal_iff : ∀ (j : Json) (v : Value), Literal j v ↔ v = Value.ofJson j.sorted
  | .null, _ => Iff.rfl
  | .bool _, _ => Iff.rfl
  | .number _, _ => Iff.rfl
  | .string _, _ => Iff.rfl
  | .array items, v => by
    rw [Literal, Json.sorted, Value.ofJson]
    constructor
    · rintro ⟨values, rfl, hvalues⟩
      rw [(literals_iff items values).1 hvalues]
    · rintro rfl
      exact ⟨_, rfl, (literals_iff items _).2 rfl⟩
  | .object members, v => by
    rw [Literal, Json.sorted, Value.ofJson]
    have hsorts := sorts_ofJsonMembers (Json.sortedMembers members)
    constructor
    · rintro ⟨written, fields, rfl, hwritten, hfields⟩
      rw [(fieldLiterals_iff members written).1 hwritten] at hfields
      rw [hfields.unique hsorts]
    · rintro rfl
      exact ⟨_, _, rfl, (fieldLiterals_iff members _).2 rfl, hsorts⟩

theorem literals_iff : ∀ (items : List Json) (vs : List Value),
    Literals items vs ↔ vs = Value.ofJsonList (Json.sortedList items)
  | [], _ => Iff.rfl
  | j :: rest, vs => by
    rw [Literals, Json.sortedList, Value.ofJsonList]
    constructor
    · rintro ⟨v, others, rfl, hv, hothers⟩
      rw [(literal_iff j v).1 hv, (literals_iff rest others).1 hothers]
    · rintro rfl
      exact ⟨_, _, rfl, (literal_iff j _).2 rfl, (literals_iff rest _).2 rfl⟩

theorem fieldLiterals_iff : ∀ (members : List (String × Json)) (fs : List (String × Value)),
    FieldLiterals members fs ↔ fs = Value.ofJsonMembers (Json.sortedMembers members)
  | [], _ => Iff.rfl
  | (k, j) :: rest, fs => by
    rw [FieldLiterals, Json.sortedMembers, Value.ofJsonMembers]
    constructor
    · rintro ⟨v, others, rfl, hv, hothers⟩
      rw [(literal_iff j v).1 hv, (fieldLiterals_iff rest others).1 hothers]
    · rintro rfl
      exact ⟨_, _, rfl, (literal_iff j _).2 rfl, (fieldLiterals_iff rest _).2 rfl⟩

end

end Grammar

namespace Document
open Grammar (Value Literal)

/-! ## What a literal stands for -/

mutual

theorem evaluate_ofJson (scope : Variables) :
    ∀ j : Json, evaluate scope (Value.ofJson j) = ArgumentValue.ofJson j
  | .null => rfl
  | .bool _ => rfl
  | .number _ => rfl
  | .string _ => rfl
  | .array items => by
    rw [Value.ofJson, evaluate, ArgumentValue.ofJson, evaluateList_ofJsonList scope items]
  | .object members => by
    rw [Value.ofJson, evaluate, ArgumentValue.ofJson, evaluateFields_ofJsonMembers scope members]

theorem evaluateList_ofJsonList (scope : Variables) : ∀ items : List Json,
    evaluateList scope (Value.ofJsonList items) = ArgumentValue.ofJsonList items
  | [] => rfl
  | j :: rest => by
    rw [Value.ofJsonList, evaluateList, ArgumentValue.ofJsonList, evaluate_ofJson scope j,
      evaluateList_ofJsonList scope rest]

theorem evaluateFields_ofJsonMembers (scope : Variables) : ∀ members : List (String × Json),
    evaluateFields scope (Value.ofJsonMembers members) = ArgumentValue.ofJsonMembers members
  | [] => rfl
  | (k, j) :: rest => by
    rw [Value.ofJsonMembers, evaluateFields, ArgumentValue.ofJsonMembers, evaluate_ofJson scope j,
      evaluateFields_ofJsonMembers scope rest]

end

theorem evaluate_literal {j : Json} {v : Value} (h : Literal j v) (scope : Variables) :
    evaluate scope v = ArgumentValue.ofJson j.sorted := by
  rw [(Grammar.literal_iff j v).1 h, evaluate_ofJson]

end Document
end SelectionSql
