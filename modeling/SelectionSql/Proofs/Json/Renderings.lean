import SelectionSql.Proofs.Json.NumberText
import SelectionSql.Proofs.Json.Sorted
import SelectionSql.ResultValue

/-!
# Two ways from a result to JSON

A result is written as text at once, or turned into a JSON value whose members are sorted. Reading
the text gives the same value, with the members in the order of the fields.

* `Json.SameJson`: equality up to the order of members.
* `ResultValue.Represents`: what a JSON value must be for a result.
* `ResultValue.HasDistinctNames`: no object has two fields of one name.
* `ResultValue.inOrder`: the JSON value, members in the order of the fields.
* `ResultValue.renderings_agree`: the text is read as a value that represents the result and is the
  same as the other one.
-/
set_option autoImplicit false

namespace SelectionSql

/-- A relation holds between what stands under one name. -/
inductive UnderOneName {α β : Type} (P : α → β → Prop) : String × α → String × β → Prop
  | intro {name : String} {a : α} {b : β} (h : P a b) : UnderOneName P (name, a) (name, b)

/-- Equality up to the order of members. Numbers must be written the same. -/
inductive Json.SameJson : Json → Json → Prop
  | null : SameJson .null .null
  | bool (b : Bool) : SameJson (.bool b) (.bool b)
  | number (text : String) : SameJson (.number text) (.number text)
  | string (s : String) : SameJson (.string s) (.string s)
  | array {items items' : List Json} (h : List.Forall₂ SameJson items items') :
      SameJson (.array items) (.array items')
  | object {members members' reordered : List (String × Json)}
      (h : List.Forall₂ (UnderOneName SameJson) members members')
      (hperm : members'.Perm reordered) : SameJson (.object members) (.object reordered)

namespace ResultValue

/-- Integers are numbers that are read as these integers, finite doubles are decimals that spell
them, other doubles are null; everything else is as it is. -/
inductive Represents : ResultValue → Json → Prop
  | null : Represents (.scalar .null) .null
  | bool (b : Bool) : Represents (.scalar (.bool b)) (.bool b)
  | int {n : Int64} {text : String} (h : Number.ofText text = .int n.toInt) :
      Represents (.scalar (.int n)) (.number text)
  | float {f : Binary64} {text : String} {d : DecimalText} (hfinite : f.isFinite = true)
      (hscan : DecimalText.scan text.toList = (d, [])) (h : d.Spells f) :
      Represents (.scalar (.float f)) (.number text)
  | notFinite {f : Binary64} (h : f.isFinite = false) : Represents (.scalar (.float f)) .null
  | string (s : String) : Represents (.scalar (.string s)) (.string s)
  | list {items : List ResultValue} {values : List Json}
      (h : List.Forall₂ Represents items values) : Represents (.list items) (.array values)
  | object {fields : List (String × ResultValue)} {members : List (String × Json)}
      (h : List.Forall₂ (UnderOneName Represents) fields members) :
      Represents (.object fields) (.object members)

/-- No object has two fields of one name. -/
inductive HasDistinctNames : ResultValue → Prop
  | scalar (s : Scalar) : HasDistinctNames (.scalar s)
  | list {items : List ResultValue} (h : ∀ v ∈ items, HasDistinctNames v) :
      HasDistinctNames (.list items)
  | object {fields : List (String × ResultValue)} (hnames : (Entries.keys fields).Nodup)
      (h : ∀ field ∈ fields, HasDistinctNames field.2) : HasDistinctNames (.object fields)

/-! ## Members in order -/

mutual

/-- The JSON value of a result, its members in the order of the fields. -/
def inOrder : ResultValue → Json
  | .scalar s => s.toJson
  | .object fields => .object (inOrderFields fields)
  | .list items => .array (inOrderList items)

def inOrderList : List ResultValue → List Json
  | [] => []
  | v :: rest => inOrder v :: inOrderList rest

def inOrderFields : List (String × ResultValue) → List (String × Json)
  | [] => []
  | (k, v) :: rest => (k, inOrder v) :: inOrderFields rest

end

mutual

theorem renderChars_inOrder : ∀ v : ResultValue, v.inOrder.renderChars = v.renderChars
  | .scalar _ => rfl
  | .object fields => by
    rw [inOrder, Json.renderChars, renderMembers_inOrder fields, renderChars]
  | .list items => by
    rw [inOrder, Json.renderChars, renderItems_inOrder items, renderChars]

theorem renderItems_inOrder : ∀ items : List ResultValue,
    Json.renderItems (inOrderList items) = renderItems items
  | [] => rfl
  | [v] => renderChars_inOrder v
  | v :: v' :: rest => by
    show v.inOrder.renderChars ++ ',' :: Json.renderItems (inOrderList (v' :: rest)) =
      renderChars v ++ ',' :: renderItems (v' :: rest)
    rw [renderChars_inOrder v, renderItems_inOrder (v' :: rest)]

theorem renderMembers_inOrder : ∀ fields : List (String × ResultValue),
    Json.renderMembers (inOrderFields fields) = renderFields fields
  | [] => rfl
  | [(k, v)] => by
    show Json.quote k ++ ':' :: v.inOrder.renderChars = Json.quote k ++ ':' :: renderChars v
    rw [renderChars_inOrder v]
  | (k, v) :: field :: rest => by
    show Json.quote k ++ ':' :: v.inOrder.renderChars ++
        ',' :: Json.renderMembers (inOrderFields (field :: rest)) =
      Json.quote k ++ ':' :: renderChars v ++ ',' :: renderFields (field :: rest)
    rw [renderChars_inOrder v, renderMembers_inOrder (field :: rest)]

end

/-! ## Numbers in order -/

theorem isWritten_toJson (s : Scalar) : s.toJson.IsWritten := by
  cases s with
  | null => trivial
  | bool b => trivial
  | int n => exact Json.isNumber_intText n.toInt
  | float f =>
    rw [Scalar.toJson]
    split
    · next hfinite => exact Json.isNumber_floatText hfinite
    · trivial
  | string s => trivial

mutual

theorem isWritten_inOrder : ∀ v : ResultValue, v.inOrder.IsWritten
  | .scalar s => isWritten_toJson s
  | .object fields => membersWritten_inOrder fields
  | .list items => areWritten_inOrder items

theorem areWritten_inOrder : ∀ items : List ResultValue, Json.AreWritten (inOrderList items)
  | [] => trivial
  | v :: rest => ⟨isWritten_inOrder v, areWritten_inOrder rest⟩

theorem membersWritten_inOrder : ∀ fields : List (String × ResultValue),
    Json.MembersWritten (inOrderFields fields)
  | [] => trivial
  | (_, v) :: rest => ⟨isWritten_inOrder v, membersWritten_inOrder rest⟩

end

theorem read_render (v : ResultValue) : Json.read v.render = some v.inOrder := by
  have htext : v.render = v.inOrder.render := by
    rw [render, Json.render, renderChars_inOrder]
  rw [htext]
  exact Json.read_render (isWritten_inOrder v)

/-! ## What is meant -/

theorem represents_scalar (s : Scalar) : Represents (.scalar s) s.toJson := by
  cases s with
  | null => exact .null
  | bool b => exact .bool b
  | int n =>
    have hlow : -2 ^ 63 ≤ n.toInt := n.le_toInt
    have hhigh : n.toInt < 2 ^ 64 := Int.lt_trans n.toInt_lt (by decide)
    exact .int (Number.ofText_intText hlow hhigh)
  | float f =>
    rw [Scalar.toJson]
    split
    · next hfinite =>
      obtain ⟨d, hscan, hspells⟩ := Json.exists_scan_spells hfinite
      exact .float hfinite hscan hspells
    · next hinfinite => exact .notFinite (Bool.not_eq_true _ ▸ hinfinite)
  | string s => exact .string s

mutual

theorem represents_inOrder : ∀ v : ResultValue, v.Represents v.inOrder
  | .scalar s => represents_scalar s
  | .object fields => .object (represents_inOrderFields fields)
  | .list items => .list (represents_inOrderList items)

theorem represents_inOrderList : ∀ items : List ResultValue,
    List.Forall₂ Represents items (inOrderList items)
  | [] => .nil
  | v :: rest => .cons (represents_inOrder v) (represents_inOrderList rest)

theorem represents_inOrderFields : ∀ fields : List (String × ResultValue),
    List.Forall₂ (UnderOneName Represents) fields (inOrderFields fields)
  | [] => .nil
  | (_, v) :: rest => .cons (.intro (represents_inOrder v)) (represents_inOrderFields rest)

end

/-! ## Sorted members -/

theorem sorted_toJson (s : Scalar) : s.toJson.sorted = s.toJson := by
  cases s with
  | float f =>
    rw [Scalar.toJson]
    split
    · rfl
    · rfl
  | _ => rfl

mutual

theorem sorted_inOrder : ∀ v : ResultValue, v.inOrder.sorted = v.toJson
  | .scalar s => sorted_toJson s
  | .object fields => by
    rw [inOrder, Json.sorted, sortedMembers_inOrder fields, toJson]
  | .list items => by
    rw [inOrder, Json.sorted, sortedList_inOrder items, toJson]

theorem sortedList_inOrder : ∀ items : List ResultValue,
    Json.sortedList (inOrderList items) = toJsonList items
  | [] => rfl
  | v :: rest => by
    rw [inOrderList, Json.sortedList, sorted_inOrder v, sortedList_inOrder rest, toJsonList]

theorem sortedMembers_inOrder : ∀ fields : List (String × ResultValue),
    Json.sortedMembers (inOrderFields fields) = toJsonFields fields
  | [] => rfl
  | (_, v) :: rest => by
    rw [inOrderFields, Json.sortedMembers, sorted_inOrder v, sortedMembers_inOrder rest,
      toJsonFields]

end

theorem sameJson_toJson (s : Scalar) : Json.SameJson s.toJson s.toJson := by
  cases s with
  | null => exact .null
  | bool b => exact .bool b
  | int n => exact .number _
  | float f =>
    rw [Scalar.toJson]
    split
    · exact .number _
    · exact .null
  | string s => exact .string s

theorem keys_toJsonFields (fields : List (String × ResultValue)) :
    Entries.keys (toJsonFields fields) = Entries.keys fields := by
  induction fields with
  | nil => rfl
  | cons field rest ih =>
    obtain ⟨k, v⟩ := field
    exact congrArg (k :: ·) ih

mutual

/-- Where no name is repeated, sorting changes nothing but the order. -/
theorem sameJson_inOrder : ∀ v : ResultValue, v.HasDistinctNames → v.inOrder.SameJson v.toJson
  | .scalar s, _ => sameJson_toJson s
  | .object fields, .object hnames h =>
    .object (sameJson_inOrderFields fields h)
      (Json.perm_sortMembers ((keys_toJsonFields fields).symm ▸ hnames))
  | .list items, .list h => .array (sameJson_inOrderList items h)

theorem sameJson_inOrderList : ∀ items : List ResultValue, (∀ v ∈ items, v.HasDistinctNames) →
    List.Forall₂ Json.SameJson (inOrderList items) (toJsonList items)
  | [], _ => .nil
  | v :: rest, h =>
    have hall := List.forall_mem_cons.1 h
    .cons (sameJson_inOrder v hall.1) (sameJson_inOrderList rest hall.2)

theorem sameJson_inOrderFields : ∀ fields : List (String × ResultValue),
    (∀ field ∈ fields, field.2.HasDistinctNames) →
    List.Forall₂ (UnderOneName Json.SameJson) (inOrderFields fields) (toJsonFields fields)
  | [], _ => .nil
  | (_, v) :: rest, h =>
    have hall := List.forall_mem_cons.1 h
    .cons (.intro (sameJson_inOrder v hall.1)) (sameJson_inOrderFields rest hall.2)

end

/-- The text of a result is read as a value that represents it. With members sorted, of a repeated
name the last, this is the other value; and as no object has two fields of one name, the two values
differ in nothing but the order of members. -/
theorem renderings_agree (v : ResultValue) (hnames : v.HasDistinctNames) :
    ∃ j, Json.read v.render = some j ∧ v.Represents j ∧ j.SameJson v.toJson ∧
      j.sorted = v.toJson :=
  ⟨v.inOrder, read_render v, represents_inOrder v, sameJson_inOrder v hnames, sorted_inOrder v⟩

/-- A result whose fields are not in order, with a score that is no number. -/
def quotedPost : ResultValue :=
  .object [("title", .scalar (.string "say \"hi\" \\ bye\n")), ("score", .scalar (.float .nan)),
    ("author", .object [("name", .scalar (.string "Ada")), ("id", .scalar (.int 7))]),
    ("comments", .list [.object [("id", .scalar (.int 1))], .scalar .null])]

theorem renderings_agree_quotedPost :
    quotedPost.HasDistinctNames ∧ ∃ j, Json.read quotedPost.render = some j ∧
      quotedPost.Represents j ∧ j.SameJson quotedPost.toJson ∧ j.sorted = quotedPost.toJson := by
  have hauthor : HasDistinctNames (.object [("name", .scalar (.string "Ada")),
      ("id", .scalar (.int 7))]) :=
    .object (by decide) (by simp [HasDistinctNames.scalar])
  have hcomment : HasDistinctNames (.object [("id", .scalar (.int 1))]) :=
    .object (by decide) (by simp [HasDistinctNames.scalar])
  have hcomments : HasDistinctNames (.list [.object [("id", .scalar (.int 1))], .scalar .null]) :=
    .list (by simp [HasDistinctNames.scalar, hcomment])
  have hnames : quotedPost.HasDistinctNames :=
    .object (by decide) (by simp [HasDistinctNames.scalar, hauthor, hcomments])
  exact ⟨hnames, renderings_agree quotedPost hnames⟩

end ResultValue
end SelectionSql
