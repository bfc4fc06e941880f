import SelectionSql.Nesting
import SelectionSql.Proofs.Entries

/-!
# What a flat row is nested into

`Nesting.nest` takes the columns of a row in turn. What stands under a name afterwards can be said
without the order, as long as no plain column has the name of a group.

* `Nesting.fieldsOf`: the columns of a group, each under its own name.
* `Nesting.find?_nest_plain`: under a name that is no group stands the plain column.
* `Nesting.find?_nest_group`: under the name of a group stand the columns of the group.
-/
set_option autoImplicit false

namespace SelectionSql

namespace Nesting

/-! ## One column after the other -/

/-- The columns of a group, each under its own name. -/
def fieldsOf (group : String) (columns : List (String × Scalar)) : Entries ResultValue :=
  columns.filterMap fun e =>
    match split? e.1 with
    | some (g, field) => if g = group then some (field, .scalar e.2) else none
    | none => none

theorem find?_addColumn_of_ne {row : OrderedMap ResultValue} {column name : String}
    (value : Scalar) (hplain : split? column = none → column ≠ name)
    (hgroup : ∀ group field, split? column = some (group, field) → group ≠ name) :
    (addColumn row column value).find? name = row.find? name := by
  unfold addColumn
  split
  · next hsplit => rw [OrderedMap.find?_insert, if_neg (hplain hsplit)]
  · next group field hsplit => rw [OrderedMap.find?_insert, if_neg (hgroup group field hsplit)]

theorem find?_foldl_of_ne {columns : List (String × Scalar)} {name : String}
    (hplain : ∀ e ∈ columns, split? e.1 = none → e.1 ≠ name)
    (hgroup : ∀ e ∈ columns, ∀ group field, split? e.1 = some (group, field) → group ≠ name)
    (acc : OrderedMap ResultValue) :
    (columns.foldl (fun acc e => addColumn acc e.1 e.2) acc).find? name = acc.find? name := by
  induction columns generalizing acc with
  | nil => rfl
  | cons e rest ih =>
    rw [List.foldl_cons, ih (fun e' h => hplain e' (List.mem_cons_of_mem e h))
      (fun e' h => hgroup e' (List.mem_cons_of_mem e h)),
      find?_addColumn_of_ne e.2 (hplain e List.mem_cons_self) (hgroup e List.mem_cons_self)]

theorem find?_nest_plain (row : Row) {name : String} (hname : split? name = none)
    (hgroup : ∀ e ∈ row.entries, ∀ group field, split? e.1 = some (group, field) → group ≠ name) :
    (nest row).find? name = (row.find? name).map .scalar := by
  by_cases hmem : name ∈ row.keys
  · -- What follows the column has other names.
    obtain ⟨before, value, after, hentries⟩ := OrderedMap.exists_split hmem
    obtain ⟨-, hnot, -⟩ := OrderedMap.nodup_of_split hentries
    have hafter : ∀ e ∈ after, split? e.1 = none → e.1 ≠ name :=
      fun e he _ heq => hnot (List.mem_map.2 ⟨e, he, heq⟩)
    have hothers : ∀ e ∈ after, ∀ group field, split? e.1 = some (group, field) → group ≠ name :=
      fun e he => hgroup e (by rw [hentries]; simp [he])
    rw [OrderedMap.find?_of_split hentries, nest, hentries, List.foldl_append, List.foldl_cons,
      find?_foldl_of_ne hafter hothers]
    unfold addColumn
    rw [hname, OrderedMap.find?_insert, if_pos rfl]
    rfl
  · rw [(OrderedMap.find?_eq_none_iff row name).2 hmem]
    have hnot : ∀ e ∈ row.entries, split? e.1 = none → e.1 ≠ name :=
      fun e he _ heq => hmem (heq ▸ OrderedMap.mem_keys_of_mem he)
    exact find?_foldl_of_ne hnot hgroup .empty

/-- An object, unless it is empty. -/
def object? : Entries ResultValue → Option ResultValue
  | [] => none
  | fields => some (.object fields)

/-- A plain column found before the columns of the group gives way to the first of them. -/
theorem find?_foldl_group {columns : List (String × Scalar)} {group : String}
    (hplain : ∀ e ∈ columns, split? e.1 = none → e.1 ≠ group) {acc : OrderedMap ResultValue}
    {fields : Entries ResultValue} {plain : Option Scalar}
    (hacc : acc.find? group = (object? fields).or (plain.map .scalar))
    (hnodup : (Entries.keys (fields ++ fieldsOf group columns)).Nodup) :
    (columns.foldl (fun acc e => addColumn acc e.1 e.2) acc).find? group =
      (object? (fields ++ fieldsOf group columns)).or (plain.map .scalar) := by
  induction columns generalizing acc fields with
  | nil =>
    rw [fieldsOf, List.filterMap_nil, List.append_nil]
    exact hacc
  | cons e rest ih =>
    have hrest : ∀ e' ∈ rest, split? e'.1 = none → e'.1 ≠ group :=
      fun e' h => hplain e' (List.mem_cons_of_mem e h)
    -- A column of the group brings a field that is new there; any other changes nothing there.
    by_cases hmember : ∃ field, split? e.1 = some (group, field)
    · obtain ⟨field, hsplit⟩ := hmember
      have hfields : fieldsOf group (e :: rest) = (field, .scalar e.2) :: fieldsOf group rest := by
        rw [fieldsOf, List.filterMap_cons, hsplit]
        simp only [if_true]
        rfl
      have hmove : fields ++ fieldsOf group (e :: rest) =
          (fields ++ [(field, .scalar e.2)]) ++ fieldsOf group rest := by
        rw [hfields, List.append_assoc, List.singleton_append]
      have hnew : field ∉ Entries.keys fields := by
        rw [hfields, Entries.keys, List.map_append] at hnodup
        exact fun hmem => (List.nodup_append.1 hnodup).2.2 field hmem field List.mem_cons_self rfl
      have hgroup : groupFields acc group = fields := by
        rw [groupFields, hacc]
        cases fields with
        | nil => cases plain <;> rfl
        | cons f fields => rfl
      rw [hmove] at hnodup ⊢
      refine ih hrest ?_ hnodup
      show (addColumn acc e.1 e.2).find? group = _
      rw [addColumn, hsplit]
      dsimp only
      rw [OrderedMap.find?_insert, if_pos rfl, hgroup, Entries.insert_of_notMem hnew]
      cases fields <;> rfl
    · have hgroup : ∀ g field, split? e.1 = some (g, field) → g ≠ group := by
        rintro g field hsplit rfl
        exact hmember ⟨field, hsplit⟩
      have hfields : fieldsOf group (e :: rest) = fieldsOf group rest := by
        rw [fieldsOf, List.filterMap_cons]
        cases hsplit : split? e.1 with
        | none => rfl
        | some p => simp only [if_neg (hgroup p.1 p.2 hsplit)]; rfl
      rw [hfields] at hnodup ⊢
      refine ih hrest ?_ hnodup
      rw [find?_addColumn_of_ne e.2 (hplain e List.mem_cons_self) hgroup, hacc]

theorem find?_nest_group (row : Row) {group : String}
    (hplain : ∀ e ∈ row.entries, split? e.1 = none → e.1 ≠ group)
    (hnodup : (Entries.keys (fieldsOf group row.entries)).Nodup) :
    (nest row).find? group = object? (fieldsOf group row.entries) := by
  have hempty : (OrderedMap.empty : OrderedMap ResultValue).find? group =
      (object? []).or ((none : Option Scalar).map .scalar) := rfl
  have hfold := find?_foldl_group hplain hempty hnodup
  rwa [Option.map_none, Option.or_none] at hfold

end Nesting
end SelectionSql
