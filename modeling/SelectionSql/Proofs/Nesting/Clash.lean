import Mathlib.Data.List.TakeWhile
import SelectionSql.Proofs.Nesting.Flatten

/-!
# Plain columns that are called like a group

A plain column gives way to the object of a group of its name if a column of the group stands
behind it. It replaces the object where the columns of the group stand before it, and their values
are lost.

* `Nesting.behind`: the columns behind a plain column.
* `Nesting.find?_nest`: what stands under a key, whatever the order of the columns.
* `Nesting.SameFields`: objects that are equal up to the order of their fields.
* `Nesting.group_whole_iff`: the object of a group holds all its columns exactly if none stands
  before a plain column of its name; and two orders of one row give equal objects exactly if the
  same columns of every group stand behind it.
-/
set_option autoImplicit false

namespace SelectionSql

namespace Nesting

/-! ## What stands under a key -/

/-- The columns behind the plain column `name`; all of them where there is none. -/
def behind (name : String) (columns : List (String × Scalar)) : List (String × Scalar) :=
  match columns.dropWhile fun e => e.1 ≠ name with
  | [] => columns
  | _ :: after => after

theorem behind_of_notMem {name : String} {columns : List (String × Scalar)}
    (h : name ∉ Entries.keys columns) : behind name columns = columns := by
  have hdrop : (columns.dropWhile fun e => e.1 ≠ name) = [] := by
    refine List.dropWhile_eq_nil_iff.2 fun e he => ?_
    have hne : e.1 ≠ name := fun heq => h (List.mem_map.2 ⟨e, he, heq⟩)
    simpa using hne
  rw [behind, hdrop]

theorem behind_append {name : String} {before : List (String × Scalar)}
    (h : name ∉ Entries.keys before) (value : Scalar) (after : List (String × Scalar)) :
    behind name (before ++ (name, value) :: after) = after := by
  have hbefore : ∀ e ∈ before, decide (e.1 ≠ name) = true := fun e he => by
    have hne : e.1 ≠ name := fun heq => h (List.mem_map.2 ⟨e, he, heq⟩)
    simpa using hne
  rw [behind, List.dropWhile_append_of_pos hbefore, List.dropWhile_cons_of_neg (by simp)]

/-- What stands under a key that holds no `__`: the object of the columns of its group behind the
plain column, or else the plain column. -/
theorem find?_nest (row : Row) {name : String} (hname : split? name = none) :
    (nest row).find? name =
      (object? (fieldsOf name (behind name row.entries))).or ((row.find? name).map .scalar) := by
  by_cases hmem : name ∈ row.keys
  · obtain ⟨before, value, after, hentries⟩ := OrderedMap.exists_split hmem
    obtain ⟨hbefore, hafter, hnodup⟩ := OrderedMap.nodup_of_split hentries
    have hplain : ∀ e ∈ after, split? e.1 = none → e.1 ≠ name :=
      fun e he _ heq => hafter (List.mem_map.2 ⟨e, he, heq⟩)
    -- At the plain column the key is set anew, whatever has stood under it.
    have hstart : (addColumn (before.foldl (fun acc e => addColumn acc e.1 e.2) .empty)
        name value).find? name = (object? []).or ((some value).map .scalar) := by
      rw [addColumn, hname]
      exact (OrderedMap.find?_insert _ name _ name).trans (if_pos rfl)
    rw [OrderedMap.find?_of_split hentries, hentries, behind_append hbefore, nest, hentries,
      List.foldl_append, List.foldl_cons]
    exact find?_foldl_group hplain hstart (nodup_fieldsOf hnodup name)
  · have hplain : ∀ e ∈ row.entries, split? e.1 = none → e.1 ≠ name :=
      fun e he _ heq => hmem (heq ▸ OrderedMap.mem_keys_of_mem he)
    rw [find?_nest_group row hplain (nodup_fieldsOf row.nodup name), behind_of_notMem hmem,
      (OrderedMap.find?_eq_none_iff row name).2 hmem, Option.map_none, Option.or_none]

/-- A name that holds a `__` is no key. -/
theorem find?_nest_of_split (row : Row) {name : String} (hname : split? name ≠ none) :
    (nest row).find? name = none := by
  rw [OrderedMap.find?_eq_none_iff, keys_nest, List.mem_eraseDups]
  intro hmem
  obtain ⟨column, -, rfl⟩ := List.mem_map.1 hmem
  exact hname (split?_topName column)

/-! ## The columns of a group -/

theorem split?_of_fieldsOf {group : String} {columns : List (String × Scalar)}
    (h : fieldsOf group columns ≠ []) : split? group = none := by
  obtain ⟨f, hf⟩ := List.exists_mem_of_ne_nil _ h
  obtain ⟨e, -, hsplit, -⟩ := mem_fieldsOf.1 hf
  exact split?_group hsplit

theorem fieldsOf_append (group : String) (a b : List (String × Scalar)) :
    fieldsOf group (a ++ b) = fieldsOf group a ++ fieldsOf group b := List.filterMap_append

theorem fieldsOf_split {group : String} (hgroup : split? group = none) (value : Scalar)
    (before after : List (String × Scalar)) :
    fieldsOf group (before ++ (group, value) :: after) =
      fieldsOf group before ++ fieldsOf group after := by
  -- The plain column is of no group, so it brings no field.
  have hother : groupOf? group ≠ some group := by
    rw [groupOf?_eq_none_iff.2 hgroup]
    exact (Option.some_ne_none group).symm
  have hrest := fieldsOf_cons_of_other (e := (group, value)) hother after
  rw [fieldsOf_append, hrest]

theorem find?_nest_clash {row : Row} {group : String} (hgroup : split? group = none)
    {before after : List (String × Scalar)} {value : Scalar}
    (h : row.entries = before ++ (group, value) :: after) :
    (nest row).find? group = some (if fieldsOf group after = [] then .scalar value
      else .object (fieldsOf group after)) := by
  rw [find?_nest row hgroup, OrderedMap.find?_of_split h, h,
    behind_append (OrderedMap.nodup_of_split h).1]
  cases fieldsOf group after <;> rfl

theorem find?_nest_eq_whole_iff {row : Row} {group : String}
    (hfields : fieldsOf group row.entries ≠ []) :
    (nest row).find? group = some (.object (fieldsOf group row.entries)) ↔
      ∀ before value after, row.entries = before ++ (group, value) :: after →
        fieldsOf group before = [] := by
  have hgroup := split?_of_fieldsOf hfields
  constructor
  · intro hfind before value after h
    have hall := fieldsOf_split hgroup value before after
    rw [find?_nest_clash hgroup h, h, hall] at hfind
    split at hfind
    · cases hfind
    · have hkept : fieldsOf group after = fieldsOf group before ++ fieldsOf group after :=
        ResultValue.object.inj (Option.some.inj hfind)
      exact List.append_left_eq_self.1 hkept.symm
  · intro hbefore
    by_cases hmem : group ∈ row.keys
    · obtain ⟨before, value, after, h⟩ := OrderedMap.exists_split hmem
      have hall := fieldsOf_split hgroup value before after
      rw [hbefore before value after h, List.nil_append] at hall
      rw [h, hall] at hfields ⊢
      rw [find?_nest_clash hgroup h, if_neg hfields]
    · rw [find?_nest row hgroup, behind_of_notMem hmem]
      cases hcase : fieldsOf group row.entries with
      | nil => exact absurd hcase hfields
      | cons f fields => rfl

/-! ## The same columns in another order -/

/-- The same value, or objects with the same fields in another order. -/
inductive Rearranged : ResultValue → ResultValue → Prop
  | same (v : ResultValue) : Rearranged v v
  | object {fields fields' : Entries ResultValue} (h : fields.Perm fields') :
      Rearranged (.object fields) (.object fields')

/-- The same keys, with values that are equal up to the order of fields. -/
def SameFields (o o' : OrderedMap ResultValue) : Prop :=
  ∀ name, Option.Rel Rearranged (o.find? name) (o'.find? name)

theorem rel_object?_iff {fields fields' : Entries ResultValue} {plain : Option Scalar} :
    Option.Rel Rearranged ((object? fields).or (plain.map .scalar))
      ((object? fields').or (plain.map .scalar)) ↔ fields.Perm fields' := by
  cases fields with
  | nil =>
    cases fields' with
    | nil =>
      refine ⟨fun _ => .nil, fun _ => ?_⟩
      cases plain with
      | none => exact .none
      | some value => exact .some (.same _)
    | cons f' fields' =>
      refine ⟨fun h => ?_, fun h => absurd h.length_eq (by simp)⟩
      cases plain with
      | none => cases h
      | some value =>
        cases h with
        | some h => cases h
  | cons f fields =>
    cases fields' with
    | nil =>
      refine ⟨fun h => ?_, fun h => absurd h.length_eq (by simp)⟩
      cases plain with
      | none => cases h
      | some value =>
        cases h with
        | some h => cases h
    | cons f' fields' =>
      refine ⟨fun h => ?_, fun h => .some (.object h)⟩
      cases h with
      | some h =>
        cases h with
        | same => exact .refl _
        | object h => exact h

theorem sameFields_nest_iff {row row' : Row} (h : row'.entries.Perm row.entries) :
    SameFields (nest row) (nest row') ↔
      ∀ group, (fieldsOf group (behind group row.entries)).Perm
        (fieldsOf group (behind group row'.entries)) := by
  have hrel : ∀ group, split? group = none →
      (Option.Rel Rearranged ((nest row).find? group) ((nest row').find? group) ↔
        (fieldsOf group (behind group row.entries)).Perm
          (fieldsOf group (behind group row'.entries))) := by
    intro group hgroup
    rw [find?_nest row hgroup, find?_nest row' hgroup, OrderedMap.find?_eq_of_perm h group,
      rel_object?_iff]
  refine ⟨fun hsame group => ?_, fun hperm name => ?_⟩
  · by_cases hgroup : split? group = none
    · exact (hrel group hgroup).1 (hsame group)
    · have hnil : ∀ columns, fieldsOf group columns = [] :=
        fun columns => Decidable.not_not.1 fun hne => hgroup (split?_of_fieldsOf hne)
      rw [hnil, hnil]
  · by_cases hname : split? name = none
    · exact (hrel name hname).2 (hperm name)
    · rw [find?_nest_of_split row hname, find?_nest_of_split row' hname]
      exact .none

/-- The object of a group holds all its columns exactly if no plain column of its name stands behind
one of them; else it holds those behind the plain column, or is not there at all. So two orders of
one row give the same object exactly if the same columns are behind the plain one in both. -/
theorem group_whole_iff (row : Row) :
    (∀ group, fieldsOf group row.entries ≠ [] →
      ((nest row).find? group = some (.object (fieldsOf group row.entries)) ↔
        ∀ before value after, row.entries = before ++ (group, value) :: after →
          fieldsOf group before = [])) ∧
    (∀ group before value after, split? group = none →
      row.entries = before ++ (group, value) :: after →
        (nest row).find? group = some (if fieldsOf group after = [] then .scalar value
          else .object (fieldsOf group after))) ∧
    ∀ row' : Row, row'.entries.Perm row.entries →
      (SameFields (nest row) (nest row') ↔
        ∀ group, (fieldsOf group (behind group row.entries)).Perm
          (fieldsOf group (behind group row'.entries))) :=
  ⟨fun _ hfields => find?_nest_eq_whole_iff hfields,
    fun _ _ _ _ hgroup h => find?_nest_clash hgroup h, fun _ h => sameFields_nest_iff h⟩

/-- Two columns of one group, a plain column of its name between them. -/
def clashingRow : Row := .ofList
  [("author__mail", .string "a@b"), ("author", .int 7), ("author__name", .string "Ada"),
    ("tag", .null), ("tag__label", .string "news")]

/-- The same columns, the plain ones first. -/
def plainFirst : Row := .ofList
  [("author", .int 7), ("tag", .null), ("author__name", .string "Ada"),
    ("author__mail", .string "a@b"), ("tag__label", .string "news")]

theorem group_whole_clashing :
    fieldsOf "author" clashingRow.entries ≠ [] ∧
      (nest clashingRow).find? "author" ≠
        some (.object (fieldsOf "author" clashingRow.entries)) ∧
      (nest clashingRow).find? "tag" = some (.object [("label", .scalar (.string "news"))]) ∧
      plainFirst.entries.Perm clashingRow.entries ∧
      ¬ SameFields (nest clashingRow) (nest plainFirst) := by
  obtain ⟨hwhole, hclash, hsame⟩ := group_whole_iff clashingRow
  have hperm : plainFirst.entries.Perm clashingRow.entries := by decide
  have hfields : fieldsOf "author" clashingRow.entries ≠ [] := List.cons_ne_nil _ _
  refine ⟨hfields, fun h => ?_, ?_, hperm, fun h => ?_⟩
  · have hbefore := (hwhole "author" hfields).1 h [("author__mail", .string "a@b")] (.int 7) _ rfl
    exact List.cons_ne_nil _ _ hbefore
  · exact hclash "tag" (clashingRow.entries.take 3) .null _ rfl rfl
  · exact absurd ((hsame plainFirst hperm).1 h "author").length_eq (by decide)

/-- The author's name stands before a plain `author`. -/
def replacedRow : Row := .ofList [("author__name", .string "Ada"), ("author", .int 7)]

/-- The plain column replaces the object of the group, and the name is lost. -/
theorem plain_replaces_group :
    split? "author__name" = some ("author", "name") ∧
      (nest replacedRow).entries = [("author", .scalar (.int 7))] ∧
      (nest replacedRow).find? "author" ≠ some (.object (fieldsOf "author" replacedRow.entries)) := by
  have hfind : (nest replacedRow).find? "author" = some (.scalar (.int 7)) := rfl
  refine ⟨by decide, rfl, fun h => ?_⟩
  exact nomatch hfind.symm.trans h

end Nesting
end SelectionSql
