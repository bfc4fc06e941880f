import SelectionSql.Proofs.Entries
import SelectionSql.Proofs.Json.Renderings
import SelectionSql.Proofs.Resolution.LevelRow
import SelectionSql.Proofs.Resolution.Sequential

/-!
# Names in results

Objects are made by putting values under names, one after the other, so that no name comes twice.

* `ResultValue.HasDistinctNames.insert`, `setField?`, `removeField?`: changes of one field.
* `Resolution.hasDistinctNames_nest`: a flat row as an object.
* `Yields.hasDistinctNames`: what a request yields.
* `Resolution.distinct_names_of_resolve`: what a resolution ends with.
-/
set_option autoImplicit false

namespace SelectionSql

/-! ## Changing an object -/

namespace ResultValue.HasDistinctNames
variable {fields : Entries ResultValue} {v value : ResultValue} {name : String}

theorem nodup (h : HasDistinctNames (.object fields)) : (Entries.keys fields).Nodup := by
  cases h with
  | object hnames h => exact hnames

theorem field (h : HasDistinctNames (.object fields)) :
    ∀ field ∈ fields, field.2.HasDistinctNames := by
  cases h with
  | object hnames h => exact h

theorem empty : HasDistinctNames (.object []) :=
  .object List.nodup_nil fun _ h => absurd h List.not_mem_nil

theorem insert (h : HasDistinctNames (.object fields)) (hvalue : value.HasDistinctNames) :
    HasDistinctNames (.object (Entries.insert fields name value)) := by
  refine .object (Entries.nodup_keys_insert h.nodup name value) fun field hfield => ?_
  rcases Entries.mem_insert hfield with hfield | rfl
  · exact h.field field hfield
  · exact hvalue

theorem erase (h : HasDistinctNames (.object fields)) :
    HasDistinctNames (.object (Entries.erase fields name)) :=
  .object (Entries.nodup_keys_erase h.nodup name) fun field hfield =>
    h.field field (List.mem_of_mem_filter hfield)

theorem setField? (h : v.HasDistinctNames) (hvalue : value.HasDistinctNames)
    {changed : ResultValue} {before : Option ResultValue}
    (hset : v.setField? name value = some (changed, before)) : changed.HasDistinctNames := by
  obtain ⟨fields, hfields, heq⟩ := Option.map_eq_some_iff.1 hset
  cases heq
  cases v with
  | object _ =>
    cases hfields
    exact h.insert hvalue
  | _ => cases hfields

theorem removeField? (h : v.HasDistinctNames) {changed : ResultValue}
    {before : Option ResultValue} (hremove : v.removeField? name = some (changed, before)) :
    changed.HasDistinctNames := by
  obtain ⟨fields, hfields, heq⟩ := Option.map_eq_some_iff.1 hremove
  cases heq
  cases v with
  | object _ =>
    cases hfields
    exact h.erase
  | _ => cases hfields

end ResultValue.HasDistinctNames

namespace Resolution
open Selection (Node Related Classified)
open ResultValue (HasDistinctNames)

/-! ## Rows -/

section Rows
variable {row : ResultObject}

theorem hasDistinctNames_groupFields (h : HasDistinctNames (.object row.entries))
    (group : String) : HasDistinctNames (.object (Nesting.groupFields row group)) := by
  unfold Nesting.groupFields
  split
  · next fields hfind => exact h.field (group, .object fields) (Entries.mem_of_find? hfind)
  · exact .empty

theorem hasDistinctNames_addColumn (h : HasDistinctNames (.object row.entries)) (column : String)
    (value : Scalar) : HasDistinctNames (.object (Nesting.addColumn row column value).entries) := by
  unfold Nesting.addColumn
  split
  · exact h.insert (.scalar value)
  · next group field _ =>
    exact h.insert ((hasDistinctNames_groupFields h group).insert (.scalar value))

theorem hasDistinctNames_nest (row : Row) :
    HasDistinctNames (.object (Nesting.nest row).entries) := by
  have hfold : ∀ (columns : List (String × Scalar)) (acc : ResultObject),
      HasDistinctNames (.object acc.entries) → HasDistinctNames (.object
        (columns.foldl (fun acc e => Nesting.addColumn acc e.1 e.2) acc).entries) := by
    intro columns
    induction columns with
    | nil => exact fun acc hacc => hacc
    | cons e rest ih => exact fun acc hacc => ih _ (hasDistinctNames_addColumn hacc e.1 e.2)
  exact hfold row.entries .empty .empty

theorem hasDistinctNames_fill (h : HasDistinctNames (.object row.entries)) {names : List String}
    {value : String × String → ResultValue}
    (hvalue : ∀ name ∈ names, (value (name, keyOf row)).HasDistinctNames) :
    HasDistinctNames (.object (fill names value row).entries) := by
  have hfold : ∀ acc : ResultObject, HasDistinctNames (.object acc.entries) →
      HasDistinctNames (.object (names.foldl
        (fun acc name => acc.insert name (value (name, keyOf row))) acc).entries) := by
    induction names with
    | nil => exact fun acc hacc => hacc
    | cons name rest ih =>
      obtain ⟨hname, hrest⟩ := List.forall_mem_cons.1 hvalue
      exact fun acc hacc => ih hrest _ (hacc.insert hname)
  exact hfold row h

theorem hasDistinctNames_kept (h : HasDistinctNames (.object row.entries)) (hiddenId : Bool) :
    HasDistinctNames (.object (kept hiddenId row).entries) := by
  cases hiddenId with
  | false => exact h
  | true => exact h.erase

theorem hasDistinctNames_arrange (h : HasDistinctNames (.object row.entries)) (node : Node)
    (hiddenId : Bool) : HasDistinctNames (.object (arrange node hiddenId row).entries) := by
  have hkept := hasDistinctNames_kept h hiddenId
  refine .object (arrange node hiddenId row).nodup fun field hfield => ?_
  exact hkept.field field ((arranged_arrange node hiddenId row).perm.mem_iff.1 hfield)

end Rows

theorem mem_parentsOf {cardinality : Cardinality} {rows : List Row} {row : ResultObject}
    (h : row ∈ parentsOf cardinality rows) : ∃ flat, row = Nesting.nest flat := by
  cases cardinality with
  | many =>
    obtain ⟨flat, -, rfl⟩ := List.mem_map.1 h
    exact ⟨flat, rfl⟩
  | one =>
    obtain ⟨flat, -, rfl⟩ := List.mem_map.1 h
    exact ⟨flat, rfl⟩

theorem hasDistinctNames_resultOf (cardinality : Cardinality) {objects : List ResultObject}
    (h : ∀ object ∈ objects, HasDistinctNames (.object object.entries)) :
    (resultOf cardinality objects).HasDistinctNames := by
  cases cardinality with
  | many =>
    refine .list fun v hv => ?_
    obtain ⟨object, hobject, rfl⟩ := List.mem_map.1 hv
    exact h object hobject
  | one =>
    cases objects with
    | nil => exact .scalar .null
    | cons object rest => exact h object List.mem_cons_self

/-! ## Results -/

variable {schema : Schema} {options : Options}

theorem Yields.hasDistinctNames {dialect : Dialect} {r : Request} {cost : Multiset Exchange}
    {v : ResultValue} (h : Yields schema options dialect r cost v) : v.HasDistinctNames := by
  induction h with
  | missing _ _ => exact .scalar .null
  | @level r selected rows caller part value _ _ _ hids _ ih =>
    refine hasDistinctNames_resultOf r.cardinality fun object hobject => ?_
    obtain ⟨row, hrow, rfl⟩ := List.mem_map.1 hobject
    obtain ⟨flat, rfl⟩ := mem_parentsOf hrow
    refine hasDistinctNames_arrange (hasDistinctNames_fill (hasDistinctNames_nest flat) ?_) _ _
    intro name hname
    obtain ⟨related, hrelated, rfl⟩ := List.mem_map.1 hname
    -- What stands under the name is what the relation yields for the id of the row.
    have hindex := keyOf_mem_taskIndexes hids hrelated hrow
    obtain ⟨related', hrelated', p, hp, hk⟩ := mem_taskIndexes.1 hindex
    rw [hk]
    exact ih related' hrelated' p hp

/-- A resolution ends with no object that has two fields of one name. -/
theorem distinct_names_of_resolve {σ : Type} {x : Executor σ} {r : Request} {s s' : σ}
    {v : ResultValue} (h : resolve x schema options r s = (.ok v, s')) : v.HasDistinctNames := by
  obtain ⟨log, -, hyields⟩ := yields_of_resolve h
  exact hyields.hasDistinctNames

end Resolution
end SelectionSql
