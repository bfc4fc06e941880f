import Mathlib.Data.List.Induction
import SelectionSql.Proofs.Nesting.Alias
import SelectionSql.Proofs.Nesting.Rows

/-!
# Nested rows made flat again

`Nesting.nest` gathers the columns of a group in one object. Where no plain column has the name of
a group nothing is lost by it: the object says all columns and values of the row.

* `Nesting.split?_eq_some_iff_alias`: where a column name is cut, said without the cutting.
* `Nesting.topName`: the key under which a column is found, its group's or its own.
* `Nesting.keys_nest`: the keys of the object, in the order in which the columns bring them.
* `Nesting.flatten?`: the columns that an object stands for.
* `Nesting.flatten?_nest`: those of a nested row, key by key.
* `Nesting.nest_undone`: they are the columns of the row.
-/
set_option autoImplicit false

namespace SelectionSql

/-- Elements that are gathered under their names are the same elements in another order. -/
theorem flatMap_filter_perm {α β : Type} [DecidableEq β] (name : α → β) {names : List β}
    (hnodup : names.Nodup) {l : List α} (hnames : ∀ a ∈ l, name a ∈ names) :
    (names.flatMap fun n => l.filter fun a => name a = n).Perm l := by
  induction names generalizing l with
  | nil =>
    have hl : l = [] := List.eq_nil_iff_forall_not_mem.2 fun a ha => List.not_mem_nil (hnames a ha)
    subst hl
    exact List.Perm.nil
  | cons n rest ih =>
    obtain ⟨hn, hrest⟩ := List.nodup_cons.1 hnodup
    -- The other names see only the elements that are not called `n`.
    have hothers : (rest.flatMap fun m => l.filter fun a => name a = m) =
        rest.flatMap fun m => (l.filter fun a => !decide (name a = n)).filter fun a => name a = m := by
      refine List.flatMap_congr fun m hm => ?_
      rw [List.filter_filter]
      refine List.filter_congr fun a _ => ?_
      by_cases ha : name a = m
      · have hne : name a ≠ n := fun h => hn (h ▸ ha ▸ hm)
        simp [ha, ha ▸ hne]
      · simp [ha]
    have hperm := ih hrest (l := l.filter fun a => !decide (name a = n)) fun a ha => by
      obtain ⟨hal, hne⟩ := List.mem_filter.1 ha
      exact (List.mem_cons.1 (hnames a hal)).resolve_left (by simpa using hne)
    rw [List.flatMap_cons, hothers]
    exact (hperm.append_left _).trans (List.filter_append_perm _ l)

theorem eraseDups_concat {α : Type} [DecidableEq α] (l : List α) (a : α) :
    (l ++ [a]).eraseDups = if a ∈ l then l.eraseDups else l.eraseDups ++ [a] := by
  rw [List.eraseDups_append]
  split
  · next hmem => simp [List.removeAll, hmem]
  · next hmem => simp [List.removeAll, hmem, List.eraseDups_cons]

namespace Nesting

/-! ## Groups and keys -/

theorem splitChars_sound {cs a b : List Char} (h : splitChars cs = some (a, b)) :
    cs = a ++ '_' :: '_' :: b ∧ splitChars a = none ∧ a.getLast? ≠ some '_' := by
  induction cs generalizing a with
  | nil => cases h
  | cons c rest ih =>
    by_cases hstart : c = '_' ∧ rest.head? = some '_'
    · obtain ⟨rfl, hhead⟩ := hstart
      obtain ⟨after, rfl⟩ := List.head?_eq_some_iff.1 hhead
      cases h
      exact ⟨rfl, rfl, by simp⟩
    · rw [splitChars_cons hstart] at h
      obtain ⟨⟨a', b'⟩, hrest, heq⟩ := Option.map_eq_some_iff.1 h
      cases heq
      obtain ⟨rfl, hnone, hlast⟩ := ih hrest
      refine ⟨rfl, ?_, ?_⟩
      · rw [splitChars_cons, hnone]
        · rfl
        · rintro ⟨rfl, hhead⟩
          cases a' with
          | nil => cases hhead
          | cons d a' => exact hstart ⟨rfl, hhead⟩
      · cases a' with
        | nil =>
          intro hc
          cases hc
          exact hstart ⟨rfl, rfl⟩
        | cons d a' => rwa [List.getLast?_cons_cons]

/-- A column name is cut at its first `__`: what stands before holds none, and has no `_` at its
end. -/
theorem split?_eq_some_iff_alias {name group field : String} :
    split? name = some (group, field) ↔
      name = columnAlias group field ∧ isReserved group = false ∧ ¬ endsInUnderscore group := by
  constructor
  · intro h
    obtain ⟨hname, hnone, hlast⟩ := splitChars_sound (split?_eq_some_iff.1 h)
    refine ⟨String.toList_inj.1 ?_, ?_, hlast⟩
    · rw [toList_columnAlias, hname]
    · rw [isReserved, hnone]
      rfl
  · rintro ⟨rfl, hplain, hend⟩
    exact split?_columnAlias hplain hend field

theorem split?_eq_none_iff {name : String} : split? name = none ↔ isReserved name = false := by
  rw [split?, Option.map_eq_none_iff, isReserved, Option.isSome_eq_false_iff,
    Option.isNone_iff_eq_none]

theorem split?_group {name group field : String} (h : split? name = some (group, field)) :
    split? group = none := split?_eq_none_iff.2 (split?_eq_some_iff_alias.1 h).2.1

/-- The group that a column belongs to, if any. -/
def groupOf? (column : String) : Option String := (split? column).map Prod.fst

/-- The key under which a column is found in the object. -/
def topName (column : String) : String := (groupOf? column).getD column

theorem groupOf?_eq_some_iff {column group : String} :
    groupOf? column = some group ↔ ∃ field, split? column = some (group, field) := by
  simp [groupOf?]

theorem groupOf?_eq_none_iff {column : String} : groupOf? column = none ↔ split? column = none :=
  Option.map_eq_none_iff

theorem topName_of_group {column group : String} (h : groupOf? column = some group) :
    topName column = group := by rw [topName, h, Option.getD_some]

theorem topName_of_plain {column : String} (h : split? column = none) : topName column = column := by
  rw [topName, groupOf?_eq_none_iff.2 h, Option.getD_none]

theorem split?_topName (column : String) : split? (topName column) = none := by
  cases hgroup : groupOf? column with
  | none =>
    have hplain := groupOf?_eq_none_iff.1 hgroup
    rwa [topName_of_plain hplain]
  | some group =>
    obtain ⟨field, hsplit⟩ := groupOf?_eq_some_iff.1 hgroup
    rw [topName_of_group hgroup]
    exact split?_group hsplit

theorem keys_addColumn (row : OrderedMap ResultValue) (column : String) (value : Scalar) :
    (addColumn row column value).keys =
      if topName column ∈ row.keys then row.keys else row.keys ++ [topName column] := by
  unfold addColumn
  split
  · next hsplit =>
    rw [topName_of_plain hsplit]
    exact Entries.keys_insert row.entries column _
  · next group field hsplit =>
    rw [topName_of_group (groupOf?_eq_some_iff.2 ⟨field, hsplit⟩)]
    exact Entries.keys_insert row.entries group _

/-- Every column brings its key, unless a column before it has brought it. -/
theorem keys_nest (row : Row) : (nest row).keys = (row.keys.map topName).eraseDups := by
  have hfold : ∀ columns : List (String × Scalar),
      (columns.foldl (fun acc e => addColumn acc e.1 e.2) .empty).keys =
        ((Entries.keys columns).map topName).eraseDups := by
    intro columns
    -- By the last column: whether it brings a key depends on those before it.
    induction columns using List.reverseRecOn with
    | nil => rfl
    | append_singleton columns e ih =>
      rw [List.foldl_append, List.foldl_cons, List.foldl_nil, keys_addColumn, ih, Entries.keys,
        Entries.keys, List.map_append, List.map_append, List.map_singleton, List.map_singleton,
        eraseDups_concat]
      simp only [List.mem_eraseDups]
  exact hfold row.entries

/-! ## The columns of an object -/

/-- The column that a field of a group stands for, if it is a scalar. -/
def fieldColumn? (group : String) : String × ResultValue → Option (String × Scalar)
  | (field, .scalar value) => some (columnAlias group field, value)
  | _ => none

/-- The columns that an entry of an object stands for. Lists, and objects that hold more than
scalars, stand for none. -/
def columnsOf? : String × ResultValue → Option (List (String × Scalar))
  | (name, .scalar value) => some [(name, value)]
  | (group, .object fields) => fields.mapM (fieldColumn? group)
  | (_, .list _) => none

def flatten? (object : Entries ResultValue) : Option (List (String × Scalar)) :=
  (object.mapM columnsOf?).map List.flatten

theorem fieldsOf_cons_of_group {group : String} {e : String × Scalar} {field : String}
    (h : split? e.1 = some (group, field)) (rest : List (String × Scalar)) :
    fieldsOf group (e :: rest) = (field, .scalar e.2) :: fieldsOf group rest := by
  rw [fieldsOf, List.filterMap_cons, h]
  simp only [if_true]
  rfl

theorem fieldsOf_cons_of_other {group : String} {e : String × Scalar}
    (h : groupOf? e.1 ≠ some group) (rest : List (String × Scalar)) :
    fieldsOf group (e :: rest) = fieldsOf group rest := by
  rw [fieldsOf, List.filterMap_cons]
  cases hsplit : split? e.1 with
  | none => rfl
  | some p =>
    have hne : p.1 ≠ group := fun heq => h (groupOf?_eq_some_iff.2 ⟨p.2, by rw [hsplit, ← heq]⟩)
    simp only [if_neg hne]
    rfl

/-- The fields of a group, put behind its name again, are its columns. -/
theorem mapM_fieldColumn? (group : String) (columns : List (String × Scalar)) :
    (fieldsOf group columns).mapM (fieldColumn? group) =
      some (columns.filter fun e => groupOf? e.1 = some group) := by
  induction columns with
  | nil => rfl
  | cons e rest ih =>
    by_cases hgroup : groupOf? e.1 = some group
    · obtain ⟨field, hsplit⟩ := groupOf?_eq_some_iff.1 hgroup
      have hcolumn : fieldColumn? group (field, .scalar e.2) = some e :=
        congrArg some (Prod.ext (split?_eq_some_iff_alias.1 hsplit).1.symm rfl)
      rw [fieldsOf_cons_of_group hsplit, List.filter_cons_of_pos (by simpa using hgroup),
        List.mapM_cons, hcolumn, ih]
      rfl
    · rw [fieldsOf_cons_of_other hgroup, ih, List.filter_cons_of_neg (by simpa using hgroup)]

theorem mem_fieldsOf {group : String} {columns : List (String × Scalar)}
    {f : String × ResultValue} :
    f ∈ fieldsOf group columns ↔
      ∃ e ∈ columns, split? e.1 = some (group, f.1) ∧ f.2 = .scalar e.2 := by
  induction columns with
  | nil => simp [fieldsOf]
  | cons e rest ih =>
    by_cases hgroup : groupOf? e.1 = some group
    · obtain ⟨field, hsplit⟩ := groupOf?_eq_some_iff.1 hgroup
      simp only [fieldsOf_cons_of_group hsplit, List.mem_cons, exists_eq_or_imp, ih, hsplit,
        Option.some.injEq, Prod.mk.injEq, true_and, Prod.ext_iff (x := f), eq_comm (a := field)]
    · rw [fieldsOf_cons_of_other hgroup, ih]
      simp only [List.mem_cons, exists_eq_or_imp]
      refine ⟨.inr, ?_⟩
      rintro (⟨hsplit, -⟩ | hrest)
      · exact absurd (groupOf?_eq_some_iff.2 ⟨f.1, hsplit⟩) hgroup
      · exact hrest

theorem nodup_fieldsOf {columns : List (String × Scalar)} (h : (Entries.keys columns).Nodup)
    (group : String) : (Entries.keys (fieldsOf group columns)).Nodup := by
  induction columns with
  | nil => exact List.nodup_nil
  | cons e rest ih =>
    obtain ⟨he, hrest⟩ := List.nodup_cons.1 h
    by_cases hgroup : groupOf? e.1 = some group
    · obtain ⟨field, hsplit⟩ := groupOf?_eq_some_iff.1 hgroup
      rw [fieldsOf_cons_of_group hsplit]
      refine List.nodup_cons.2 ⟨fun hmem => he ?_, ih hrest⟩
      -- Another column with the same field in the group would have the same name.
      obtain ⟨f, hf, rfl⟩ := List.mem_map.1 hmem
      obtain ⟨e', he', hsplit', -⟩ := mem_fieldsOf.1 hf
      have hname : e'.1 = e.1 := by
        rw [(split?_eq_some_iff_alias.1 hsplit').1, (split?_eq_some_iff_alias.1 hsplit).1]
      exact List.mem_map.2 ⟨e', he', hname⟩
    · rw [fieldsOf_cons_of_other hgroup]
      exact ih hrest

/-! ## Rows without clashes -/

/-- No plain column is called like a group. -/
def Separate (row : Row) : Prop :=
  ∀ column ∈ row.keys, split? column = none → ∀ other ∈ row.keys, groupOf? other ≠ some column

instance (row : Row) : Decidable (Separate row) :=
  inferInstanceAs (Decidable (∀ column ∈ row.keys, split? column = none →
    ∀ other ∈ row.keys, groupOf? other ≠ some column))

section Separate
variable {row : Row} (h : Separate row)
include h

theorem Separate.of_find?_nest {name : String} {value : ResultValue}
    (hfind : (nest row).find? name = some value) :
    ((∃ column ∈ row.keys, groupOf? column = some name) ∧
        value = .object (fieldsOf name row.entries)) ∨
      (name ∈ row.keys ∧ split? name = none ∧ ∃ v, row.find? name = some v ∧ value = .scalar v) := by
  have hkey : name ∈ (nest row).keys := by
    rw [← OrderedMap.contains_iff, OrderedMap.contains, hfind, Option.isSome_some]
  rw [keys_nest, List.mem_eraseDups] at hkey
  obtain ⟨column, hcolumn, rfl⟩ := List.mem_map.1 hkey
  cases hgroup : groupOf? column with
  | some group =>
    rw [topName_of_group hgroup] at hfind ⊢
    have hplain : ∀ e ∈ row.entries, split? e.1 = none → e.1 ≠ group := fun e he hsplit heq =>
      h e.1 (OrderedMap.mem_keys_of_mem he) hsplit column hcolumn (heq ▸ hgroup)
    rw [find?_nest_group row hplain (nodup_fieldsOf row.nodup group)] at hfind
    refine .inl ⟨⟨column, hcolumn, hgroup⟩, ?_⟩
    cases hfields : fieldsOf group row.entries with
    | nil =>
      rw [hfields] at hfind
      cases hfind
    | cons f fields =>
      rw [hfields] at hfind
      cases hfind
      rfl
  | none =>
    have hplain := groupOf?_eq_none_iff.1 hgroup
    rw [topName_of_plain hplain] at hfind ⊢
    have hother : ∀ e ∈ row.entries, ∀ group field,
        split? e.1 = some (group, field) → group ≠ column := fun e he group field hsplit heq =>
      h column hcolumn hplain e.1 (OrderedMap.mem_keys_of_mem he)
        (groupOf?_eq_some_iff.2 ⟨field, heq ▸ hsplit⟩)
    rw [find?_nest_plain row hplain hother] at hfind
    obtain ⟨v, hv, rfl⟩ := Option.map_eq_some_iff.1 hfind
    exact .inr ⟨hcolumn, hplain, v, hv, rfl⟩

theorem Separate.filter_group {column group : String} (hcolumn : column ∈ row.keys)
    (hgroup : groupOf? column = some group) :
    (row.entries.filter fun e => topName e.1 = group) =
      row.entries.filter fun e => groupOf? e.1 = some group := by
  refine List.filter_congr fun e he => decide_eq_decide.2 ⟨fun htop => ?_, topName_of_group⟩
  cases hown : groupOf? e.1 with
  | none =>
    have hplain := groupOf?_eq_none_iff.1 hown
    rw [topName_of_plain hplain] at htop
    exact absurd (htop ▸ hgroup) (h e.1 (OrderedMap.mem_keys_of_mem he) hplain column hcolumn)
  | some own => rw [← htop, topName_of_group hown]

theorem Separate.filter_plain {name : String} (hname : name ∈ row.keys)
    (hplain : split? name = none) :
    (row.entries.filter fun e => topName e.1 = name) =
      row.entries.filter fun e => e.1 = name := by
  refine List.filter_congr fun e he => decide_eq_decide.2 ⟨fun htop => ?_, fun heq => ?_⟩
  · cases hgroup : groupOf? e.1 with
    | none => rwa [topName_of_plain (groupOf?_eq_none_iff.1 hgroup)] at htop
    | some group =>
      rw [topName_of_group hgroup] at htop
      exact absurd (htop ▸ hgroup) (h name hname hplain e.1 (OrderedMap.mem_keys_of_mem he))
  · rw [heq, topName_of_plain hplain]

/-- What stands under a key are the columns that have brought it. -/
theorem Separate.columnsOf? {name : String} {value : ResultValue}
    (hfind : (nest row).find? name = some value) :
    columnsOf? (name, value) = some (row.entries.filter fun e => topName e.1 = name) := by
  rcases h.of_find?_nest hfind with ⟨⟨column, hcolumn, hgroup⟩, rfl⟩ | ⟨hname, hplain, v, hv, rfl⟩
  · rw [h.filter_group hcolumn hgroup]
    exact mapM_fieldColumn? name row.entries
  · have hv' : Entries.find? row.entries name = some v := hv
    rw [h.filter_plain hname hplain, Entries.filter_eq_find? row.nodup, hv']
    rfl

theorem Separate.flatten?_nest : flatten? (nest row).entries =
    some ((nest row).keys.flatMap fun name => row.entries.filter fun e => topName e.1 = name) := by
  have hall : (nest row).entries.mapM Nesting.columnsOf? = some ((nest row).entries.map fun e =>
      row.entries.filter fun e' => topName e'.1 = e.1) := by
    rw [mapM_eq_some_iff, List.forall₂_map_right_iff, List.forall₂_same]
    intro e he
    exact h.columnsOf? ((Entries.mem_iff_find? (nest row).nodup e.1 e.2).1 he)
  rw [flatten?, hall, OrderedMap.keys, Entries.keys, List.flatMap_map, Option.map_some]
  rfl

end Separate

theorem entries_nest_of_plain {row : Row} (h : ∀ column ∈ row.keys, split? column = none) :
    (nest row).entries = row.entries.map fun e => (e.1, .scalar e.2) := by
  have hfold : ∀ (columns : List (String × Scalar)) (acc : OrderedMap ResultValue),
      (∀ e ∈ columns, split? e.1 = none) →
      (columns.foldl (fun acc e => addColumn acc e.1 e.2) acc).entries =
        Entries.extend acc.entries (columns.map fun e => (e.1, .scalar e.2)) := by
    intro columns
    induction columns with
    | nil => exact fun acc _ => rfl
    | cons e rest ih =>
      intro acc hplain
      obtain ⟨he, hrest⟩ := List.forall_mem_cons.1 hplain
      rw [List.foldl_cons, ih _ hrest, addColumn, he]
      rfl
  rw [nest, hfold row.entries .empty fun e he => h e.1 (OrderedMap.mem_keys_of_mem he)]
  refine Entries.ofList_of_nodup ?_
  rw [Entries.keys, List.map_map]
  exact row.nodup

/-- The columns of a row can be read off its nested object, with their values; its keys are in the
order in which the columns bring them, those below a group in the order of the row; and a row of
plain columns stays as it is. -/
theorem nest_undone {row : Row} (h : Separate row) :
    (∃ columns, flatten? (nest row).entries = some columns ∧ columns.Perm row.entries) ∧
      (nest row).keys = (row.keys.map topName).eraseDups ∧
      (∀ group fields, (nest row).find? group = some (.object fields) →
        fields = fieldsOf group row.entries) ∧
      ((∀ column ∈ row.keys, split? column = none) →
        (nest row).entries = row.entries.map fun e => (e.1, .scalar e.2)) := by
  refine ⟨⟨_, h.flatten?_nest, ?_⟩, keys_nest row, fun group fields hfind => ?_,
    entries_nest_of_plain⟩
  · refine flatMap_filter_perm (fun e : String × Scalar => topName e.1) (nest row).nodup fun e he => ?_
    show topName e.1 ∈ (nest row).keys
    rw [keys_nest, List.mem_eraseDups]
    exact List.mem_map.2 ⟨e.1, OrderedMap.mem_keys_of_mem he, rfl⟩
  · rcases h.of_find?_nest hfind with ⟨-, hvalue⟩ | ⟨-, -, v, -, hvalue⟩
    · cases hvalue
      rfl
    · cases hvalue

/-- Two groups whose columns are mixed with each other and with plain ones; the rest of a name may
hold further underscores. -/
def mixedRow : Row := .ofList
  [("author__name", .string "Ada"), ("id", .int 1), ("tag__a__b", .null),
    ("author___mail", .bool true), ("title_", .null), ("tag__", .int 2)]

theorem nest_undone_mixed :
    Separate mixedRow ∧
      (nest mixedRow).keys = ["author", "id", "tag", "title_"] ∧
      (∃ columns, flatten? (nest mixedRow).entries = some columns ∧
        columns.Perm mixedRow.entries) := by
  have hseparate : Separate mixedRow := by decide
  obtain ⟨hcolumns, hkeys, -, -⟩ := nest_undone hseparate
  exact ⟨hseparate, hkeys.trans (by decide), hcolumns⟩

end Nesting
end SelectionSql
