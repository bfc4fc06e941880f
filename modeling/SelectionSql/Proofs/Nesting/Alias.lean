import Mathlib.Data.List.Basic
import SelectionSql.Proofs.Outcome
import SelectionSql.Schema.Basic

/-!
# Aliases of joined columns

A joined column stands in a flat row under its alias, `relation__column`, and is found again by
cutting the alias at its first `__`. No field name of a valid schema holds a `__`; but one that ends
in `_` gives an alias whose first `__` starts one character too early.

* `Nesting.isReserved_iff`: a reserved name holds a `__`.
* `Nesting.splitChars_delimiter`: where an alias is cut.
* `Nesting.split?_columnAlias`, `Nesting.split?_columnAlias_underscore`: what it is cut into.
* `Nesting.columnAlias_eq_iff`: which aliases are equal.
* `Nesting.alias_recoverable_iff`: in a valid schema, a joined column comes back under its relation
  exactly if the relation's name does not end in `_`.
-/
set_option autoImplicit false

namespace SelectionSql

namespace Nesting

/-! ## Where a name is cut -/

theorem splitChars_cons {c : Char} {rest : List Char}
    (h : ¬ (c = '_' ∧ rest.head? = some '_')) :
    splitChars (c :: rest) = (splitChars rest).map fun p => (c :: p.1, p.2) := by
  rw [splitChars]
  rintro after rfl rfl
  exact h ⟨rfl, rfl⟩

theorem splitChars_eq_none_cons {c : Char} {rest : List Char}
    (h : splitChars (c :: rest) = none) :
    ¬ (c = '_' ∧ rest.head? = some '_') ∧ splitChars rest = none := by
  have hstart : ¬ (c = '_' ∧ rest.head? = some '_') := by
    rintro ⟨rfl, hhead⟩
    obtain ⟨after, rfl⟩ := List.head?_eq_some_iff.1 hhead
    cases h
  rw [splitChars_cons hstart, Option.map_eq_none_iff] at h
  exact ⟨hstart, h⟩

theorem isReserved_iff {name : String} :
    isReserved name = true ↔ ['_', '_'] <:+: name.toList := by
  rw [isReserved]
  induction name.toList with
  | nil => simp [splitChars]
  | cons c rest ih =>
    by_cases hstart : c = '_' ∧ rest.head? = some '_'
    · obtain ⟨rfl, hhead⟩ := hstart
      obtain ⟨after, rfl⟩ := List.head?_eq_some_iff.1 hhead
      exact ⟨fun _ => ⟨[], after, rfl⟩, fun _ => rfl⟩
    · rw [splitChars_cons hstart, Option.isSome_map, ih, List.infix_cons_iff]
      refine ⟨.inr, ?_⟩
      rintro (⟨after, h⟩ | h)
      · cases h
        exact absurd ⟨rfl, rfl⟩ hstart
      · exact h

/-- The first `__` behind a name without one: its own last `_`, if it has one, is part of it. -/
theorem splitChars_delimiter {a : List Char} (ha : splitChars a = none) (b : List Char) :
    splitChars (a ++ '_' :: '_' :: b) =
      some (if a.getLast? = some '_' then (a.dropLast, '_' :: b) else (a, b)) := by
  induction a with
  | nil => rfl
  | cons c a ih =>
    obtain ⟨hstart, htail⟩ := splitChars_eq_none_cons ha
    -- Only the last character of the name can make a `__` with the delimiter.
    cases a with
    | nil =>
      by_cases hc : c = '_'
      · subst hc
        rfl
      · have hcut : splitChars ([c] ++ '_' :: '_' :: b) = some ([c], b) := by
          rw [List.singleton_append, splitChars_cons fun h => hc h.1]
          rfl
        rw [hcut, if_neg]
        simpa using hc
    | cons c' a =>
      have hcut : splitChars (c :: c' :: a ++ '_' :: '_' :: b) =
          (splitChars (c' :: a ++ '_' :: '_' :: b)).map fun p => (c :: p.1, p.2) :=
        splitChars_cons hstart
      rw [hcut, ih htail, List.getLast?_cons_cons]
      split
      · rw [Option.map_some, List.dropLast_cons_cons]
      · rfl

/-! ## Aliases -/

def endsInUnderscore (name : String) : Prop := name.toList.getLast? = some '_'

instance (name : String) : Decidable (endsInUnderscore name) :=
  inferInstanceAs (Decidable (name.toList.getLast? = some '_'))

theorem toList_columnAlias (relation column : String) :
    (columnAlias relation column).toList = relation.toList ++ '_' :: '_' :: column.toList := by
  rw [columnAlias, String.toList_append, String.toList_append, List.append_assoc]
  rfl

theorem split?_eq_some_iff {name group field : String} :
    split? name = some (group, field) ↔
      splitChars name.toList = some (group.toList, field.toList) := by
  rw [split?, Option.map_eq_some_iff]
  constructor
  · rintro ⟨⟨a, b⟩, h, heq⟩
    cases heq
    rw [h, String.toList_ofList, String.toList_ofList]
  · intro h
    exact ⟨_, h, by rw [String.ofList_toList, String.ofList_toList]⟩

section Split
variable {relation : String} (hplain : isReserved relation = false)
include hplain

theorem splitChars_eq_none : splitChars relation.toList = none :=
  Option.isSome_eq_false_iff.1 hplain |> Option.isNone_iff_eq_none.1

theorem split?_columnAlias (hend : ¬ endsInUnderscore relation) (column : String) :
    split? (columnAlias relation column) = some (relation, column) := by
  rw [split?_eq_some_iff, toList_columnAlias, splitChars_delimiter (splitChars_eq_none hplain)]
  exact congrArg some (if_neg hend)

theorem split?_columnAlias_underscore (hend : endsInUnderscore relation) (column : String) :
    split? (columnAlias relation column) =
      some (String.ofList relation.toList.dropLast, "_" ++ column) := by
  rw [split?_eq_some_iff, toList_columnAlias, splitChars_delimiter (splitChars_eq_none hplain),
    String.toList_ofList, String.toList_append]
  exact congrArg some (if_pos hend)

end Split

theorem ofList_dropLast_append {name : String} (h : endsInUnderscore name) :
    String.ofList name.toList.dropLast ++ "_" = name := by
  refine String.toList_inj.1 ?_
  rw [String.toList_append, String.toList_ofList]
  exact List.dropLast_append_getLast? _ h

theorem ofList_dropLast_ne {name : String} (h : endsInUnderscore name) :
    String.ofList name.toList.dropLast ≠ name := by
  intro heq
  have hlength := congrArg String.length (ofList_dropLast_append h)
  rw [heq, String.length_append] at hlength
  have hone : "_".length = 1 := rfl
  omega

theorem columnAlias_shift (relation column : String) :
    columnAlias (relation ++ "_") column = columnAlias relation ("_" ++ column) := by
  refine String.toList_inj.1 ?_
  rw [toList_columnAlias, toList_columnAlias, String.toList_append, String.toList_append,
    List.append_assoc]
  rfl

theorem underscore_append_inj {a b : String} (h : "_" ++ a = "_" ++ b) : a = b := by
  have hlist := congrArg String.toList h
  rw [String.toList_append, String.toList_append] at hlist
  exact String.toList_inj.1 (List.append_cancel_left hlist)

/-- Two aliases are equal only if they name one column of one relation, or if a `_` stands at the
end of one relation's name and at the start of the other's column. -/
theorem columnAlias_eq_iff {r r' : String} (hr : isReserved r = false)
    (hr' : isReserved r' = false) (c c' : String) :
    columnAlias r c = columnAlias r' c' ↔
      (r = r' ∧ c = c') ∨ (r = r' ++ "_" ∧ c' = "_" ++ c) ∨ (r' = r ++ "_" ∧ c = "_" ++ c') := by
  constructor
  · intro h
    have hsplit := congrArg split? h
    by_cases hend : endsInUnderscore r <;> by_cases hend' : endsInUnderscore r'
    · rw [split?_columnAlias_underscore hr hend, split?_columnAlias_underscore hr' hend'] at hsplit
      obtain ⟨hinit, hcolumn⟩ := Prod.mk.inj (Option.some.inj hsplit)
      refine .inl ⟨?_, underscore_append_inj hcolumn⟩
      rw [← ofList_dropLast_append hend, hinit, ofList_dropLast_append hend']
    · rw [split?_columnAlias_underscore hr hend, split?_columnAlias hr' hend'] at hsplit
      obtain ⟨hinit, hcolumn⟩ := Prod.mk.inj (Option.some.inj hsplit)
      exact .inr (.inl ⟨by rw [← hinit, ofList_dropLast_append hend], hcolumn.symm⟩)
    · rw [split?_columnAlias hr hend, split?_columnAlias_underscore hr' hend'] at hsplit
      obtain ⟨hinit, hcolumn⟩ := Prod.mk.inj (Option.some.inj hsplit)
      exact .inr (.inr ⟨by rw [hinit, ofList_dropLast_append hend'], hcolumn⟩)
    · rw [split?_columnAlias hr hend, split?_columnAlias hr' hend'] at hsplit
      exact .inl (Prod.mk.inj (Option.some.inj hsplit))
  · rintro (⟨rfl, rfl⟩ | ⟨rfl, rfl⟩ | ⟨rfl, rfl⟩)
    · rfl
    · exact columnAlias_shift r' c
    · exact (columnAlias_shift r c').symm

/-! ## The row of one joined column -/

theorem entries_nest_single {column group field : String} (h : split? column = some (group, field))
    (value : Scalar) :
    (nest (.ofList [(column, value)])).entries = [(group, .object [(field, .scalar value)])] := by
  show (addColumn .empty column value).entries = _
  rw [addColumn, h]
  rfl

theorem entries_nest_columnAlias_iff {relation : String} (hplain : isReserved relation = false)
    (column : String) (value : Scalar) :
    (nest (.ofList [(columnAlias relation column, value)])).entries =
        [(relation, .object [(column, .scalar value)])] ↔ ¬ endsInUnderscore relation := by
  constructor
  · intro h hend
    rw [entries_nest_single (split?_columnAlias_underscore hplain hend column)] at h
    exact ofList_dropLast_ne hend (Prod.mk.inj (List.cons.inj h).1).1
  · exact fun hend => entries_nest_single (split?_columnAlias hplain hend column) value

/-! ## Valid schemas -/

theorem isReserved_of_field? {schema : Schema} (h : schema.validate = .ok ())
    {typeName name : String} {f : FieldDef} (hfield : schema.field? typeName name = some f) :
    isReserved name = false := by
  unfold Schema.validate at h
  split at h
  · obtain ⟨t, ht, hname⟩ := Option.bind_eq_some_iff.1 hfield
    have htype : t ∈ schema.types.values :=
      List.mem_map.2 ⟨(typeName, t), Entries.mem_of_find? ht, rfl⟩
    have hkey : name ∈ t.fields.keys :=
      List.mem_map.2 ⟨(name, f), Entries.mem_of_find? hname, rfl⟩
    have hcheck := forM_eq_ok_iff.1 (forM_eq_ok_iff.1 h t htype) name hkey
    cases hreserved : isReserved name with
    | false => rfl
    | true =>
      rw [SchemaType.checkName, hreserved, if_pos rfl] at hcheck
      cases hcheck
  · cases h

/-- In a valid schema a column of a relation comes back under the relation exactly if the relation's
name does not end in `_`; otherwise the `_` goes over to the column. -/
theorem alias_recoverable_iff {schema : Schema} (h : schema.validate = .ok ()) {typeName r : String}
    {f : FieldDef} (hfield : schema.field? typeName r = some f) :
    (∀ (c : String) (v : Scalar), (nest (.ofList [(columnAlias r c, v)])).entries =
      [(r, .object [(c, .scalar v)])] ↔ ¬ endsInUnderscore r) ∧
    (endsInUnderscore r → ∀ (c : String) (v : Scalar),
      (nest (.ofList [(columnAlias r c, v)])).entries =
        [(String.ofList r.toList.dropLast, .object [("_" ++ c, .scalar v)])]) ∧
    ∀ (typeName' r' : String) (f' : FieldDef), schema.field? typeName' r' = some f' →
      ∀ c c' : String, columnAlias r c = columnAlias r' c' ↔
        (r = r' ∧ c = c') ∨ (r = r' ++ "_" ∧ c' = "_" ++ c) ∨ (r' = r ++ "_" ∧ c = "_" ++ c') := by
  have hplain := isReserved_of_field? h hfield
  refine ⟨fun c v => entries_nest_columnAlias_iff hplain c v, fun hend c v => ?_,
    fun typeName' r' f' hfield' c c' => ?_⟩
  · exact entries_nest_single (split?_columnAlias_underscore hplain hend c) v
  · exact columnAlias_eq_iff hplain (isReserved_of_field? h hfield') c c'

/-- Posts with an author and, under a name with one more `_`, another one. -/
def authorsSchema : Schema :=
  (((Schema.ofQueryType "Query").withType ⟨"Query", .ofList [
      ("posts", ⟨"posts", ⟨"Post", true, true⟩, .none⟩)]⟩).withType ⟨"Post", .ofList [
      ("author", ⟨"author", ⟨"User", false, true⟩, .toOne⟩),
      ("author_", ⟨"author_", ⟨"User", false, true⟩, .toOne⟩)]⟩).withType ⟨"User", .ofList [
      ("name", ⟨"name", ⟨"String", false, true⟩, .none⟩),
      ("_name", ⟨"_name", ⟨"String", false, true⟩, .none⟩)]⟩

theorem alias_recoverable_authors :
    authorsSchema.validate = .ok () ∧
      authorsSchema.field? "Post" "author_" =
        some ⟨"author_", ⟨"User", false, true⟩, .toOne⟩ ∧
      authorsSchema.field? "Post" "author" = some ⟨"author", ⟨"User", false, true⟩, .toOne⟩ ∧
      columnAlias "author_" "name" = columnAlias "author" "_name" := by
  have hvalid : authorsSchema.validate = .ok () := by rfl
  have hlast : authorsSchema.field? "Post" "author_" =
      some ⟨"author_", ⟨"User", false, true⟩, .toOne⟩ := by rfl
  have hfirst : authorsSchema.field? "Post" "author" =
      some ⟨"author", ⟨"User", false, true⟩, .toOne⟩ := by rfl
  refine ⟨hvalid, hlast, hfirst, ?_⟩
  exact ((alias_recoverable_iff hvalid hlast).2.2 "Post" "author" _ hfirst "name" "_name").2
    (.inr (.inl ⟨rfl, rfl⟩))

/-- A column of a relation that comes back under another one. -/
theorem alias_lost :
    authorsSchema.validate = .ok () ∧ authorsSchema.relationOf "Post" "author_" = .toOne ∧
      (nest (.ofList [(columnAlias "author_" "name", .string "Ada")])).entries ≠
        [("author_", .object [("name", .scalar (.string "Ada"))])] := by
  refine ⟨rfl, rfl, fun h => ?_⟩
  have hgroup := (Prod.mk.inj (List.cons.inj h).1).1
  exact absurd hgroup (by decide)

end Nesting
end SelectionSql
