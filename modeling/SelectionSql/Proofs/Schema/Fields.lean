import Mathlib.Data.List.Duplicate
import SelectionSql.Proofs.Nesting.Rows
import SelectionSql.Proofs.Outcome
import SelectionSql.Schema.OfDocument

/-!
# The fields that a definition declares

* `Schema.Innermost`, `Declares`, `IndexedAs`: what a field of a document declares, and the entry
  that it becomes.
* `Schema.Conflicting`: two directives name different relations.
* `Schema.fieldOf_eq_ok_iff`, `fieldOf_eq_error_iff`: a field becomes its entry unless its
  directives conflict.
* `SchemaType.addField?_ok`, `addField?_error`: a field is appended unless its name is reserved or
  stands already; `addFields?_ok`, `addFields?_error`: the same of several.
* `Schema.addType?_ok`, `addType?_error`: a type is appended unless its name stands already.
* `Schema.typeOfFields_ok`, `typeOfFields_error`: the same of the fields of one definition.
-/
set_option autoImplicit false

namespace SelectionSql
namespace Schema
open Grammar (Directive TypeTerm)

/-! ## What a field declares -/

/-- The name inside all wrappers of a type. -/
inductive Innermost : TypeTerm → String → Prop
  | named (name : String) (nonNull : Bool) : Innermost (.named name nonNull) name
  | list {item : TypeTerm} {name : String} (nonNull : Bool) (h : Innermost item name) :
      Innermost (.list item nonNull) name

def Carried (directives : List Directive) (name : String) : Prop := ∃ d ∈ directives, d.name = name

def relationDirectives : List String := ["toOne", "toMany", "toManyMany"]

/-- Two different directives name a relation. -/
def Conflicting (directives : List Directive) : Prop :=
  ∃ a ∈ relationDirectives, ∃ b ∈ relationDirectives,
    a ≠ b ∧ Carried directives a ∧ Carried directives b

/-- Of the directives that name a relation, only `name` is carried. -/
def CarriedAlone (directives : List Directive) (name : String) : Prop :=
  Carried directives name ∧ ∀ other ∈ relationDirectives, Carried directives other → other = name

/-- The relation that directives declare. -/
def Declares (directives : List Directive) : Relation → Prop
  | .none => ∀ name ∈ relationDirectives, ¬ Carried directives name
  | .toOne => CarriedAlone directives "toOne"
  | .toMany => CarriedAlone directives "toMany"
  | .toManyMany first =>
    CarriedAlone directives "toManyMany" ∧ (first = true ↔ Carried directives "first")

/-- The entry that a field becomes. -/
structure IndexedAs (f : FieldDefinition) (e : String × FieldDef) : Prop where
  key : e.1 = f.name
  name : e.2.name = f.name
  innermost : Innermost f.type e.2.type.name
  list : e.2.type.list = true ↔ ∃ item nonNull, f.type = .list item nonNull
  nullable : e.2.type.nullable = true ↔
    (∃ name, f.type = .named name false) ∨ ∃ item, f.type = .list item false
  relation : Declares f.directives e.2.relation

theorem innermost_iff {term : TypeTerm} {name : String} :
    Innermost term name ↔ innermostName term = name := by
  constructor
  · intro h
    induction h with
    | named name nonNull => rfl
    | list nonNull _ ih => exact ih
  · intro h
    induction term with
    | named given nonNull =>
      cases h
      exact .named given nonNull
    | list item nonNull ih => exact .list nonNull (ih h)

theorem carries_iff {directives : List Directive} {name : String} :
    carries directives name = true ↔ Carried directives name := by
  simp [carries, Carried]

theorem relationOfDirectives_eq_some_iff {directives : List Directive} {relation : Relation} :
    relationOfDirectives directives = some relation ↔ Declares directives relation := by
  unfold relationOfDirectives declaredRelations
  cases hone : carries directives "toOne" <;> cases hmany : carries directives "toMany" <;>
    cases hpivot : carries directives "toManyMany" <;> cases relation <;>
    simp [Declares, CarriedAlone, relationDirectives, ← carries_iff, hone, hmany, hpivot]
  -- Only the pivot is declared, and one of its sides first.
  rw [eq_comm, Bool.eq_iff_iff]

theorem relationOfDirectives_eq_none_iff {directives : List Directive} :
    relationOfDirectives directives = none ↔ Conflicting directives := by
  unfold relationOfDirectives declaredRelations
  cases hone : carries directives "toOne" <;> cases hmany : carries directives "toMany" <;>
    cases hpivot : carries directives "toManyMany" <;>
    simp [Conflicting, relationDirectives, ← carries_iff, hone, hmany, hpivot]

theorem typeRefOf_list {term : TypeTerm} :
    (typeRefOf term).list = true ↔ ∃ item nonNull, term = .list item nonNull := by
  cases term <;> simp [typeRefOf]

theorem typeRefOf_nullable {term : TypeTerm} :
    (typeRefOf term).nullable = true ↔
      (∃ name, term = .named name false) ∨ ∃ item, term = .list item false := by
  cases term <;> simp [typeRefOf]

theorem typeRefOf_name (term : TypeTerm) : (typeRefOf term).name = innermostName term := by
  cases term <;> rfl

theorem IndexedAs.type_eq {f : FieldDefinition} {e : String × FieldDef} (h : IndexedAs f e) :
    e.2.type = typeRefOf f.type := by
  have hname : e.2.type.name = (typeRefOf f.type).name :=
    (innermost_iff.1 h.innermost).symm.trans (typeRefOf_name f.type).symm
  have hlist : e.2.type.list = (typeRefOf f.type).list :=
    Bool.eq_iff_iff.2 (h.list.trans typeRefOf_list.symm)
  have hnullable : e.2.type.nullable = (typeRefOf f.type).nullable :=
    Bool.eq_iff_iff.2 (h.nullable.trans typeRefOf_nullable.symm)
  generalize e.2.type = t at *
  cases t
  cases hname
  cases hlist
  cases hnullable
  rfl

theorem fieldOf_eq_ok_iff {typeName : String} {f : FieldDefinition} {d : FieldDef} :
    fieldOf typeName f = .ok d ↔ IndexedAs f (f.name, d) := by
  unfold fieldOf
  constructor
  · intro h
    split at h
    · next relation hrelation =>
      cases h
      exact ⟨rfl, rfl, innermost_iff.2 (typeRefOf_name f.type).symm, typeRefOf_list,
        typeRefOf_nullable, relationOfDirectives_eq_some_iff.1 hrelation⟩
    · cases h
  · intro h
    obtain ⟨name, type, relation⟩ := d
    have hname : name = f.name := h.name
    have htype : type = typeRefOf f.type := h.type_eq
    rw [relationOfDirectives_eq_some_iff.2 h.relation, hname, htype]

theorem fieldOf_eq_error_iff {typeName : String} {f : FieldDefinition} {e : SchemaError} :
    fieldOf typeName f = .error e ↔
      Conflicting f.directives ∧ e = .conflictingDirectives typeName f.name := by
  unfold fieldOf
  rw [← relationOfDirectives_eq_none_iff]
  cases relationOfDirectives f.directives with
  | none => simp [eq_comm]
  | some relation => simp

end Schema

/-! ## Adding fields -/

namespace SchemaType

theorem addField?_ok {t t' : SchemaType} {f : FieldDef} (h : t.addField? f = .ok t') :
    Nesting.isReserved f.name = false ∧ f.name ∉ t.fields.keys ∧ t'.name = t.name ∧
      t'.fields.entries = t.fields.entries ++ [(f.name, f)] := by
  unfold addField? checkName at h
  cases hreserved : Nesting.isReserved f.name with
  | true =>
    rw [hreserved] at h
    cases h
  | false =>
    obtain ⟨_, -, h⟩ := bind_eq_ok_iff.1 h
    split at h
    · cases h
    · next hknown =>
      cases h
      have hnew : f.name ∉ t.fields.keys := fun hmem =>
        hknown ((OrderedMap.contains_iff _ _).2 hmem)
      exact ⟨rfl, hnew, rfl, Entries.insert_of_notMem hnew f⟩

theorem addField?_error {t : SchemaType} {f : FieldDef} {e : SchemaError}
    (h : t.addField? f = .error e) :
    (Nesting.isReserved f.name = true ∧ e = .reservedFieldName t.name f.name) ∨
      (Nesting.isReserved f.name = false ∧ f.name ∈ t.fields.keys ∧
        e = .duplicateField t.name f.name) := by
  unfold addField? checkName at h
  cases hreserved : Nesting.isReserved f.name with
  | true =>
    rw [hreserved] at h
    cases h
    exact .inl ⟨rfl, rfl⟩
  | false =>
    rw [hreserved] at h
    obtain h | ⟨_, -, h⟩ := bind_eq_error_iff.1 h
    · cases h
    · split at h
      · next hknown =>
        cases h
        exact .inr ⟨rfl, (OrderedMap.contains_iff _ _).1 hknown, rfl⟩
      · cases h

theorem duplicate_of_mem {names : List String} {name : String} (h : name ∈ names)
    (rest : List String) : List.Duplicate name (names ++ name :: rest) := by
  have hpair : [name, name].Sublist (names ++ name :: rest) :=
    (List.singleton_sublist.2 h).append ((List.nil_sublist rest).cons_cons name)
  exact List.duplicate_iff_sublist.2 hpair

section Adding
variable {α : Type} {field : α → Except SchemaError FieldDef} {name : α → String} {l : List α}
  {t t' : SchemaType}

/-- What the elements of a list are read as is appended, in order. -/
theorem foldlM_addField_ok (hname : ∀ a f, field a = .ok f → f.name = name a)
    (h : l.foldlM (fun t a => do t.addField? (← field a)) t = .ok t') :
    t'.name = t.name ∧ (∀ a ∈ l, Nesting.isReserved (name a) = false) ∧
      ∃ entries, List.Forall₂ (fun a e => e.1 = name a ∧ field a = .ok e.2) l entries ∧
        t'.fields.entries = t.fields.entries ++ entries := by
  induction l generalizing t with
  | nil =>
    cases h
    exact ⟨rfl, fun a ha => absurd ha List.not_mem_nil, [], .nil, (List.append_nil _).symm⟩
  | cons a rest ih =>
    rw [List.foldlM_cons] at h
    obtain ⟨t₁, ha, hrest⟩ := bind_eq_ok_iff.1 h
    obtain ⟨f, hf, hadd⟩ := bind_eq_ok_iff.1 ha
    obtain ⟨hplain, -, hsame, hentries⟩ := addField?_ok hadd
    obtain ⟨hsame', hplain', entries, hall, hentries'⟩ := ih hrest
    rw [hname a f hf] at hplain hentries
    refine ⟨hsame'.trans hsame, List.forall_mem_cons.2 ⟨hplain, hplain'⟩,
      (name a, f) :: entries, .cons ⟨rfl, hf⟩ hall, ?_⟩
    rw [hentries', hentries, List.append_assoc, List.singleton_append]

theorem foldlM_addField_error (hname : ∀ a f, field a = .ok f → f.name = name a) {e : SchemaError}
    (h : l.foldlM (fun t a => do t.addField? (← field a)) t = .error e) :
    (∃ a ∈ l, field a = .error e) ∨
      (∃ a ∈ l, Nesting.isReserved (name a) = true ∧ e = .reservedFieldName t.name (name a)) ∨
      ∃ twice, List.Duplicate twice (t.fields.keys ++ l.map name) ∧
        e = .duplicateField t.name twice := by
  induction l generalizing t with
  | nil => cases h
  | cons a rest ih =>
    rw [List.foldlM_cons] at h
    rcases bind_eq_error_iff.1 h with ha | ⟨t₁, ha, hrest⟩
    · rcases bind_eq_error_iff.1 ha with hf | ⟨f, hf, hadd⟩
      · exact .inl ⟨a, List.mem_cons_self, hf⟩
      · rcases addField?_error hadd with ⟨hreserved, he⟩ | ⟨-, hknown, he⟩
        · rw [hname a f hf] at hreserved he
          exact .inr (.inl ⟨a, List.mem_cons_self, hreserved, he⟩)
        · rw [hname a f hf] at hknown he
          exact .inr (.inr ⟨name a, duplicate_of_mem hknown _, he⟩)
    · obtain ⟨f, hf, hadd⟩ := bind_eq_ok_iff.1 ha
      obtain ⟨-, -, hsame, hentries⟩ := addField?_ok hadd
      have hkeys : t₁.fields.keys = t.fields.keys ++ [name a] := by
        rw [OrderedMap.keys, hentries, Entries.keys, List.map_append, hname a f hf]
        rfl
      have hlater := ih hrest
      rw [hsame, hkeys, List.append_assoc] at hlater
      rcases hlater with ⟨b, hb, he⟩ | ⟨b, hb, hreserved, he⟩ | htwice
      · exact .inl ⟨b, List.mem_cons_of_mem a hb, he⟩
      · exact .inr (.inl ⟨b, List.mem_cons_of_mem a hb, hreserved, he⟩)
      · exact .inr (.inr htwice)

end Adding

theorem name_of_ok (f g : FieldDef) (h : (.ok f : Except SchemaError FieldDef) = .ok g) :
    g.name = f.name := congrArg FieldDef.name (Except.ok.inj h).symm

theorem addFields?_ok {t t' : SchemaType} {more : Entries FieldDef}
    (hown : ∀ e ∈ more, e.1 = e.2.name) (h : t.addFields? (more.map Prod.snd) = .ok t') :
    t'.name = t.name ∧ t'.fields.entries = t.fields.entries ++ more := by
  obtain ⟨hname, -, entries, hall, hentries⟩ := foldlM_addField_ok name_of_ok h
  have hsame : more = entries := by
    clear hentries h
    induction more generalizing entries with
    | nil =>
      cases hall
      rfl
    | cons e rest ih =>
      cases hall with
      | cons he hrest =>
        have hkey := (hown e List.mem_cons_self).trans he.1.symm
        rw [Prod.ext hkey (Except.ok.inj he.2), ih (fun e' he' => hown e' (.tail e he')) _ hrest]
  exact ⟨hname, hsame ▸ hentries⟩

theorem addFields?_error {t : SchemaType} {fs : List FieldDef} {e : SchemaError}
    (h : t.addFields? fs = .error e) :
    (∃ f ∈ fs, Nesting.isReserved f.name = true ∧ e = .reservedFieldName t.name f.name) ∨
      ∃ twice, List.Duplicate twice (t.fields.keys ++ fs.map FieldDef.name) ∧
        e = .duplicateField t.name twice := by
  rcases foldlM_addField_error name_of_ok h with ⟨f, -, hf⟩ | hfault
  · cases hf
  · exact hfault

end SchemaType

/-! ## Adding a type -/

namespace Schema

theorem addType?_ok {s s' : Schema} {t : SchemaType} (h : s.addType? t = .ok s') :
    t.name ∉ s.types.keys ∧ s' = s.withType t := by
  unfold addType? at h
  split at h
  · cases h
  · next hknown =>
    cases h
    exact ⟨fun hmem => hknown ((OrderedMap.contains_iff _ _).2 hmem), rfl⟩

theorem addType?_error {s : Schema} {t : SchemaType} {e : SchemaError}
    (h : s.addType? t = .error e) : t.name ∈ s.types.keys ∧ e = .duplicateType t.name := by
  unfold addType? at h
  split at h
  · next hknown =>
    cases h
    exact ⟨(OrderedMap.contains_iff _ _).1 hknown, rfl⟩
  · cases h

end Schema

/-! ## The fields of one definition -/

namespace Schema

theorem name_of_fieldOf {typeName : String} (f : FieldDefinition) (d : FieldDef)
    (h : fieldOf typeName f = .ok d) : d.name = f.name :=
  (fieldOf_eq_ok_iff.1 h).name

theorem typeOfFields_ok {typeName : String} {fields : List FieldDefinition} {t : SchemaType}
    (h : typeOfFields typeName fields = .ok t) :
    t.name = typeName ∧ (∀ f ∈ fields, Nesting.isReserved f.name = false) ∧
      List.Forall₂ IndexedAs fields t.fields.entries := by
  obtain ⟨hname, hplain, entries, hall, hentries⟩ := SchemaType.foldlM_addField_ok name_of_fieldOf h
  have hindexed : List.Forall₂ IndexedAs fields entries := by
    refine hall.imp fun f e he => ?_
    obtain ⟨key, d⟩ := e
    obtain ⟨rfl, hd⟩ := he
    exact fieldOf_eq_ok_iff.1 hd
  rw [show t.fields.entries = entries from hentries]
  exact ⟨hname, hplain, hindexed⟩

theorem typeOfFields_error {typeName : String} {fields : List FieldDefinition} {e : SchemaError}
    (h : typeOfFields typeName fields = .error e) :
    (∃ f ∈ fields, Conflicting f.directives ∧ e = .conflictingDirectives typeName f.name) ∨
      (∃ f ∈ fields, Nesting.isReserved f.name = true ∧ e = .reservedFieldName typeName f.name) ∨
      ∃ twice, List.Duplicate twice (fields.map FieldDefinition.name) ∧
        e = .duplicateField typeName twice := by
  rcases SchemaType.foldlM_addField_error name_of_fieldOf h with ⟨f, hf, he⟩ | hreserved | htwice
  · exact .inl ⟨f, hf, fieldOf_eq_error_iff.1 he⟩
  · exact .inr (.inl hreserved)
  · exact .inr (.inr htwice)

/-- A field that is an entry does not declare two relations. -/
theorem IndexedAs.not_conflicting {f : FieldDefinition} {e : String × FieldDef}
    (h : IndexedAs f e) : ¬ Conflicting f.directives := by
  intro hconflict
  have hnone := relationOfDirectives_eq_none_iff.2 hconflict
  rw [relationOfDirectives_eq_some_iff.2 h.relation] at hnone
  cases hnone

theorem exists_indexedAs {fields : List FieldDefinition} {entries : Entries FieldDef}
    (h : List.Forall₂ IndexedAs fields entries) {e : String × FieldDef} (he : e ∈ entries) :
    ∃ f ∈ fields, IndexedAs f e := by
  induction h with
  | nil => exact absurd he List.not_mem_nil
  | @cons f e' _ _ hf _ ih =>
    rcases List.mem_cons.1 he with rfl | he
    · exact ⟨f, List.mem_cons_self, hf⟩
    · obtain ⟨g, hg, hindexed⟩ := ih he
      exact ⟨g, List.mem_cons_of_mem f hg, hindexed⟩

theorem keys_of_indexedAs {fields : List FieldDefinition} {entries : Entries FieldDef}
    (h : List.Forall₂ IndexedAs fields entries) :
    Entries.keys entries = fields.map FieldDefinition.name := by
  induction h with
  | nil => rfl
  | cons hf _ ih => exact congrArg₂ List.cons hf.key ih

theorem names_of_indexedAs {fields : List FieldDefinition} {entries : Entries FieldDef}
    (h : List.Forall₂ IndexedAs fields entries) :
    (entries.map Prod.snd).map FieldDef.name = fields.map FieldDefinition.name := by
  induction h with
  | nil => rfl
  | cons hf _ ih => exact congrArg₂ List.cons hf.name ih

end Schema
end SelectionSql
