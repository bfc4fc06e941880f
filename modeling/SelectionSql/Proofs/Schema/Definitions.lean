import Mathlib.Data.List.Flatten
import SelectionSql.Proofs.Nesting.Alias
import SelectionSql.Proofs.Schema.Fields

/-!
# What a schema document describes

* `Schema.bases`, `extensions`: the definitions of types and their extensions, in document order.
* `Schema.declaredFields`: the fields under a name, those of extensions last.
* `Schema.Fault`: what is wrong with a document.
* `Schema.Indexes`: a schema holds exactly the types of some definitions, with their fields in
  order; `Indexes.addType`, `Indexes.extend` take one more definition in.
* `Schema.ofDefinitions_eq_ok_iff`: only the order among the definitions of types and the order
  among the extensions count.
* `Schema.indexed_as_declared`: a document is indexed exactly if nothing is wrong with it, and then
  as it declares.
-/
set_option autoImplicit false

namespace SelectionSql
namespace Schema
open Grammar (Directive OperationKind)

/-! ## Definitions -/

/-- An object type or an interface, or fields that are added to one. -/
structure TypeDefinition where
  name : String
  fields : List FieldDefinition

def Definition.type? (extending : Bool) : Definition → Option TypeDefinition
  | .object e name _ fields => if e = extending then some ⟨name, fields⟩ else none
  | _ => none

def bases (ds : List Definition) : List TypeDefinition := ds.filterMap (Definition.type? false)

def extensions (ds : List Definition) : List TypeDefinition :=
  ds.filterMap (Definition.type? true)

/-- The query type that a schema definition names. -/
def Definition.queryRoot? : Definition → Option String
  | .schema _ _ roots => (roots.find? fun r => r.1 = .query).map Prod.snd
  | _ => none

/-- The query type that is named last. -/
def lastQueryRoot (ds : List Definition) (otherwise : String) : String :=
  (ds.filterMap Definition.queryRoot?).getLast?.getD otherwise

/-- The fields of the definitions of one name, in order. -/
def fieldsUnder (defs : List TypeDefinition) (name : String) : List FieldDefinition :=
  (defs.filter fun d => d.name = name).flatMap TypeDefinition.fields

/-- The fields of a type and of its extensions. -/
def declaredFields (ds : List Definition) (name : String) : List FieldDefinition :=
  fieldsUnder (bases ds ++ extensions ds) name

/-- What is wrong with a document. -/
inductive Fault (ds : List Definition) : SchemaError → Prop
  | conflicting {d : TypeDefinition} (hd : d ∈ bases ds ++ extensions ds) {f : FieldDefinition}
      (hf : f ∈ d.fields) (h : Conflicting f.directives) :
      Fault ds (.conflictingDirectives d.name f.name)
  | reserved {d : TypeDefinition} (hd : d ∈ bases ds ++ extensions ds) {f : FieldDefinition}
      (hf : f ∈ d.fields) (h : ['_', '_'] <:+: f.name.toList) :
      Fault ds (.reservedFieldName d.name f.name)
  | duplicateField {name field : String}
      (h : List.Duplicate field ((declaredFields ds name).map FieldDefinition.name)) :
      Fault ds (.duplicateField name field)
  | duplicateType {name : String} (h : List.Duplicate name ((bases ds).map TypeDefinition.name)) :
      Fault ds (.duplicateType name)

/-- A schema holds exactly the types that are defined, each with its fields in order. -/
structure Indexes (defs : List TypeDefinition) (s : Schema) : Prop where
  names : ∀ name, s.hasType name = true ↔ ∃ d ∈ defs, d.name = name
  fields : ∀ name t, s.type? name = some t →
    t.name = name ∧ List.Forall₂ IndexedAs (fieldsUnder defs name) t.fields.entries

/-! ## Gathering -/

/-- The type that a definition describes, where it describes one. -/
def TypeDefinition.type (d : TypeDefinition) : SchemaType :=
  (typeOfFields d.name d.fields).toOption.getD default

/-- A definition describes a type. -/
def TypeDefinition.Describes (d : TypeDefinition) : Prop :=
  typeOfFields d.name d.fields = .ok d.type

theorem TypeDefinition.describes_or (d : TypeDefinition) :
    d.Describes ∨ ∃ e, typeOfFields d.name d.fields = .error e := by
  unfold Describes type
  cases typeOfFields d.name d.fields with
  | error e => exact .inr ⟨e, rfl⟩
  | ok t => exact .inl rfl

theorem lastQueryRoot_cons (d : Definition) (rest : List Definition) (otherwise : String) :
    lastQueryRoot (d :: rest) otherwise =
      lastQueryRoot rest (d.queryRoot?.getD otherwise) := by
  unfold lastQueryRoot
  rw [List.filterMap_cons]
  cases d.queryRoot? with
  | none => rfl
  | some name => rw [List.getLast?_cons]; rfl

/-- A definition of another kind changes at most the query type. -/
theorem add_of_no_type {d : Definition} (h : ∀ extending, d.type? extending = none)
    (g : Gathered) :
    g.add d = .ok { g with queryType := d.queryRoot?.getD g.queryType } := by
  cases d with
  | schema extending directives roots =>
    rw [Gathered.add, Definition.queryRoot?]
    cases roots.find? fun r => r.1 = .query with
    | none => rfl
    | some r => rfl
  | object extending name directives fields =>
    have hsome := h extending
    rw [Definition.type?, if_pos rfl] at hsome
    cases hsome
  | other constants => rfl

theorem add_object_error {extending : Bool} {name : String} {directives : List Directive}
    {fields : List FieldDefinition} {e : SchemaError} (h : typeOfFields name fields = .error e)
    (g : Gathered) : g.add (.object extending name directives fields) = .error e := by
  rw [Gathered.add, h]
  rfl

theorem add_object {extending : Bool} {name : String} {fields : List FieldDefinition}
    (h : TypeDefinition.Describes ⟨name, fields⟩) (directives : List Directive) (g : Gathered) :
    g.add (.object extending name directives fields) =
      if extending then
        .ok { g with extensions := g.extensions ++ [TypeDefinition.type ⟨name, fields⟩] }
      else .ok { g with types := g.types ++ [TypeDefinition.type ⟨name, fields⟩] } := by
  rw [Gathered.add, show typeOfFields name fields = _ from h]
  rfl

/-- The definitions of types and the extensions are gathered in two lists. -/
theorem gathered_eq_ok_iff {ds : List Definition} {g g' : Gathered} :
    ds.foldlM Gathered.add g = .ok g' ↔
      (∀ d ∈ bases ds ++ extensions ds, d.Describes) ∧
      g' = ⟨lastQueryRoot ds g.queryType, g.types ++ (bases ds).map TypeDefinition.type,
        g.extensions ++ (extensions ds).map TypeDefinition.type⟩ := by
  induction ds generalizing g with
  | nil => simp [bases, extensions, lastQueryRoot, pure, Except.pure, eq_comm]
  | cons d rest ih =>
    rw [List.foldlM_cons, lastQueryRoot_cons]
    cases d with
    | schema extending directives roots =>
      rw [add_of_no_type fun _ => rfl]
      exact ih
    | other constants =>
      rw [add_of_no_type fun _ => rfl]
      exact ih
    | object extending name directives fields =>
      have hbases : bases (.object extending name directives fields :: rest) =
          if extending then bases rest else ⟨name, fields⟩ :: bases rest := by
        cases extending <;> rfl
      have hextensions : extensions (.object extending name directives fields :: rest) =
          if extending then ⟨name, fields⟩ :: extensions rest else extensions rest := by
        cases extending <;> rfl
      rw [hbases, hextensions]
      obtain hd | ⟨e, he⟩ := TypeDefinition.describes_or ⟨name, fields⟩
      · rw [add_object hd]
        cases extending with
        | false =>
          refine ih.trans ?_
          simp [hd, Definition.queryRoot?]
        | true =>
          refine ih.trans ?_
          simp [hd, Definition.queryRoot?, or_imp, forall_and]
      · rw [add_object_error he]
        have hnot : ¬ TypeDefinition.Describes ⟨name, fields⟩ := fun h => by
          cases he.symm.trans h
        constructor
        · exact fun h => nomatch h
        · rintro ⟨hall, -⟩
          exact absurd (hall ⟨name, fields⟩ (by cases extending <;> simp)) hnot

theorem gathered_error {ds : List Definition} {g : Gathered} {e : SchemaError}
    (h : ds.foldlM Gathered.add g = .error e) :
    ∃ d ∈ bases ds ++ extensions ds, typeOfFields d.name d.fields = .error e := by
  induction ds generalizing g with
  | nil => cases h
  | cons d rest ih =>
    rw [List.foldlM_cons] at h
    have hlater : ∀ x ∈ bases rest ++ extensions rest,
        x ∈ bases (d :: rest) ++ extensions (d :: rest) := by
      have hsub : ∀ extending, (rest.filterMap (Definition.type? extending)).Sublist
          ((d :: rest).filterMap (Definition.type? extending)) := fun extending =>
        (List.sublist_cons_self d rest).filterMap _
      exact fun x hx => ((hsub false).append (hsub true)).mem hx
    rcases bind_eq_error_iff.1 h with hadd | ⟨g₁, -, hrest⟩
    · cases d with
      | schema extending directives roots =>
        rw [add_of_no_type fun _ => rfl] at hadd
        cases hadd
      | other constants => cases hadd
      | object extending name directives fields =>
        obtain hd | ⟨e', he⟩ := TypeDefinition.describes_or ⟨name, fields⟩
        · rw [add_object hd] at hadd
          cases extending <;> cases hadd
        · rw [add_object_error he] at hadd
          cases hadd
          refine ⟨⟨name, fields⟩, ?_, he⟩
          cases extending <;> simp [bases, extensions, Definition.type?]
    · obtain ⟨x, hx, he⟩ := ih hrest
      exact ⟨x, hlater x hx, he⟩

/-! ## One more definition -/

section Step
variable {defs : List TypeDefinition} {d : TypeDefinition} {s s' : Schema}

theorem fieldsUnder_append (defs more : List TypeDefinition) (name : String) :
    fieldsUnder (defs ++ more) name = fieldsUnder defs name ++ fieldsUnder more name := by
  rw [fieldsUnder, List.filter_append, List.flatMap_append]
  rfl

theorem fieldsUnder_concat (defs : List TypeDefinition) (d : TypeDefinition) (name : String) :
    fieldsUnder (defs ++ [d]) name =
      fieldsUnder defs name ++ if d.name = name then d.fields else [] := by
  rw [fieldsUnder_append]
  by_cases hname : d.name = name <;> simp [fieldsUnder, hname]

theorem sublist_fieldsUnder (h : d ∈ defs) : d.fields.Sublist (fieldsUnder defs d.name) := by
  have hsingle : [d].Sublist (defs.filter fun x => x.name = d.name) :=
    List.singleton_sublist.2 (List.mem_filter.2 ⟨h, by simp⟩)
  have hfields := hsingle.flatMap TypeDefinition.fields
  rw [List.flatMap_singleton] at hfields
  exact hfields

theorem Indexes.ofQueryType (queryType : String) : Indexes [] (ofQueryType queryType) :=
  ⟨fun name => by simp [hasType, Schema.ofQueryType, OrderedMap.contains, OrderedMap.find?],
    fun name t h => nomatch h⟩

theorem hasType_iff {s : Schema} {name : String} :
    s.hasType name = true ↔ ∃ t, s.type? name = some t := Option.isSome_iff_exists

/-- A type is added or replaced: the others are as they were. -/
theorem Indexes.withType {t : SchemaType} (h : Indexes defs s) (hname : t.name = d.name)
    (hfields : List.Forall₂ IndexedAs (fieldsUnder (defs ++ [d]) d.name) t.fields.entries) :
    Indexes (defs ++ [d]) (s.withType t) := by
  have htype : ∀ name, (s.withType t).type? name =
      if d.name = name then some t else s.type? name := by
    intro name
    rw [← hname]
    exact OrderedMap.find?_insert _ _ _ _
  refine ⟨fun name => ?_, fun name u hu => ?_⟩
  · have hother := (h.names name)
    rw [hasType_iff] at hother ⊢
    rw [htype]
    by_cases hsame : d.name = name
    · simp [hsame]
    · simp only [hsame, if_false, hother, List.mem_append, List.mem_singleton, or_and_right,
        exists_or, exists_eq_left, or_false]
  · rw [htype] at hu
    by_cases hsame : d.name = name
    · rw [if_pos hsame] at hu
      cases hu
      exact ⟨hname.trans hsame, hsame ▸ hfields⟩
    · rw [if_neg hsame] at hu
      rw [fieldsUnder_concat, if_neg hsame, List.append_nil]
      exact h.fields name u hu

theorem Indexes.fieldsUnder_eq_nil (h : Indexes defs s) {name : String}
    (hnew : s.type? name = none) : fieldsUnder defs name = [] := by
  have hnames : ∀ d ∈ defs, ¬ d.name = name := by
    intro d hd hsame
    obtain ⟨t, ht⟩ := hasType_iff.1 ((h.names name).2 ⟨d, hd, hsame⟩)
    cases hnew.symm.trans ht
  rw [fieldsUnder, List.filter_eq_nil_iff.2 fun d hd => by simpa using hnames d hd]
  rfl

/-- A type of a new name has the fields of its definition. -/
theorem Indexes.withNewType (h : Indexes defs s) (hd : d.Describes)
    (hnew : s.type? d.name = none) : Indexes (defs ++ [d]) (s.withType d.type) := by
  obtain ⟨hname, -, hfields⟩ := typeOfFields_ok hd
  refine h.withType hname ?_
  rw [fieldsUnder_concat, h.fieldsUnder_eq_nil hnew, if_pos rfl]
  exact hfields

theorem Indexes.addType (h : Indexes defs s) (hd : d.Describes)
    (hadd : s.addType? d.type = .ok s') :
    Indexes (defs ++ [d]) s' ∧ s'.queryType = s.queryType ∧
      d.name ∉ defs.map TypeDefinition.name := by
  obtain ⟨hname, -, -⟩ := typeOfFields_ok hd
  obtain ⟨hnew, rfl⟩ := addType?_ok hadd
  rw [hname] at hnew
  have htype : s.type? d.name = none := (OrderedMap.find?_eq_none_iff _ _).2 hnew
  refine ⟨h.withNewType hd htype, rfl, fun hmem => hnew ?_⟩
  exact (OrderedMap.contains_iff _ _).1 ((h.names d.name).2 (List.mem_map.1 hmem))

theorem Indexes.addType_error (h : Indexes defs s) (hd : d.Describes) {e : SchemaError}
    (hadd : s.addType? d.type = .error e) :
    d.name ∈ defs.map TypeDefinition.name ∧ e = .duplicateType d.name := by
  obtain ⟨hname, -, -⟩ := typeOfFields_ok hd
  obtain ⟨hknown, rfl⟩ := addType?_error hadd
  rw [hname] at hknown ⊢
  have hdefined := (h.names d.name).1 ((OrderedMap.contains_iff _ _).2 hknown)
  exact ⟨List.mem_map.2 hdefined, rfl⟩

theorem Indexes.extend (h : Indexes defs s) (hd : d.Describes)
    (hextend : extend? s d.type = .ok s') :
    Indexes (defs ++ [d]) s' ∧ s'.queryType = s.queryType := by
  obtain ⟨hname, -, hfields⟩ := typeOfFields_ok hd
  unfold extend? at hextend
  rw [hname] at hextend
  cases htype : s.type? d.name with
  | none =>
    rw [htype] at hextend
    obtain ⟨hindexes, hquery, -⟩ := h.addType hd hextend
    exact ⟨hindexes, hquery⟩
  | some t =>
    rw [htype] at hextend
    obtain ⟨t', ht', hdone⟩ := bind_eq_ok_iff.1 hextend
    cases hdone
    obtain ⟨htname, htfields⟩ := h.fields d.name t htype
    have hown : ∀ e ∈ d.type.fields.entries, e.1 = e.2.name := by
      intro e he
      obtain ⟨f, -, hindexed⟩ := exists_indexedAs hfields he
      exact hindexed.key.trans hindexed.name.symm
    obtain ⟨hsame, hentries⟩ := SchemaType.addFields?_ok hown ht'
    refine ⟨h.withType (hsame.trans htname) ?_, rfl⟩
    rw [fieldsUnder_concat, if_pos rfl, hentries]
    exact List.rel_append htfields hfields

theorem Indexes.extend_error (h : Indexes defs s) (hd : d.Describes) {e : SchemaError}
    (hextend : extend? s d.type = .error e) :
    ∃ field, List.Duplicate field
        ((fieldsUnder (defs ++ [d]) d.name).map FieldDefinition.name) ∧
      e = .duplicateField d.name field := by
  obtain ⟨hname, hplain, hfields⟩ := typeOfFields_ok hd
  unfold extend? at hextend
  rw [hname] at hextend
  cases htype : s.type? d.name with
  | none =>
    rw [htype] at hextend
    obtain ⟨hmem, -⟩ := h.addType_error hd hextend
    obtain ⟨t, ht⟩ := hasType_iff.1 ((h.names d.name).2 (List.mem_map.1 hmem))
    cases htype.symm.trans ht
  | some t =>
    rw [htype] at hextend
    obtain ⟨htname, htfields⟩ := h.fields d.name t htype
    obtain hadd | ⟨t', -, hdone⟩ := bind_eq_error_iff.1 hextend
    · rcases SchemaType.addFields?_error hadd with ⟨f, hf, hreserved, -⟩ | ⟨field, htwice, he⟩
      · obtain ⟨entry, hentry, rfl⟩ := List.mem_map.1 hf
        obtain ⟨g, hg, hindexed⟩ := exists_indexedAs hfields hentry
        rw [hindexed.name, hplain g hg] at hreserved
        cases hreserved
      · refine ⟨field, ?_, htname ▸ he⟩
        have hmore : d.type.fields.values.map FieldDef.name =
            d.fields.map FieldDefinition.name := names_of_indexedAs hfields
        rw [hmore, OrderedMap.keys, keys_of_indexedAs htfields, ← List.map_append] at htwice
        rw [fieldsUnder_concat, if_pos rfl]
        exact htwice
    · cases hdone

end Step

/-! ## All definitions -/

section Run
variable {defs more : List TypeDefinition} {s s' : Schema}

theorem Indexes.addTypes (h : Indexes defs s) (hall : ∀ d ∈ more, d.Describes)
    (hnodup : (defs.map TypeDefinition.name).Nodup)
    (hrun : (more.map TypeDefinition.type).foldlM addType? s = .ok s') :
    Indexes (defs ++ more) s' ∧ s'.queryType = s.queryType ∧
      ((defs ++ more).map TypeDefinition.name).Nodup := by
  induction more generalizing defs s with
  | nil =>
    cases hrun
    rw [List.append_nil]
    exact ⟨h, rfl, hnodup⟩
  | cons d rest ih =>
    rw [List.map_cons, List.foldlM_cons] at hrun
    obtain ⟨s₁, hadd, hrest⟩ := bind_eq_ok_iff.1 hrun
    obtain ⟨hd, hall⟩ := List.forall_mem_cons.1 hall
    obtain ⟨hindexes, hquery, hnew⟩ := h.addType hd hadd
    have hnodup' : ((defs ++ [d]).map TypeDefinition.name).Nodup := by
      rw [List.map_append, List.map_singleton, ← List.concat_eq_append]
      exact (List.nodup_concat _ _).2 ⟨hnew, hnodup⟩
    obtain ⟨hindexes', hquery', hnodup''⟩ := ih hindexes hall hnodup' hrest
    rw [List.append_assoc] at hindexes' hnodup''
    exact ⟨hindexes', hquery'.trans hquery, hnodup''⟩

theorem Indexes.addTypes_error (h : Indexes defs s) (hall : ∀ d ∈ more, d.Describes)
    {e : SchemaError} (hrun : (more.map TypeDefinition.type).foldlM addType? s = .error e) :
    ∃ name, List.Duplicate name ((defs ++ more).map TypeDefinition.name) ∧
      e = .duplicateType name := by
  induction more generalizing defs s with
  | nil => cases hrun
  | cons d rest ih =>
    rw [List.map_cons, List.foldlM_cons] at hrun
    obtain ⟨hd, hall⟩ := List.forall_mem_cons.1 hall
    rcases bind_eq_error_iff.1 hrun with hadd | ⟨s₁, hadd, hrest⟩
    · obtain ⟨hmem, he⟩ := h.addType_error hd hadd
      refine ⟨d.name, ?_, he⟩
      rw [List.map_append, List.map_cons]
      exact SchemaType.duplicate_of_mem hmem _
    · obtain ⟨hindexes, -, -⟩ := h.addType hd hadd
      obtain ⟨name, htwice, he⟩ := ih hindexes hall hrest
      rw [List.append_assoc] at htwice
      exact ⟨name, htwice, he⟩

theorem Indexes.extendAll (h : Indexes defs s) (hall : ∀ d ∈ more, d.Describes)
    (hrun : (more.map TypeDefinition.type).foldlM extend? s = .ok s') :
    Indexes (defs ++ more) s' ∧ s'.queryType = s.queryType := by
  induction more generalizing defs s with
  | nil =>
    cases hrun
    rw [List.append_nil]
    exact ⟨h, rfl⟩
  | cons d rest ih =>
    rw [List.map_cons, List.foldlM_cons] at hrun
    obtain ⟨s₁, hextend, hrest⟩ := bind_eq_ok_iff.1 hrun
    obtain ⟨hd, hall⟩ := List.forall_mem_cons.1 hall
    obtain ⟨hindexes, hquery⟩ := h.extend hd hextend
    obtain ⟨hindexes', hquery'⟩ := ih hindexes hall hrest
    rw [List.append_assoc] at hindexes'
    exact ⟨hindexes', hquery'.trans hquery⟩

theorem Indexes.extendAll_error (h : Indexes defs s) (hall : ∀ d ∈ more, d.Describes)
    {e : SchemaError} (hrun : (more.map TypeDefinition.type).foldlM extend? s = .error e) :
    ∃ name field, List.Duplicate field
        ((fieldsUnder (defs ++ more) name).map FieldDefinition.name) ∧
      e = .duplicateField name field := by
  induction more generalizing defs s with
  | nil => cases hrun
  | cons d rest ih =>
    rw [List.map_cons, List.foldlM_cons] at hrun
    obtain ⟨hd, hall⟩ := List.forall_mem_cons.1 hall
    rcases bind_eq_error_iff.1 hrun with hextend | ⟨s₁, hextend, hrest⟩
    · obtain ⟨field, htwice, he⟩ := h.extend_error hd hextend
      refine ⟨d.name, field, htwice.mono_sublist ?_, he⟩
      rw [List.append_cons defs d rest, fieldsUnder_append (defs ++ [d]) rest, List.map_append]
      exact List.sublist_append_left _ _
    · obtain ⟨hindexes, -⟩ := h.extend hd hextend
      obtain ⟨name, field, htwice, he⟩ := ih hindexes hall hrest
      rw [List.append_assoc] at htwice
      exact ⟨name, field, htwice, he⟩

end Run

/-- Only the order among the definitions of types and that among the extensions count. -/
theorem ofDefinitions_eq_ok_iff {ds : List Definition} {s : Schema} :
    ofDefinitions ds = .ok s ↔ (∀ d ∈ bases ds ++ extensions ds, d.Describes) ∧
      ∃ s₁, ((bases ds).map TypeDefinition.type).foldlM addType?
          (ofQueryType (lastQueryRoot ds defaultQueryType)) = .ok s₁ ∧
        ((extensions ds).map TypeDefinition.type).foldlM extend? s₁ = .ok s := by
  unfold ofDefinitions
  rw [bind_eq_ok_iff]
  constructor
  · rintro ⟨g, hg, h⟩
    obtain ⟨hall, rfl⟩ := gathered_eq_ok_iff.1 hg
    exact ⟨hall, bind_eq_ok_iff.1 h⟩
  · rintro ⟨hall, h⟩
    exact ⟨_, gathered_eq_ok_iff.2 ⟨hall, rfl⟩, bind_eq_ok_iff.2 h⟩

theorem ofDefinitions_error {ds : List Definition} {e : SchemaError}
    (h : ofDefinitions ds = .error e) : Fault ds e := by
  unfold ofDefinitions at h
  rcases bind_eq_error_iff.1 h with hg | ⟨g, hg, h⟩
  · obtain ⟨d, hd, he⟩ := gathered_error hg
    rcases typeOfFields_error he with ⟨f, hf, hconflict, rfl⟩ | ⟨f, hf, hreserved, rfl⟩ |
      ⟨field, htwice, rfl⟩
    · exact .conflicting hd hf hconflict
    · exact .reserved hd hf (Nesting.isReserved_iff.1 hreserved)
    · exact .duplicateField (htwice.mono_sublist ((sublist_fieldsUnder hd).map _))
  · obtain ⟨hall, rfl⟩ := gathered_eq_ok_iff.1 hg
    obtain ⟨hbases, hextensions⟩ := List.forall_mem_append.1 hall
    have hempty := Indexes.ofQueryType (lastQueryRoot ds defaultQueryType)
    rcases bind_eq_error_iff.1 h with hadd | ⟨s₁, hadd, hextend⟩
    · obtain ⟨name, htwice, rfl⟩ := hempty.addTypes_error hbases hadd
      exact .duplicateType htwice
    · obtain ⟨hindexes, -, -⟩ := hempty.addTypes hbases List.nodup_nil hadd
      obtain ⟨name, field, htwice, rfl⟩ := hindexes.extendAll_error hextensions hextend
      exact .duplicateField htwice

/-- What a document is indexed as. -/
theorem ofDefinitions_ok {ds : List Definition} {s : Schema} (h : ofDefinitions ds = .ok s) :
    s.queryType = lastQueryRoot ds defaultQueryType ∧ Indexes (bases ds ++ extensions ds) s ∧
      ((bases ds).map TypeDefinition.name).Nodup := by
  obtain ⟨hall, s₁, hadd, hextend⟩ := ofDefinitions_eq_ok_iff.1 h
  obtain ⟨hbases, hextensions⟩ := List.forall_mem_append.1 hall
  have hempty := Indexes.ofQueryType (lastQueryRoot ds defaultQueryType)
  obtain ⟨hindexes, hquery, hnodup⟩ := hempty.addTypes hbases List.nodup_nil hadd
  obtain ⟨hindexes', hquery'⟩ := hindexes.extendAll hextensions hextend
  exact ⟨hquery'.trans hquery, hindexes', hnodup⟩

/-- A document that is indexed has no fault. -/
theorem not_fault_of_ok {ds : List Definition} {s : Schema} (h : ofDefinitions ds = .ok s)
    {e : SchemaError} : ¬ Fault ds e := by
  obtain ⟨hall, -⟩ := ofDefinitions_eq_ok_iff.1 h
  obtain ⟨-, hindexes, hnodup⟩ := ofDefinitions_ok h
  intro hfault
  cases hfault with
  | conflicting hd hf hconflict =>
    obtain ⟨-, -, hfields⟩ := typeOfFields_ok (hall _ hd)
    have hclean := hfields.imp fun f e h => And.intro (IndexedAs.not_conflicting h) h
    exact ((List.forall₂_and_left _ _).1 hclean).1 _ hf hconflict
  | reserved hd hf hreserved =>
    obtain ⟨-, hplain, -⟩ := typeOfFields_ok (hall _ hd)
    rw [← Nesting.isReserved_iff, hplain _ hf] at hreserved
    cases hreserved
  | @duplicateField name field htwice =>
    cases htype : s.type? name with
    | none =>
      rw [declaredFields, hindexes.fieldsUnder_eq_nil htype] at htwice
      cases htwice
    | some t =>
      obtain ⟨-, hfields⟩ := hindexes.fields name t htype
      have hnodup := t.fields.nodup
      rw [keys_of_indexedAs hfields] at hnodup
      exact htwice.not_nodup hnodup
  | duplicateType htwice => exact htwice.not_nodup hnodup

/-! ## Texts -/

/-- A schema definition names a query type. -/
def Definition.NamesQuery (d : Definition) (name : String) : Prop :=
  ∃ extending directives roots, d = .schema extending directives roots ∧
    (OperationKind.query, name) ∈ roots

theorem find?_of_checkRoots {seen kinds : List OperationKind}
    {roots : List (OperationKind × String)} (h : checkRoots seen roots = .ok kinds)
    {kind : OperationKind} {name : String} (hmem : (kind, name) ∈ roots) :
    roots.find? (fun r => r.1 = kind) = some (kind, name) ∧ kind ∉ seen := by
  induction roots generalizing seen with
  | nil => exact absurd hmem List.not_mem_nil
  | cons r rest ih =>
    rw [checkRoots] at h
    split at h
    · cases h
    · next hseen =>
      rcases List.mem_cons.1 hmem with rfl | hmem
      · exact ⟨List.find?_cons_of_pos (by simp), hseen⟩
      · obtain ⟨hfind, hnew⟩ := ih h hmem
        obtain ⟨hne, hnew⟩ := not_or.1 (List.mem_cons.not.1 hnew)
        rw [List.find?_cons_of_neg (by simpa using Ne.symm hne)]
        exact ⟨hfind, hnew⟩

/-- A checked schema definition names one query type at most. -/
theorem queryRoot?_eq_some_iff {d : Definition} (h : d.check = .ok ()) {name : String} :
    d.queryRoot? = some name ↔ d.NamesQuery name := by
  constructor
  · intro hroot
    cases d with
    | schema extending directives roots =>
      obtain ⟨⟨kind, n⟩, hfind, rfl⟩ := Option.map_eq_some_iff.1 hroot
      have hkind : kind = .query := by simpa using List.find?_some hfind
      exact ⟨extending, directives, roots, rfl, hkind ▸ List.mem_of_find?_eq_some hfind⟩
    | object => cases hroot
    | other => cases hroot
  · rintro ⟨extending, directives, roots, rfl, hmem⟩
    obtain ⟨_, -, hroots⟩ := bind_eq_ok_iff.1 h
    obtain ⟨kinds, hkinds, -⟩ := bind_eq_ok_iff.1 hroots
    rw [Definition.queryRoot?, (find?_of_checkRoots hkinds hmem).1]
    rfl

theorem parse_eq {source : String} {ds : List Definition} (hread : read source = some ds)
    (hcheck : ∀ d ∈ ds, d.check = .ok ()) : parse source = ofDefinitions ds := by
  rw [parse, hread]
  show (do ds.forM Definition.check; ofDefinitions ds) = _
  rw [forM_eq_ok_iff.2 hcheck]
  rfl

/-- A document is indexed exactly if it has no fault, and then as it declares, wherever its
extensions stand. -/
theorem indexed_as_declared (ds : List Definition) :
    ((∃ e, ofDefinitions ds = .error e) ↔ ∃ e, Fault ds e) ∧
    (∀ e, ofDefinitions ds = .error e → Fault ds e) ∧
    (∀ s, ofDefinitions ds = .ok s → s.queryType = lastQueryRoot ds defaultQueryType ∧
      Indexes (bases ds ++ extensions ds) s) ∧
    (∀ ds', bases ds' = bases ds → extensions ds' = extensions ds →
      lastQueryRoot ds' defaultQueryType = lastQueryRoot ds defaultQueryType →
      ∀ s, ofDefinitions ds' = .ok s ↔ ofDefinitions ds = .ok s) ∧
    (∀ source, read source = some ds → (∀ d ∈ ds, d.check = .ok ()) →
      parse source = ofDefinitions ds ∧
      ∀ d ∈ ds, ∀ name, d.queryRoot? = some name ↔ d.NamesQuery name) := by
  refine ⟨⟨fun ⟨e, he⟩ => ⟨e, ofDefinitions_error he⟩, ?_⟩, fun e he => ofDefinitions_error he,
    ?_, ?_, ?_⟩
  · rintro ⟨e, he⟩
    cases hds : ofDefinitions ds with
    | error e' => exact ⟨e', rfl⟩
    | ok s => exact absurd he (not_fault_of_ok hds)
  · intro s hs
    obtain ⟨hquery, hindexes, -⟩ := ofDefinitions_ok hs
    exact ⟨hquery, hindexes⟩
  · intro ds' hbases hextensions hquery s
    rw [ofDefinitions_eq_ok_iff, ofDefinitions_eq_ok_iff, hbases, hextensions, hquery]
  · intro source hread hcheck
    exact ⟨parse_eq hread hcheck, fun d hd _ => queryRoot?_eq_some_iff (hcheck d hd)⟩

/-! ## Extensions in two places -/

namespace Scattered

def idField : FieldDefinition := ⟨"id", .named "ID" true, [], []⟩

def post : Definition := .object false "Post" [] [idField]

def postTags : Definition :=
  .object true "Post" []
    [⟨"tags", .list (.named "Tag" true) false, [⟨"toManyMany", []⟩, ⟨"first", []⟩], []⟩]

def tag : Definition := .object true "Tag" [] [idField]

def root : Definition := .schema true [] [(.query, "Root")]

/-- Extensions stand behind what they extend. -/
def behind : List Definition := [root, post, postTags, tag]

/-- Extensions stand in front of what they extend. -/
def inFront : List Definition := [postTags, tag, post, root]

end Scattered

theorem indexed_as_declared_scattered :
    ∃ s, ofDefinitions Scattered.behind = .ok s ∧ ofDefinitions Scattered.inFront = .ok s ∧
      s.queryType = "Root" ∧ s.relationOf "Post" "tags" = .toManyMany true ∧
      (∀ name, s.hasType name = true ↔ name = "Post" ∨ name = "Tag") := by
  obtain ⟨s, hs⟩ : ∃ s, ofDefinitions Scattered.behind = .ok s := ⟨_, rfl⟩
  obtain ⟨-, -, hindexes, hplaces, -⟩ := indexed_as_declared Scattered.behind
  obtain ⟨hquery, hnames, -⟩ := hindexes s hs
  refine ⟨s, hs, (hplaces Scattered.inFront rfl rfl rfl s).2 hs, hquery, ?_, fun name => ?_⟩
  · cases hs
    rfl
  · rw [hnames]
    simp [bases, extensions, Scattered.behind, Definition.type?, Scattered.root, Scattered.post,
      Scattered.postTags, Scattered.tag, eq_comm]

end Schema
end SelectionSql
