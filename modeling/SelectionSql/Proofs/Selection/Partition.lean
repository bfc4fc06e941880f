import SelectionSql.Proofs.Selection.Kinds

/-!
# Where the requested fields of a node go

* `Selection.atFirstPlaces`, `Node.kept`: the children whose name no child before them has.
* `Selection.ColumnFault`, `JoinFault`, `ChildFault`, `Fault`: what a classification refuses; of
  several children that are at fault the first counts.
* `Selection.Partitions`: every child that is kept is in the part of its declared relation.
* `Selection.classify_partitions`: a node is refused for its first fault, and else its children are
  partitioned; what is taken strictly is taken leniently with the same result.
-/
set_option autoImplicit false

namespace SelectionSql
namespace Selection

/-! ## First places -/

/-- The elements with a name that is not one of `seen` and that no element before them has. -/
def atFirstPlaces {α : Type} (name : α → String) (seen : List String) (l : List α) : List α :=
  (l.zipIdx.filter fun (a, i) => name a ∉ seen ∧ ∀ b ∈ l.take i, name b ≠ name a).map Prod.fst

theorem atFirstPlaces_cons {α : Type} (name : α → String) (seen : List String) (a : α)
    (rest : List α) :
    atFirstPlaces name seen (a :: rest) =
      if name a ∈ seen then atFirstPlaces name seen rest
      else a :: atFirstPlaces name (name a :: seen) rest := by
  have hlater : ∀ seen' : List String, (∀ n, n ∈ seen' ↔ n = name a ∨ n ∈ seen) →
      ((rest.zipIdx 1).filter fun (b, i) => name b ∉ seen ∧
        ∀ c ∈ (a :: rest).take i, name c ≠ name b).map Prod.fst =
        atFirstPlaces name seen' rest := by
    intro seen' hseen'
    rw [List.zipIdx_succ, List.filter_map, List.map_map, atFirstPlaces]
    refine congrArg _ (List.filter_congr fun p _ => decide_eq_decide.2 ?_)
    simp only [List.take_succ_cons, List.forall_mem_cons, hseen', not_or, ne_comm (a := name a)]
    tauto
  rw [atFirstPlaces, List.zipIdx_cons, List.filter_cons]
  by_cases ha : name a ∈ seen
  · rw [if_pos ha, if_neg (by simp [ha])]
    exact hlater seen fun n => ⟨.inr, fun h => h.elim (· ▸ ha) id⟩
  · rw [if_neg ha, if_pos (by simp [ha]), List.map_cons]
    exact congrArg _ (hlater _ fun n => List.mem_cons)

theorem firstOccurrences_eq {α : Type} (name : α → String) (seen : List String) (l : List α) :
    firstOccurrences name seen l = atFirstPlaces name seen l := by
  induction l generalizing seen with
  | nil => rfl
  | cons a rest ih =>
    rw [firstOccurrences, atFirstPlaces_cons, ih, ih]
    simp only [List.contains_iff_mem]

/-- The children that count: none asks for the name of the type, and no earlier one has the same
name. -/
def Node.kept (node : Node) : List Node := atFirstPlaces Node.name [typenameField] node.children

theorem map_requested (node : Node) : (requested node).map Subtype.val = node.kept := by
  have hmap := firstOccurrences_map (fun c : Child node => c.1) Node.name [typenameField]
    node.children.attach
  rw [List.attach_map_subtype_val] at hmap
  rw [Node.kept, ← firstOccurrences_eq, hmap]
  rfl

theorem map_name_kept (node : Node) : node.kept.map Node.name = requestedNames node := by
  rw [← map_requested, List.map_map]
  rfl

theorem nodup_names_kept (node : Node) : (node.kept.map Node.name).Nodup := by
  rw [map_name_kept]
  exact nodup_requestedNames node

/-! ## Faults -/

section Faults
variable (schema : Schema) (strict : Bool)

/-- A field that cannot be a column of a join. -/
inductive ColumnFault (target : String) (child : Node) : ResolveError → Prop
  | nested {field : FieldDef} (h : schema.field? target child.name = some field)
      (hnested : field.relation ≠ .none ∨ child.children ≠ []) :
      ColumnFault target child (.nestedRelation target child.name)
  | undefined (hstrict : strict = true) (h : schema.field? target child.name = none) :
      ColumnFault target child (.fieldNotFound target child.name)

/-- A relation that cannot be joined for what is requested below it. -/
inductive JoinFault (target : String) (node : Node) : ResolveError → Prop
  | unknownTarget (hstrict : strict = true) (h : schema.type? target = none) :
      JoinFault target node (.unknownType target)
  | column {e : ResolveError} (hknown : strict = true → schema.type? target ≠ none)
      (h : FirstFault (ColumnFault schema strict target) node.kept e) : JoinFault target node e

/-- A field that cannot be resolved on a type. -/
inductive ChildFault (typeName : String) (child : Node) : ResolveError → Prop
  | undefined (hstrict : strict = true) (h : schema.field? typeName child.name = none) :
      ChildFault typeName child (.fieldNotFound typeName child.name)
  | join {field : FieldDef} {e : ResolveError} (h : schema.field? typeName child.name = some field)
      (hone : field.relation = .toOne) (hjoin : JoinFault schema strict field.type.name child e) :
      ChildFault typeName child e

/-- A node that cannot be resolved on a type. -/
inductive Fault (typeName : String) (node : Node) : ResolveError → Prop
  | unknownType (h : schema.type? typeName = none) : Fault typeName node (.unknownType typeName)
  | child {e : ResolveError} (hknown : schema.type? typeName ≠ none)
      (h : FirstFault (ChildFault schema strict typeName) node.kept e) : Fault typeName node e

end Faults

section Classification
variable {schema : Schema} {strict : Bool} {node : Node} {e : ResolveError}

theorem joinedColumn_eq_error_iff {target : String} {child : Node} :
    joinedColumn (schema.type? target) target strict child = .error e ↔
      ColumnFault schema strict target child e := by
  have hcomposite : child.isComposite = true ↔ child.children ≠ [] := by
    simp [Node.isComposite]
  have hrelation : ∀ field : FieldDef,
      field.relation.isRelation = true ↔ field.relation ≠ .none := by
    intro field
    cases field.relation <;> simp [Relation.isRelation]
  have hlookup : ((schema.type? target).bind fun t => t.field? child.name) =
      schema.field? target child.name := rfl
  unfold joinedColumn
  rw [hlookup]
  cases hfield : schema.field? target child.name with
  | none =>
    constructor
    · intro h
      cases strict with
      | false => cases h
      | true =>
        cases h
        exact .undefined rfl hfield
    · rintro (⟨h, -⟩ | ⟨rfl, -⟩)
      · rw [hfield] at h
        cases h
      · rfl
  | some field =>
    simp only [Bool.or_eq_true, hcomposite, hrelation]
    constructor
    · intro h
      split at h
      · next hnested =>
        cases h
        exact .nested hfield hnested
      · cases h
    · rintro (⟨h, hnested⟩ | ⟨-, h⟩)
      · rw [hfield] at h
        cases h
        rw [if_pos hnested]
      · rw [hfield] at h
        cases h

theorem joinedColumns_eq_error_iff {target : String} :
    joinedColumns schema target strict node = .error e ↔ JoinFault schema strict target node e := by
  have hcolumns : (requested node).mapM
      (fun c => joinedColumn (schema.type? target) target strict c.1) = .error e ↔
        FirstFault (ColumnFault schema strict target) node.kept e := by
    rw [mapM_eq_error_iff, ← map_requested, firstFault_map]
    exact firstFault_congr fun c _ e => joinedColumn_eq_error_iff
  unfold joinedColumns
  constructor
  · intro h
    cases htarget : schema.type? target with
    | none =>
      rw [htarget] at h hcolumns
      cases strict with
      | true =>
        cases h
        exact .unknownTarget rfl htarget
      | false => exact .column (fun h => (nomatch h)) (hcolumns.1 h)
    | some t =>
      rw [htarget] at h hcolumns
      exact .column (fun _ => by simp [htarget]) (hcolumns.1 h)
  · rintro (⟨rfl, htarget⟩ | ⟨hknown, h⟩)
    · rw [htarget]
      rfl
    · cases htarget : schema.type? target with
      | none =>
        rw [htarget] at hcolumns
        have hlenient : strict = false := by
          simpa [htarget] using hknown
        subst hlenient
        exact hcolumns.2 h
      | some t =>
        rw [htarget] at hcolumns
        exact hcolumns.2 h

theorem classifyChild_eq_error_iff {typeName : String} {t : SchemaType}
    (ht : schema.type? typeName = some t) {child : Child node} :
    classifyChild schema typeName t strict child = .error e ↔
      ChildFault schema strict typeName child.1 e := by
  have hfield? : schema.field? typeName child.1.name = t.field? child.1.name := by
    rw [Schema.field?, ht]
    rfl
  unfold classifyChild
  constructor
  · intro h
    cases hfield : t.field? child.1.name with
    | none =>
      simp only [hfield] at h
      cases strict with
      | false => cases h
      | true =>
        cases h
        exact .undefined rfl (hfield?.trans hfield)
    | some field =>
      simp only [hfield] at h
      cases hrelation : field.relation <;> simp only [hrelation] at h
      case toOne =>
        rcases bind_eq_error_iff.1 h with h | ⟨columns, -, h⟩
        · exact .join (hfield?.trans hfield) hrelation (joinedColumns_eq_error_iff.1 h)
        · cases h
      all_goals cases h
  · rintro (⟨rfl, hnone⟩ | ⟨hsome, hone, hjoin⟩)
    · simp only [hfield?.symm.trans hnone]
      rfl
    · simp only [hfield?.symm.trans hsome, hone]
      exact bind_eq_error_iff.2 (.inl (joinedColumns_eq_error_iff.2 hjoin))

theorem classify_eq_error_iff {typeName : String} :
    classify schema typeName node strict = .error e ↔ Fault schema strict typeName node e := by
  unfold classify
  cases ht : schema.type? typeName with
  | none =>
    constructor
    · intro h
      cases h
      exact .unknownType ht
    · rintro (_ | ⟨hknown, -⟩)
      · rfl
      · exact absurd ht hknown
  | some t =>
    have hchildren : (requested node).mapM (classifyChild schema typeName t strict) = .error e ↔
        FirstFault (ChildFault schema strict typeName) node.kept e := by
      rw [mapM_eq_error_iff, ← map_requested, firstFault_map]
      exact firstFault_congr fun c _ e => classifyChild_eq_error_iff ht
    constructor
    · intro h
      rcases bind_eq_error_iff.1 h with h | ⟨items, -, h⟩
      · exact .child (by simp [ht]) (hchildren.1 h)
      · cases h
    · rintro (h | ⟨-, h⟩)
      · rw [ht] at h
        cases h
      · exact bind_eq_error_iff.2 (.inl (hchildren.2 h))

/-- Whatever is refused leniently is refused strictly, perhaps for an earlier reason. -/
theorem exists_fault_strict {typeName : String} (h : Fault schema false typeName node e) :
    ∃ e', Fault schema true typeName node e' := by
  have hcolumn : ∀ target child e', ColumnFault schema false target child e' →
      ∃ e'', ColumnFault schema true target child e'' := by
    rintro target child _ (⟨h, hnested⟩ | ⟨hstrict, -⟩)
    · exact ⟨_, .nested h hnested⟩
    · cases hstrict
  have hjoin : ∀ target child e', JoinFault schema false target child e' →
      ∃ e'', JoinFault schema true target child e'' := by
    rintro target child e' (⟨hstrict, -⟩ | ⟨-, hfirst⟩)
    · cases hstrict
    · by_cases htarget : schema.type? target = none
      · exact ⟨_, .unknownTarget rfl htarget⟩
      · obtain ⟨e'', hfirst'⟩ := hfirst.exists_mono (hcolumn target)
        exact ⟨e'', .column (fun _ => htarget) hfirst'⟩
  have hchild : ∀ child e', ChildFault schema false typeName child e' →
      ∃ e'', ChildFault schema true typeName child e'' := by
    rintro child e' (⟨hstrict, -⟩ | ⟨hfield, hone, hjoined⟩)
    · cases hstrict
    · obtain ⟨e₁, hjoined'⟩ := hjoin _ child e' hjoined
      exact ⟨e₁, .join hfield hone hjoined'⟩
  rcases h with htype | ⟨hknown, hfirst⟩
  · exact ⟨_, .unknownType htype⟩
  · obtain ⟨e', hfirst'⟩ := hfirst.exists_mono hchild
    exact ⟨e', .child hknown hfirst'⟩

theorem classify_lenient {typeName : String} {c : Classified node}
    (h : classify schema typeName node true = .ok c) :
    classify schema typeName node strict = .ok c := by
  cases strict with
  | true => exact h
  | false =>
    cases hlenient : classify schema typeName node false with
    | error e =>
      obtain ⟨e', hfault⟩ := exists_fault_strict (classify_eq_error_iff.1 hlenient)
      rw [classify_eq_error_iff.2 hfault] at h
      cases h
    | ok c' =>
      obtain ⟨t, ht, hitems⟩ := classify_ok h
      obtain ⟨t', ht', hitems'⟩ := classify_ok hlenient
      obtain rfl : t = t' := Option.some.inj (ht.symm.trans ht')
      cases c
      cases c'
      exact congrArg _ (congrArg _ (hitems'.trans hitems.symm))

end Classification

/-! ## Parts -/

/-- The children that count and are of a kind; one that is not declared is a plain column. -/
def keptOf (schema : Schema) (typeName : String) (node : Node) (kind : Relation → Bool) :
    List Node :=
  node.kept.filter fun child => kind (schema.relationOf typeName child.name)

/-- The name of the field that an item is. -/
def Item.name {node : Node} : Item node → String
  | .scalar name => name
  | .toOne join => join.relation
  | .toMany related => related.node.name
  | .toManyMany related => related.node.name

/-- The names in the four parts of a classification. -/
def Classified.names {node : Node} (c : Classified node) : List String :=
  c.scalars ++ c.toOne.map ToOneJoin.relation ++ c.toMany.map (fun r => r.node.name) ++
    c.toManyMany.map fun r => r.node.name

/-- Every child that counts is in the part of its declared relation, in order, and in no other. -/
structure Partitions (schema : Schema) (typeName : String) {node : Node} (c : Classified node) :
    Prop where
  scalars : c.scalars = (keptOf schema typeName node (· = .none)).map Node.name
  /-- The columns of a join are the names that are requested below it. -/
  toOne : c.toOne.map (fun join => (join.relation, join.columns)) =
    (keptOf schema typeName node (· = .toOne)).map fun child =>
      (child.name, child.kept.map Node.name)
  toMany : c.toMany.map Related.node = keptOf schema typeName node (· = .toMany)
  toManyMany : c.toManyMany.map Related.node =
    keptOf schema typeName node fun r => r = .toManyMany false ∨ r = .toManyMany true
  targets : ∀ join ∈ c.toOne, schema.targetOf? typeName join.relation = some join.targetType
  fields : ∀ related ∈ c.toMany ++ c.toManyMany,
    schema.field? typeName related.node.name = some related.field
  complete : c.names.Perm (node.kept.map Node.name)
  disjoint : c.names.Nodup

section Parts
variable {schema : Schema} {typeName : String} {strict : Bool} {node : Node} {t : SchemaType}

/-- The items of a kind come from the children whose relation is of the kind. -/
theorem filterMap_items {c : Classified node} (h : classify schema typeName node strict = .ok c)
    {β : Type} {kind : Item node → Option β} {p : Relation → Bool} {f : Node → β}
    (hcolumn : ∀ child : Child node,
      kind (.scalar child.1.name) = if p .none then some (f child.1) else none)
    (hfield : ∀ (child : Child node) (field : FieldDef),
      kind (itemOf child field) = if p field.relation then some (f child.1) else none) :
    c.items.filterMap kind = (keptOf schema typeName node p).map f := by
  obtain ⟨t, ht, hitems⟩ := classify_ok h
  have hchild : ∀ child : Child node, kind (itemOn t child) =
      if p (schema.relationOf typeName child.1.name) then some (f child.1) else none := by
    intro child
    rw [itemOn, Schema.relationOf, Schema.field?, ht, Option.bind_some]
    cases t.field? child.1.name with
    | none => exact hcolumn child
    | some field => exact hfield child field
  rw [hitems, keptOf, ← map_requested]
  induction requested node with
  | nil => rfl
  | cons child rest ih =>
    rw [List.map_cons, List.filterMap_cons, hchild, List.map_cons, List.filter_cons, ih]
    split <;> simp_all

theorem perm_names (c : Classified node) : c.names.Perm (c.items.map Item.name) := by
  unfold Classified.names Classified.scalars Classified.toOne Classified.toMany
    Classified.toManyMany
  induction c.items with
  | nil => exact .nil
  | cons item rest ih =>
    refine .trans ?_ (ih.cons item.name)
    cases item with
    | scalar name => exact .refl _
    | toOne join => exact (List.perm_middle.append_right _).append_right _
    | toMany related => exact List.perm_middle.append_right _
    | toManyMany related => exact List.perm_middle

theorem name_itemOn (child : Child node) : (itemOn t child).name = child.1.name := by
  unfold itemOn itemOf
  split
  · rfl
  · split <;> rfl

theorem partitions_of_ok {c : Classified node}
    (h : classify schema typeName node strict = .ok c) : Partitions schema typeName c := by
  have hperm : c.names.Perm (node.kept.map Node.name) := by
    obtain ⟨t, -, hitems⟩ := classify_ok h
    refine (perm_names c).trans (.of_eq ?_)
    rw [hitems, List.map_map, map_name_kept, requestedNames]
    exact List.map_congr_left fun child _ => name_itemOn child
  refine ⟨?scalars, ?toOne, ?toMany, ?toManyMany, ?targets, ?fields, hperm,
    hperm.nodup_iff.2 (nodup_names_kept node)⟩
  case scalars =>
    refine filterMap_items h (fun _ => rfl) fun child field => ?_
    unfold itemOf
    cases field.relation <;> rfl
  case toOne =>
    rw [Classified.toOne, List.map_filterMap]
    refine filterMap_items h (fun _ => rfl) fun child field => ?_
    unfold itemOf
    rw [map_name_kept]
    cases field.relation <;> rfl
  case toMany =>
    rw [Classified.toMany, List.map_filterMap, ← List.map_id (keptOf _ _ _ _)]
    refine filterMap_items h (fun _ => rfl) fun child field => ?_
    unfold itemOf
    cases field.relation <;> rfl
  case toManyMany =>
    rw [Classified.toManyMany, List.map_filterMap, ← List.map_id (keptOf _ _ _ _)]
    refine filterMap_items h (fun _ => rfl) fun child field => ?_
    unfold itemOf
    cases field.relation with
    | toManyMany first => cases first <;> rfl
    | _ => rfl
  case targets =>
    intro join hjoin
    obtain ⟨child, field, hdeclared, -, rfl⟩ := (Classified.mem_toOne_iff h).1 hjoin
    rw [Schema.targetOf?, hdeclared.field?]
    rfl
  case fields =>
    intro related hrelated
    exact ((Classified.mem_relations_iff h).1 hrelated).1.field?

/-- A target that is not known is never the type that is classified. -/
theorem fault_unknownType_iff :
    Fault schema strict typeName node (.unknownType typeName) ↔ schema.type? typeName = none := by
  refine ⟨?_, .unknownType⟩
  rintro (h | ⟨hknown, -, child, -, -, -, hfault⟩)
  · exact h
  · rcases hfault with _ | ⟨-, -, hjoin⟩
    rcases hjoin with ⟨-, htarget⟩ | ⟨-, -, column, -, -, -, hcolumn⟩
    · exact absurd htarget hknown
    · cases hcolumn

/-- A classification fails as the first child that is at fault, and else parts the children by
their relations. What is taken strictly is taken leniently with the same result. -/
theorem classify_partitions (schema : Schema) (typeName : String) (node : Node) (strict : Bool) :
    (classify schema typeName node strict = .error (.unknownType typeName) ↔
      schema.type? typeName = none) ∧
    (∀ e, classify schema typeName node strict = .error e ↔ Fault schema strict typeName node e) ∧
    ((∃ c, classify schema typeName node strict = .ok c ∧ Partitions schema typeName c) ↔
      ∀ e, ¬ Fault schema strict typeName node e) ∧
    (∀ c, classify schema typeName node true = .ok c →
      classify schema typeName node strict = .ok c) := by
  refine ⟨?_, fun e => classify_eq_error_iff, ⟨?_, fun hnone => ?_⟩, fun c => classify_lenient⟩
  · rw [classify_eq_error_iff, fault_unknownType_iff]
  · rintro ⟨c, hc, -⟩ e hfault
    rw [classify_eq_error_iff.2 hfault] at hc
    cases hc
  · cases hc : classify schema typeName node strict with
    | error e => exact absurd (classify_eq_error_iff.1 hc) (hnone e)
    | ok c => exact ⟨c, rfl, partitions_of_ok hc⟩

end Parts
end Selection
end SelectionSql
