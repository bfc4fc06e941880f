import SelectionSql.Proofs.Resolution.RootRestriction
import SelectionSql.Proofs.Selection.Kinds
import SelectionSql.Proofs.Sql.References

/-!
# Names of tables that clash

The tables of a statement are named after an entity, a field, a type and the joined relations. These
names are chosen apart from each other.

* `Selection.map_relation_wantedJoins`: the relations that a level joins, by what is requested.
* `Resolution.Reached`: the requests that a root request leads to.
* `Reached.named`: how their tables are called.
* `Resolution.NamesClash`: two tables of a statement are called alike.
* `Resolution.references_resolve`: every reference of a statement is to a table before it, and the
  names of its tables are distinct unless they clash.
-/
set_option autoImplicit false

namespace SelectionSql

/-! ## The joined relations -/

namespace Selection

/-- The to-one relations of which a column is requested. -/
def joinedRelations (schema : Schema) (typeName : String) (node : Node) : List String :=
  ((requested node).filter fun c => schema.relationOf typeName c.1.name == .toOne &&
    !(requestedNames c.1).isEmpty).map fun c => c.1.name

theorem nodup_joinedRelations (schema : Schema) (typeName : String) (node : Node) :
    (joinedRelations schema typeName node).Nodup :=
  (List.filter_sublist.map _).nodup (nodup_requestedNames node)

/-- The join that a requested field is, if it is a to-one relation. -/
def joinOf? (t : SchemaType) {node : Node} (child : Child node) : Option ToOneJoin :=
  (t.field? child.1.name).bind fun field =>
    if field.relation = .toOne then
      some ⟨child.1.name, field.type.name, requestedNames child.1⟩
    else none

theorem toOne?_itemOn (t : SchemaType) {node : Node} (child : Child node) :
    (itemOn t child).toOne? = joinOf? t child := by
  unfold itemOn joinOf?
  cases t.field? child.1.name with
  | none => rfl
  | some field =>
    show (itemOf child field).toOne? = if field.relation = .toOne then _ else none
    unfold itemOf
    cases field.relation <;> rfl

theorem toOne_classify {schema : Schema} {typeName : String} {node : Node} {strict : Bool}
    {c : Classified node} (h : classify schema typeName node strict = .ok c) :
    ∃ t, schema.type? typeName = some t ∧ c.toOne = (requested node).filterMap (joinOf? t) := by
  obtain ⟨t, ht, hitems⟩ := classify_ok h
  refine ⟨t, ht, ?_⟩
  rw [Classified.toOne, hitems, List.filterMap_map]
  exact List.filterMap_congr fun child _ => toOne?_itemOn t child

/-- The joins of which a column is wanted are the to-one relations of which one is requested. -/
theorem map_relation_wantedJoins {schema : Schema} {typeName : String} {node : Node}
    {strict : Bool} {c : Classified node} (h : classify schema typeName node strict = .ok c) :
    (c.toOne.filter fun j => !j.columns.isEmpty).map ToOneJoin.relation =
      joinedRelations schema typeName node := by
  obtain ⟨t, ht, htoOne⟩ := toOne_classify h
  have hrelation : ∀ name, schema.relationOf typeName name =
      ((t.field? name).map FieldDef.relation).getD .none := by
    intro name
    rw [Schema.relationOf, Schema.field?, ht]
    rfl
  rw [htoOne]
  unfold joinedRelations
  induction requested node with
  | nil => rfl
  | cons child rest ih =>
    rw [List.filterMap_cons, List.filter_cons, hrelation]
    unfold joinOf?
    cases t.field? child.1.name with
    | none => exact ih
    | some field =>
      by_cases hone : field.relation = .toOne
      · simp only [Option.bind_some, Option.map_some, Option.getD_some, hone, if_true,
          List.filter_cons, beq_self_eq_true, Bool.true_and]
        split
        · exact congrArg (child.1.name :: ·) ih
        · exact ih
      · simp only [Option.bind_some, Option.map_some, Option.getD_some, hone, if_false,
          beq_eq_false_iff_ne.2 hone, Bool.false_and]
        exact ih

end Selection

/-! ## Requests -/

namespace Resolution
open Selection (Node Related Classified joinedRelations)

/-- A request below `root`, for what is related to rows with any ids. -/
inductive Reached (schema : Schema) (options : Options) (root : Request) : Request → Prop
  | root : Reached schema options root root
  | relation {p : Request} {selected : Classified p.node} {related : Related p.node}
      {caller : Modifiers} (id : Scalar) (h : Reached schema options root p)
      (hclassified : classified schema options p = .ok selected)
      (hrelated : related ∈ selected.relations)
      (hcaller : Modifiers.ofArguments related.node.arguments options.allowRawOrderBy =
        .ok caller) :
      Reached schema options root (relationRequest p related id caller)

/-- The table of a request is the entity's, one of a to-many field, or a pivot. -/
inductive Named (entity : Entity) (r : Request) : Prop
  | entity (htable : r.table = entity.table) (hpivot : r.pivotTarget = none)
  | field (name : String) (htable : r.table = toManyTable name) (hpivot : r.pivotTarget = none)
  | pivot (table name : String) (first : Bool) (htable : r.table = pivotTable table name first)
      (hpivot : r.pivotTarget = some r.typeName)

theorem named_relationRequest (entity : Entity) (p : Request) (related : Related p.node)
    (id : Scalar) (caller : Modifiers) : Named entity (relationRequest p related id caller) := by
  unfold relationRequest
  cases related.field.relation with
  | toManyMany first => exact .pivot p.entityTable related.node.name first rfl rfl
  | _ => exact .field related.node.name rfl rfl

theorem Reached.named {schema : Schema} {options : Options} {entity : Entity} {identity : Identity}
    {field : Node} {root p : Request}
    (hroot : rootRequest schema options entity identity field = .ok root)
    (h : Reached schema options root p) : Named entity p := by
  cases h with
  | relation id _ _ _ _ => exact named_relationRequest entity _ _ id _
  | root =>
    unfold rootRequest at hroot
    split at hroot
    · cases hroot
    · obtain ⟨caller, -, hroot⟩ := bind_eq_ok_iff.1 hroot
      cases hroot
      exact .entity rfl rfl

/-- Two tables in the statement of a request are called alike. -/
inductive NamesClash (schema : Schema) (r : Request) : Prop
  /-- A joined relation is called like the table that is read. -/
  | relation (h : r.table ∈ joinedRelations schema r.typeName r.node)
  /-- The type joined through a pivot is called like the pivot. -/
  | pivot {target : String} (htarget : r.pivotTarget = some target)
      (h : lowercase target = r.table)
  /-- A joined relation is called like the type joined through a pivot. -/
  | target {target : String} (htarget : r.pivotTarget = some target)
      (h : lowercase target ∈ joinedRelations schema r.typeName r.node)

theorem nodup_qualifiers_levelOf {schema : Schema} {options : Options} {r : Request}
    {selected : Classified r.node} (h : classified schema options r = .ok selected) :
    (levelOf r selected).qualifiers.Nodup ↔ ¬ NamesClash schema r := by
  have hjoined : (levelOf r selected).wantedJoins.map ToOneJoin.relation =
      joinedRelations schema r.typeName r.node := Selection.map_relation_wantedJoins h
  have hnodup := Selection.nodup_joinedRelations schema r.typeName r.node
  rw [Level.nodup_qualifiers_iff (by rw [hjoined]; exact hnodup), hjoined]
  constructor
  · rintro ⟨htable, htarget⟩ hclash
    cases hclash with
    | relation h => exact htable h
    | pivot hpivot h => exact (htarget _ hpivot).1 h
    | target hpivot h => exact (htarget _ hpivot).2 h
  · intro hclear
    refine ⟨fun h => hclear (.relation h), fun target hpivot => ⟨?_, ?_⟩⟩
    · exact fun h => hclear (.pivot hpivot h)
    · exact fun h => hclear (.target hpivot h)

/-- Whatever the names of fields and types, the columns that a statement selects and filters by are
of its own tables, and no join refers to a table behind it. The names of its tables are distinct
unless a joined relation is called like the table that is read or like the type joined through a
pivot, or that type like the pivot. -/
theorem references_resolve {schema : Schema} {options : Options} {entity : Entity}
    {identity : Identity} {field : Node} {root p : Request} {statement : Statement}
    (hroot : rootRequest schema options entity identity field = .ok root)
    (hreached : Reached schema options root p)
    (hstatement : statementOf schema options p = .ok statement) :
    (∀ item ∈ statement.query.select,
      item.expr.refersTo statement.query.qualifiers = true) ∧
    statement.query.filter.all (Sql.Expr.refersTo statement.query.qualifiers) = true ∧
    (∃ source, statement.query.source = some source ∧
      Sql.joinsReferBack [source.qualifier] statement.query.joins = true) ∧
    (statement.query.qualifiers.Nodup ↔ ¬ NamesClash schema p) ∧
    Named entity p := by
  obtain ⟨selected, hclassified, rfl⟩ := statementOf_ok hstatement
  have hqualifiers := (levelOf p selected).qualifiers_query
  refine ⟨?_, ?_, ⟨_, rfl, (levelOf p selected).joinsReferBack_joinClauses⟩, ?_,
    hreached.named hroot⟩
  · show ∀ item ∈ (levelOf p selected).items, _
    rw [Level.statement, hqualifiers]
    exact (levelOf p selected).refersTo_items
  · show (levelOf p selected).condition.all _ = true
    rw [Level.statement, hqualifiers]
    exact Level.refersTo_condition List.mem_cons_self
  · rw [Level.statement, hqualifiers]
    exact nodup_qualifiers_levelOf hclassified

/-! ## Tags under tags -/

namespace Tagging

def schema : Schema where
  types := .ofList
    [("Query", ⟨"Query", .ofList [("posts", ⟨"posts", ⟨"Post", true, true⟩, .none⟩)]⟩),
      ("Post", ⟨"Post", .ofList
        [("id", ⟨"id", ⟨"ID", false, false⟩, .none⟩),
          ("tags", ⟨"tags", ⟨"Tag", true, true⟩, .toManyMany false⟩)]⟩),
      ("Tag", ⟨"Tag", .ofList
        [("id", ⟨"id", ⟨"ID", false, false⟩, .none⟩),
          ("label", ⟨"label", ⟨"String", false, true⟩, .none⟩),
          ("tag", ⟨"tag", ⟨"Tag", false, true⟩, .toOne⟩),
          ("author", ⟨"author", ⟨"User", false, true⟩, .toOne⟩)]⟩),
      ("User", ⟨"User", .ofList [("name", ⟨"name", ⟨"String", false, true⟩, .none⟩)]⟩)]
  queryType := "Query"

def entity : Entity := ⟨"Post", "posts", .none⟩

/-- Tags with a column of one to-one relation of theirs. -/
def tags (relation column : String) : Node :=
  ⟨"tags", .empty, [.ofName "label", .leaves relation [column]]⟩

def posts (relation column : String) : Node :=
  ⟨"posts", .empty, [.ofName "id", tags relation column]⟩

def root (relation column : String) : Request :=
  { node := posts relation column, typeName := "Post", table := "posts", entityTable := "posts",
    pivotTarget := none, modifiers := .empty, cardinality := .many }

def related (relation column : String) : Related (root relation column).node :=
  ⟨tags relation column, ⟨"tags", ⟨"Tag", true, true⟩, .toManyMany false⟩,
    List.mem_cons_of_mem _ List.mem_cons_self⟩

def selected (relation column : String) : Classified (root relation column).node :=
  ⟨[.scalar "id", .toManyMany (related relation column)]⟩

/-- The request for the tags of the post with the id 1. -/
def ofPost (relation column : String) : Request :=
  relationRequest (root relation column) (related relation column) (.int 1) .empty

theorem reached_ofPost (relation column : String) :
    Reached schema .default (root relation column) (ofPost relation column) := by
  have hclassified : classified schema .default (root relation column) =
      .ok (selected relation column) := rfl
  exact .relation (.int 1) .root hclassified List.mem_cons_self rfl

end Tagging

theorem references_resolve_author :
    ∃ statement, statementOf Tagging.schema .default (Tagging.ofPost "author" "name") =
        .ok statement ∧
      statement.query.qualifiers = ["tags_posts", "tag", "author"] ∧
      statement.query.qualifiers.Nodup ∧
      statement.query.filter.all (Sql.Expr.refersTo statement.query.qualifiers) = true := by
  obtain ⟨statement, hstatement⟩ : ∃ statement,
      statementOf Tagging.schema .default (Tagging.ofPost "author" "name") = .ok statement :=
    ⟨_, rfl⟩
  have hroot : rootRequest Tagging.schema .default Tagging.entity .guest
      (Tagging.posts "author" "name") = .ok (Tagging.root "author" "name") := rfl
  obtain ⟨-, hfilter, -, hnames, -⟩ :=
    references_resolve hroot (Tagging.reached_ofPost "author" "name") hstatement
  have hqualifiers : statement.query.qualifiers = ["tags_posts", "tag", "author"] := by
    cases hstatement
    decide
  refine ⟨statement, hstatement, hqualifiers, ?_, hfilter⟩
  rw [hnames]
  intro hclash
  cases hclash with
  | relation h => exact absurd h (by decide)
  | pivot htarget h =>
    cases htarget
    exact absurd h (by decide)
  | target htarget h =>
    cases htarget
    exact absurd h (by decide)

/-- Every tag is under a tag: in the statement for the tags of a post, the pivot's target and the
relation are both called `tag`. -/
theorem two_tables_called_tag :
    Tagging.schema.validate = .ok () ∧
      rootRequest Tagging.schema .default Tagging.entity .guest (Tagging.posts "tag" "label") =
        .ok (Tagging.root "tag" "label") ∧
      Reached Tagging.schema .default (Tagging.root "tag" "label")
        (Tagging.ofPost "tag" "label") ∧
      ∃ statement, statementOf Tagging.schema .default (Tagging.ofPost "tag" "label") =
          .ok statement ∧
        statement.query.qualifiers = ["tags_posts", "tag", "tag"] ∧
        ¬ statement.query.qualifiers.Nodup := by
  refine ⟨by decide, rfl, Tagging.reached_ofPost "tag" "label", _, rfl, ?_, ?_⟩
  · decide
  · decide

end Resolution
end SelectionSql
