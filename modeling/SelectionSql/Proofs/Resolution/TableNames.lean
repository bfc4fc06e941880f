import SelectionSql.Proofs.Resolution.NameClash
import SelectionSql.Proofs.Resolution.StatementLog

/-!
# Names of tables along relations

Which table a request reads follows from the relation that leads to it and from the table of the
rows that this relation starts at. That one is never a pivot.

* `Resolution.Link`: a relation that is followed, with the tables that it leads to.
* `Resolution.Chain`: the requests at the ends of chains of relations; `Reached.exists_chain`: every
  request that is reached is one.
* `Resolution.NamedAlong`: how the tables of such a request are called.
* `Resolution.tables_along_chain`: so they are called, however long the chain is.
* `Resolution.Mirrors`: one statement joins its target through the column of the pivot by which
  another is restricted.
* `Resolution.pivot_mirrored`: the two directions of a relation through a pivot mirror each other.
-/
set_option autoImplicit false

namespace SelectionSql

/-! ## The columns of a level -/

namespace Level
variable {l : Level}

theorem head?_joinClauses {target : String} (h : l.pivotTarget = some target) :
    l.joinClauses.head? = some (Sql.keyJoin l.table (entityTable target) (lowercase target)) := by
  rw [joinClauses, pivotJoins, h]
  rfl

theorem entityName_eq {target : String} (h : l.pivotTarget = some target) :
    l.entityName = lowercase target := by
  rw [entityName, h]

/-- What keeps its own name in the answer is a column of the level's entity. -/
theorem exists_own_of_mem_items {item : Sql.SelectItem} (hitem : item ∈ l.items)
    (has : item.as = none) : ∃ column, item.expr = .of l.entityName column := by
  simp only [items, ownItems, joinedItems, List.mem_append, List.mem_map, List.mem_flatMap] at hitem
  rcases hitem with (⟨column, -, rfl⟩ | ⟨j, -, column, -, rfl⟩) | hid
  · exact ⟨column, rfl⟩
  · cases has
  · split at hid
    · rw [List.mem_singleton.1 hid]
      exact ⟨idColumn, rfl⟩
    · cases hid

end Level

namespace Resolution
open Selection (Node Related Classified)

/-! ## Relations that are followed -/

/-- A relation that is followed from one row to many. -/
structure Link where
  field : String
  targetType : String
  relation : Relation

namespace Link

def ofRelated {parent : Node} (related : Related parent) : Link :=
  ⟨related.node.name, related.targetType, related.field.relation⟩

/-- The table of the rows that the relation leads to. -/
def entityTable (l : Link) : String :=
  match l.relation with
  | .toManyMany _ => SelectionSql.entityTable l.targetType
  | _ => lowercase l.field

/-- The table that is read to get from the rows of a table to those related to them. -/
def table (l : Link) (owner : String) : String :=
  match l.relation with
  | .toManyMany true => owner ++ "_" ++ lowercase l.field
  | .toManyMany false => lowercase l.field ++ "_" ++ owner
  | _ => lowercase l.field

def pivotTarget (l : Link) : Option String :=
  match l.relation with
  | .toManyMany _ => some l.targetType
  | _ => none

variable {l : Link}

theorem entityTable_of_no_pivot (h : l.pivotTarget = none) (owner : String) :
    l.entityTable = l.table owner := by
  unfold pivotTarget at h
  unfold entityTable table
  cases hrelation : l.relation <;> simp only [hrelation] at h ⊢
  cases h

theorem of_pivotTarget {target : String} (h : l.pivotTarget = some target) :
    target = l.targetType ∧ l.entityTable = SelectionSql.entityTable target := by
  unfold pivotTarget at h
  unfold entityTable
  cases hrelation : l.relation <;> simp only [hrelation] at h ⊢ <;> cases h
  exact ⟨rfl, rfl⟩

/-- The pivot between two tables has one name, whichever side it is read from. -/
theorem table_mirrored {f g : Link} {first : Bool} (hf : f.relation = .toManyMany first)
    (hg : g.relation = .toManyMany (!first)) :
    f.table (lowercase g.field) = g.table (lowercase f.field) := by
  unfold table
  rw [hf, hg]
  cases first <;> rfl

end Link

section Request
variable (p : Request) (related : Related p.node) (id : Scalar) (caller : Modifiers)

theorem relationRequest_typeName :
    (relationRequest p related id caller).typeName = related.targetType := by
  unfold relationRequest
  split <;> rfl

theorem relationRequest_table :
    (relationRequest p related id caller).table = (Link.ofRelated related).table p.entityTable := by
  unfold relationRequest Link.table Link.ofRelated
  cases related.field.relation with
  | toManyMany first => cases first <;> rfl
  | _ => rfl

theorem relationRequest_entityTable :
    (relationRequest p related id caller).entityTable = (Link.ofRelated related).entityTable := by
  unfold relationRequest Link.entityTable Link.ofRelated
  cases related.field.relation <;> rfl

theorem relationRequest_pivotTarget :
    (relationRequest p related id caller).pivotTarget = (Link.ofRelated related).pivotTarget := by
  unfold relationRequest Link.pivotTarget Link.ofRelated
  cases related.field.relation <;> rfl

end Request

/-- The requests at the ends of chains of relations, the last relation first. -/
inductive Chain (schema : Schema) (options : Options) (root : Request) : List Link → Request → Prop
  | root : Chain schema options root [] root
  | follow {links : List Link} {p : Request} {selected : Classified p.node}
      {related : Related p.node} (id : Scalar) (caller : Modifiers)
      (h : Chain schema options root links p)
      (hclassified : classified schema options p = .ok selected)
      (hrelated : related ∈ selected.relations) :
      Chain schema options root (.ofRelated related :: links) (relationRequest p related id caller)

theorem Reached.exists_chain {schema : Schema} {options : Options} {root r : Request}
    (h : Reached schema options root r) : ∃ links, Chain schema options root links r := by
  induction h with
  | root => exact ⟨[], .root⟩
  | relation id _ hclassified hrelated _ ih =>
    obtain ⟨links, hchain⟩ := ih
    exact ⟨_, .follow id _ hchain hclassified hrelated⟩

/-! ## The tables of a request -/

/-- The type that a chain of relations from an entity leads to. -/
def typeAfter (entity : Entity) : List Link → String
  | [] => entity.typeName
  | l :: _ => l.targetType

/-- The table of the rows that a chain of relations from an entity leads to. -/
def tableAfter (entity : Entity) : List Link → String
  | [] => entity.table
  | l :: _ => l.entityTable

/-- The statement joins the table of the request's rows first and takes its columns from there. -/
structure JoinsEntity (r : Request) (target : String) (s : Statement) : Prop where
  join : s.query.joins.head? = some (Sql.keyJoin r.table r.entityTable (lowercase target))
  columns : ∀ item ∈ s.query.select, item.as = none →
    ∃ column, item.expr = .of (lowercase target) column

/-- How the tables of a request are called to which a chain of relations leads. -/
structure NamedAlong (schema : Schema) (options : Options) (entity : Entity) (links : List Link)
    (r : Request) : Prop where
  typeName : r.typeName = typeAfter entity links
  entityTable : r.entityTable = tableAfter entity links
  source : ∀ s, statementOf schema options r = .ok s → s.query.source = some ⟨r.table, none⟩
  unpivoted : r.pivotTarget = none → r.entityTable = r.table
  pivoted : ∀ target, r.pivotTarget = some target → target = r.typeName ∧
    r.entityTable = SelectionSql.entityTable target ∧
    ∀ s, statementOf schema options r = .ok s → JoinsEntity r target s
  /-- Before any relation the entity's own table is read. -/
  first : links = [] → r.table = entity.table ∧ r.pivotTarget = none
  /-- The last relation is declared on the type before it, and decides with the table before it. -/
  last : ∀ l above, links = l :: above →
    schema.relationOf (typeAfter entity above) l.field = l.relation ∧ l.relation.isMany = true ∧
    schema.targetOf? (typeAfter entity above) l.field = some l.targetType ∧
    r.table = l.table (tableAfter entity above) ∧ r.pivotTarget = l.pivotTarget

section Named
variable {schema : Schema} {options : Options} {entity : Entity} {identity : Identity}
  {field : Node} {root r : Request} {links : List Link} {s : Statement}

theorem source_statementOf (h : statementOf schema options r = .ok s) :
    s.query.source = some ⟨r.table, none⟩ := by
  obtain ⟨selected, -, rfl⟩ := statementOf_ok h
  rfl

theorem joinsEntity_statementOf {target : String} (hpivot : r.pivotTarget = some target)
    (hentity : r.entityTable = SelectionSql.entityTable target)
    (h : statementOf schema options r = .ok s) : JoinsEntity r target s := by
  obtain ⟨selected, -, rfl⟩ := statementOf_ok h
  have htarget : (levelOf r selected).pivotTarget = some target := hpivot
  constructor
  · rw [hentity]
    exact Level.head?_joinClauses htarget
  · rw [← Level.entityName_eq htarget]
    exact fun item hitem => Level.exists_own_of_mem_items hitem

theorem named_root (h : rootRequest schema options entity identity field = .ok root) :
    NamedAlong schema options entity [] root := by
  unfold rootRequest at h
  split at h
  · cases h
  · obtain ⟨caller, -, h⟩ := bind_eq_ok_iff.1 h
    cases h
    exact {
      typeName := rfl
      entityTable := rfl
      source := fun s => source_statementOf
      unpivoted := fun _ => rfl
      pivoted := fun target h => nomatch h
      first := fun _ => ⟨rfl, rfl⟩
      last := fun l above h => nomatch h }

/-- One more relation: of the tables before, only that of the rows counts. -/
theorem NamedAlong.follow {p : Request} {selected : Classified p.node} {related : Related p.node}
    (h : NamedAlong schema options entity links p) (id : Scalar) (caller : Modifiers)
    (hclassified : classified schema options p = .ok selected)
    (hrelated : related ∈ selected.relations) :
    NamedAlong schema options entity (.ofRelated related :: links)
      (relationRequest p related id caller) := by
  have htype := relationRequest_typeName p related id caller
  have hentity := relationRequest_entityTable p related id caller
  have hpivot := relationRequest_pivotTarget p related id caller
  have htable := relationRequest_table p related id caller
  constructor
  case typeName => exact htype
  case entityTable => exact hentity
  case source => exact fun s => source_statementOf
  case unpivoted =>
    intro hnone
    rw [hpivot] at hnone
    rw [hentity, htable, Link.entityTable_of_no_pivot hnone p.entityTable]
  case pivoted =>
    intro target hsome
    obtain ⟨hlast, hjoined⟩ := Link.of_pivotTarget (hpivot.symm.trans hsome)
    exact ⟨hlast.trans htype.symm, hentity.trans hjoined,
      fun s => joinsEntity_statementOf hsome (hentity.trans hjoined)⟩
  case first => exact fun hnil => nomatch hnil
  case last =>
    intro l above hlinks
    cases hlinks
    obtain ⟨hdeclared, hmany⟩ := (Selection.Classified.mem_relations_iff hclassified).1 hrelated
    have hfield := hdeclared.field?
    rw [h.typeName] at hfield
    refine ⟨?_, hmany, ?_, ?_, hpivot⟩
    · rw [Schema.relationOf, Link.ofRelated, hfield]
      rfl
    · rw [Schema.targetOf?, Link.ofRelated, hfield]
      rfl
    · rw [htable, h.entityTable]

theorem Chain.named (hroot : rootRequest schema options entity identity field = .ok root)
    (h : Chain schema options root links r) : NamedAlong schema options entity links r := by
  induction h with
  | root => exact named_root hroot
  | follow id caller _ hclassified hrelated ih => exact ih.follow id caller hclassified hrelated

/-- Every request that is reached from an entity is at the end of a chain of relations, and its
tables are called after the last relation of the chain and the table of the rows before it. -/
theorem tables_along_chain
    (hroot : rootRequest schema options entity identity field = .ok root) :
    (∀ r, Reached schema options root r → ∃ links, Chain schema options root links r) ∧
    ∀ links r, Chain schema options root links r → NamedAlong schema options entity links r :=
  ⟨fun _ h => h.exists_chain, fun _ _ h => h.named hroot⟩

end Named

namespace Circle

/-- Posts and tags lead to each other; of the two, the tags' table comes second in the pivot. -/
def schema : Schema where
  types := .ofList
    [("Query", ⟨"Query", .ofList [("posts", ⟨"posts", ⟨"Post", true, true⟩, .none⟩)]⟩),
      ("Post", ⟨"Post", .ofList
        [("id", ⟨"id", ⟨"ID", false, false⟩, .none⟩),
          ("tags", ⟨"tags", ⟨"Tag", true, true⟩, .toManyMany true⟩),
          ("comments", ⟨"comments", ⟨"Comment", true, true⟩, .toMany⟩)]⟩),
      ("Tag", ⟨"Tag", .ofList
        [("id", ⟨"id", ⟨"ID", false, false⟩, .none⟩),
          ("posts", ⟨"posts", ⟨"Post", true, true⟩, .toManyMany false⟩)]⟩),
      ("Comment", ⟨"Comment", .ofList [("id", ⟨"id", ⟨"ID", false, false⟩, .none⟩)]⟩)]
  queryType := "Query"

def entity : Entity := ⟨"Post", "posts", .none⟩

def comments : Node := ⟨"comments", .empty, [.ofName "id"]⟩

def postsOfTag : Node := ⟨"posts", .empty, [.ofName "id", comments]⟩

def tags : Node := ⟨"tags", .empty, [.ofName "id", postsOfTag]⟩

def posts : Node := ⟨"posts", .empty, [.ofName "id", tags]⟩

def root : Request :=
  { node := posts, typeName := "Post", table := "posts", entityTable := "posts",
    pivotTarget := none, modifiers := .empty, cardinality := .many }

def toTags : Related root.node :=
  ⟨tags, ⟨"tags", ⟨"Tag", true, true⟩, .toManyMany true⟩,
    List.mem_cons_of_mem _ List.mem_cons_self⟩

/-- The request for the tags of the post with the id 1. -/
def ofPost : Request := relationRequest root toTags (.int 1) .empty

def toPosts : Related ofPost.node :=
  ⟨postsOfTag, ⟨"posts", ⟨"Post", true, true⟩, .toManyMany false⟩,
    List.mem_cons_of_mem _ List.mem_cons_self⟩

/-- The request for the posts of the tag with the id 2. -/
def ofTag : Request := relationRequest ofPost toPosts (.int 2) .empty

def toComments : Related ofTag.node :=
  ⟨comments, ⟨"comments", ⟨"Comment", true, true⟩, .toMany⟩,
    List.mem_cons_of_mem _ List.mem_cons_self⟩

/-- The request for the comments on the post with the id 3. -/
def ofPostAgain : Request := relationRequest ofTag toComments (.int 3) .empty

theorem chain_ofTag : Chain schema .default root
    [.ofRelated toPosts, .ofRelated toTags] ofTag := by
  have htags : classified schema .default root = .ok ⟨[.scalar "id", .toManyMany toTags]⟩ := rfl
  have hposts : classified schema .default ofPost = .ok ⟨[.scalar "id", .toManyMany toPosts]⟩ := rfl
  exact .follow (.int 2) .empty (.follow (.int 1) .empty .root htags List.mem_cons_self) hposts
    List.mem_cons_self

theorem chain_ofPostAgain : Chain schema .default root
    [.ofRelated toComments, .ofRelated toPosts, .ofRelated toTags] ofPostAgain := by
  have hcomments : classified schema .default ofTag =
      .ok ⟨[.scalar "id", .toMany toComments]⟩ := rfl
  exact .follow (.int 3) .empty chain_ofTag hcomments List.mem_cons_self

end Circle

/-- Back at the posts the pivot has the name that it had on the way to the tags, and the comments
are read as they would be from the root. -/
theorem tables_along_chain_circle :
    Circle.ofTag.table = "posts_tags" ∧ Circle.ofTag.entityTable = "posts" ∧
      (∃ statement, statementOf Circle.schema .default Circle.ofTag = .ok statement ∧
        statement.query.source = some ⟨"posts_tags", none⟩ ∧
        statement.query.joins.head? = some (Sql.keyJoin "posts_tags" "posts" "post")) ∧
      Circle.ofPostAgain.table = "comments" ∧ Circle.ofPostAgain.entityTable = "comments" := by
  have hroot : rootRequest Circle.schema .default Circle.entity .guest Circle.posts =
      .ok Circle.root := rfl
  obtain ⟨-, hnamed⟩ := tables_along_chain hroot
  have htag := hnamed _ _ Circle.chain_ofTag
  have hagain := hnamed _ _ Circle.chain_ofPostAgain
  obtain ⟨-, -, -, htable, hpivot⟩ := htag.last _ _ rfl
  obtain ⟨-, -, -, htable', hpivot'⟩ := hagain.last _ _ rfl
  have hentity : Circle.ofTag.entityTable = "posts" := by
    rw [htag.entityTable]
    decide
  have hposts : Circle.ofTag.table = "posts_tags" := by
    rw [htable]
    decide
  have hcomments : Circle.ofPostAgain.table = "comments" := by
    rw [htable']
    decide
  obtain ⟨-, -, hjoined⟩ := htag.pivoted "Post" hpivot
  have hjoin := (hjoined _ rfl).join
  rw [hposts, hentity] at hjoin
  refine ⟨hposts, hentity, ⟨_, rfl, ?_, ?_⟩, hcomments, ?_⟩
  · rw [htag.source _ rfl, hposts]
  · exact hjoin
  · rw [hagain.unpivoted hpivot', hcomments]

/-! ## The two directions of a relation -/

/-- Both statements read the pivot; the column through which `s` joins the target is the one by
which `t` is restricted to an id. -/
structure Mirrors (s t : Statement) (pivot target : String) (id : Scalar) : Prop where
  joiner : s.query.source = some ⟨pivot, none⟩
  restricted : t.query.source = some ⟨pivot, none⟩
  join : s.query.joins.head? =
    some (Sql.keyJoin pivot (SelectionSql.entityTable target) (lowercase target))
  predicate : ∃ clause predicates, Sql.whereClause? t.query.tokens = some clause ∧
    Sql.readCondition clause = some predicates ∧
    predicates.filter (fun q => q.column = foreignKey (lowercase target)) =
      [⟨some pivot, foreignKey (lowercase target), .of id⟩]

section Mirrored
variable {schema : Schema} {options : Options} {p q : Request} {f : Related p.node}
  {g : Related q.node}

/-- One direction: the relation `f` leads to rows of the type from which `g` starts. -/
theorem mirrors_of_table_eq {first : Bool} {idP idQ : Scalar} {callerP callerQ : Modifiers}
    {s t : Statement} (hf : f.field.relation = .toManyMany first)
    (htarget : f.targetType = q.typeName)
    (htable : (relationRequest q g idQ callerQ).table = (relationRequest p f idP callerP).table)
    (hs : statementOf schema options (relationRequest p f idP callerP) = .ok s)
    (ht : statementOf schema options (relationRequest q g idQ callerQ) = .ok t) :
    Mirrors s t (relationRequest p f idP callerP).table q.typeName idQ := by
  have hpivot : (relationRequest p f idP callerP).pivotTarget = some q.typeName := by
    rw [relationRequest_pivotTarget, ← htarget, Link.pivotTarget, Link.ofRelated, hf]
  have hentity : (relationRequest p f idP callerP).entityTable =
      SelectionSql.entityTable q.typeName := by
    rw [relationRequest_entityTable, ← htarget, Link.entityTable, Link.ofRelated, hf]
  constructor
  case joiner => exact source_statementOf hs
  case restricted => rw [source_statementOf ht, htable]
  case join => rw [(joinsEntity_statementOf hpivot hentity hs).join, hentity]
  case predicate =>
    rw [← htable]
    exact predicates_on_parentColumn ht

/-- The two directions of a relation through a pivot read the same pivot. Each of them restricts
the column through which the other one joins its target. -/
theorem pivot_mirrored (schema : Schema) (options : Options) {first : Bool}
    (hf : f.field.relation = .toManyMany first) (hg : g.field.relation = .toManyMany (!first))
    (hftarget : f.targetType = q.typeName) (hgtarget : g.targetType = p.typeName)
    (hfname : lowercase f.node.name = q.entityTable)
    (hgname : lowercase g.node.name = p.entityTable) (idP idQ : Scalar)
    (callerP callerQ : Modifiers) :
    ∃ pivot, (relationRequest p f idP callerP).table = pivot ∧
      (relationRequest q g idQ callerQ).table = pivot ∧
      ∀ s t, statementOf schema options (relationRequest p f idP callerP) = .ok s →
        statementOf schema options (relationRequest q g idQ callerQ) = .ok t →
        Mirrors s t pivot q.typeName idQ ∧ Mirrors t s pivot p.typeName idP := by
  have htable : (relationRequest q g idQ callerQ).table =
      (relationRequest p f idP callerP).table := by
    rw [relationRequest_table, relationRequest_table, ← hfname, ← hgname]
    exact (Link.table_mirrored (f := .ofRelated f) (g := .ofRelated g) hf hg).symm
  refine ⟨_, rfl, htable, fun s t hs ht => ⟨?_, ?_⟩⟩
  · exact mirrors_of_table_eq hf hftarget htable hs ht
  · rw [← htable]
    exact mirrors_of_table_eq hg hgtarget htable.symm ht hs

end Mirrored

namespace Streets

/-- Streets and the cities they lead to. -/
def schema : Schema where
  types := .ofList
    [("Query", ⟨"Query", .ofList [("ΟΔΟΊ", ⟨"ΟΔΟΊ", ⟨"ΟΔΟΣ", true, true⟩, .none⟩),
        ("ΠΌΛΕΙΣ", ⟨"ΠΌΛΕΙΣ", ⟨"ΠΌΛΗ", true, true⟩, .none⟩)]⟩),
      ("ΟΔΟΣ", ⟨"ΟΔΟΣ", .ofList
        [("id", ⟨"id", ⟨"ID", false, false⟩, .none⟩),
          ("ΠΌΛΗS", ⟨"ΠΌΛΗS", ⟨"ΠΌΛΗ", true, true⟩, .toManyMany true⟩)]⟩),
      ("ΠΌΛΗ", ⟨"ΠΌΛΗ", .ofList
        [("id", ⟨"id", ⟨"ID", false, false⟩, .none⟩),
          ("Οδοςs", ⟨"Οδοςs", ⟨"ΟΔΟΣ", true, true⟩, .toManyMany false⟩)]⟩)]
  queryType := "Query"

def cities : Node := ⟨"ΠΌΛΗS", .empty, [.ofName "id"]⟩

def streets : Node := ⟨"Οδοςs", .empty, [.ofName "id"]⟩

/-- The request for all streets. -/
def ofStreets : Request :=
  { node := ⟨"ΟΔΟΊ", .empty, [cities]⟩, typeName := "ΟΔΟΣ", table := "οδοςs",
    entityTable := "οδοςs", pivotTarget := none, modifiers := .empty, cardinality := .many }

/-- The request for all cities. -/
def ofCities : Request :=
  { node := ⟨"ΠΌΛΕΙΣ", .empty, [streets]⟩, typeName := "ΠΌΛΗ", table := "πόληs",
    entityTable := "πόληs", pivotTarget := none, modifiers := .empty, cardinality := .many }

def toCities : Related ofStreets.node :=
  ⟨cities, ⟨"ΠΌΛΗS", ⟨"ΠΌΛΗ", true, true⟩, .toManyMany true⟩, List.mem_cons_self⟩

def toStreets : Related ofCities.node :=
  ⟨streets, ⟨"Οδοςs", ⟨"ΟΔΟΣ", true, true⟩, .toManyMany false⟩, List.mem_cons_self⟩

end Streets

/-- In lower case `ΟΔΟΣ` ends in the sigma that ends words, which the pivot and its columns keep. -/
theorem pivot_mirrored_streets :
    ∃ s t, statementOf Streets.schema .default
        (relationRequest Streets.ofStreets Streets.toCities (.int 1) .empty) = .ok s ∧
      statementOf Streets.schema .default
        (relationRequest Streets.ofCities Streets.toStreets (.int 2) .empty) = .ok t ∧
      Mirrors s t "οδοςs_πόληs" "ΠΌΛΗ" (.int 2) ∧ Mirrors t s "οδοςs_πόληs" "ΟΔΟΣ" (.int 1) := by
  have hcities : lowercase Streets.toCities.node.name = Streets.ofCities.entityTable := by decide
  have hstreets : lowercase Streets.toStreets.node.name = Streets.ofStreets.entityTable := by decide
  obtain ⟨pivot, htable, -, hmirrors⟩ :=
    pivot_mirrored Streets.schema .default (f := Streets.toCities) (g := Streets.toStreets) rfl rfl
      rfl rfl hcities hstreets (.int 1) (.int 2) .empty .empty
  have hpivot : pivot = "οδοςs_πόληs" := by
    rw [← htable]
    decide
  refine ⟨_, _, rfl, rfl, ?_⟩
  rw [← hpivot]
  exact hmirrors _ _ rfl rfl

end Resolution
end SelectionSql
