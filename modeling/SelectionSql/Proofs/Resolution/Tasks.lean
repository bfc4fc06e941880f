import Mathlib.Data.List.ProdSigma
import Mathlib.Data.List.Nodup
import SelectionSql.Proofs.Outcome
import SelectionSql.Resolution.Task

/-!
# The sub-resolutions of a level

What `Resolution.tasksOf` yields, said without running it.

* `Selection.firstOccurrences`: which elements stay; their names are distinct.
* `Classified.nodup_relations`: a level has at most one relation of each name.
* `Resolution.distinctIds`: the ids among rows, each key once.
* `Resolution.tasksOf_eq_ok_iff`: there are tasks exactly if all arguments can be read and all rows
  have ids, and then there is one for every relation and every distinct id.
* `Resolution.nodup_taskIndexes`: no two tasks of a level fill the same field of the same rows.
-/
set_option autoImplicit false

namespace SelectionSql

theorem filterMap_sublist_map {α β : Type} {f : α → Option β} {g : α → β} {l : List α}
    (h : ∀ a ∈ l, ∀ b, f a = some b → b = g a) : (l.filterMap f).Sublist (l.map g) := by
  induction l with
  | nil => exact List.Sublist.slnil
  | cons a rest ih =>
    have hrest := ih fun b hb => h b (List.mem_cons_of_mem a hb)
    cases ha : f a with
    | none =>
      rw [List.filterMap_cons_none ha]
      exact hrest.cons (g a)
    | some b =>
      rw [List.filterMap_cons_some ha, h a List.mem_cons_self b ha]
      exact hrest.cons_cons (g a)

/-! ## First occurrences -/

namespace Selection
variable {α : Type}

theorem mem_firstOccurrences {name : α → String} {seen : List String} {l : List α} {a : α}
    (h : a ∈ firstOccurrences name seen l) : a ∈ l ∧ name a ∉ seen := by
  induction l generalizing seen with
  | nil => simp [firstOccurrences] at h
  | cons b rest ih =>
    rw [firstOccurrences] at h
    split at h
    · exact ⟨List.mem_cons_of_mem b (ih h).1, (ih h).2⟩
    · next hb =>
      rcases List.mem_cons.1 h with rfl | h
      · exact ⟨List.mem_cons_self, by simpa using hb⟩
      · obtain ⟨hrest, hseen⟩ := ih h
        exact ⟨List.mem_cons_of_mem b hrest, fun hs => hseen (List.mem_cons_of_mem _ hs)⟩

theorem exists_mem_firstOccurrences (name : α → String) {seen : List String} {l : List α} {a : α}
    (h : a ∈ l) (hseen : name a ∉ seen) :
    ∃ b ∈ firstOccurrences name seen l, name b = name a := by
  induction l generalizing seen with
  | nil => simp at h
  | cons b rest ih =>
    rw [firstOccurrences]
    by_cases hb : name b ∈ seen
    · have hne : a ≠ b := by
        rintro rfl
        exact hseen hb
      rw [if_pos (by simpa using hb)]
      exact ih ((List.mem_cons.1 h).resolve_left hne) hseen
    · rw [if_neg (by simpa using hb)]
      by_cases hab : name b = name a
      · exact ⟨b, List.mem_cons_self, hab⟩
      · have hne : a ≠ b := fun e => hab (e ▸ rfl)
        have hseen' : name a ∉ name b :: seen := by
          simp only [List.mem_cons, not_or]
          exact ⟨Ne.symm hab, hseen⟩
        obtain ⟨c, hc, hca⟩ := ih ((List.mem_cons.1 h).resolve_left hne) hseen'
        exact ⟨c, List.mem_cons_of_mem b hc, hca⟩

theorem nodup_firstOccurrences (name : α → String) (seen : List String) (l : List α) :
    ((firstOccurrences name seen l).map name).Nodup := by
  induction l generalizing seen with
  | nil => simp [firstOccurrences]
  | cons a rest ih =>
    rw [firstOccurrences]
    split
    · exact ih seen
    · rw [List.map_cons, List.nodup_cons]
      refine ⟨fun hmem => ?_, ih _⟩
      obtain ⟨b, hb, hname⟩ := List.mem_map.1 hmem
      exact (mem_firstOccurrences hb).2 (hname ▸ List.mem_cons_self)

/-! ## Relations of a level -/

/-- The relation that an item is, to many rows or through a pivot. -/
def Item.related? {parent : Node} : Item parent → Option (Related parent)
  | .toMany related => some related
  | .toManyMany related => some related
  | _ => none

theorem Classified.relations_perm {parent : Node} (c : Classified parent) :
    c.relations.Perm (c.items.filterMap Item.related?) := by
  unfold relations toMany toManyMany
  induction c.items with
  | nil => exact List.Perm.nil
  | cons item rest ih =>
    cases item with
    | scalar name => exact ih
    | toOne join => exact ih
    | toMany related => exact ih.cons related
    | toManyMany related => exact List.perm_middle.trans (ih.cons related)

theorem related?_classifyChild {parent : Node} {schema : Schema} {typeName : String}
    {t : SchemaType} {strict : Bool} {child : Child parent} {item : Item parent}
    {related : Related parent}
    (h : classifyChild schema typeName t strict child = .ok item)
    (hr : item.related? = some related) : related.node = child.1 := by
  unfold classifyChild at h
  dsimp only at h
  split at h
  · split at h
    · cases h
    · cases h
      cases hr
  · next field _ =>
    split at h
    · cases h
      cases hr
    · obtain ⟨columns, -, h⟩ := bind_eq_ok_iff.1 h
      cases h
      cases hr
    · cases h
      cases hr
      rfl
    · cases h
      cases hr
      rfl

theorem Classified.nodup_relations {schema : Schema} {typeName : String} {node : Node}
    {strict : Bool} {c : Classified node} (h : classify schema typeName node strict = .ok c) :
    (c.relations.map fun s => s.node.name).Nodup := by
  unfold classify at h
  split at h
  · cases h
  · next t _ =>
    obtain ⟨items, hm, h⟩ := bind_eq_ok_iff.1 h
    cases h
    have : Inhabited (Item node) := ⟨.scalar ""⟩
    obtain ⟨item, hall, rfl⟩ := mapM_eq_ok_iff.1 hm
    have hnames : (((requested node).map item).filterMap Item.related?).map
        (fun s => s.node.name) =
        (requested node).filterMap fun c => (item c).related?.map fun s => s.node.name := by
      rw [List.filterMap_map, List.map_filterMap]
      rfl
    have hsub : ((requested node).filterMap fun c =>
        (item c).related?.map fun s => s.node.name).Sublist
          ((requested node).map fun c => c.1.name) := by
      refine filterMap_sublist_map fun child hchild name hname => ?_
      obtain ⟨related, hrelated, rfl⟩ := Option.map_eq_some_iff.1 hname
      rw [related?_classifyChild (hall child hchild) hrelated]
    refine (((relations_perm _).map _).nodup_iff).2 ?_
    rw [hnames]
    exact hsub.nodup (nodup_firstOccurrences _ _ _)

end Selection

/-! ## Ids -/

namespace Resolution
open Selection (Related Classified)

/-- The id of a row with its key, if the row has one. -/
def keyedId? (row : ResultObject) : Option (String × Scalar) :=
  (rowId? row).map fun id => (id.idKey?.getD "", id)

/-- The ids among rows, each key once. -/
def distinctIds (rows : List ResultObject) : List (String × Scalar) :=
  Selection.firstOccurrences Prod.fst [] (rows.filterMap keyedId?)

/-- The key under which the results of a row are found. -/
def keyOf (row : ResultObject) : String := (rowKey? row).getD ""

theorem rowId?_eq_some_iff {row : ResultObject} {id : Scalar} :
    rowId? row = some id ↔ row.find? idColumn = some (.scalar id) ∧ id.isNull = false := by
  unfold rowId?
  constructor
  · intro h
    split at h
    · next id' hfind =>
      split at h
      · cases h
      · next hnull =>
        cases h
        exact ⟨hfind, by simpa using hnull⟩
    · cases h
  · rintro ⟨hfind, hnull⟩
    rw [hfind]
    dsimp only
    rw [hnull, if_neg Bool.false_ne_true]

theorem isNull_of_rowId? {row : ResultObject} {id : Scalar} (h : rowId? row = some id) :
    id.isNull = false := (rowId?_eq_some_iff.1 h).2

theorem idKey?_isSome {id : Scalar} (h : id.isNull = false) : id.idKey?.isSome := by
  cases id with
  | null => cases h
  | bool b => rfl
  | int n => rfl
  | float f => rfl
  | string s => rfl

theorem rowKey?_of_rowId? {row : ResultObject} {id : Scalar} (h : rowId? row = some id) :
    rowKey? row = some (id.idKey?.getD "") := by
  obtain ⟨key, hkey⟩ := Option.isSome_iff_exists.1 (idKey?_isSome (isNull_of_rowId? h))
  rw [rowKey?, h, Option.bind_some, hkey]
  rfl

theorem keyedId?_eq_some_iff {row : ResultObject} {p : String × Scalar} :
    keyedId? row = some p ↔ rowId? row = some p.2 ∧ rowKey? row = some p.1 := by
  unfold keyedId?
  constructor
  · intro h
    obtain ⟨id, hid, rfl⟩ := Option.map_eq_some_iff.1 h
    exact ⟨hid, rowKey?_of_rowId? hid⟩
  · rintro ⟨hid, hkey⟩
    rw [rowKey?_of_rowId? hid] at hkey
    rw [hid, Option.map_some, Option.some.inj hkey]

theorem exists_row_of_mem_distinctIds {rows : List ResultObject} {p : String × Scalar}
    (h : p ∈ distinctIds rows) :
    ∃ row ∈ rows, rowId? row = some p.2 ∧ rowKey? row = some p.1 := by
  obtain ⟨hmem, -⟩ := Selection.mem_firstOccurrences h
  obtain ⟨row, hrow, hp⟩ := List.mem_filterMap.1 hmem
  exact ⟨row, hrow, keyedId?_eq_some_iff.1 hp⟩

/-- Every row with an id finds its key among the distinct ids. -/
theorem exists_mem_distinctIds {rows : List ResultObject} {row : ResultObject} {id : Scalar}
    (hrow : row ∈ rows) (hid : rowId? row = some id) :
    ∃ p ∈ distinctIds rows, p.1 = keyOf row ∧ rowKey? row = some p.1 := by
  have hmem : (id.idKey?.getD "", id) ∈ rows.filterMap keyedId? :=
    List.mem_filterMap.2 ⟨row, hrow, by rw [keyedId?, hid]; rfl⟩
  obtain ⟨p, hp, hkey⟩ := Selection.exists_mem_firstOccurrences Prod.fst hmem List.not_mem_nil
  have hrowKey := rowKey?_of_rowId? hid
  refine ⟨p, hp, ?_, by rw [hrowKey, hkey]⟩
  rw [keyOf, hrowKey]
  exact hkey

/-! ## Tasks -/

theorem modifiers_relationRequest (p : Request) (related : Related p.node) (id : Scalar)
    (caller : Modifiers) :
    (relationRequest p related id caller).modifiers =
      caller.merge (parentFilter p.typeName id) .forced := by
  unfold relationRequest
  split <;> rfl

/-- The field that a task fills and the key of its rows. -/
def Task.index {parent : Selection.Node} (t : Task parent) : String × String := (t.field, t.key)

theorem parentId_eq_ok_iff {typeName field : String} {row : ResultObject} {p : String × Scalar} :
    parentId typeName field row = .ok p ↔ keyedId? row = some p := by
  unfold parentId keyedId?
  cases rowId? row with
  | none => simp
  | some id => simp

theorem mapM_parentId_eq_ok_iff {typeName field : String} {rows : List ResultObject}
    {ids : List (String × Scalar)} :
    rows.mapM (parentId typeName field) = .ok ids ↔
      (∀ row ∈ rows, (rowId? row).isSome) ∧ ids = rows.filterMap keyedId? := by
  rw [mapM_eq_ok_iff]
  constructor
  · rintro ⟨g, hall, rfl⟩
    refine ⟨fun row hrow => ?_, ?_⟩
    · rw [(keyedId?_eq_some_iff.1 (parentId_eq_ok_iff.1 (hall row hrow))).1]
      rfl
    · have hsome : ∀ row ∈ rows, keyedId? row = some (g row) := fun row hrow =>
        parentId_eq_ok_iff.1 (hall row hrow)
      rw [List.filterMap_congr hsome, List.filterMap_eq_map']
  · rintro ⟨hids, rfl⟩
    have hsome : ∀ row ∈ rows, keyedId? row = some ((keyedId? row).getD default) := by
      intro row hrow
      obtain ⟨id, hid⟩ := Option.isSome_iff_exists.1 (hids row hrow)
      rw [keyedId?, hid]
      rfl
    refine ⟨fun row => (keyedId? row).getD default, fun row hrow => ?_, ?_⟩
    · exact parentId_eq_ok_iff.2 (hsome row hrow)
    · rw [List.filterMap_congr hsome, List.filterMap_eq_map']

theorem relationTasks_eq_ok_iff {options : Options} {r : Request} {rows : List ResultObject}
    {related : Related r.node} {tasks : List (Task r.node)} :
    relationTasks options r rows related = .ok tasks ↔
      ∃ caller, Modifiers.ofArguments related.node.arguments options.allowRawOrderBy = .ok caller ∧
        (∀ row ∈ rows, (rowId? row).isSome) ∧
        tasks = (distinctIds rows).map fun p => taskOf r related caller p.1 p.2 := by
  unfold relationTasks
  rw [bind_eq_ok_iff]
  refine exists_congr fun caller => and_congr_right fun _ => ?_
  rw [bind_eq_ok_iff]
  constructor
  · rintro ⟨ids, hids, h⟩
    cases h
    obtain ⟨hrows, rfl⟩ := mapM_parentId_eq_ok_iff.1 hids
    exact ⟨hrows, rfl⟩
  · rintro ⟨hrows, rfl⟩
    exact ⟨_, mapM_parentId_eq_ok_iff.2 ⟨hrows, rfl⟩, rfl⟩

/-- The tasks of a level, given the modifiers that the relations ask for. -/
def plannedTasks (r : Request) (relations : List (Related r.node)) (rows : List ResultObject)
    (caller : Related r.node → Modifiers) : List (Task r.node) :=
  relations.flatMap fun related =>
    (distinctIds rows).map fun p => taskOf r related (caller related) p.1 p.2

/-- A level has its tasks exactly if the arguments of all relations can be read and, where there
is a relation, all rows have ids. -/
theorem tasksOf_eq_ok_iff {options : Options} {r : Request} {relations : List (Related r.node)}
    {rows : List ResultObject} {tasks : List (Task r.node)} :
    tasksOf options r relations rows = .ok tasks ↔
      ∃ caller : Related r.node → Modifiers,
        (∀ related ∈ relations,
          Modifiers.ofArguments related.node.arguments options.allowRawOrderBy =
            .ok (caller related)) ∧
        (relations ≠ [] → ∀ row ∈ rows, (rowId? row).isSome) ∧
        tasks = plannedTasks r relations rows caller := by
  unfold tasksOf
  constructor
  · intro h
    obtain ⟨lists, hm, h⟩ := bind_eq_ok_iff.1 h
    cases h
    obtain ⟨tasks, hall, rfl⟩ := mapM_eq_ok_iff.1 hm
    choose! caller hcaller using fun related hrelated =>
      relationTasks_eq_ok_iff.1 (hall related hrelated)
    refine ⟨caller, fun related hr => (hcaller related hr).1, ?_, ?_⟩
    · intro hne
      obtain ⟨related, hr⟩ := List.exists_mem_of_ne_nil relations hne
      exact (hcaller related hr).2.1
    · rw [plannedTasks, List.flatMap_def]
      exact congrArg List.flatten (List.map_congr_left fun related hr => (hcaller related hr).2.2)
  · rintro ⟨caller, hcaller, hids, rfl⟩
    have hm : relations.mapM (relationTasks options r rows) = .ok (relations.map fun related =>
        (distinctIds rows).map fun p => taskOf r related (caller related) p.1 p.2) := by
      refine mapM_eq_ok_iff.2 ⟨_, fun related hr => ?_, rfl⟩
      exact relationTasks_eq_ok_iff.2
        ⟨_, hcaller related hr, hids (List.ne_nil_of_mem hr), rfl⟩
    exact bind_eq_ok_iff.2 ⟨_, hm, rfl⟩

/-- The fields and keys of the tasks of a level: all pairs. -/
def taskIndexes {r : Request} (selected : Classified r.node) (rows : List ResultObject) :
    List (String × String) :=
  (selected.relations.map fun s => s.node.name) ×ˢ ((distinctIds rows).map Prod.fst)

theorem map_index_plannedTasks (r : Request) (selected : Classified r.node)
    (rows : List ResultObject) (caller : Related r.node → Modifiers) :
    (plannedTasks r selected.relations rows caller).map Task.index = taskIndexes selected rows := by
  unfold plannedTasks taskIndexes
  rw [List.map_flatMap]
  induction selected.relations with
  | nil => rfl
  | cons related rest ih =>
    rw [List.flatMap_cons, List.map_cons, List.product_cons, ih, List.map_map, List.map_map]
    rfl

theorem nodup_taskIndexes {schema : Schema} {options : Options} {r : Request}
    {selected : Classified r.node} (h : classified schema options r = .ok selected)
    (rows : List ResultObject) : (taskIndexes selected rows).Nodup :=
  (Classified.nodup_relations h).product (Selection.nodup_firstOccurrences _ _ _)

end Resolution
end SelectionSql
