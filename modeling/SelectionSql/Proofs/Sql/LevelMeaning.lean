import Mathlib.Data.List.Nodup
import SelectionSql.Proofs.Sql.Meaning

/-!
# What the statement of a level means

The statement of a level asks for rows of one table. Everything else that it names hangs on such a
row by keys.

* `Level.qualifiers`, `Level.joinedTables`: the names in the statement, and the tables joined.
* `Level.wants`, `Level.cut`: which rows of the table are wanted, and how many of them.
* `Level.entity`, `Level.related`: the rows that hang on a row of the table.
* `Level.answerRow`: the columns that are returned for a row of the table.
* `Level.joinRows_joinClauses`: the joins neither drop nor repeat a row of the table.
* `Level.answer_statement`: the statement returns these columns of exactly the wanted rows.
-/
set_option autoImplicit false

namespace SelectionSql
namespace Level
open Sql

/-! ## What a level asks for -/

/-- The joins of which a column is wanted. -/
def wantedJoins (l : Level) : List ToOneJoin := l.joins.filter fun j => !j.columns.isEmpty

/-- The names of the tables in the statement. -/
def qualifiers (l : Level) : List String :=
  l.table :: (l.pivotTarget.toList.map lowercase ++ l.wantedJoins.map ToOneJoin.relation)

def joinedTables (l : Level) : List String :=
  l.pivotTarget.toList.map entityTable ++ l.wantedJoins.map fun j => entityTable j.targetType

/-- The rows that are wanted of those that satisfy the filter. -/
def cut {α : Type} (l : Level) (rows : List α) : List α :=
  match l.cardinality, l.modifiers.effectiveLimit with
  | .one, .rows 0 => []
  | .one, _ => rows.take 1
  | .many, .rows count => rows.take count.toNat
  | .many, .unbounded => rows

section
variable (eq : Equality) (db : Database)

/-- The row has the values of the filter. Null is a value like any other here. -/
def wants (l : Level) (r : Record) : Bool :=
  l.modifiers.filter.entries.all fun e =>
    if e.2.isNull then (r e.1).isNull else eq.holds (r e.1) e.2

/-- The row of the level's entity: the row itself, or the one that it points at if it is a
pivot's. -/
def entity (l : Level) (r : Record) : Record :=
  match l.pivotTarget with
  | none => r
  | some target =>
    referenced eq db (entityTable target) (r (foreignKey (lowercase target)))

/-- The row that the level's entity is related to. -/
def related (l : Level) (r : Record) (j : ToOneJoin) : Record :=
  referenced eq db (entityTable j.targetType) (l.entity eq db r (foreignKey j.relation))

def answerRow (l : Level) (r : Record) : Entries Scalar :=
  (l.columns.map fun c => (c, l.entity eq db r c)) ++
    (l.joins.flatMap fun j => j.columns.map fun c =>
      (Nesting.columnAlias j.relation c, l.related eq db r j c)) ++
    (if l.hidesId then [(idColumn, l.entity eq db r idColumn)] else [])

/-! ## The joins -/

/-- A row of the table, and the row that it points at if it is a pivot's. -/
def baseScope (l : Level) (r : Record) : Scope :=
  (l.table, r) :: l.pivotTarget.toList.map fun t => (lowercase t, l.entity eq db r)

/-- A row of the table with all that hangs on it. -/
def scopeOf (l : Level) (r : Record) : Scope :=
  l.baseScope eq db r ++ l.wantedJoins.map fun j => (j.relation, l.related eq db r j)

/-- The tables that the wanted relations read, each with the relation's name. -/
def relationTargets (l : Level) : List (String × String) :=
  l.wantedJoins.map fun j => (entityTable j.targetType, j.relation)

variable {eq db} {l : Level}

theorem mem_wantedJoins {j : ToOneJoin} (hj : j ∈ l.joins) {c : String} (hc : c ∈ j.columns) :
    j ∈ l.wantedJoins := by
  refine List.mem_filter.2 ⟨hj, ?_⟩
  cases hcolumns : j.columns with
  | nil => exact absurd (hcolumns ▸ hc) List.not_mem_nil
  | cons => rfl

theorem flatMap_toOneJoins (l : Level) :
    l.joins.flatMap l.toOneJoins =
      l.relationTargets.map fun t => keyJoin l.entityName t.1 t.2 := by
  rw [relationTargets, wantedJoins, List.map_map]
  induction l.joins with
  | nil => rfl
  | cons j rest ih =>
    rw [List.flatMap_cons, ih, List.filter_cons]
    unfold toOneJoins
    cases j.columns.isEmpty <;> rfl

theorem map_snd_relationTargets (l : Level) :
    l.relationTargets.map Prod.snd = l.wantedJoins.map ToOneJoin.relation := by
  rw [relationTargets, List.map_map]
  rfl

theorem keys_scopeOf (l : Level) (r : Record) :
    Entries.keys (l.scopeOf eq db r) = l.qualifiers := by
  simp [Entries.keys, scopeOf, baseScope, qualifiers, Function.comp_def]

theorem nodup_keys_scopeOf (hnames : l.qualifiers.Nodup) (r : Record) :
    (Entries.keys (l.scopeOf eq db r)).Nodup := by
  rwa [keys_scopeOf]

theorem entity_mem_baseScope (l : Level) (r : Record) :
    (l.entityName, l.entity eq db r) ∈ l.baseScope eq db r := by
  unfold baseScope entityName entity
  cases l.pivotTarget with
  | none => exact List.mem_cons_self
  | some target => exact List.mem_cons_of_mem _ List.mem_cons_self

theorem entity_mem_scopeOf (l : Level) (r : Record) :
    (l.entityName, l.entity eq db r) ∈ l.scopeOf eq db r :=
  List.mem_append_left _ (l.entity_mem_baseScope r)

theorem related_mem_scopeOf {j : ToOneJoin} (hj : j ∈ l.wantedJoins) (r : Record) :
    (j.relation, l.related eq db r j) ∈ l.scopeOf eq db r :=
  List.mem_append_right _ (List.mem_map.2 ⟨j, hj, rfl⟩)

theorem joinRows_pivotJoins (hnames : l.qualifiers.Nodup)
    (hids : ∀ table ∈ l.joinedTables, UniqueIds eq db table) (r : Record) (rest : List Join) :
    joinRows eq db (l.pivotJoins ++ rest) [(l.table, r)] =
      joinRows eq db rest (l.baseScope eq db r) := by
  unfold pivotJoins baseScope entity
  unfold qualifiers at hnames
  unfold joinedTables at hids
  cases hpivot : l.pivotTarget with
  | none => rfl
  | some target =>
    rw [hpivot] at hnames hids
    have hfresh : (Entries.keys [(l.table, r)] ++ [lowercase target]).Nodup :=
      (List.nodup_append.1 hnames).1
    have hjoin := joinRow_keyJoin (List.mem_singleton.2 rfl) hfresh (hids _ List.mem_cons_self)
    show (joinRow eq db (keyJoin l.table _ _) [(l.table, r)]).flatMap (joinRows eq db rest) = _
    rw [hjoin, List.flatMap_singleton]
    rfl

theorem joinRows_toOneJoins {scope : Scope} {r : Record}
    (hentity : (l.entityName, l.entity eq db r) ∈ scope)
    (hnames : (Entries.keys scope ++ l.wantedJoins.map ToOneJoin.relation).Nodup)
    (hids : ∀ table ∈ l.joinedTables, UniqueIds eq db table) :
    joinRows eq db (l.joins.flatMap l.toOneJoins) scope =
      [scope ++ l.wantedJoins.map fun j => (j.relation, l.related eq db r j)] := by
  have htables : ∀ t ∈ l.relationTargets, UniqueIds eq db t.1 := by
    intro t ht
    obtain ⟨j, hj, rfl⟩ := List.mem_map.1 ht
    exact hids _ (List.mem_append_right _ (List.mem_map.2 ⟨j, hj, rfl⟩))
  rw [flatMap_toOneJoins, joinRows_keyJoins _ hentity (by rwa [map_snd_relationTargets]) htables,
    relationTargets, List.map_map]
  rfl

theorem joinRows_joinClauses (hnames : l.qualifiers.Nodup)
    (hids : ∀ table ∈ l.joinedTables, UniqueIds eq db table) (r : Record) :
    joinRows eq db l.joinClauses [(l.table, r)] = [l.scopeOf eq db r] := by
  have hkeys : Entries.keys (l.baseScope eq db r) ++ l.wantedJoins.map ToOneJoin.relation =
      l.qualifiers := by
    rw [← l.keys_scopeOf r, scopeOf, Entries.keys, Entries.keys, List.map_append, List.map_map]
    rfl
  rw [joinClauses, joinRows_pivotJoins hnames hids, scopeOf]
  exact joinRows_toOneJoins (l.entity_mem_baseScope r) (hkeys ▸ hnames) hids

/-! ## The rows -/

theorem holds_equalTo {scope : Scope} (hnodup : (Entries.keys scope).Nodup) {table : String}
    {r : Record} (hmem : (table, r) ∈ scope) (column : String) {v : Scalar}
    (hfinite : isFiniteValue v = true) :
    ((Expr.of table column).equalTo v).holds eq scope =
      if v.isNull then (r column).isNull else eq.holds (r column) v := by
  have hcolumn := value_of hnodup hmem column
  have hequal : ((Expr.of table column).equal (.literal v)).holds eq scope =
      eq.holds (r column) v := by
    show (eq.test ((Expr.of table column).value scope) (literalValue v)).isTrue = _
    rw [hcolumn, literalValue_of_isFiniteValue hfinite]
    rfl
  cases v with
  | null =>
    show (some ((Expr.of table column).value scope).isNull == some true) = _
    rw [hcolumn]
    cases (r column).isNull <;> rfl
  | _ => exact hequal

theorem holds_condition (hnames : l.qualifiers.Nodup)
    (hfinite : ∀ e ∈ l.modifiers.filter.entries, isFiniteValue e.2 = true) (r : Record) :
    l.condition.all (Expr.holds eq (l.scopeOf eq db r)) = l.wants eq r := by
  have hnodup : (Entries.keys (l.scopeOf eq db r)).Nodup := nodup_keys_scopeOf hnames r
  show (filterCondition l.table none _).all _ = _
  rw [all_filterCondition fun a b => Truth.isTrue_and _ _, wants, Option.all_none, Bool.true_and,
    Bool.eq_iff_iff, List.all_eq_true, List.all_eq_true]
  refine forall₂_congr fun e he => ?_
  rw [holds_equalTo hnodup List.mem_cons_self e.1 (hfinite e he)]

theorem take_rowLimit {α : Type} (l : Level) (rows : List α) :
    (match l.rowLimit with
      | none => rows
      | some count => rows.take count.toNat) = l.cut rows := by
  fun_cases cut l rows with
  | case1 hone hzero => simp only [rowLimit, hone, hzero]; rfl
  | case2 hone hpositive => simp only [rowLimit, hone]; rfl
  | case3 count hmany hrows => simp only [rowLimit, hmany, hrows, Limit.rows?]
  | case4 hmany hunbounded => simp only [rowLimit, hmany, hunbounded, Limit.rows?]

theorem cut_map {α β : Type} (f : α → β) (l : Level) (rows : List α) :
    l.cut (rows.map f) = (l.cut rows).map f := by
  unfold cut
  split <;> simp only [List.map_nil, List.map_take]

theorem scopes_query (hnames : l.qualifiers.Nodup)
    (hids : ∀ table ∈ l.joinedTables, UniqueIds eq db table)
    (hfinite : ∀ e ∈ l.modifiers.filter.entries, isFiniteValue e.2 = true) :
    l.query.scopes eq db ⟨l.table, none⟩ =
      (l.cut ((db l.table).filter (l.wants eq))).map (l.scopeOf eq db) := by
  have hjoined : ((db l.table).flatMap fun r => joinRows eq db l.joinClauses [(l.table, r)]) =
      (db l.table).map (l.scopeOf eq db) := by
    rw [List.map_eq_flatMap]
    exact List.flatMap_congr fun r _ => joinRows_joinClauses hnames hids r
  have hkept : ((db l.table).map (l.scopeOf eq db)).filter
      (fun scope => l.condition.all (Expr.holds eq scope)) =
        ((db l.table).filter (l.wants eq)).map (l.scopeOf eq db) := by
    rw [List.filter_map]
    exact congrArg (List.map _) (List.filter_congr fun r _ => holds_condition hnames hfinite r)
  rw [← cut_map, ← hkept, ← hjoined]
  exact l.take_rowLimit _

/-! ## The columns -/

theorem output_of {scope : Scope} (hnodup : (Entries.keys scope).Nodup) {table : String}
    {r : Record} (hmem : (table, r) ∈ scope) (column : String) (as : Option String) :
    SelectItem.output scope ⟨.of table column, as⟩ = some (as.getD column, r column) := by
  unfold SelectItem.output
  rw [value_of hnodup hmem]
  cases as <;> rfl

theorem output_items (hnames : l.qualifiers.Nodup) (r : Record) :
    l.items.filterMap (SelectItem.output (l.scopeOf eq db r)) = l.answerRow eq db r := by
  have hnodup : (Entries.keys (l.scopeOf eq db r)).Nodup := nodup_keys_scopeOf hnames r
  have hown : l.ownItems.filterMap (SelectItem.output (l.scopeOf eq db r)) =
      l.columns.map fun c => (c, l.entity eq db r c) := by
    rw [ownItems, List.filterMap_map, ← List.filterMap_eq_map']
    exact List.filterMap_congr fun c _ => output_of hnodup (l.entity_mem_scopeOf r) c none
  have hjoined : l.joinedItems.filterMap (SelectItem.output (l.scopeOf eq db r)) =
      l.joins.flatMap fun j => j.columns.map fun c =>
        (Nesting.columnAlias j.relation c, l.related eq db r j c) := by
    rw [joinedItems, List.filterMap_flatMap]
    refine List.flatMap_congr fun j hj => ?_
    rw [List.filterMap_map, ← List.filterMap_eq_map']
    refine List.filterMap_congr fun c hc => ?_
    exact output_of hnodup (related_mem_scopeOf (mem_wantedJoins hj hc) r) c _
  have hid := output_of hnodup (l.entity_mem_scopeOf r) idColumn none
  rw [items, answerRow, List.filterMap_append, List.filterMap_append, hown, hjoined]
  cases l.hidesId with
  | false => rfl
  | true => exact congrArg _ (List.filterMap_cons_some hid)

end

/-! ## The names -/

variable {l : Level}

def baseNames (l : Level) : List String := l.table :: l.pivotTarget.toList.map lowercase

theorem qualifiers_eq (l : Level) :
    l.qualifiers = l.baseNames ++ l.wantedJoins.map ToOneJoin.relation := rfl

theorem entityName_mem_baseNames (l : Level) : l.entityName ∈ l.baseNames := by
  unfold baseNames entityName
  cases l.pivotTarget with
  | none => exact List.mem_cons_self
  | some target => exact List.mem_cons_of_mem _ List.mem_cons_self

theorem qualifier_joinClauses (l : Level) :
    (l.table :: l.joinClauses.map fun j => j.table.qualifier) = l.qualifiers := by
  rw [joinClauses, List.map_append, flatMap_toOneJoins, relationTargets, List.map_map, List.map_map]
  unfold pivotJoins qualifiers
  cases l.pivotTarget <;> rfl

theorem joinsResolve_joinClauses (hnames : l.qualifiers.Nodup) :
    joinsResolve [l.table] l.joinClauses = true := by
  have hpivot : joinsResolve [l.table] l.joinClauses =
      joinsResolve l.baseNames (l.joins.flatMap l.toOneJoins) := by
    have hnodup : l.baseNames.Nodup := (List.nodup_append.1 (l.qualifiers_eq ▸ hnames)).1
    unfold baseNames at *
    unfold joinClauses pivotJoins
    cases htarget : l.pivotTarget with
    | none => rfl
    | some target =>
      rw [htarget] at hnodup
      exact joinsResolve_keyJoin (List.mem_singleton.2 rfl) hnodup _
  rw [hpivot, flatMap_toOneJoins]
  refine joinsResolve_keyJoins _ l.entityName_mem_baseNames ?_
  rwa [map_snd_relationTargets]

theorem isCondition_condition (l : Level) :
    l.condition.all (fun c => c.isCondition l.qualifiers) = true := by
  have htable : l.table ∈ l.qualifiers := List.mem_cons_self
  show (filterCondition l.table none _).all _ = true
  rw [all_filterCondition fun a b => rfl, Option.all_none, Bool.true_and, List.all_eq_true]
  rintro ⟨column, v⟩ -
  cases v <;> simp [Expr.equalTo, Expr.of, Expr.isCondition, Expr.isValue, htable]

theorem items_ne_nil (l : Level) : l.items ≠ [] := by
  intro hitems
  obtain ⟨hshown, hid⟩ := List.append_eq_nil_iff.1 hitems
  have hcolumns : l.columns = [] := List.map_eq_nil_iff.1 (List.append_eq_nil_iff.1 hshown).1
  have hhides : l.hidesId = true := by
    rw [hidesId, hshown, hcolumns]
    simp
  rw [hhides] at hid
  cases hid

/-- What is selected are columns of tables in the statement. -/
theorem exists_of_mem_items {item : SelectItem} (hitem : item ∈ l.items) :
    ∃ table ∈ l.qualifiers, ∃ column as, item = ⟨.of table column, as⟩ := by
  have hentity : l.entityName ∈ l.qualifiers := List.mem_append_left _ l.entityName_mem_baseNames
  simp only [items, ownItems, joinedItems, List.mem_append, List.mem_map, List.mem_flatMap] at hitem
  rcases hitem with (⟨c, -, rfl⟩ | ⟨j, hj, c, hc, rfl⟩) | hid
  · exact ⟨_, hentity, c, none, rfl⟩
  · have hrelation : j.relation ∈ l.qualifiers :=
      List.mem_append_right l.baseNames (List.mem_map.2 ⟨j, mem_wantedJoins hj hc, rfl⟩)
    exact ⟨_, hrelation, c, _, rfl⟩
  · split at hid
    · exact ⟨_, hentity, idColumn, none, List.mem_singleton.1 hid⟩
    · cases hid

theorem isValue_items (l : Level) : ∀ item ∈ l.items,
    (item.outputName?.isSome && item.expr.isValue l.qualifiers) = true := by
  intro item hitem
  obtain ⟨table, htable, column, as, rfl⟩ := exists_of_mem_items hitem
  cases as <;> simpa [SelectItem.outputName?, Expr.of, Expr.isValue] using htable

theorem isMeaningful_query (horder : l.modifiers.orderBy = none) (hnames : l.qualifiers.Nodup) :
    l.query.isMeaningful = true := by
  have hitems : l.items.isEmpty = false := List.isEmpty_eq_false_iff.2 l.items_ne_nil
  show (joinsResolve [l.table] l.joinClauses &&
    l.condition.all (fun c => c.isCondition
      (l.table :: l.joinClauses.map fun j => j.table.qualifier)) &&
    (l.modifiers.orderBy.toList.map OrderBy.expr).isEmpty && !l.items.isEmpty &&
    l.items.all fun item => item.outputName?.isSome && item.expr.isValue
      (l.table :: l.joinClauses.map fun j => j.table.qualifier)) = true
  rw [qualifier_joinClauses, joinsResolve_joinClauses hnames, isCondition_condition, horder, hitems,
    List.all_eq_true.2 l.isValue_items]
  rfl

/-- The statement of a level returns its columns for exactly the rows that are wanted, in the order
in which they stand in the table. -/
theorem answer_statement (eq : Equality) (db : Database) (l : Level)
    (horder : l.modifiers.orderBy = none) (hnames : l.qualifiers.Nodup)
    (hfinite : ∀ e ∈ l.modifiers.filter.entries, isFiniteValue e.2 = true)
    (hids : ∀ table ∈ l.joinedTables, UniqueIds eq db table) :
    l.statement.query.answer? eq db =
      some ((l.cut ((db l.table).filter (l.wants eq))).map (l.answerRow eq db)) := by
  have hanswer : l.query.answer? eq db =
      some ((l.query.scopes eq db ⟨l.table, none⟩).map fun scope =>
        l.items.filterMap (SelectItem.output scope)) :=
    if_pos (isMeaningful_query horder hnames)
  have hrows : (fun r => l.items.filterMap (SelectItem.output (l.scopeOf eq db r))) =
      l.answerRow eq db := funext fun r => output_items hnames r
  show l.query.answer? eq db = _
  rw [hanswer, scopes_query hnames hids hfinite, List.map_map, ← hrows]
  rfl

/-! ## A pivot and a relation behind it -/

namespace Tagged

/-- Values are equal if they are the same and not null. -/
def equality : Equality where
  test a b := if a.isNull || b.isNull then none else some (decide (a = b))
  null_left _ := rfl
  null_right v := by cases v <;> rfl

theorem uniqueIds_of_nodup {db : Database} {table : String}
    (h : ((db table).map fun r => r idColumn).Nodup) : UniqueIds equality db table := by
  intro v
  have hsame : ∀ r ∈ db table, equality.holds v (r idColumn) = true → r idColumn = v := by
    intro r _ hr
    simp only [Equality.holds, equality] at hr
    split at hr
    · cases hr
    · exact (of_decide_eq_true (Option.some.inj (eq_of_beq hr))).symm
  calc ((db table).filter fun r => equality.holds v (r idColumn)).length
      = (db table).countP fun r => equality.holds v (r idColumn) :=
        List.countP_eq_length_filter.symm
    _ ≤ (db table).countP ((· == v) ∘ fun r => r idColumn) :=
        List.countP_mono_left fun r hr he => beq_iff_eq.2 (hsame r hr he)
    _ = ((db table).map fun r => r idColumn).count v := List.countP_map.symm
    _ ≤ 1 := List.nodup_iff_count_le_one.1 h v

def record (columns : Entries Scalar) : Record := fun c => (Entries.find? columns c).getD .null

/-- Of the rows of the pivot, one points at no tag, and one at a tag that is missing. -/
def database : Database
  | "tags_posts" =>
    [record [("postId", .int 7), ("tagId", .int 1)], record [("postId", .int 8), ("tagId", .int 1)],
      record [("postId", .int 7)], record [("postId", .int 7), ("tagId", .int 9)],
      record [("postId", .int 7), ("tagId", .int 2)]]
  | "tags" =>
    [record [("id", .int 2), ("label", .string "old")],
      record [("id", .int 1), ("label", .string "news"), ("authorId", .int 5)]]
  | "users" => [record [("id", .int 5), ("name", .string "Ann")]]
  | _ => []

def level : Level :=
  { Level.ofTable "tags_posts" with
    pivotTarget := some "Tag"
    columns := ["label"]
    joins := [⟨"author", "User", ["name"]⟩]
    modifiers := { Modifiers.empty with
      filter := .ofList [("postId", .int 7), ("hiddenAt", .null)], limit := some (.rows 3) }
    ensureId := true }

end Tagged

theorem answer_statement_tagged :
    Tagged.level.modifiers.orderBy = none ∧ Tagged.level.qualifiers.Nodup ∧
      (∀ e ∈ Tagged.level.modifiers.filter.entries, isFiniteValue e.2 = true) ∧
      (∀ table ∈ Tagged.level.joinedTables, UniqueIds Tagged.equality Tagged.database table) ∧
      Tagged.level.statement.query.answer? Tagged.equality Tagged.database = some
        [[("label", .string "news"), ("author__name", .string "Ann"), ("id", .int 1)],
          [("label", .null), ("author__name", .null), ("id", .null)],
          [("label", .null), ("author__name", .null), ("id", .null)]] := by
  have hnames : Tagged.level.qualifiers.Nodup := by decide
  have hfinite : ∀ e ∈ Tagged.level.modifiers.filter.entries, isFiniteValue e.2 = true := by
    decide
  have htables : Tagged.level.joinedTables = ["tags", "users"] := by decide
  have hids : ∀ table ∈ Tagged.level.joinedTables,
      UniqueIds Tagged.equality Tagged.database table := by
    intro table htable
    refine Tagged.uniqueIds_of_nodup ?_
    rw [htables] at htable
    rcases List.mem_pair.1 htable with rfl | rfl <;> decide
  refine ⟨rfl, hnames, hfinite, hids, ?_⟩
  rw [answer_statement Tagged.equality Tagged.database Tagged.level rfl hnames hfinite hids]
  decide

end Level
end SelectionSql
