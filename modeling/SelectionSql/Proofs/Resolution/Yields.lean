import Mathlib.Data.Multiset.Bind
import SelectionSql.Proofs.Resolution.Tasks
import SelectionSql.Resolution.Basic

/-!
# What a request yields

The meaning of a resolution, without tasks, orders of execution or executors.

* `Exchange`: a statement and what it was answered.
* `Executor.transcribed`: an executor that records its exchanges.
* `Resolution.Yields`: a request yields a value at the cost of exchanges: its own statement once
  and, for every relation and every distinct id among its rows, what the rows related to that id
  cost. The value under a relation is the one of the row's own id.
* `Resolution.finish_eq_objectOf`: a row is finished from the results of its own key.
* `Yields.unique`: where answers depend on statements alone, cost and value are determined.
-/
set_option autoImplicit false

namespace SelectionSql

abbrev Exchange : Type := String × Except StorageError (List Row)

/-- An executor that also records what it was asked and what it answered. -/
def Executor.transcribed {σ : Type} (x : Executor σ) : Executor (σ × List Exchange) where
  dialect := x.dialect
  fetchAll := fun sql s =>
    let (answer, s') := (x.fetchAll sql).run s.1
    (answer, (s', s.2 ++ [(sql, answer)]))
  execute := fun sql s =>
    let (answer, s') := (x.execute sql).run s.1
    (answer, (s', s.2))

/-- The executor answers every statement as `answers` says, whatever it was asked before. -/
def Executor.AnswersBy {σ : Type} (x : Executor σ)
    (answers : String → Except StorageError (List Row)) : Prop :=
  ∀ sql s, (x.fetchAll sql s).1 = answers sql

theorem Executor.AnswersBy.answer_eq {σ : Type} {x : Executor σ}
    {answers : String → Except StorageError (List Row)} (hx : x.AnswersBy answers) {sql : String}
    {s s' : σ} {answer : Except StorageError (List Row)}
    (h : x.fetchAll sql s = (answer, s')) : answer = answers sql := by
  rw [← hx sql s, h]

namespace Resolution
open Selection (Node Related Classified)

/-- The text of a level's statement. -/
def sqlOf (dialect : Dialect) (r : Request) (selected : Classified r.node) : String :=
  (levelOf r selected).statement.query.render dialect

theorem isMissing_iff {cardinality : Cardinality} {rows : List Row} :
    isMissing cardinality (parentsOf cardinality rows) = true ↔ cardinality = .one ∧ rows = [] := by
  cases cardinality <;> cases rows <;> simp [isMissing, parentsOf]

/-- A row in which every named field has its value for the key of the row. -/
def fill (fields : List String) (value : String × String → ResultValue) (row : ResultObject) :
    ResultObject :=
  fields.foldl (fun acc field => acc.insert field (value (field, keyOf row))) row

def objectOf {node : Node} (selected : Classified node) (hiddenId : Bool)
    (value : String × String → ResultValue) (row : ResultObject) : ResultObject :=
  arrange node hiddenId (fill (selected.relations.map fun s => s.node.name) value row)

/-- The value of a level whose rows have come. -/
def valueOf (r : Request) (selected : Classified r.node) (rows : List ResultObject)
    (value : String × String → ResultValue) : ResultValue :=
  resultOf r.cardinality
    (rows.map (objectOf selected (levelOf r selected).statement.hiddenId value))

/-- A request yields a value at the cost of exchanges with an executor. `value` and `part` say for
each relation, by its field, and each distinct id, by its key, what the rows related to that id
yield and cost. -/
inductive Yields (schema : Schema) (options : Options) (dialect : Dialect) :
    Request → Multiset Exchange → ResultValue → Prop
  /-- One object is asked for and there is none. -/
  | missing {r : Request} {selected : Classified r.node} {rows : List Row}
      (hclassified : classified schema options r = .ok selected)
      (hmissing : isMissing r.cardinality (parentsOf r.cardinality rows) = true) :
      Yields schema options dialect r {(sqlOf dialect r selected, .ok rows)} .null
  | level {r : Request} {selected : Classified r.node} {rows : List Row}
      {caller : Related r.node → Modifiers}
      {part : String × String → Multiset Exchange} {value : String × String → ResultValue}
      (hclassified : classified schema options r = .ok selected)
      (hpresent : isMissing r.cardinality (parentsOf r.cardinality rows) = false)
      (hcaller : ∀ related ∈ selected.relations,
        Modifiers.ofArguments related.node.arguments options.allowRawOrderBy =
          .ok (caller related))
      (hids : selected.relations ≠ [] →
        ∀ row ∈ parentsOf r.cardinality rows, (rowId? row).isSome)
      (hparts : ∀ related ∈ selected.relations,
        ∀ p ∈ distinctIds (parentsOf r.cardinality rows),
          Yields schema options dialect (relationRequest r related p.2 (caller related))
            (part (related.node.name, p.1)) (value (related.node.name, p.1))) :
      Yields schema options dialect r
        ({(sqlOf dialect r selected, .ok rows)} +
          Multiset.bind (taskIndexes selected (parentsOf r.cardinality rows)) part)
        (valueOf r selected (parentsOf r.cardinality rows) value)

variable {schema : Schema} {options : Options} {dialect : Dialect}

/-! ## Values by field and key -/

theorem mem_taskIndexes {r : Request} {selected : Classified r.node} {rows : List ResultObject}
    {k : String × String} :
    k ∈ taskIndexes selected rows ↔ ∃ related ∈ selected.relations, ∃ p ∈ distinctIds rows,
      k = (related.node.name, p.1) := by
  obtain ⟨field, key⟩ := k
  unfold taskIndexes
  rw [List.mem_product, List.mem_map, List.mem_map]
  constructor
  · rintro ⟨⟨related, hr, rfl⟩, ⟨p, hp, rfl⟩⟩
    exact ⟨related, hr, p, hp, rfl⟩
  · rintro ⟨related, hr, p, hp, heq⟩
    cases heq
    exact ⟨⟨related, hr, rfl⟩, ⟨p, hp, rfl⟩⟩

/-- Where every row has an id, every relation of every row has a task. -/
theorem keyOf_mem_taskIndexes {r : Request} {selected : Classified r.node}
    {rows : List ResultObject}
    (hids : selected.relations ≠ [] → ∀ row ∈ rows, (rowId? row).isSome)
    {related : Related r.node} (hrelated : related ∈ selected.relations) {row : ResultObject}
    (hrow : row ∈ rows) : (related.node.name, keyOf row) ∈ taskIndexes selected rows := by
  obtain ⟨id, hid⟩ := Option.isSome_iff_exists.1 (hids (List.ne_nil_of_mem hrelated) row hrow)
  obtain ⟨p, hp, hkey, -⟩ := exists_mem_distinctIds hrow hid
  rw [← hkey]
  exact mem_taskIndexes.2 ⟨related, hrelated, p, hp, rfl⟩

/-- A row is filled from the values of its own key alone. -/
theorem fill_congr {fields : List String} {value value' : String × String → ResultValue}
    {row : ResultObject}
    (h : ∀ field ∈ fields, value (field, keyOf row) = value' (field, keyOf row)) :
    fill fields value row = fill fields value' row := by
  have hfold : ∀ acc : ResultObject,
      fields.foldl (fun acc field => acc.insert field (value (field, keyOf row))) acc =
        fields.foldl (fun acc field => acc.insert field (value' (field, keyOf row))) acc := by
    induction fields with
    | nil => exact fun acc => rfl
    | cons field rest ih =>
      intro acc
      rw [List.foldl_cons, List.foldl_cons, h field List.mem_cons_self]
      exact ih (fun f hf => h f (List.mem_cons_of_mem field hf)) _
  exact hfold row

/-- The value of a level depends on the values of its tasks alone. -/
theorem valueOf_congr {r : Request} {selected : Classified r.node} {rows : List ResultObject}
    {value value' : String × String → ResultValue}
    (hids : selected.relations ≠ [] → ∀ row ∈ rows, (rowId? row).isSome)
    (h : ∀ k ∈ taskIndexes selected rows, value k = value' k) :
    valueOf r selected rows value = valueOf r selected rows value' := by
  unfold valueOf
  refine congrArg (resultOf r.cardinality) (List.map_congr_left fun row hrow => ?_)
  refine congrArg (arrange r.node _) (fill_congr fun field hfield => ?_)
  obtain ⟨related, hrelated, rfl⟩ := List.mem_map.1 hfield
  exact h _ (keyOf_mem_taskIndexes hids hrelated hrow)

/-! ## Results by field and key -/

theorem lookup_eq_some_iff_mem {κ α : Type} [BEq κ] [LawfulBEq κ] {l : List (κ × α)}
    (h : (l.map Prod.fst).Nodup) {k : κ} {v : α} : l.lookup k = some v ↔ (k, v) ∈ l := by
  induction l with
  | nil => simp
  | cons e rest ih =>
    obtain ⟨k', v'⟩ := e
    obtain ⟨hk', hrest⟩ := List.nodup_cons.1 h
    rw [List.lookup_cons]
    by_cases hk : k = k'
    · subst hk
      have hnot : ∀ w, (k, w) ∉ rest := fun w hw => hk' (List.mem_map.2 ⟨(k, w), hw, rfl⟩)
      simp [hnot, eq_comm]
    · have hne : (k == k') = false := beq_eq_false_iff_ne.2 hk
      simp only [hne]
      rw [ih hrest]
      simp [hk]

def valueIn (results : Results) (k : String × String) : ResultValue :=
  (results.lookup k).getD .null

theorem finish_eq_objectOf {node : Node} {selected : Classified node} {hiddenId : Bool}
    {results : Results} {row : ResultObject}
    (hid : selected.relations ≠ [] → (rowId? row).isSome)
    (hresults : ∀ related ∈ selected.relations,
      (results.lookup (related.node.name, keyOf row)).isSome) :
    finish node selected hiddenId results row =
      objectOf selected hiddenId (valueIn results) row := by
  have hfold : ∀ (fields : List String) (acc : ResultObject),
      (∀ field ∈ fields, (results.lookup (field, keyOf row)).isSome) →
      fields.foldl (attachField results (keyOf row)) acc =
        fields.foldl (fun acc field => acc.insert field (valueIn results (field, keyOf row)))
          acc := by
    intro fields
    induction fields with
    | nil => exact fun _ _ => rfl
    | cons field rest ih =>
      intro acc hsome
      obtain ⟨v, hv⟩ := Option.isSome_iff_exists.1 (hsome field List.mem_cons_self)
      rw [List.foldl_cons, List.foldl_cons, attachField, hv, valueIn, hv]
      exact ih _ fun f hf => hsome f (List.mem_cons_of_mem field hf)
  have hattach : attach (selected.relations.map fun s => s.node.name) results row =
      fill (selected.relations.map fun s => s.node.name) (valueIn results) row := by
    unfold attach fill
    by_cases hempty : selected.relations = []
    · rw [hempty]
      cases rowKey? row <;> rfl
    · obtain ⟨id, hrow⟩ := Option.isSome_iff_exists.1 (hid hempty)
      have hkey : rowKey? row = some (keyOf row) := by
        rw [keyOf, rowKey?_of_rowId? hrow]
        rfl
      rw [hkey]
      refine hfold _ row fun field hfield => ?_
      obtain ⟨related, hrelated, rfl⟩ := List.mem_map.1 hfield
      exact hresults related hrelated
  unfold finish objectOf
  rw [hattach]

/-! ## Answers that depend on the statement alone -/

/-- All exchanges are answered as `answers` says. -/
def AnsweredBy (answers : String → Except StorageError (List Row)) (cost : Multiset Exchange) :
    Prop :=
  ∀ e ∈ cost, e.2 = answers e.1

theorem AnsweredBy.own {answers : String → Except StorageError (List Row)} {sql : String}
    {answer : Except StorageError (List Row)} {cost : Multiset Exchange}
    (h : AnsweredBy answers ({(sql, answer)} + cost)) : answer = answers sql :=
  h (sql, answer) (Multiset.mem_add.2 (.inl (Multiset.mem_singleton_self _)))

theorem AnsweredBy.part {answers : String → Except StorageError (List Row)} {own : Exchange}
    {indexes : List (String × String)} {part : String × String → Multiset Exchange}
    (h : AnsweredBy answers ({own} + Multiset.bind indexes part)) {k : String × String}
    (hk : k ∈ indexes) : AnsweredBy answers (part k) := by
  intro e he
  exact h e (Multiset.mem_add.2 (.inr (Multiset.mem_bind.2 ⟨k, Multiset.mem_coe.2 hk, he⟩)))

theorem Yields.unique {answers : String → Except StorageError (List Row)} {r : Request}
    {cost cost' : Multiset Exchange} {v v' : ResultValue}
    (h : Yields schema options dialect r cost v) (hcost : AnsweredBy answers cost)
    (h' : Yields schema options dialect r cost' v') (hcost' : AnsweredBy answers cost') :
    cost = cost' ∧ v = v' := by
  induction h generalizing cost' v' with
  | @missing r selected rows hclassified hmissing =>
    have hrows := hcost _ (Multiset.mem_singleton_self _)
    cases h' with
    | @missing _ selected' rows' hclassified' hmissing' =>
      cases hclassified.symm.trans hclassified'
      have hrows' := hcost' _ (Multiset.mem_singleton_self _)
      cases hrows.trans hrows'.symm
      exact ⟨rfl, rfl⟩
    | @level _ selected' rows' caller' part' value' hclassified' hpresent' _ _ _ =>
      cases hclassified.symm.trans hclassified'
      cases hrows.trans hcost'.own.symm
      rw [hmissing] at hpresent'
      cases hpresent'
  | @level r selected rows caller part value hclassified hpresent hcaller hids hparts ih =>
    have hrows := hcost.own
    cases h' with
    | @missing _ selected' rows' hclassified' hmissing' =>
      cases hclassified.symm.trans hclassified'
      have hrows' := hcost' _ (Multiset.mem_singleton_self _)
      cases hrows.trans hrows'.symm
      rw [hpresent] at hmissing'
      cases hmissing'
    | @level _ selected' rows' caller' part' value' hclassified' hpresent' hcaller' hids' hparts' =>
      cases hclassified.symm.trans hclassified'
      cases hrows.trans hcost'.own.symm
      have hboth : ∀ k ∈ taskIndexes selected (parentsOf r.cardinality rows),
          part k = part' k ∧ value k = value' k := by
        intro k hk
        obtain ⟨related, hrelated, p, hp, rfl⟩ := mem_taskIndexes.1 hk
        have hsame : caller related = caller' related :=
          Except.ok.inj ((hcaller related hrelated).symm.trans (hcaller' related hrelated))
        have hpart' := hparts' related hrelated p hp
        rw [← hsame] at hpart'
        exact ih related hrelated p hp (hcost.part hk) hpart' (hcost'.part hk)
      refine ⟨?_, valueOf_congr hids fun k hk => (hboth k hk).2⟩
      rw [Multiset.bind_congr fun k hk => (hboth k (Multiset.mem_coe.1 hk)).1]

/-- With these answers the request yields a value. -/
def Resolvable (schema : Schema) (options : Options) (dialect : Dialect)
    (answers : String → Except StorageError (List Row)) (r : Request) : Prop :=
  ∃ cost v, Yields schema options dialect r cost v ∧ AnsweredBy answers cost

/-- What has to be in order for a request to yield a value: its fields, its rows and, unless no
object is there, the arguments and ids of its relations and the requests for what is related. -/
theorem Resolvable.own {answers : String → Except StorageError (List Row)} {r : Request}
    {selected : Classified r.node} (h : Resolvable schema options dialect answers r)
    (hclassified : classified schema options r = .ok selected) :
    ∃ rows, answers (sqlOf dialect r selected) = .ok rows ∧
      (isMissing r.cardinality (parentsOf r.cardinality rows) = false →
        ∃ caller : Related r.node → Modifiers,
          (∀ related ∈ selected.relations,
            Modifiers.ofArguments related.node.arguments options.allowRawOrderBy =
              .ok (caller related)) ∧
          (selected.relations ≠ [] →
            ∀ row ∈ parentsOf r.cardinality rows, (rowId? row).isSome) ∧
          ∀ related ∈ selected.relations, ∀ p ∈ distinctIds (parentsOf r.cardinality rows),
            Resolvable schema options dialect answers
              (relationRequest r related p.2 (caller related))) := by
  obtain ⟨cost, v, hyields, hcost⟩ := h
  cases hyields with
  | @missing _ selected' rows hclassified' hmissing =>
    cases hclassified.symm.trans hclassified'
    refine ⟨rows, (hcost _ (Multiset.mem_singleton_self _)).symm, fun hpresent => ?_⟩
    rw [hmissing] at hpresent
    cases hpresent
  | @level _ selected' rows caller part value hclassified' hpresent hcaller hids hparts =>
    cases hclassified.symm.trans hclassified'
    refine ⟨rows, hcost.own.symm, fun _ => ⟨caller, hcaller, hids, fun related hr p hp => ?_⟩⟩
    exact ⟨_, _, hparts related hr p hp,
      hcost.part (mem_taskIndexes.2 ⟨related, hr, p, hp, rfl⟩)⟩

end Resolution
end SelectionSql
