import SelectionSql.Proofs.Resolution.Stage

/-!
# The levels of a resolution

* `Resolution.tasksOf_eq_error`: why a level has no tasks.
* `Resolution.History`: how far the resolution of a request has come, level by level. Levels are
  below a level only if its rows have come and it has tasks, and they are for these tasks.
* `History.Within`: the levels that were reached.
* `History.exchanges`: what was exchanged at all levels.
* `History.Sound`, `History.FailsWith`: what a level needs, and how it fails.
* `History.Flawless`: nothing is wrong at any level, and every task was taken up.
-/
set_option autoImplicit false

namespace SelectionSql
namespace Resolution
open Selection (Node Related Classified)
variable {schema : Schema} {options : Options}

/-! ## Levels without tasks -/

theorem relationTasks_eq_error {r : Request} {rows : List ResultObject} {related : Related r.node}
    {e : ResolveError} (h : relationTasks options r rows related = .error e) :
    Modifiers.ofArguments related.node.arguments options.allowRawOrderBy = .error e ∨
      ∃ row ∈ rows, rowId? row = none ∧ e = .missingParentId r.typeName related.node.name := by
  rcases bind_eq_error_iff.1 h with harguments | ⟨caller, -, h⟩
  · exact .inl harguments
  · rcases bind_eq_error_iff.1 h with hids | ⟨ids, -, h⟩
    · obtain ⟨row, hrow, hid⟩ := exists_error_of_mapM hids
      refine .inr ⟨row, hrow, ?_⟩
      unfold parentId at hid
      cases hrowId : rowId? row with
      | some id =>
        rw [hrowId] at hid
        cases hid
      | none =>
        rw [hrowId] at hid
        cases hid
        exact ⟨rfl, rfl⟩
    · cases h

/-- A level has no tasks because of the arguments of a relation or a row without an id. -/
theorem tasksOf_eq_error {r : Request} {relations : List (Related r.node)}
    {rows : List ResultObject} {e : ResolveError}
    (h : tasksOf options r relations rows = .error e) :
    ∃ related ∈ relations,
      Modifiers.ofArguments related.node.arguments options.allowRawOrderBy = .error e ∨
      ∃ row ∈ rows, rowId? row = none ∧ e = .missingParentId r.typeName related.node.name := by
  rcases bind_eq_error_iff.1 h with h | ⟨tasks, -, h⟩
  · obtain ⟨related, hrelated, h⟩ := exists_error_of_mapM h
    exact ⟨related, hrelated, relationTasks_eq_error h⟩
  · cases h

/-! ## Levels that were reached -/

/-- How far the resolution of a request has come. -/
inductive History (schema : Schema) (options : Options) : Request → Type
  /-- Its statement was not issued. -/
  | reached (r : Request) : History schema options r
  /-- Its statement was issued. -/
  | asked {r : Request} {selected : Classified r.node}
      (hclassified : classified schema options r = .ok selected) : History schema options r
  /-- Its statement was answered, and nothing is below. -/
  | answered {r : Request} {selected : Classified r.node}
      (hclassified : classified schema options r = .ok selected)
      (answer : Except StorageError (List Row)) : History schema options r
  /-- Some of its tasks were taken up. -/
  | spread {r : Request} {selected : Classified r.node} {rows : List Row}
      {tasks : List (Task r.node)} {started : List (String × String)}
      (hclassified : classified schema options r = .ok selected)
      (hpresent : isMissing r.cardinality (parentsOf r.cardinality rows) = false)
      (htasks : tasksOf options r selected.relations (parentsOf r.cardinality rows) = .ok tasks)
      (hstarted : started.Subperm (tasks.map Task.index))
      (below : (k : String × String) → History schema options (requestAt r tasks k)) :
      History schema options r

namespace History
variable {r : Request}

def answer? : {r : Request} → History schema options r → Option (Except StorageError (List Row))
  | _, .reached _ => none
  | _, .asked _ => none
  | _, .answered _ answer => some answer
  | _, @spread _ _ _ _ rows _ _ _ _ _ _ _ => some (.ok rows)

def isAsked : {r : Request} → History schema options r → Bool
  | _, .reached _ => false
  | _, _ => true

/-- The places of the tasks that were taken up. -/
def started : {r : Request} → History schema options r → List (String × String)
  | _, @spread _ _ _ _ _ _ started _ _ _ _ _ => started
  | _, _ => []

/-- The levels that were reached. -/
inductive Within : {r' r : Request} → History schema options r' → History schema options r → Prop
  | refl {r : Request} (h : History schema options r) : Within h h
  | task {r r' : Request} {l : History schema options r'} {selected : Classified r.node}
      {rows : List Row} {tasks : List (Task r.node)} {started : List (String × String)}
      {hclassified : classified schema options r = .ok selected}
      {hpresent : isMissing r.cardinality (parentsOf r.cardinality rows) = false}
      {htasks : tasksOf options r selected.relations (parentsOf r.cardinality rows) = .ok tasks}
      {hstarted : started.Subperm (tasks.map Task.index)}
      {below : (k : String × String) → History schema options (requestAt r tasks k)}
      {k : String × String} (hk : k ∈ started) (h : Within l (below k)) :
      Within l (.spread hclassified hpresent htasks hstarted below)

def exchanges (dialect : Dialect) :
    {r : Request} → History schema options r → Multiset Exchange
  | _, .reached _ => 0
  | _, .asked _ => 0
  | r, @answered _ _ _ selected _ answer => {(sqlOf dialect r selected, answer)}
  | r, @spread _ _ _ selected rows _ started _ _ _ _ below =>
    {(sqlOf dialect r selected, .ok rows)} +
      Multiset.bind (started : Multiset (String × String)) fun k => (below k).exchanges dialect

/-! ## What a level needs -/

/-- The fields of a level are known, its statement was answered with rows and, unless one object
was asked for and there is none, the arguments of all relations are accepted and, where there is a
relation, all rows that count have ids. -/
def Sound (h : History schema options r) : Prop :=
  ∃ selected rows, classified schema options r = .ok selected ∧ h.answer? = some (.ok rows) ∧
    (¬ (r.cardinality = .one ∧ rows = []) →
      (∀ related ∈ selected.relations, ∃ caller,
        Modifiers.ofArguments related.node.arguments options.allowRawOrderBy = .ok caller) ∧
      (selected.relations ≠ [] → ∀ row ∈ parentsOf r.cardinality rows, ∃ id,
        row.find? idColumn = some (.scalar id) ∧ id.isNull = false))

inductive FailsWith (h : History schema options r) : ResolveError → Prop
  | fields {e : ResolveError} (hclassified : classified schema options r = .error e) :
      FailsWith h e
  | storage {selected : Classified r.node} {cause : StorageError}
      (hclassified : classified schema options r = .ok selected)
      (hanswer : h.answer? = some (.error cause)) : FailsWith h (.storage cause)
  | arguments {selected : Classified r.node} {rows : List Row} {related : Related r.node}
      {e : ResolveError} (hclassified : classified schema options r = .ok selected)
      (hanswer : h.answer? = some (.ok rows))
      (hpresent : ¬ (r.cardinality = .one ∧ rows = []))
      (hrelated : related ∈ selected.relations)
      (harguments : Modifiers.ofArguments related.node.arguments options.allowRawOrderBy =
        .error e) : FailsWith h e
  | id {selected : Classified r.node} {rows : List Row} {related : Related r.node}
      {row : ResultObject} (hclassified : classified schema options r = .ok selected)
      (hanswer : h.answer? = some (.ok rows))
      (hpresent : ¬ (r.cardinality = .one ∧ rows = []))
      (hrelated : related ∈ selected.relations) (hrow : row ∈ parentsOf r.cardinality rows)
      (hid : rowId? row = none) : FailsWith h (.missingParentId r.typeName related.node.name)

theorem FailsWith.not_sound {h : History schema options r} {e : ResolveError}
    (hfails : h.FailsWith e) : ¬ h.Sound := by
  rintro ⟨selected, rows, hclassified, hanswer, hrelations⟩
  cases hfails with
  | fields hclassified' => cases hclassified.symm.trans hclassified'
  | storage _ hanswer' => cases hanswer.symm.trans hanswer'
  | arguments hclassified' hanswer' hpresent hrelated harguments =>
    cases hclassified.symm.trans hclassified'
    cases hanswer.symm.trans hanswer'
    obtain ⟨caller, hcaller⟩ := (hrelations hpresent).1 _ hrelated
    cases hcaller.symm.trans harguments
  | id hclassified' hanswer' hpresent hrelated hrow hid =>
    cases hclassified.symm.trans hclassified'
    cases hanswer.symm.trans hanswer'
    obtain ⟨id, hsome⟩ := (hrelations hpresent).2 (List.ne_nil_of_mem hrelated) _ hrow
    cases hid.symm.trans (rowId?_eq_some_iff.2 hsome)

/-- Every task of a level was taken up. -/
def Exhausted (h : History schema options r) : Prop :=
  ∀ selected rows tasks, classified schema options r = .ok selected →
    h.answer? = some (.ok rows) → isMissing r.cardinality (parentsOf r.cardinality rows) = false →
    tasksOf options r selected.relations (parentsOf r.cardinality rows) = .ok tasks →
    h.started.Perm (tasks.map Task.index)

def Flawless (h : History schema options r) : Prop :=
  ∀ {r' : Request} {l : History schema options r'}, l.Within h → l.Sound ∧ l.Exhausted

section Levels
variable {selected : Classified r.node} {rows : List Row}
  (hclassified : classified schema options r = .ok selected)

theorem flawless_answered
    (hmissing : isMissing r.cardinality (parentsOf r.cardinality rows) = true) :
    (answered hclassified (.ok rows)).Flawless := by
  intro r' l hl
  cases hl with
  | refl =>
    refine ⟨⟨selected, rows, hclassified, rfl, fun hpresent => ?_⟩, ?_⟩
    · exact absurd (isMissing_iff.1 hmissing) hpresent
    · intro selected' rows' tasks _ hanswer hpresent
      cases hanswer
      rw [hmissing] at hpresent
      cases hpresent

theorem flawless_spread {tasks : List (Task r.node)} {started : List (String × String)}
    {below : (k : String × String) → History schema options (requestAt r tasks k)}
    (hpresent : isMissing r.cardinality (parentsOf r.cardinality rows) = false)
    (htasks : tasksOf options r selected.relations (parentsOf r.cardinality rows) = .ok tasks)
    (hstarted : started.Perm (tasks.map Task.index))
    (hbelow : ∀ k ∈ started, (below k).Flawless) :
    (spread hclassified hpresent htasks hstarted.subperm below).Flawless := by
  intro r' l hl
  cases hl with
  | task hk hl => exact hbelow _ hk hl
  | refl =>
    obtain ⟨caller, hcaller, hids, -⟩ := tasksOf_eq_ok_iff.1 htasks
    refine ⟨⟨selected, rows, hclassified, rfl, fun _ => ⟨?_, ?_⟩⟩, ?_⟩
    · exact fun related hrelated => ⟨caller related, hcaller related hrelated⟩
    · intro hne row hrow
      obtain ⟨id, hid⟩ := Option.isSome_iff_exists.1 (hids hne row hrow)
      exact ⟨id, rowId?_eq_some_iff.1 hid⟩
    · intro selected' rows' tasks' hclassified' hanswer _ htasks'
      cases hclassified.symm.trans hclassified'
      cases hanswer
      cases htasks.symm.trans htasks'
      exact hstarted

theorem failsWith_answered {e : ResolveError}
    (hpresent : isMissing r.cardinality (parentsOf r.cardinality rows) = false)
    (htasks : tasksOf options r selected.relations (parentsOf r.cardinality rows) = .error e) :
    (answered hclassified (.ok rows)).FailsWith e := by
  have hpresent' : ¬ (r.cardinality = .one ∧ rows = []) := by
    rw [← isMissing_iff, hpresent]
    exact Bool.false_ne_true
  obtain ⟨related, hrelated, harguments | ⟨row, hrow, hid, rfl⟩⟩ := tasksOf_eq_error htasks
  · exact .arguments hclassified rfl hpresent' hrelated harguments
  · exact .id hclassified rfl hpresent' hrelated hrow hid

end Levels

/-! ## Levels that go no further -/

/-- Where the fields are not known, no statement is issued. -/
theorem isAsked_of_error {h : History schema options r} {e : ResolveError}
    (hclassified : classified schema options r = .error e) (dialect : Dialect) :
    h.isAsked = false ∧ h.exchanges dialect = 0 ∧ h.started = [] := by
  cases h with
  | reached => exact ⟨rfl, rfl, rfl⟩
  | asked hclassified' => cases hclassified'.symm.trans hclassified
  | answered hclassified' => cases hclassified'.symm.trans hclassified
  | spread hclassified' => cases hclassified'.symm.trans hclassified

/-- Where the arguments of a relation or the id of a row are at fault, there is only the statement
of the level itself. -/
theorem started_of_fault {h : History schema options r} {selected : Classified r.node}
    {rows : List Row} (hclassified : classified schema options r = .ok selected)
    (hanswer : h.answer? = some (.ok rows)) {related : Related r.node}
    (hrelated : related ∈ selected.relations)
    (hfault : (∃ e, Modifiers.ofArguments related.node.arguments options.allowRawOrderBy =
      .error e) ∨ ∃ row ∈ parentsOf r.cardinality rows, rowId? row = none) (dialect : Dialect) :
    h.started = [] ∧ h.exchanges dialect = {(sqlOf dialect r selected, .ok rows)} := by
  cases h with
  | reached => cases hanswer
  | asked => cases hanswer
  | answered hclassified' answer =>
    cases hclassified.symm.trans hclassified'
    cases hanswer
    exact ⟨rfl, rfl⟩
  | spread hclassified' hpresent htasks =>
    cases hclassified.symm.trans hclassified'
    cases hanswer
    obtain ⟨caller, hcaller, hids, -⟩ := tasksOf_eq_ok_iff.1 htasks
    rcases hfault with ⟨e, he⟩ | ⟨row, hrow, hid⟩
    · cases (hcaller related hrelated).symm.trans he
    · have hsome := hids (List.ne_nil_of_mem hrelated) row hrow
      rw [hid] at hsome
      cases hsome

end History
end Resolution
end SelectionSql
