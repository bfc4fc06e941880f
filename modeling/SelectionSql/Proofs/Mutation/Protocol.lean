import SelectionSql.Proofs.Outcome
import SelectionSql.Proofs.Sql.WriteMeaning

/-!
# The protocol of mutations

What a mutation does, in order: it writes, shows the row's id and the caller's own input to the
hook, and reads the row back. The run is watched by an executor and a hook that also note down
what is asked of them.

* `Mutation.Operation`: a mutation with what it is given; `act` is what its write says, `RowId` the
  id of its row.
* `Mutation.Event`, `Executor.watched`, `Config.watched`: what is noted down.
* `Mutation.Protocol`: the courses that a run may take, each with its result, its events and the
  state that is left.
* `Mutation.Noted`: a computation, its watched copy, and the events between them.
* `Operation.run_eq`: the three mutations as one sequence of steps.
* `Mutation.run_follows_protocol`: every run takes one of these courses, watched or not.
-/
set_option autoImplicit false

namespace SelectionSql
open Sql (Act Says)

namespace Mutation
variable {σ : Type}

/-! ## Operations -/

inductive Operation where
  | create (table : String) (input : Row)
  | update (table : String) (id : Scalar) (input : Row)
  | delete (table : String) (id : Scalar)

/-- What a mutation answers. -/
inductive Answer where
  | row (row : Option Row)
  | deleted

namespace Operation

def table : Operation → String
  | .create table _ => table
  | .update table _ _ => table
  | .delete table _ => table

def givenId? : Operation → Option Scalar
  | .create _ _ => none
  | .update _ id _ => some id
  | .delete _ id => some id

def input? : Operation → Option Row
  | .create _ input => some input
  | .update _ _ input => some input
  | .delete _ _ => none

/-- What the hook is to see. -/
def shown (op : Operation) : Row := op.input?.getD .empty

def run (x : Executor σ) (c : Config σ) (identity : Identity) : Operation → Run σ Answer
  | .create table input => do return .row (← Mutation.create x table input c identity)
  | .update table id input => do return .row (← Mutation.update x table id input c identity)
  | .delete table id => do
    Mutation.delete x table id c
    return .deleted

/-- No id is missing, and there is something to write. -/
structure Ready (op : Operation) (c : Config σ) (identity : Identity) : Prop where
  id : ∀ id, op.givenId? = some id → id.isNull = false
  input : ∀ input, op.input? = some input → (c.reduce input identity).isEmpty = false

/-- What the write says. A row names each of its columns once. -/
def act (c : Config σ) (identity : Identity) : Operation → Act
  | .create table input =>
    .insert table (c.reduce input identity).keys (c.reduce input identity).values
  | .update table id input =>
    .update table (c.reduce input identity).entries [⟨none, idColumn, .equals id⟩]
  | .delete table id => .delete table [⟨none, idColumn, .equals id⟩]

/-- The id of the row: the given one; that of the written row; the one that the database gave. -/
def RowId (c : Config σ) (identity : Identity) (outcome : WriteOutcome) (id : Scalar) :
    Operation → Prop
  | .create _ input =>
    ((c.reduce input identity).find? idColumn = some id ∧ id.isNull = false) ∨
      ((∀ own, (c.reduce input identity).find? idColumn = some own → own.isNull = true) ∧
        ∃ n, outcome.lastInsertId = some n ∧ id = .int n)
  | .update _ given _ => id = given
  | .delete _ given => id = given

end Operation

/-! ## Events -/

inductive Event where
  | write (sql : String)
  | hook (id : Scalar) (input : Row)
  | read (sql : String)

end Mutation

/-- An executor that also notes down what it is asked. -/
def Executor.watched {σ : Type} (x : Executor σ) : Executor (σ × List Mutation.Event) where
  dialect := x.dialect
  fetchAll := fun sql s =>
    ((x.fetchAll sql s.1).1, ((x.fetchAll sql s.1).2, s.2 ++ [.read sql]))
  execute := fun sql s =>
    ((x.execute sql s.1).1, ((x.execute sql s.1).2, s.2 ++ [.write sql]))

namespace Mutation
variable {σ : Type}

/-- The hook notes down what it sees, and then does what it does on the executor itself. -/
def Config.watched (c : Config σ) (x : Executor σ) : Config (σ × List Event) where
  reducer := c.reducer
  hook := c.hook.map fun f _ id input s =>
    ((f x id input s.1).1, ((f x id input s.1).2, s.2 ++ [.hook id input]))

/-! ## Courses -/

section Course
variable (x : Executor σ) (c : Config σ) (identity : Identity) (op : Operation)

/-- The write is done and the id of the row is known. -/
structure Written (s : σ) (sql : String) (id : Scalar) (s' : σ) : Prop where
  ready : op.Ready c identity
  spells : Says x.dialect sql (op.act c identity)
  rowId : ∃ outcome, x.execute sql s = (.ok outcome, s') ∧ op.RowId c identity outcome id

/-- The hook, if there is one, has been called and has not failed. -/
inductive Hooked (id : Scalar) (s : σ) : List Event → σ → Prop
  | none (h : c.hook = none) : Hooked id s [] s
  | done {f : Executor σ → Scalar → Row → Run σ Unit} {s' : σ} (h : c.hook = some f)
      (hdone : f x id op.shown s = (.ok (), s')) : Hooked id s [.hook id op.shown] s'

/-- The question for the row of an id. -/
def AsksFor (id : Scalar) (sql : String) : Prop :=
  Says x.dialect sql (.select op.table [⟨none, idColumn, .equals id⟩] (some (.int 1)))

/-- What a run comes to, the events of it, and the state that is left. -/
inductive Protocol (s : σ) : Except MutationError Answer → List Event → σ → Prop
  | missingId {id : Scalar} (hid : op.givenId? = some id) (hnull : id.isNull = true) :
      Protocol s (.error (.missingId op.table)) [] s
  | emptyInput {input : Row} (hid : ∀ id, op.givenId? = some id → id.isNull = false)
      (hinput : op.input? = some input) (hempty : (c.reduce input identity).isEmpty = true) :
      Protocol s (.error (.emptyInput op.table)) [] s
  | writeFailed {sql : String} {cause : StorageError} {s' : σ} (hready : op.Ready c identity)
      (hspells : Says x.dialect sql (op.act c identity))
      (hfails : x.execute sql s = (.error cause, s')) :
      Protocol s (.error (.storage cause)) [.write sql] s'
  | unknownId {sql : String} {outcome : WriteOutcome} {s' : σ} (hready : op.Ready c identity)
      (hspells : Says x.dialect sql (op.act c identity))
      (hwrites : x.execute sql s = (.ok outcome, s'))
      (hunknown : ∀ id, ¬ op.RowId c identity outcome id) :
      Protocol s (.error (.missingId op.table)) [.write sql] s'
  | hookFailed {sql : String} {id : Scalar} {s₁ s' : σ} {e : MutationError}
      {f : Executor σ → Scalar → Row → Run σ Unit} (hwritten : Written x c identity op s sql id s₁)
      (hhook : c.hook = some f) (hfails : f x id op.shown s₁ = (.error e, s')) :
      Protocol s (.error e) [.write sql, .hook id op.shown] s'
  | deleted {sql : String} {id : Scalar} {s₁ s' : σ} {events : List Event}
      (hwritten : Written x c identity op s sql id s₁) (hhooked : Hooked x c op id s₁ events s')
      (hdelete : op.input? = none) :
      Protocol s (.ok .deleted) (.write sql :: events) s'
  | readFailed {sql query : String} {id : Scalar} {s₁ s₂ s' : σ} {events : List Event}
      {cause : StorageError} (hwritten : Written x c identity op s sql id s₁)
      (hhooked : Hooked x c op id s₁ events s₂) (hkeeps : op.input?.isSome = true)
      (hasks : AsksFor x op id query) (hfails : x.fetchAll query s₂ = (.error cause, s')) :
      Protocol s (.error (.storage cause)) (.write sql :: (events ++ [.read query])) s'
  | found {sql query : String} {id : Scalar} {s₁ s₂ s' : σ} {events : List Event}
      {rows : List Row} (hwritten : Written x c identity op s sql id s₁)
      (hhooked : Hooked x c op id s₁ events s₂) (hkeeps : op.input?.isSome = true)
      (hasks : AsksFor x op id query) (hreads : x.fetchAll query s₂ = (.ok rows, s')) :
      Protocol s (.ok (.row rows.head?)) (.write sql :: (events ++ [.read query])) s'

end Course

/-! ## Steps -/

section Steps
variable {α β : Type} {m : Run σ α} {w : Run (σ × List Event) α} {f : α → Run σ β}
  {g : α → Run (σ × List Event) β} {s s' s₁ : σ} {events events' : List Event}

/-- A computation and its watched copy come to the same; the watched one notes down the events. -/
def Noted (m : Run σ α) (w : Run (σ × List Event) α) (s : σ) (r : Except MutationError α)
    (events : List Event) (s' : σ) : Prop :=
  m s = (r, s') ∧ ∀ before, w (s, before) = (r, (s', before ++ events))

theorem Noted.bind_ok {a : α} {r : Except MutationError β} (h : Noted m w s (.ok a) events s₁)
    (hnext : Noted (f a) (g a) s₁ r events' s') :
    Noted (m >>= f) (w >>= g) s r (events ++ events') s' := by
  constructor
  · rw [Run.bind_apply, h.1]
    exact hnext.1
  · intro before
    rw [Run.bind_apply, h.2, ← List.append_assoc]
    exact hnext.2 _

theorem Noted.bind_error {e : MutationError} (h : Noted m w s (.error e) events s') :
    Noted (m >>= f) (w >>= g) s (.error e) events s' := by
  constructor
  · rw [Run.bind_apply, h.1]
  · intro before
    rw [Run.bind_apply, h.2]

theorem noted_lift {r r' : Except MutationError α} (h : r = r') (s : σ) :
    Noted (liftM r) (liftM r) s r' [] s := by
  refine ⟨by rw [← h, Run.lift_apply], fun before => ?_⟩
  rw [← h, Run.lift_apply, List.append_nil]

theorem noted_pure (a : α) (s : σ) : Noted (pure a) (pure a) s (.ok a) [] s := by
  refine ⟨Run.pure_apply a s, fun before => ?_⟩
  rw [Run.pure_apply, List.append_nil]

theorem noted_write {x : Executor σ} {sql : String} {outcome : Except StorageError WriteOutcome}
    (h : x.execute sql s = (outcome, s')) :
    Noted (write x sql) (write x.watched sql) s (outcome.mapError .storage) [.write sql] s' := by
  obtain ⟨rfl, rfl⟩ := Prod.mk.inj (h : ((x.execute sql s).1, (x.execute sql s).2) = _)
  exact ⟨rfl, fun _ => rfl⟩

theorem noted_after_of_none {c : Config σ} (h : c.hook = none) (x : Executor σ) (id : Scalar)
    (input : Row) (s : σ) :
    Noted (c.after x id input) ((c.watched x).after x.watched id input) s (.ok ()) [] s := by
  have hw : (c.watched x).hook = none := by rw [Config.watched, h, Option.map_none]
  rw [Config.after, Config.after, h, hw]
  exact noted_pure () s

theorem noted_after_of_some {c : Config σ} {f : Executor σ → Scalar → Row → Run σ Unit}
    (hhook : c.hook = some f) {x : Executor σ} {id : Scalar} {input : Row}
    {r : Except MutationError Unit} (h : f x id input s = (r, s')) :
    Noted (c.after x id input) ((c.watched x).after x.watched id input) s r [.hook id input]
      s' := by
  have hw : (c.watched x).hook = some fun _ id input s =>
      ((f x id input s.1).1, ((f x id input s.1).2, s.2 ++ [.hook id input])) := by
    rw [Config.watched, hhook, Option.map_some]
  obtain ⟨rfl, rfl⟩ := Prod.mk.inj (h : ((f x id input s).1, (f x id input s).2) = _)
  rw [Config.after, Config.after, hhook, hw]
  exact ⟨rfl, fun _ => rfl⟩

theorem noted_readBack {x : Executor σ} {table : String} {id : Scalar}
    {answer : Except StorageError (List Row)}
    (h : x.fetchAll ((readBackOf table id).render x.dialect) s = (answer, s')) :
    Noted (readBack x table id) (readBack x.watched table id) s
      ((answer.map List.head?).mapError .storage)
      [.read ((readBackOf table id).render x.dialect)] s' := by
  obtain ⟨rfl, rfl⟩ := Prod.mk.inj (h : ((x.fetchAll _ s).1, (x.fetchAll _ s).2) = _)
  exact ⟨rfl, fun _ => rfl⟩

end Steps

/-! ## One sequence of steps -/

theorem requireId_eq_ok_iff {table : String} {id : Scalar} :
    requireId table id = .ok () ↔ id.isNull = false := by
  cases h : id.isNull with
  | true => simp [requireId, h]
  | false => simp [requireId, h]

theorem requireId_eq_error_iff {table : String} {id : Scalar} {e : MutationError} :
    requireId table id = .error e ↔ e = .missingId table ∧ id.isNull = true := by
  cases h : id.isNull with
  | true => simp [requireId, h, eq_comm]
  | false => simp [requireId, h]

section Reduced
variable {c : Config σ} {table : String} {input values : Row} {identity : Identity}
  {e : MutationError}

theorem reduced_eq_ok_iff : reduced c table input identity = .ok values ↔
    c.reduce input identity = values ∧ (c.reduce input identity).isEmpty = false := by
  cases h : (c.reduce input identity).isEmpty with
  | true => simp [reduced, h]
  | false => simp [reduced, h]

theorem reduced_eq_error_iff : reduced c table input identity = .error e ↔
    e = .emptyInput table ∧ (c.reduce input identity).isEmpty = true := by
  cases h : (c.reduce input identity).isEmpty with
  | true => simp [reduced, h, eq_comm]
  | false => simp [reduced, h]

end Reduced

namespace Operation

/-- The text of the write. -/
def text (d : Dialect) (c : Config σ) (identity : Identity) :
    Operation → Except MutationError String
  | .create table input => do
    return (insertOf table (← reduced c table input identity)).render d
  | .update table id input => do
    requireId table id
    return (updateOf table id (← reduced c table input identity)).render d
  | .delete table id => do
    requireId table id
    return (deleteOf table id).render d

def rowId (c : Config σ) (identity : Identity) (outcome : WriteOutcome) :
    Operation → Except MutationError Scalar
  | .create table input => createdId table (c.reduce input identity) outcome
  | .update _ id _ => .ok id
  | .delete _ id => .ok id

/-- Reads the row back, if one is left. -/
def answer (x : Executor σ) (op : Operation) (id : Scalar) : Run σ Answer :=
  match op.input? with
  | some _ => do return .row (← readBack x op.table id)
  | none => return .deleted

variable (x : Executor σ) (c : Config σ) (identity : Identity) (op : Operation)

theorem run_eq : op.run x c identity = (do
    let sql ← op.text x.dialect c identity
    let outcome ← write x sql
    let id ← op.rowId c identity outcome
    c.after x id op.shown
    op.answer x id) := by
  cases op with
  | create table input =>
    rw [run, text, Mutation.create]
    cases hreduced : reduced c table input identity with
    | error e => rfl
    | ok values =>
      -- The id is looked up in the row that is written, not in the caller's input.
      obtain ⟨rfl, -⟩ := reduced_eq_ok_iff.1 hreduced
      simp only [bind_assoc]
      rfl
  | update table id input =>
    rw [run, text, Mutation.update]
    cases requireId table id with
    | error e => rfl
    | ok _ =>
      cases reduced c table input identity with
      | error e => rfl
      | ok values =>
        simp only [bind_assoc]
        rfl
  | delete table id =>
    rw [run, text, Mutation.delete]
    cases requireId table id with
    | error e => rfl
    | ok _ =>
      simp only [bind_assoc]
      rfl

/-! ## The steps that touch nothing -/

theorem text_watched :
    op.text x.watched.dialect (c.watched x) identity = op.text x.dialect c identity := by
  cases op <;> rfl

theorem rowId_watched (outcome : WriteOutcome) :
    op.rowId (c.watched x) identity outcome = op.rowId c identity outcome := by
  cases op <;> rfl

variable {x c identity op} {d : Dialect} {outcome : WriteOutcome} {sql : String} {id : Scalar}
  {e : MutationError}

theorem testOf_eq (h : id.isNull = false) : Sql.Test.of id = .equals id := by
  cases id with
  | null => cases h
  | _ => rfl

theorem ready_and_says_of_text (h : op.text d c identity = .ok sql) :
    op.Ready c identity ∧ Says d sql (op.act c identity) := by
  cases op with
  | create table input =>
    obtain ⟨values, hvalues, h⟩ := bind_eq_ok_iff.1 h
    cases h
    obtain ⟨rfl, hinput⟩ := reduced_eq_ok_iff.1 hvalues
    refine ⟨⟨fun id hid => (nomatch hid), fun input' h => ?_⟩, says_insertOf d table hinput⟩
    cases h
    exact hinput
  | update table id input =>
    obtain ⟨_, hid, h⟩ := bind_eq_ok_iff.1 h
    obtain ⟨values, hvalues, h⟩ := bind_eq_ok_iff.1 h
    cases h
    have hid := requireId_eq_ok_iff.1 hid
    obtain ⟨rfl, hinput⟩ := reduced_eq_ok_iff.1 hvalues
    have hspells := says_updateOf d table id hinput
    rw [testOf_eq hid] at hspells
    refine ⟨⟨fun id' h => ?_, fun input' h => ?_⟩, hspells⟩
    · cases h
      exact hid
    · cases h
      exact hinput
  | delete table id =>
    obtain ⟨_, hid, h⟩ := bind_eq_ok_iff.1 h
    cases h
    have hid := requireId_eq_ok_iff.1 hid
    have hspells := says_deleteOf d table id
    rw [testOf_eq hid] at hspells
    refine ⟨⟨fun id' h => ?_, fun input h => (nomatch h)⟩, hspells⟩
    cases h
    exact hid

/-- What is missing: an id, or else something to write. -/
theorem missing_of_text (h : op.text d c identity = .error e) :
    (e = .missingId op.table ∧ ∃ id, op.givenId? = some id ∧ id.isNull = true) ∨
      (e = .emptyInput op.table ∧ (∀ id, op.givenId? = some id → id.isNull = false) ∧
        ∃ input, op.input? = some input ∧ (c.reduce input identity).isEmpty = true) := by
  cases op with
  | create table input =>
    rcases bind_eq_error_iff.1 h with h | ⟨_, _, h⟩
    · obtain ⟨rfl, hempty⟩ := reduced_eq_error_iff.1 h
      exact .inr ⟨rfl, fun id hid => (nomatch hid), input, rfl, hempty⟩
    · cases h
  | update table id input =>
    rcases bind_eq_error_iff.1 h with h | ⟨_, hid, h⟩
    · obtain ⟨rfl, hnull⟩ := requireId_eq_error_iff.1 h
      exact .inl ⟨rfl, id, rfl, hnull⟩
    · rcases bind_eq_error_iff.1 h with h | ⟨_, _, h⟩
      · obtain ⟨rfl, hempty⟩ := reduced_eq_error_iff.1 h
        refine .inr ⟨rfl, fun id' h => ?_, input, rfl, hempty⟩
        cases h
        exact requireId_eq_ok_iff.1 hid
      · cases h
  | delete table id =>
    rcases bind_eq_error_iff.1 h with h | ⟨_, _, h⟩
    · obtain ⟨rfl, hnull⟩ := requireId_eq_error_iff.1 h
      exact .inl ⟨rfl, id, rfl, hnull⟩
    · cases h

theorem text_of_missingId (hid : op.givenId? = some id) (hnull : id.isNull = true) :
    op.text d c identity = .error (.missingId op.table) := by
  cases op with
  | create table input => cases hid
  | update table id' input =>
    cases hid
    exact bind_eq_error_iff.2 (.inl (requireId_eq_error_iff.2 ⟨rfl, hnull⟩))
  | delete table id' =>
    cases hid
    exact bind_eq_error_iff.2 (.inl (requireId_eq_error_iff.2 ⟨rfl, hnull⟩))

theorem generated_eq_ok_iff {table : String} :
    createdId.generated table outcome = .ok id ↔
      ∃ n, outcome.lastInsertId = some n ∧ id = .int n := by
  cases h : outcome.lastInsertId with
  | none => simp [createdId.generated, h]
  | some n => simp [createdId.generated, h, eq_comm]

theorem rowId_eq_ok_iff :
    op.rowId c identity outcome = .ok id ↔ op.RowId c identity outcome id := by
  cases op with
  | create table input =>
    rw [rowId, RowId, createdId]
    cases hown : (c.reduce input identity).find? idColumn with
    | none => simp [generated_eq_ok_iff]
    | some own =>
      dsimp only
      cases hnull : own.isNull with
      | true =>
        rw [if_pos rfl, generated_eq_ok_iff]
        constructor
        · refine fun h => .inr ⟨fun own' h' => ?_, h⟩
          cases h'
          exact hnull
        · rintro (⟨h, hid⟩ | ⟨-, h⟩)
          · cases h
            rw [hnull] at hid
            cases hid
          · exact h
      | false =>
        rw [if_neg Bool.false_ne_true]
        constructor
        · intro h
          cases h
          exact .inl ⟨rfl, hnull⟩
        · rintro (⟨h, -⟩ | ⟨h, -⟩)
          · cases h
            rfl
          · rw [h own rfl] at hnull
            cases hnull
  | update table id' input => exact ⟨fun h => by cases h; rfl, fun h => congrArg _ h.symm⟩
  | delete table id' => exact ⟨fun h => by cases h; rfl, fun h => congrArg _ h.symm⟩

theorem eq_missingId_of_rowId (h : op.rowId c identity outcome = .error e) :
    e = .missingId op.table := by
  cases op with
  | create table input =>
    have hgenerated : createdId.generated table outcome = .error e → e = .missingId table := by
      rw [createdId.generated]
      cases outcome.lastInsertId with
      | none => exact fun h => by cases h; rfl
      | some n => exact fun h => nomatch h
    rw [rowId, createdId] at h
    split at h
    · split at h
      · exact hgenerated h
      · cases h
    · exact hgenerated h
  | update table id input => cases h
  | delete table id => cases h

/-- The id of a row is not null. -/
theorem isNull_of_rowId (hready : op.Ready c identity) (h : op.RowId c identity outcome id) :
    id.isNull = false := by
  cases op with
  | create table input =>
    rcases h with ⟨-, h⟩ | ⟨-, n, -, rfl⟩
    · exact h
    · rfl
  | update table given input =>
    cases h
    exact hready.id id rfl
  | delete table given =>
    cases h
    exact hready.id id rfl

end Operation

/-! ## Runs -/

theorem Written.isNull {x : Executor σ} {c : Config σ} {identity : Identity} {op : Operation}
    {s s' : σ} {sql : String} {id : Scalar} (h : Written x c identity op s sql id s') :
    id.isNull = false := by
  obtain ⟨outcome, -, hrow⟩ := h.rowId
  exact Operation.isNull_of_rowId h.ready hrow

theorem asksFor_readBackOf (x : Executor σ) (op : Operation) {id : Scalar}
    (h : id.isNull = false) : AsksFor x op id ((readBackOf op.table id).render x.dialect) := by
  have hspells := says_readBackOf x.dialect op.table id
  rwa [Operation.testOf_eq h] at hspells

section Runs
variable {x : Executor σ} {c : Config σ} {identity : Identity} {op : Operation} {sql : String}
  {id : Scalar} {s s₁ : σ}

/-- Once the hook is done, what is left is to read the row back, if there is one. -/
theorem exists_protocol_of_hooked {s₂ : σ} {events : List Event}
    (hwritten : Written x c identity op s sql id s₁) (hhooked : Hooked x c op id s₁ events s₂) :
    ∃ r events' s', Protocol x c identity op s r (.write sql :: (events ++ events')) s' ∧
      Noted (op.answer x id) (op.answer x.watched id) s₂ r events' s' := by
  cases hinput : op.input? with
  | none =>
    refine ⟨.ok Answer.deleted, [], s₂, ?_, ?_⟩
    · rw [List.append_nil]
      exact .deleted hwritten hhooked hinput
    · rw [Operation.answer, Operation.answer, hinput]
      exact noted_pure Answer.deleted s₂
  | some input =>
    have hkeeps : op.input?.isSome = true := by rw [hinput, Option.isSome_some]
    have hasks := asksFor_readBackOf x op hwritten.isNull
    rw [Operation.answer, Operation.answer, hinput]
    rcases hfetch : x.fetchAll ((readBackOf op.table id).render x.dialect) s₂
      with ⟨cause | rows, s'⟩
    · exact ⟨.error (.storage cause), _, s', .readFailed hwritten hhooked hkeeps hasks hfetch,
        (noted_readBack hfetch).bind_error⟩
    · exact ⟨.ok (.row rows.head?), _, s', .found hwritten hhooked hkeeps hasks hfetch,
        (noted_readBack hfetch).bind_ok (noted_pure (Answer.row rows.head?) s')⟩

/-- Once the row is written, what is left is the hook and what comes after it. -/
theorem exists_protocol_of_written (hwritten : Written x c identity op s sql id s₁) :
    ∃ r events s', Protocol x c identity op s r (.write sql :: events) s' ∧
      Noted (do c.after x id op.shown; op.answer x id)
        (do (c.watched x).after x.watched id op.shown; op.answer x.watched id) s₁ r events s' := by
  cases hhook : c.hook with
  | none =>
    obtain ⟨r, events, s', hprotocol, hanswer⟩ := exists_protocol_of_hooked hwritten (.none hhook)
    exact ⟨r, _, s', hprotocol, (noted_after_of_none hhook x id op.shown s₁).bind_ok hanswer⟩
  | some f =>
    rcases hdone : f x id op.shown s₁ with ⟨e | ⟨⟩, s₂⟩
    · exact ⟨.error e, _, s₂, .hookFailed hwritten hhook hdone,
        (noted_after_of_some hhook hdone).bind_error⟩
    · obtain ⟨r, events, s', hprotocol, hanswer⟩ :=
        exists_protocol_of_hooked hwritten (.done hhook hdone)
      exact ⟨r, _, s', hprotocol, (noted_after_of_some hhook hdone).bind_ok hanswer⟩

/-- Once there is something to write, what is left is the write and what comes after it. -/
theorem exists_protocol_of_text (hready : op.Ready c identity)
    (hspells : Says x.dialect sql (op.act c identity)) :
    ∃ r events s', Protocol x c identity op s r events s' ∧
      Noted
        (do
          let outcome ← write x sql
          let id ← op.rowId c identity outcome
          c.after x id op.shown
          op.answer x id)
        (do
          let outcome ← write x.watched sql
          let id ← op.rowId c identity outcome
          (c.watched x).after x.watched id op.shown
          op.answer x.watched id) s r events s' := by
  rcases hwrite : x.execute sql s with ⟨cause | outcome, s₁⟩
  · exact ⟨.error (.storage cause), _, s₁, .writeFailed hready hspells hwrite,
      (noted_write hwrite).bind_error⟩
  · have hnoted := noted_write hwrite
    cases hrow : op.rowId c identity outcome with
    | error e =>
      have hunknown : ∀ id, ¬ op.RowId c identity outcome id := by
        intro id h
        rw [Operation.rowId_eq_ok_iff.2 h] at hrow
        cases hrow
      cases Operation.eq_missingId_of_rowId hrow
      refine ⟨.error (.missingId op.table), _, s₁, .unknownId hready hspells hwrite hunknown,
        hnoted.bind_ok (noted_lift hrow s₁).bind_error⟩
    | ok id =>
      obtain ⟨r, events, s', hprotocol, hrest⟩ := exists_protocol_of_written
        ⟨hready, hspells, outcome, hwrite, Operation.rowId_eq_ok_iff.1 hrow⟩
      exact ⟨r, _, s', hprotocol, hnoted.bind_ok ((noted_lift hrow s₁).bind_ok hrest)⟩

end Runs

/-- Every run takes one of the courses. Watching a run changes neither its result nor the state.
Without the id that it needs, a run comes to the same under every reducer and every hook. -/
theorem run_follows_protocol (x : Executor σ) (c : Config σ) (identity : Identity) (op : Operation)
    (s : σ) :
    (∃ r events s', Protocol x c identity op s r events s' ∧ op.run x c identity s = (r, s') ∧
      ∀ before, op.run x.watched (c.watched x) identity (s, before) =
        (r, (s', before ++ events))) ∧
      ∀ id, op.givenId? = some id → id.isNull = true →
        ∀ c', op.run x c' identity s = (.error (.missingId op.table), s) := by
  constructor
  · show ∃ r events s', Protocol x c identity op s r events s' ∧
      Noted (op.run x c identity) (op.run x.watched (c.watched x) identity) s r events s'
    rw [op.run_eq x c identity, op.run_eq x.watched (c.watched x) identity,
      op.text_watched x c identity]
    simp only [op.rowId_watched x c identity]
    cases hsql : op.text x.dialect c identity with
    | error e =>
      refine ⟨.error e, _, s, ?_, (noted_lift rfl s).bind_error⟩
      rcases Operation.missing_of_text hsql with
        ⟨rfl, id, hid, hnull⟩ | ⟨rfl, hid, input, hinput, hempty⟩
      · exact .missingId hid hnull
      · exact .emptyInput hid hinput hempty
    | ok sql =>
      obtain ⟨hready, hspells⟩ := Operation.ready_and_says_of_text hsql
      obtain ⟨r, events, s', hprotocol, hrest⟩ := exists_protocol_of_text hready hspells
      exact ⟨r, _, s', hprotocol, (noted_lift rfl s).bind_ok hrest⟩
  · intro id hid hnull c'
    rw [op.run_eq, Run.bind_apply, Operation.text_of_missingId hid hnull, Run.lift_apply]

namespace Signed

def draft : Row := .ofList [("title", .string "Hello")]

def signed : Row := .ofList [("title", .string "Hello"), ("author", .string "guest")]

/-- Signs what is written. The hook agrees to everything. -/
def config : Config Unit where
  reducer := some fun input identity => input.insert "author" (.string identity.name)
  hook := some fun _ _ _ => pure ()

/-- Numbers every row that is written 7, and answers every question with the signed row. -/
def executor : Executor Unit :=
  .ofAnswers .sqlite (fun _ => .ok [signed]) fun _ => .ok ⟨1, some 7⟩

theorem watched_create :
    (Operation.create "post" draft).run executor.watched (config.watched executor) .guest ((), []) =
      (.ok (.row (some signed)), ((),
        [.write ((insertOf "post" signed).render .sqlite), .hook (.int 7) draft,
          .read ((readBackOf "post" (.int 7)).render .sqlite)])) := rfl

end Signed

/-- The signed row is written, the hook sees the draft, and a deletion without an id stops. -/
theorem run_follows_protocol_signed :
    Protocol Signed.executor Signed.config .guest (.create "post" Signed.draft) ()
        (.ok (.row (some Signed.signed)))
        [.write ((insertOf "post" Signed.signed).render .sqlite), .hook (.int 7) Signed.draft,
          .read ((readBackOf "post" (.int 7)).render .sqlite)] () ∧
      (Operation.delete "post" .null).run Signed.executor Signed.config .guest () =
        (.error (.missingId "post"), ()) := by
  constructor
  · obtain ⟨r, events, s', hprotocol, -, hwatched⟩ :=
      (run_follows_protocol Signed.executor Signed.config .guest (.create "post" Signed.draft) ()).1
    have hrun := (hwatched []).symm.trans Signed.watched_create
    cases hrun
    exact hprotocol
  · exact (run_follows_protocol Signed.executor Signed.config .guest (.delete "post" .null) ()).2
      .null rfl rfl Signed.config

end Mutation
end SelectionSql
