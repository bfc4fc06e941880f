import SelectionSql.Proofs.Mutation.Protocol
import SelectionSql.Proofs.Sql.Meaning

/-!
# The id of the row

A mutation is given the id of its row, or finds it in the row that it writes, or is told it by the
database. Either way it may be missing; and the row may be left with another one.

* `Operation.Runs`: the run of a mutation, watched; `Operation.exists_runs`: there is one, and
  `Operation.Runs.protocol`: it takes one of the courses of the protocol.
* `Mutation.MissesId`: how a run comes to report a missing id.
* `Mutation.missingId_untouched_iff`: which of these runs have executed no statement.
* `Sql.Act.carriedId?`: the id of the row once the write is done, by what the write says.
* `Operation.KeepsId`: the write gives the row no other id than the one it is shown under.
* `Mutation.shown_id_carried_iff`: the hook and the question for the row are about one id, and when
  it is the one that the row carries.
-/
set_option autoImplicit false

namespace SelectionSql
open Sql (Says literalValue isFiniteValue)

namespace Mutation
variable {σ : Type}

/-! ## Watched runs -/

section Unique
variable {α : Type} {m : Run σ α} {w : Run (σ × List Event) α} {s s' s'' : σ}
  {r r' : Except MutationError α} {events events' : List Event}

theorem Noted.unique (h : Noted m w s r events s') (h' : Noted m w s r' events' s'') :
    r = r' ∧ events = events' ∧ s' = s'' := by
  have hwatched : (r, s', events) = (r', s'', events') := (h.2 []).symm.trans (h'.2 [])
  cases hwatched
  exact ⟨rfl, rfl, rfl⟩

end Unique

namespace Operation
variable {x : Executor σ} {c : Config σ} {identity : Identity} {op : Operation} {s s' : σ}
  {r : Except MutationError Answer} {events : List Event} {e : MutationError} {sql : String}

/-- What the run of a mutation comes to, what it notes down when it is watched, and the state that
is left. -/
def Runs (x : Executor σ) (c : Config σ) (identity : Identity) (op : Operation) (s : σ)
    (r : Except MutationError Answer) (events : List Event) (s' : σ) : Prop :=
  Noted (op.run x c identity) (op.run x.watched (c.watched x) identity) s r events s'

theorem runs_of_text_error (h : op.text x.dialect c identity = .error e) (s : σ) :
    op.Runs x c identity s (.error e) [] s := by
  have hwatched := (op.text_watched x c identity).trans h
  rw [Runs, run_eq, run_eq, h, hwatched]
  exact (noted_lift rfl s).bind_error

theorem runs_of_text_ok (h : op.text x.dialect c identity = .ok sql)
    (hrest : Noted
      (do
        let outcome ← write x sql
        let id ← op.rowId c identity outcome
        c.after x id op.shown
        op.answer x id)
      (do
        let outcome ← write x.watched sql
        let id ← op.rowId c identity outcome
        (c.watched x).after x.watched id op.shown
        op.answer x.watched id) s r events s') :
    op.Runs x c identity s r events s' := by
  have hwatched := (op.text_watched x c identity).trans h
  rw [Runs, run_eq, run_eq, h, hwatched]
  simp only [op.rowId_watched x c identity]
  exact (noted_lift rfl s).bind_ok hrest

/-- There is a run, and it takes one of the courses. -/
theorem exists_runs (x : Executor σ) (c : Config σ) (identity : Identity) (op : Operation) (s : σ) :
    ∃ r events s', op.Runs x c identity s r events s' ∧ Protocol x c identity op s r events s' := by
  cases htext : op.text x.dialect c identity with
  | error e =>
    refine ⟨.error e, [], s, runs_of_text_error htext s, ?_⟩
    rcases missing_of_text htext with ⟨rfl, id, hid, hnull⟩ | ⟨rfl, hid, input, hinput, hempty⟩
    · exact .missingId hid hnull
    · exact .emptyInput hid hinput hempty
  | ok sql =>
    obtain ⟨hready, hspells⟩ := ready_and_says_of_text htext
    obtain ⟨r, events, s', hprotocol, hrest⟩ := exists_protocol_of_text hready hspells
    exact ⟨r, events, s', runs_of_text_ok htext hrest, hprotocol⟩

theorem Runs.protocol (h : op.Runs x c identity s r events s') :
    Protocol x c identity op s r events s' := by
  obtain ⟨r', events', s'', hruns, hprotocol⟩ := exists_runs x c identity op s
  obtain ⟨rfl, rfl, rfl⟩ := h.unique hruns
  exact hprotocol

/-- What is noted down does not depend on what stood there before. -/
theorem runs_of_watched
    (h : op.run x.watched (c.watched x) identity (s, []) = (r, (s', events))) :
    op.Runs x c identity s r events s' := by
  obtain ⟨r', events', s'', hruns, -⟩ := exists_runs x c identity op s
  have hwatched : (r', s'', events') = (r, s', events) := (hruns.2 []).symm.trans h
  cases hwatched
  exact hruns

end Operation

/-! ## A missing id -/

/-- The statement that an event executes. -/
def Event.sql? : Event → Option String
  | .write sql => some sql
  | .hook _ _ => none
  | .read sql => some sql

def statements (events : List Event) : List String := events.filterMap Event.sql?

section Missing
variable (x : Executor σ) (c : Config σ) (identity : Identity) (op : Operation)

/-- How a run comes to report the missing id of a table, its events, and the state that is left. -/
inductive MissesId (s : σ) : String → List Event → σ → Prop
  /-- None is given. -/
  | given {id : Scalar} (hid : op.givenId? = some id) (hnull : id.isNull = true) :
      MissesId s op.table [] s
  /-- A row is added without one, and the database does not tell which it gave the row. -/
  | told {input : Row} {sql : String} {outcome : WriteOutcome} {s' : σ}
      (hcreate : op = .create op.table input)
      (hspells : Says x.dialect sql (op.act c identity))
      (hwrites : x.execute sql s = (.ok outcome, s'))
      (hown : ∀ own, (c.reduce input identity).find? idColumn = some own → own.isNull = true)
      (htold : outcome.lastInsertId = none) :
      MissesId s op.table [.write sql] s'
  /-- The row is written, and the hook reports one that it misses itself. -/
  | hook {table sql : String} {id : Scalar} {s₁ s' : σ} {f : Executor σ → Scalar → Row → Run σ Unit}
      (hwritten : Written x c identity op s sql id s₁) (hhook : c.hook = some f)
      (hfails : f x id op.shown s₁ = (.error (.missingId table), s')) :
      MissesId s table [.write sql, .hook id op.shown] s'

variable {x c identity op} {s s' : σ} {table : String} {events : List Event}

/-- Only an addition can be without the id of its row once the write is done. -/
theorem Operation.create_of_unknownId {outcome : WriteOutcome}
    (h : ∀ id, ¬ op.RowId c identity outcome id) :
    ∃ input, op = .create op.table input ∧
      (∀ own, (c.reduce input identity).find? idColumn = some own → own.isNull = true) ∧
      outcome.lastInsertId = none := by
  cases op with
  | create table input =>
    have hown : ∀ own, (c.reduce input identity).find? idColumn = some own → own.isNull = true := by
      intro own hfind
      by_contra hnull
      exact h own (.inl ⟨hfind, eq_false_of_ne_true hnull⟩)
    refine ⟨input, rfl, hown, ?_⟩
    cases htold : outcome.lastInsertId with
    | none => rfl
    | some n => exact absurd (.inr ⟨hown, n, htold, rfl⟩) (h (.int n))
  | update table id input => exact absurd rfl (h id)
  | delete table id => exact absurd rfl (h id)

theorem Operation.Runs.missesId
    (h : op.Runs x c identity s (.error (.missingId table)) events s') :
    MissesId x c identity op s table events s' := by
  cases h.protocol with
  | missingId hid hnull => exact .given hid hnull
  | unknownId hready hspells hwrites hunknown =>
    obtain ⟨input, hcreate, hown, htold⟩ := Operation.create_of_unknownId hunknown
    exact .told hcreate hspells hwrites hown htold
  | hookFailed hwritten hhook hfails => exact .hook hwritten hhook hfails

/-- A run that misses an id which it was not given has written before. -/
theorem MissesId.statements_eq_nil_iff (h : MissesId x c identity op s table events s') :
    statements events = [] ↔ ∃ id, op.givenId? = some id ∧ id.isNull = true := by
  cases h with
  | given hid hnull => exact ⟨fun _ => ⟨_, hid, hnull⟩, fun _ => rfl⟩
  | told hcreate hspells hwrites hown htold =>
    refine ⟨fun hnil => (nomatch hnil), ?_⟩
    rintro ⟨id, hid, -⟩
    rw [hcreate] at hid
    cases hid
  | hook hwritten hhook hfails =>
    refine ⟨fun hnil => (nomatch hnil), ?_⟩
    rintro ⟨id, hid, hnull⟩
    rw [hwritten.ready.id id hid] at hnull
    cases hnull

/-- Without the id that it needs, a mutation executes nothing and reports that. If a missing id is
reported in any other case, the write has been executed: a row has been added whose id nobody tells,
or the hook misses an id of its own. -/
theorem missingId_untouched_iff (x : Executor σ) (c : Config σ) (identity : Identity)
    (op : Operation) (s : σ) :
    (∀ id, op.givenId? = some id → id.isNull = true →
      op.Runs x c identity s (.error (.missingId op.table)) [] s) ∧
    ∀ table events s', op.Runs x c identity s (.error (.missingId table)) events s' →
      MissesId x c identity op s table events s' ∧
        (statements events = [] ↔ ∃ id, op.givenId? = some id ∧ id.isNull = true) := by
  constructor
  · intro id hid hnull
    exact Operation.runs_of_text_error (Operation.text_of_missingId hid hnull) s
  · intro table events s' h
    exact ⟨h.missesId, h.missesId.statements_eq_nil_iff⟩

end Missing

namespace Untold

/-- Takes every row and tells no id. -/
def executor : Executor Unit := .ofAnswers .sqlite (fun _ => .ok []) fun _ => .ok ⟨1, none⟩

theorem runs_create :
    (Operation.create "post" Signed.draft).Runs executor Config.plain .guest ()
      (.error (.missingId "post")) [.write ((insertOf "post" Signed.draft).render .sqlite)] () :=
  Operation.runs_of_watched rfl

end Untold

theorem missingId_untouched_iff_draft :
    (Operation.update "post" .null Signed.draft).Runs Untold.executor .plain .guest ()
        (.error (.missingId "post")) [] () ∧
      MissesId Untold.executor .plain .guest (.create "post" Signed.draft) () "post"
        [.write ((insertOf "post" Signed.draft).render .sqlite)] () := by
  constructor
  · exact (missingId_untouched_iff Untold.executor .plain .guest
      (.update "post" .null Signed.draft) ()).1 .null rfl rfl
  · exact ((missingId_untouched_iff Untold.executor .plain .guest
      (.create "post" Signed.draft) ()).2 _ _ _ Untold.runs_create).1

/-- The draft is in the table by the time its id is reported missing. -/
theorem missingId_after_insert :
    (Operation.create "post" Signed.draft).Runs Untold.executor Config.plain .guest ()
        (.error (.missingId "post")) [.write ((insertOf "post" Signed.draft).render .sqlite)] () ∧
      statements [.write ((insertOf "post" Signed.draft).render .sqlite)] =
        ["INSERT INTO \"post\" (\"title\") VALUES ('Hello')"] := by
  refine ⟨Untold.runs_create, ?_⟩
  decide

end Mutation

/-! ## The id that a row carries -/

namespace Sql
open Mutation

theorem isNull_literalValue_of_not_finite {v : Scalar} (h : isFiniteValue v = false) :
    (literalValue v).isNull = true := by
  cases v with
  | float f =>
    have hvalue : literalValue (.float f) = .null := if_neg (by simpa [isFiniteValue] using h)
    rw [hvalue]
    rfl
  | _ => cases h

namespace Act

/-- The id that values in columns give to a row. Null is none, and so is what is written as null. -/
def givenId? (assignments : Entries Scalar) : Option Scalar :=
  ((Entries.find? assignments idColumn).map literalValue).filter fun id => !id.isNull

/-- The id by which rows are picked. -/
def pickedId? (conditions : List Predicate) : Option Scalar :=
  conditions.findSome? fun p =>
    match p.test with
    | .equals id => if p.column = idColumn then some id else none
    | .isNull => none

/-- The id of the row once the write is done: the one that the write gives to it, or else the one
that the database gave to a new row, and by which another was picked. -/
def carriedId? (outcome : WriteOutcome) : Act → Option Scalar
  | .insert _ columns values =>
    (givenId? (columns.zip values)).or (outcome.lastInsertId.map .int)
  | .update _ assignments conditions => (givenId? assignments).or (pickedId? conditions)
  | .delete _ conditions => pickedId? conditions
  | .select _ _ _ => none

variable {assignments : Entries Scalar} {own : Scalar}

theorem givenId?_eq_none
    (h : ∀ own, Entries.find? assignments idColumn = some own → (literalValue own).isNull = true) :
    givenId? assignments = none := by
  rw [givenId?]
  cases hfind : Entries.find? assignments idColumn with
  | none => rfl
  | some own => simp [h own hfind]

theorem givenId?_eq_some (hfind : Entries.find? assignments idColumn = some own)
    (hnull : (literalValue own).isNull = false) : givenId? assignments = some own := by
  have hfinite : isFiniteValue own = true := by
    by_contra hinfinite
    rw [isNull_literalValue_of_not_finite (eq_false_of_ne_true hinfinite)] at hnull
    cases hnull
  rw [literalValue_of_isFiniteValue hfinite] at hnull
  simp [givenId?, hfind, literalValue_of_isFiniteValue hfinite, hnull]

end Act
end Sql

namespace Mutation
variable {σ : Type}

namespace Operation
variable {c : Config σ} {identity : Identity} {op : Operation} {outcome : WriteOutcome}
  {id : Scalar}

/-- The write gives the row no other id than the one it is shown under: an update sets it to no
other value, and that of a new row is not written as null. -/
def KeepsId (c : Config σ) (identity : Identity) : Operation → Prop
  | .create _ input =>
    ∀ own, (c.reduce input identity).find? idColumn = some own → isFiniteValue own = true
  | .update _ id input =>
    ∀ own, (c.reduce input identity).find? idColumn = some own →
      own = id ∨ (literalValue own).isNull = true
  | .delete _ _ => True

theorem zip_keys_values (values : Row) : values.keys.zip values.values = values.entries :=
  (List.zip_of_prod rfl rfl).symm

theorem carriedId?_create {table : String} {input : Row}
    (h : RowId c identity outcome id (.create table input)) :
    ((Operation.create table input).act c identity).carriedId? outcome = some id ↔
      KeepsId c identity (.create table input) := by
  rw [act, Sql.Act.carriedId?, zip_keys_values, KeepsId]
  rcases h with ⟨hfind, hnull⟩ | ⟨hown, n, htold, rfl⟩
  · have honly : ∀ own, (c.reduce input identity).find? idColumn = some own → own = id :=
      fun own h => Option.some.inj (h.symm.trans hfind)
    cases hfinite : isFiniteValue id with
    | true =>
      have hvalue := Sql.literalValue_of_isFiniteValue hfinite
      have hgiven := Sql.Act.givenId?_eq_some hfind (by rwa [hvalue])
      constructor
      · rintro - own hown
        rwa [honly own hown]
      · intro _
        rw [hgiven, Option.some_or]
    | false =>
      -- What is written is null, so the row gets a number from the database.
      have hgiven : Sql.Act.givenId? (c.reduce input identity).entries = none := by
        refine Sql.Act.givenId?_eq_none fun own hown => ?_
        rw [honly own hown]
        exact Sql.isNull_literalValue_of_not_finite hfinite
      constructor
      · intro hcarried
        rw [hgiven, Option.none_or] at hcarried
        obtain ⟨n, -, rfl⟩ := Option.map_eq_some_iff.1 hcarried
        cases hfinite
      · intro hkeeps
        rw [hkeeps id hfind] at hfinite
        cases hfinite
  · have hvalue : ∀ own, (c.reduce input identity).find? idColumn = some own → own = .null := by
      intro own hfind
      cases own with
      | null => rfl
      | _ => cases hown _ hfind
    have hgiven : Sql.Act.givenId? (c.reduce input identity).entries = none := by
      refine Sql.Act.givenId?_eq_none fun own hfind => ?_
      rw [hvalue own hfind]
      rfl
    constructor
    · rintro - own hfind
      rw [hvalue own hfind]
      rfl
    · intro _
      rw [hgiven, Option.none_or, htold, Option.map_some]

theorem carriedId?_update {table : String} {given : Scalar} {input : Row} :
    ((Operation.update table given input).act c identity).carriedId? outcome = some given ↔
      KeepsId c identity (.update table given input) := by
  have hpicked : Sql.Act.pickedId? [⟨none, idColumn, .equals given⟩] = some given := rfl
  rw [act, Sql.Act.carriedId?, hpicked, KeepsId]
  cases hfind : (c.reduce input identity).find? idColumn with
  | none =>
    have hgiven : Sql.Act.givenId? (c.reduce input identity).entries = none := by
      refine Sql.Act.givenId?_eq_none fun own hown => ?_
      cases hfind.symm.trans hown
    rw [hgiven, Option.none_or]
    constructor
    · rintro - own hown
      cases hown
    · exact fun _ => rfl
  | some own =>
    simp only [Option.some.injEq, forall_eq']
    cases hnull : (literalValue own).isNull with
    | true =>
      have hgiven : Sql.Act.givenId? (c.reduce input identity).entries = none := by
        refine Sql.Act.givenId?_eq_none fun own' hown => ?_
        rwa [Option.some.inj (hown.symm.trans hfind)]
      rw [hgiven, Option.none_or]
      exact ⟨fun _ => .inr rfl, fun _ => rfl⟩
    | false =>
      rw [Sql.Act.givenId?_eq_some hfind hnull, Option.some_or, Option.some.injEq]
      exact ⟨.inl, fun h => h.resolve_right Bool.false_ne_true⟩

theorem carriedId?_eq_some_iff (h : op.RowId c identity outcome id) :
    (op.act c identity).carriedId? outcome = some id ↔ op.KeepsId c identity := by
  cases op with
  | create table input => exact carriedId?_create h
  | update table given input =>
    cases h
    exact carriedId?_update
  | delete table given =>
    cases h
    exact ⟨fun _ => trivial, fun _ => rfl⟩

end Operation

section Shown
variable {x : Executor σ} {c : Config σ} {identity : Identity} {op : Operation} {s s' : σ}
  {r : Except MutationError Answer} {events : List Event}

/-- What is shown to the hook and what is asked afterwards is about one id. -/
structure About (x : Executor σ) (op : Operation) (id : Scalar) (events : List Event) : Prop where
  hook : ∀ shown input, .hook shown input ∈ events → shown = id ∧ input = op.shown
  read : ∀ query, .read query ∈ events → AsksFor x op id query

section About
variable {id : Scalar} {s₁ : σ}

theorem about_hook : About x op id [.hook id op.shown] := by
  refine ⟨fun shown input hmem => ?_, fun query hmem => ?_⟩
  · cases List.mem_singleton.1 hmem
    exact ⟨rfl, rfl⟩
  · cases List.mem_singleton.1 hmem

theorem Hooked.about (h : Hooked x c op id s₁ events s') : About x op id events := by
  cases h with
  | none _ => exact ⟨fun _ _ hmem => (nomatch hmem), fun _ hmem => (nomatch hmem)⟩
  | done _ _ => exact about_hook

theorem About.cons_write (h : About x op id events) (sql : String) :
    About x op id (.write sql :: events) := by
  refine ⟨fun shown input hmem => ?_, fun query hmem => ?_⟩
  · exact h.hook shown input (List.mem_of_ne_of_mem Event.noConfusion hmem)
  · exact h.read query (List.mem_of_ne_of_mem Event.noConfusion hmem)

theorem About.concat_read {query : String} (h : About x op id events)
    (hasks : AsksFor x op id query) : About x op id (events ++ [.read query]) := by
  refine ⟨fun shown input hmem => ?_, fun query' hmem => ?_⟩
  · rcases List.mem_append.1 hmem with hmem | hmem
    · exact h.hook shown input hmem
    · cases List.mem_singleton.1 hmem
  · rcases List.mem_append.1 hmem with hmem | hmem
    · exact h.read query' hmem
    · cases List.mem_singleton.1 hmem
      exact hasks

end About

/-- A run that notes anything down beside the write knows the id of its row. -/
theorem Protocol.exists_written (h : Protocol x c identity op s r events s') {event : Event}
    (hmem : event ∈ events) (hpast : ∀ sql, event ≠ .write sql) :
    ∃ sql id s₁, events.head? = some (.write sql) ∧ Written x c identity op s sql id s₁ ∧
      About x op id events := by
  cases h with
  | missingId _ _ => cases hmem
  | emptyInput _ _ _ => cases hmem
  | writeFailed _ _ _ => exact absurd (List.mem_singleton.1 hmem) (hpast _)
  | unknownId _ _ _ _ => exact absurd (List.mem_singleton.1 hmem) (hpast _)
  | hookFailed hwritten _ _ => exact ⟨_, _, _, rfl, hwritten, about_hook.cons_write _⟩
  | deleted hwritten hhooked _ => exact ⟨_, _, _, rfl, hwritten, hhooked.about.cons_write _⟩
  | readFailed hwritten hhooked _ hasks _ =>
    exact ⟨_, _, _, rfl, hwritten, (hhooked.about.concat_read hasks).cons_write _⟩
  | found hwritten hhooked _ hasks _ =>
    exact ⟨_, _, _, rfl, hwritten, (hhooked.about.concat_read hasks).cons_write _⟩

/-- A mutation that gets beyond its write shows the hook one id and reads the row back by it. It is
the id that the row carries after the write exactly if the write gives it no other: an update may
set another id, and is then about a row that is no longer there. -/
theorem shown_id_carried_iff (h : op.Runs x c identity s r events s') {event : Event}
    (hmem : event ∈ events) (hpast : ∀ sql, event ≠ .write sql) :
    ∃ sql id outcome s₁, events.head? = some (.write sql) ∧
      Says x.dialect sql (op.act c identity) ∧ x.execute sql s = (.ok outcome, s₁) ∧
      op.RowId c identity outcome id ∧ About x op id events ∧
      ((op.act c identity).carriedId? outcome = some id ↔ op.KeepsId c identity) := by
  obtain ⟨sql, id, s₁, hhead, hwritten, habout⟩ := h.protocol.exists_written hmem hpast
  obtain ⟨outcome, hwrites, hrow⟩ := hwritten.rowId
  exact ⟨sql, id, outcome, s₁, hhead, hwritten.spells, hwrites, hrow, habout,
    Operation.carriedId?_eq_some_iff hrow⟩

end Shown

namespace Signed

/-- A draft is signed with the id 7, shown to the hook, and read back. -/
def events : List Event :=
  [.write ((insertOf "post" signed).render .sqlite), .hook (.int 7) draft,
    .read ((readBackOf "post" (.int 7)).render .sqlite)]

theorem runs_create :
    (Operation.create "post" draft).Runs executor config .guest () (.ok (.row (some signed)))
      events () :=
  Operation.runs_of_watched watched_create

end Signed

theorem shown_id_carried_iff_signed :
    About Signed.executor (.create "post" Signed.draft) (.int 7) Signed.events ∧
      ∃ outcome, ((Operation.create "post" Signed.draft).act Signed.config .guest).carriedId?
        outcome = some (.int 7) := by
  have hshown : Event.hook (.int 7) Signed.draft ∈ Signed.events :=
    List.mem_cons_of_mem _ List.mem_cons_self
  obtain ⟨_, id, outcome, _, -, -, -, -, habout, hcarried⟩ :=
    shown_id_carried_iff Signed.runs_create hshown fun _ => Event.noConfusion
  obtain ⟨rfl, -⟩ := habout.hook (.int 7) Signed.draft hshown
  exact ⟨habout, outcome, hcarried.2 fun own hown => nomatch hown⟩

namespace Renumbered

def values : Row := .ofList [("id", .int 9), ("title", .string "Hello")]

/-- The hook agrees to everything. -/
def config : Config Unit := ⟨none, some fun _ _ _ => pure ()⟩

/-- Takes every write. There is a row with the id 9, and no other. -/
def executor : Executor Unit :=
  .ofAnswers .sqlite
    (fun sql => .ok (if sql = (readBackOf "post" (.int 9)).render .sqlite then [values] else []))
    fun _ => .ok ⟨1, none⟩

end Renumbered

/-- The row with the id 3 is given the id 9. The hook is shown 3, and what is read back by 3 is
nothing, while the row is there under 9. -/
theorem renumbered_row_not_found :
    (Operation.update "post" (.int 3) Renumbered.values).Runs Renumbered.executor
        Renumbered.config .guest () (.ok (.row none))
        [.write ((updateOf "post" (.int 3) Renumbered.values).render .sqlite),
          .hook (.int 3) Renumbered.values,
          .read ((readBackOf "post" (.int 3)).render .sqlite)] () ∧
      ((Operation.update "post" (.int 3) Renumbered.values).act Renumbered.config
        .guest).carriedId? ⟨1, none⟩ = some (.int 9) ∧
      Renumbered.executor.fetchAll ((readBackOf "post" (.int 9)).render .sqlite) () =
        (.ok [Renumbered.values], ()) := by
  refine ⟨Operation.runs_of_watched rfl, ?_, rfl⟩
  decide

end Mutation
end SelectionSql
