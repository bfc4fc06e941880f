import SelectionSql.Proofs.Resolution.Blog
import SelectionSql.Proofs.Resolution.Progress

/-!
# One sub-resolution after the other

`Resolution.resolve` takes the sub-resolutions of a level one after the other, each to its end. That
is one course among those that may be taken, whatever may be under way at once.

* `Resolution.resolve_eq`: a resolution, branch by branch.
* `Course.inside`: what goes on in the only sub-resolution under way goes on in the level.
* `Resolution.exists_course`: a resolution is a course to its outcome.
* `Resolution.transcribes_resolve`: recording the exchanges changes nothing else.
* `Resolution.yields_of_resolve`: what a resolution that succeeds has exchanged.
-/
set_option autoImplicit false

namespace SelectionSql
namespace Resolution
open Selection (Node Related Classified)
variable {σ : Type}

theorem fetch_apply (x : Executor σ) (r : Request) (selected : Classified r.node) (s : σ) :
    fetch x (levelOf r selected).statement s =
      ((x.fetchAll (sqlOf x.dialect r selected) s).1.mapError .storage,
        (x.fetchAll (sqlOf x.dialect r selected) s).2) := rfl

def delivered (x : Executor σ) (schema : Schema) (options : Options) {parent : Node}
    (t : Task parent) : Run σ ((String × String) × ResultValue) := do
  return ((t.field, t.key), ← resolve x schema options t.request)

theorem resolve_eq (x : Executor σ) (schema : Schema) (options : Options) (r : Request) (s : σ) :
    resolve x schema options r s =
      match classified schema options r with
      | .error e => (.error e, s)
      | .ok selected =>
        match x.fetchAll (sqlOf x.dialect r selected) s with
        | (.error e, s') => (.error (.storage e), s')
        | (.ok rows, s') =>
          if isMissing r.cardinality (parentsOf r.cardinality rows) then (.ok .null, s')
          else match tasksOf options r selected.relations (parentsOf r.cardinality rows) with
            | .error e => (.error e, s')
            | .ok tasks =>
              match tasks.mapM (delivered x schema options) s' with
              | (.error e, s'') => (.error e, s'')
              | (.ok results, s'') =>
                (.ok (resultOf r.cardinality ((parentsOf r.cardinality rows).map
                  (finish r.node selected (levelOf r selected).statement.hiddenId results))),
                  s'') := by
  rw [resolve, Run.bind_apply, Run.lift_apply]
  cases classified schema options r with
  | error e => rfl
  | ok selected =>
    dsimp only
    rw [Run.bind_apply, fetch_apply]
    cases x.fetchAll (sqlOf x.dialect r selected) s with
    | mk answer s' =>
      cases answer with
      | error e => rfl
      | ok rows =>
        dsimp only [Except.mapError]
        cases isMissing r.cardinality (parentsOf r.cardinality rows) with
        | true => rfl
        | false =>
          rw [if_neg Bool.false_ne_true, if_neg Bool.false_ne_true, Run.bind_apply, Run.lift_apply]
          cases tasksOf options r selected.relations (parentsOf r.cardinality rows) with
          | error e => rfl
          | ok tasks =>
            dsimp only
            rw [Run.bind_apply]
            have hdelivered : (tasks.mapM fun t => do
                return ((t.field, t.key), ← resolve x schema options t.request)) =
                  tasks.mapM (delivered x schema options) := rfl
            rw [hdelivered]
            cases tasks.mapM (delivered x schema options) s' with
            | mk results s'' => cases results <;> rfl

/-- A level whose rows and tasks are known goes on with its tasks. -/
theorem resolve_of_tasks {x : Executor σ} {schema : Schema} {options : Options} {r : Request}
    {selected : Classified r.node} {rows : List Row} {tasks : List (Task r.node)} {s s' : σ}
    (hclassified : classified schema options r = .ok selected)
    (hrows : x.fetchAll (sqlOf x.dialect r selected) s = (.ok rows, s'))
    (hpresent : isMissing r.cardinality (parentsOf r.cardinality rows) = false)
    (htasks : tasksOf options r selected.relations (parentsOf r.cardinality rows) = .ok tasks) :
    resolve x schema options r s =
      match tasks.mapM (delivered x schema options) s' with
      | (.error e, s'') => (.error e, s'')
      | (.ok results, s'') =>
        (.ok (resultOf r.cardinality ((parentsOf r.cardinality rows).map
          (finish r.node selected (levelOf r selected).statement.hiddenId results))), s'') := by
  rw [resolve_eq, hclassified]
  dsimp only
  rw [hrows]
  dsimp only
  rw [hpresent, if_neg Bool.false_ne_true, htasks]

/-! ## One after the other -/

variable {x : Executor σ} {schema : Schema} {options : Options}

/-- What goes on in the only sub-resolution under way goes on in the level. -/
theorem Course.inside {r : Request} {selected : Classified r.node} {rows : List ResultObject}
    {line : List ((String × String) × Request)} {done : Results} {k : String × String}
    {s s' : σ} {j j' : Job} {log : List Exchange} (h : Course x schema options s j log s' j') :
    Course x schema options s (.spread r selected rows line [(k, j)] done) log
      s' (.spread r selected rows line [(k, j')] done) := by
  induction h with
  | refl => exact .refl
  | @step s₁ _ _ j₁ _ _ _ _ hstep _ ih =>
    have hflight : (Job.spread r selected rows line [(k, j₁)] done).inFlight = j₁.inFlight := by
      rw [Job.inFlight, inFlightOf, inFlightOf, Nat.add_zero]
    refine .step ?_ ih
    rw [hflight]
    exact .advance [] hstep

/-- A level of which nothing is under way, as far as its sub-resolutions have come. -/
def spreadTo (r : Request) (selected : Classified r.node) (rows : List ResultObject)
    (line : List ((String × String) × Request)) : Except ResolveError Results → Job
  | .error e => .finished (.error e)
  | .ok done => .spread r selected rows line [] done

/-- A sub-resolution is taken up, goes its course, and delivers or ends the level. -/
theorem exists_course_of_next {r : Request} (selected : Classified r.node)
    (rows : List ResultObject) (line : List ((String × String) × Request)) (done : Results)
    (t : Task r.node) {s s' : σ} {log : List Exchange} {o : Except ResolveError ResultValue}
    (h : Course x schema options s (.waiting t.request) log s' (.finished o)) :
    Course x schema options s (.spread r selected rows (t.keyed :: line) [] done) log s'
      (spreadTo r selected rows line (o.map fun v => done ++ [(t.index, v)])) := by
  have hstart : Course x schema options s (.spread r selected rows (t.keyed :: line) [] done) []
      s (.spread r selected rows line [(t.index, .waiting t.request)] done) :=
    .single (.start options.width_pos)
  have hcourse := hstart.trans h.inside
  cases o with
  | error e =>
    have hend := hcourse.trans (.single (.fail []))
    rwa [List.append_nil] at hend
  | ok v =>
    have hend := hcourse.trans (.single (.deliver []))
    rwa [List.append_nil] at hend

/-- Tasks resolved one after the other are a course of their level. -/
theorem exists_course_of_tasks {r : Request} (selected : Classified r.node)
    (rows : List ResultObject) (tasks : List (Task r.node))
    (h : ∀ t ∈ tasks, ∀ s, ∃ log, Course x schema options s (.waiting t.request) log
      (resolve x schema options t.request s).2
      (.finished (resolve x schema options t.request s).1)) (done : Results) (s : σ) :
    ∃ log, Course x schema options s (.spread r selected rows (tasks.map Task.keyed) [] done) log
      (tasks.mapM (delivered x schema options) s).2
      (spreadTo r selected rows []
        ((tasks.mapM (delivered x schema options) s).1.map fun results => done ++ results)) := by
  induction tasks generalizing done s with
  | nil =>
    refine ⟨[], ?_⟩
    rw [List.mapM_nil, Run.pure_apply, Except.map, List.append_nil]
    exact .refl
  | cons t rest ih =>
    obtain ⟨log, hcourse⟩ := h t List.mem_cons_self s
    rw [List.mapM_cons, Run.bind_apply]
    have hdelivered : delivered x schema options t s =
        match resolve x schema options t.request s with
        | (.ok v, s') => (.ok (t.index, v), s')
        | (.error e, s') => (.error e, s') := by
      rw [delivered, Run.bind_apply]
      rcases resolve x schema options t.request s with ⟨v | e, s'⟩ <;> rfl
    rw [hdelivered]
    cases hr : resolve x schema options t.request s with
    | mk o s' =>
      rw [hr] at hcourse
      have hnext :=
        exists_course_of_next selected rows (rest.map Task.keyed) done t hcourse
      cases o with
      | error e => exact ⟨log, hnext⟩
      | ok v =>
        obtain ⟨log', hrest⟩ := ih (fun t' ht' => h t' (List.mem_cons_of_mem t ht'))
          (done ++ [(t.index, v)]) s'
        refine ⟨log ++ log', ?_⟩
        have hcourse' := hnext.trans hrest
        dsimp only
        rw [Run.bind_apply]
        cases hm : rest.mapM (delivered x schema options) s' with
        | mk o' s'' =>
          rw [hm] at hcourse'
          cases o' with
          | error e => exact hcourse'
          | ok results =>
            rw [Except.map, List.append_assoc] at hcourse'
            exact hcourse'

/-- A resolution is a course to its outcome. -/
theorem exists_course (x : Executor σ) (schema : Schema) (options : Options) (r : Request)
    (s : σ) :
    ∃ log, Course x schema options s (.waiting r) log (resolve x schema options r s).2
      (.finished (resolve x schema options r s).1) := by
  -- The requests below are for nodes below.
  induction hsize : sizeOf r.node using Nat.strong_induction_on generalizing r s with
  | _ n ih =>
    rw [resolve_eq]
    cases hc : classified schema options r with
    | error e => exact ⟨[], .single (.refuse hc)⟩
    | ok selected =>
      dsimp only
      cases hf : x.fetchAll (sqlOf x.dialect r selected) s with
      | mk answer s' =>
        have hask : Course x schema options s (.waiting r) [] s (.asking r) :=
          .single (.ask hc options.width_pos)
        have hanswer := hask.trans (.single (.answer hc hf))
        rw [List.nil_append] at hanswer
        cases answer with
        | error e => exact ⟨_, hanswer⟩
        | ok rows =>
          dsimp only
          rw [afterAnswer] at hanswer
          cases hmissing : isMissing r.cardinality (parentsOf r.cardinality rows) with
          | true =>
            rw [hmissing] at hanswer
            exact ⟨_, hanswer⟩
          | false =>
            rw [if_neg Bool.false_ne_true]
            rw [hmissing, if_neg Bool.false_ne_true] at hanswer
            cases ht : tasksOf options r selected.relations (parentsOf r.cardinality rows) with
            | error e =>
              rw [ht] at hanswer
              exact ⟨_, hanswer⟩
            | ok tasks =>
              rw [ht] at hanswer
              obtain ⟨log, htasks⟩ := exists_course_of_tasks selected
                (parentsOf r.cardinality rows) tasks (fun t _ s =>
                  ih _ (hsize ▸ Node.sizeOf_lt_of_mem_children t.node_mem) t.request s rfl) [] s'
              have hcourse := hanswer.trans htasks
              dsimp only
              cases hm : tasks.mapM (delivered x schema options) s' with
              | mk o s'' =>
                rw [hm] at hcourse
                cases o with
                | error e => exact ⟨_, hcourse⟩
                | ok results => exact ⟨_, hcourse.trans (.single .finish)⟩

/-! ## The exchanges of a resolution -/

theorem Step.transcript {permits : Nat} {s s' : σ × List Exchange} {j j' : Job}
    {log : List Exchange} (h : Step x.transcribed schema options permits s j log s' j') :
    s'.2 = s.2 ++ log := by
  induction h with
  | answer _ hanswer =>
    cases hanswer
    rfl
  | advance _ _ ih => exact ih
  | _ => exact (List.append_nil _).symm

/-- The executor that records its exchanges records those of the course. -/
theorem Course.transcript {s s' : σ × List Exchange} {j j' : Job} {log : List Exchange}
    (h : Course x.transcribed schema options s j log s' j') : s'.2 = s.2 ++ log := by
  induction h with
  | refl => exact (List.append_nil _).symm
  | step hstep _ ih => rw [ih, hstep.transcript, List.append_assoc]

/-- Recording changes nothing else. -/
def Transcribes {α : Type} (m : Run σ α) (m' : Run (σ × List Exchange) α) : Prop :=
  ∀ s log, ∃ log', m' (s, log) = ((m s).1, ((m s).2, log'))

namespace Transcribes
variable {α β : Type}

theorem pure (a : α) : Transcribes (Pure.pure a : Run σ α) (Pure.pure a) :=
  fun _ log => ⟨log, rfl⟩

theorem lift (e : Except ResolveError α) : Transcribes (liftM e : Run σ α) (liftM e) :=
  fun _ log => ⟨log, rfl⟩

theorem bind {m : Run σ α} {m' : Run (σ × List Exchange) α} {f : α → Run σ β}
    {f' : α → Run (σ × List Exchange) β} (hm : Transcribes m m')
    (hf : ∀ a, Transcribes (f a) (f' a)) : Transcribes (m >>= f) (m' >>= f') := by
  intro s log
  obtain ⟨log', h⟩ := hm s log
  rw [Run.bind_apply, Run.bind_apply, h]
  cases m s with
  | mk o s' =>
    cases o with
    | ok a => exact hf a s' log'
    | error e => exact ⟨log', rfl⟩

theorem mapM {f : α → Run σ β} {f' : α → Run (σ × List Exchange) β} {l : List α}
    (hf : ∀ a ∈ l, Transcribes (f a) (f' a)) : Transcribes (l.mapM f) (l.mapM f') := by
  induction l with
  | nil => exact .pure []
  | cons a rest ih =>
    rw [List.mapM_cons, List.mapM_cons]
    exact .bind (hf a List.mem_cons_self) fun b =>
      .bind (ih fun a' h => hf a' (List.mem_cons_of_mem a h)) fun bs => .pure (b :: bs)

theorem fetch (x : Executor σ) (s : Statement) :
    Transcribes (Resolution.fetch x s) (Resolution.fetch x.transcribed s) :=
  fun _ _ => ⟨_, rfl⟩

end Transcribes

theorem transcribes_resolve (x : Executor σ) (schema : Schema) (options : Options) (r : Request) :
    Transcribes (resolve x schema options r) (resolve x.transcribed schema options r) := by
  induction hsize : sizeOf r.node using Nat.strong_induction_on generalizing r with
  | _ n ih =>
    rw [resolve, resolve]
    refine .bind (.lift _) fun selected => .bind (.fetch x _) fun rows => ?_
    dsimp only
    cases isMissing r.cardinality (parentsOf r.cardinality rows) with
    | true => exact .pure _
    | false =>
      refine .bind (.lift _) fun tasks => .bind (.mapM fun t _ => ?_) fun results => .pure _
      exact .bind (ih _ (hsize ▸ Node.sizeOf_lt_of_mem_children t.node_mem) t.request rfl)
        fun v => .pure _

/-- A resolution is a course of the executor that records its exchanges. -/
theorem course_of_resolve {r : Request} {s s' : σ} {o : Except ResolveError ResultValue}
    (h : resolve x schema options r s = (o, s')) :
    ∃ log, resolve x.transcribed schema options r (s, []) = (o, (s', log)) ∧
      Course x.transcribed schema options (s, []) (.waiting r) log (s', log) (.finished o) := by
  obtain ⟨log, htranscribed⟩ := transcribes_resolve x schema options r s []
  rw [h] at htranscribed
  obtain ⟨log', hcourse⟩ := exists_course x.transcribed schema options r (s, [])
  rw [htranscribed] at hcourse
  have hlog : log = [] ++ log' := hcourse.transcript
  subst hlog
  exact ⟨_, htranscribed, hcourse⟩

/-- What a resolution that succeeds has exchanged is what its request yields the value for. -/
theorem yields_of_resolve {r : Request} {s s' : σ} {v : ResultValue}
    (h : resolve x schema options r s = (.ok v, s')) :
    ∃ log, resolve x.transcribed schema options r (s, []) = (.ok v, (s', log)) ∧
      Yields schema options x.dialect r log v := by
  obtain ⟨log, htranscribed, hcourse⟩ := course_of_resolve h
  exact ⟨log, htranscribed, hcourse.yields⟩

/-! ## A post and its comment -/

/-- A post with the comment that points at it. -/
def Blog.answer : ResultValue :=
  .list [.object [("id", .scalar (.int 1)),
    ("comments", .list [.object [("id", .scalar (.int 1)), ("body", .scalar (.string "text"))]]),
    ("body", .scalar (.string "text"))]]

theorem Blog.resolve_request :
    resolve (executor [row 1]) Blog.schema .default (request .empty) () = (.ok answer, ()) := by
  have htasks : tasksOf .default (request .empty) (selected .empty).relations
      (parentsOf .many [row 1]) =
        .ok [taskOf (request .empty) (related .empty) .empty "i:1" (.int 1)] := rfl
  rw [resolve_of_tasks (classified_request .default .empty) rfl rfl htasks, List.mapM_cons,
    Run.bind_apply, delivered, Run.bind_apply, resolve_eq]
  rfl

end Resolution
end SelectionSql
