import SelectionSql.Proofs.Resolution.Yields

/-!
# Resolutions under way

Sub-resolutions of a level may be under way at once. Here a resolution is a tree of jobs that
advance one step at a time, in any order.

* `Resolution.Job`: a resolution at some point of its course.
* `Resolution.Step`: one step. Sub-resolutions are taken from the line in their order while there
  is room; a statement needs a permit, of which there are as many in the whole tree; results are
  delivered in the order in which they are ready; the first failure that is delivered ends a level.
* `Resolution.Course`: steps in a row, with what the executor was asked and what it answered.
-/
set_option autoImplicit false

namespace SelectionSql
namespace Resolution
open Selection (Node Related Classified)
variable {σ : Type}

/-- How many sub-resolutions of a level, and how many statements, may be under way at once: at
least one. -/
def Options.width (o : Options) : Nat := max o.maxConcurrency 1

inductive Job where
  | waiting (r : Request)
  /-- The statement of the level is with the executor. -/
  | asking (r : Request)
  /-- The rows have come. Sub-resolutions stand in line, are under way, or have delivered. -/
  | spread (r : Request) (selected : Classified r.node) (rows : List ResultObject)
      (line : List ((String × String) × Request)) (active : List ((String × String) × Job))
      (done : Results)
  | finished (outcome : Except ResolveError ResultValue)

mutual

/-- How many statements of a job are with the executor. -/
def Job.inFlight : Job → Nat
  | .waiting _ => 0
  | .asking _ => 1
  | .spread _ _ _ _ active _ => inFlightOf active
  | .finished _ => 0

def inFlightOf : List ((String × String) × Job) → Nat
  | [] => 0
  | (_, j) :: rest => j.inFlight + inFlightOf rest

end

def Task.keyed {parent : Node} (t : Task parent) : (String × String) × Request :=
  (t.index, t.request)

/-- What becomes of a level when its statement is answered. -/
def afterAnswer (options : Options) (r : Request) (selected : Classified r.node) :
    Except StorageError (List Row) → Job
  | .error e => .finished (.error (.storage e))
  | .ok rows =>
    let parents := parentsOf r.cardinality rows
    if isMissing r.cardinality parents then .finished (.ok .null)
    else match tasksOf options r selected.relations parents with
      | .error e => .finished (.error e)
      | .ok tasks => .spread r selected parents (tasks.map Task.keyed) [] []

/-- One step of a job, with `permits` for statements left, and what was asked and answered in it. -/
inductive Step (x : Executor σ) (schema : Schema) (options : Options) (permits : Nat) :
    σ → Job → List Exchange → σ → Job → Prop
  | refuse {s : σ} {r : Request} {e : ResolveError}
      (hclassified : classified schema options r = .error e) :
      Step x schema options permits s (.waiting r) [] s (.finished (.error e))
  | ask {s : σ} {r : Request} {selected : Classified r.node}
      (hclassified : classified schema options r = .ok selected) (hpermits : 0 < permits) :
      Step x schema options permits s (.waiting r) [] s (.asking r)
  | answer {s s' : σ} {r : Request} {selected : Classified r.node}
      {answer : Except StorageError (List Row)}
      (hclassified : classified schema options r = .ok selected)
      (hanswer : x.fetchAll (sqlOf x.dialect r selected) s = (answer, s')) :
      Step x schema options permits s (.asking r) [(sqlOf x.dialect r selected, answer)]
        s' (afterAnswer options r selected answer)
  /-- The next sub-resolution in line is taken up if there is room. -/
  | start {s : σ} {r : Request} {selected : Classified r.node} {rows : List ResultObject}
      {next : (String × String) × Request} {line : List ((String × String) × Request)}
      {active : List ((String × String) × Job)} {done : Results}
      (hroom : active.length < options.width) :
      Step x schema options permits s (.spread r selected rows (next :: line) active done) []
        s (.spread r selected rows line (active ++ [(next.1, .waiting next.2)]) done)
  | advance (before : List ((String × String) × Job)) {s s' : σ} {r : Request}
      {selected : Classified r.node} {rows : List ResultObject}
      {line : List ((String × String) × Request)} {after : List ((String × String) × Job)}
      {done : Results} {k : String × String} {j j' : Job} {log : List Exchange}
      (hstep : Step x schema options permits s j log s' j') :
      Step x schema options permits
        s (.spread r selected rows line (before ++ (k, j) :: after) done) log
        s' (.spread r selected rows line (before ++ (k, j') :: after) done)
  | deliver (before : List ((String × String) × Job)) {s : σ} {r : Request}
      {selected : Classified r.node} {rows : List ResultObject}
      {line : List ((String × String) × Request)} {after : List ((String × String) × Job)}
      {done : Results} {k : String × String} {v : ResultValue} :
      Step x schema options permits s
        (.spread r selected rows line (before ++ (k, .finished (.ok v)) :: after) done) []
        s (.spread r selected rows line (before ++ after) (done ++ [(k, v)]))
  | fail (before : List ((String × String) × Job)) {s : σ} {r : Request}
      {selected : Classified r.node} {rows : List ResultObject}
      {line : List ((String × String) × Request)} {after : List ((String × String) × Job)}
      {done : Results} {k : String × String} {e : ResolveError} :
      Step x schema options permits s
        (.spread r selected rows line (before ++ (k, .finished (.error e)) :: after) done) []
        s (.finished (.error e))
  | finish {s : σ} {r : Request} {selected : Classified r.node} {rows : List ResultObject}
      {done : Results} :
      Step x schema options permits s (.spread r selected rows [] [] done) []
        s (.finished (.ok (resultOf r.cardinality
          (rows.map (finish r.node selected (levelOf r selected).statement.hiddenId done)))))

inductive Course (x : Executor σ) (schema : Schema) (options : Options) :
    σ → Job → List Exchange → σ → Job → Prop
  | refl {s : σ} {j : Job} : Course x schema options s j [] s j
  | step {s₁ s₂ s₃ : σ} {j₁ j₂ j₃ : Job} {log log' : List Exchange}
      (hstep : Step x schema options (options.width - j₁.inFlight) s₁ j₁ log s₂ j₂)
      (hrest : Course x schema options s₂ j₂ log' s₃ j₃) :
      Course x schema options s₁ j₁ (log ++ log') s₃ j₃

variable {x : Executor σ} {schema : Schema} {options : Options}

theorem Course.trans {s₁ s₂ s₃ : σ} {j₁ j₂ j₃ : Job} {log log' : List Exchange}
    (h : Course x schema options s₁ j₁ log s₂ j₂) (h' : Course x schema options s₂ j₂ log' s₃ j₃) :
    Course x schema options s₁ j₁ (log ++ log') s₃ j₃ := by
  induction h with
  | refl => exact h'
  | step hstep _ ih =>
    rw [List.append_assoc]
    exact .step hstep (ih h')

theorem Course.single {s₁ s₂ : σ} {j₁ j₂ : Job} {log : List Exchange}
    (h : Step x schema options (options.width - j₁.inFlight) s₁ j₁ log s₂ j₂) :
    Course x schema options s₁ j₁ log s₂ j₂ := by
  have hcourse := Course.step h .refl
  rwa [List.append_nil] at hcourse

end Resolution
end SelectionSql
