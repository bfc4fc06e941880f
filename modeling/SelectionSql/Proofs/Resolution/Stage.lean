import SelectionSql.Proofs.Resolution.Schedule

/-!
# What a job owes to its request

* `Resolution.Stage`: a job is on its way to what its request yields: the invariant of `Step`.
* `Resolution.yields_of_done`: a level whose sub-resolutions have all delivered yields what it is
  put together to.
* `Stage.step`, `Stage.course`: what is exchanged is added to what the job has cost.
* `Course.yields`: a course that ends with a value has asked and found what the request yields.
-/
set_option autoImplicit false

namespace SelectionSql
namespace Resolution
open Selection (Node Related Classified)
variable {σ : Type} {schema : Schema} {options : Options}

/-! ## The invariant -/

/-- A job is on its way to what its request yields, and has had `cost` exchanges so far. `request`
and `part` say which request each sub-resolution is for and what it has cost. -/
inductive Stage (schema : Schema) (options : Options) (dialect : Dialect) :
    Request → Job → Multiset Exchange → Prop
  | waiting {r : Request} : Stage schema options dialect r (.waiting r) 0
  | asking {r : Request} {selected : Classified r.node}
      (hclassified : classified schema options r = .ok selected) :
      Stage schema options dialect r (.asking r) 0
  | spread {r : Request} {selected : Classified r.node} {rows : List Row}
      {tasks : List (Task r.node)} {line : List ((String × String) × Request)}
      {active : List ((String × String) × Job)} {done : Results}
      {request : String × String → Request} {part : String × String → Multiset Exchange}
      (hclassified : classified schema options r = .ok selected)
      (hpresent : isMissing r.cardinality (parentsOf r.cardinality rows) = false)
      (htasks : tasksOf options r selected.relations (parentsOf r.cardinality rows) = .ok tasks)
      (hrequest : ∀ t ∈ tasks, request t.index = t.request)
      (hkeys : (line.map Prod.fst ++ (active.map Prod.fst ++ done.map Prod.fst)).Perm
        (tasks.map Task.index))
      (hline : ∀ e ∈ line, e.2 = request e.1)
      (hactive : ∀ e ∈ active, Stage schema options dialect (request e.1) e.2 (part e.1))
      (hdone : ∀ e ∈ done, Yields schema options dialect (request e.1) (part e.1) e.2) :
      Stage schema options dialect r
        (.spread r selected (parentsOf r.cardinality rows) line active done)
        ({(sqlOf dialect r selected, .ok rows)} +
          Multiset.bind (active.map Prod.fst ++ done.map Prod.fst : List (String × String)) part)
  | yielded {r : Request} {cost : Multiset Exchange} {v : ResultValue}
      (h : Yields schema options dialect r cost v) :
      Stage schema options dialect r (.finished (.ok v)) cost
  | failed {r : Request} {cost : Multiset Exchange} {e : ResolveError} :
      Stage schema options dialect r (.finished (.error e)) cost

/-- More cost of one sub-resolution is as much more cost of the level. -/
theorem bind_update {κ α : Type} [DecidableEq κ] {l : List κ} (hl : l.Nodup) {k : κ} (hk : k ∈ l)
    (part : κ → Multiset α) (c : Multiset α) :
    Multiset.bind l (Function.update part k (part k + c)) = Multiset.bind l part + c := by
  obtain ⟨before, after, rfl⟩ := List.append_of_mem hk
  have hperm : (before ++ k :: after).Perm (k :: (before ++ after)) := List.perm_middle
  rw [Multiset.coe_eq_coe.2 hperm, ← Multiset.cons_coe, Multiset.cons_bind, Multiset.cons_bind,
    Function.update_self]
  have hrest : ∀ k' ∈ ((before ++ after : List κ) : Multiset κ),
      Function.update part k (part k + c) k' = part k' := by
    intro k' hk'
    refine Function.update_of_ne ?_ _ _
    rintro rfl
    exact (List.nodup_cons.1 (hperm.nodup_iff.1 hl)).1 hk'
  rw [Multiset.bind_congr hrest, add_right_comm]

/-- The tasks of a level fill different places. -/
theorem nodup_index {r : Request} {selected : Classified r.node} {rows : List ResultObject}
    {tasks : List (Task r.node)} (hclassified : classified schema options r = .ok selected)
    (htasks : tasksOf options r selected.relations rows = .ok tasks) :
    (tasks.map Task.index).Nodup := by
  obtain ⟨caller, -, -, rfl⟩ := tasksOf_eq_ok_iff.1 htasks
  rw [map_index_plannedTasks]
  exact nodup_taskIndexes hclassified rows

variable {dialect : Dialect}

theorem yields_of_done {r : Request} {selected : Classified r.node} {rows : List Row}
    {tasks : List (Task r.node)} {done : Results} {request : String × String → Request}
    {part : String × String → Multiset Exchange}
    (hclassified : classified schema options r = .ok selected)
    (hpresent : isMissing r.cardinality (parentsOf r.cardinality rows) = false)
    (htasks : tasksOf options r selected.relations (parentsOf r.cardinality rows) = .ok tasks)
    (hrequest : ∀ t ∈ tasks, request t.index = t.request)
    (hkeys : (done.map Prod.fst).Perm (tasks.map Task.index))
    (hdone : ∀ e ∈ done, Yields schema options dialect (request e.1) (part e.1) e.2) :
    Yields schema options dialect r
      ({(sqlOf dialect r selected, .ok rows)} + Multiset.bind (done.map Prod.fst : List _) part)
      (resultOf r.cardinality ((parentsOf r.cardinality rows).map
        (finish r.node selected (levelOf r selected).statement.hiddenId done))) := by
  have hnodup : (done.map Prod.fst).Nodup :=
    hkeys.nodup_iff.2 (nodup_index hclassified htasks)
  obtain ⟨caller, hcaller, hids, rfl⟩ := tasksOf_eq_ok_iff.1 htasks
  have hindexes : (plannedTasks r selected.relations (parentsOf r.cardinality rows) caller).map
      Task.index = taskIndexes selected (parentsOf r.cardinality rows) :=
    map_index_plannedTasks r selected _ caller
  rw [hindexes] at hkeys
  have hfound : ∀ k ∈ taskIndexes selected (parentsOf r.cardinality rows),
      ∃ v, (k, v) ∈ done ∧ done.lookup k = some v := by
    intro k hk
    obtain ⟨e, he, rfl⟩ := List.mem_map.1 (hkeys.mem_iff.2 hk)
    exact ⟨e.2, he, (lookup_eq_some_iff_mem hnodup).2 he⟩
  have hvalue : resultOf r.cardinality ((parentsOf r.cardinality rows).map
      (finish r.node selected (levelOf r selected).statement.hiddenId done)) =
        valueOf r selected (parentsOf r.cardinality rows) (valueIn done) := by
    unfold valueOf
    refine congrArg (resultOf r.cardinality) (List.map_congr_left fun row hrow => ?_)
    refine finish_eq_objectOf (fun hne => hids hne row hrow) fun related hrelated => ?_
    obtain ⟨v, -, hv⟩ := hfound _ (keyOf_mem_taskIndexes hids hrelated hrow)
    rw [hv]
    rfl
  rw [hvalue, Multiset.coe_eq_coe.2 hkeys]
  refine .level hclassified hpresent hcaller hids fun related hrelated p hp => ?_
  have hk : (related.node.name, p.1) ∈ taskIndexes selected (parentsOf r.cardinality rows) :=
    mem_taskIndexes.2 ⟨related, hrelated, p, hp, rfl⟩
  obtain ⟨v, hmem, hv⟩ := hfound _ hk
  have htask : taskOf r related (caller related) p.1 p.2 ∈
      plannedTasks r selected.relations (parentsOf r.cardinality rows) caller :=
    List.mem_flatMap.2 ⟨related, hrelated, List.mem_map.2 ⟨p, hp, rfl⟩⟩
  have hsub : request (related.node.name, p.1) =
      relationRequest r related p.2 (caller related) := hrequest _ htask
  have hyields := hdone _ hmem
  rw [hsub] at hyields
  rw [valueIn, hv]
  exact hyields

/-! ## Steps keep it -/

theorem map_fst_keyed {parent : Node} (tasks : List (Task parent)) :
    (tasks.map Task.keyed).map Prod.fst = tasks.map Task.index := by
  rw [List.map_map]
  rfl

/-- The request of the task that fills a place. -/
def requestAt (r : Request) (tasks : List (Task r.node)) (k : String × String) : Request :=
  ((tasks.map Task.keyed).lookup k).getD r

theorem requestAt_index {r : Request} {tasks : List (Task r.node)}
    (hnodup : (tasks.map Task.index).Nodup) {t : Task r.node} (ht : t ∈ tasks) :
    requestAt r tasks t.index = t.request := by
  rw [← map_fst_keyed] at hnodup
  have hfound : (tasks.map Task.keyed).lookup t.index = some t.request :=
    (lookup_eq_some_iff_mem hnodup).2 (List.mem_map.2 ⟨t, ht, rfl⟩)
  rw [requestAt, hfound]
  rfl

/-- The places of what has been taken up stay the same when a result is delivered. -/
theorem perm_map_fst_deliver (before after : List ((String × String) × Job)) (done : Results)
    (k : String × String) (j : Job) (v : ResultValue) :
    ((before ++ (k, j) :: after).map Prod.fst ++ done.map Prod.fst).Perm
      ((before ++ after).map Prod.fst ++ (done ++ [(k, v)]).map Prod.fst) := by
  have hright : ((before ++ after).map Prod.fst ++ (done ++ [(k, v)]).map Prod.fst).Perm
      (k :: ((before ++ after).map Prod.fst ++ done.map Prod.fst)) := by
    have hdelivered : (done ++ [(k, v)]).map Prod.fst = done.map Prod.fst ++ [k] :=
      List.map_append
    rw [hdelivered, ← List.append_assoc]
    exact List.perm_append_singleton k _
  refine List.Perm.trans ?_ hright.symm
  rw [List.map_append, List.map_append, List.map_cons, List.append_assoc, List.append_assoc]
  exact List.perm_middle

/-- A place is no other's, of those that have been taken up. -/
theorem not_mem_others {before after : List ((String × String) × Job)} {done : Results}
    {k : String × String} {j : Job}
    (h : ((before ++ (k, j) :: after).map Prod.fst ++ done.map Prod.fst).Nodup) :
    k ∉ before.map Prod.fst ++ (after.map Prod.fst ++ done.map Prod.fst) := by
  rw [List.map_append, List.map_cons, List.append_assoc, List.cons_append,
    List.perm_middle.nodup_iff] at h
  exact (List.nodup_cons.1 h).1

theorem Stage.afterAnswer {r : Request} {selected : Classified r.node}
    (hclassified : classified schema options r = .ok selected)
    (answer : Except StorageError (List Row)) :
    Stage schema options dialect r (Resolution.afterAnswer options r selected answer)
      {(sqlOf dialect r selected, answer)} := by
  cases answer with
  | error e => exact .failed
  | ok rows =>
    rw [Resolution.afterAnswer]
    cases hmissing : isMissing r.cardinality (parentsOf r.cardinality rows) with
    | true => exact .yielded (.missing hclassified hmissing)
    | false =>
      rw [if_neg Bool.false_ne_true]
      cases htasks : tasksOf options r selected.relations (parentsOf r.cardinality rows) with
      | error e => exact .failed
      | ok tasks =>
        have hrequest : ∀ t ∈ tasks, requestAt r tasks t.index = t.request :=
          fun t ht => requestAt_index (nodup_index hclassified htasks) ht
        have hstage : Stage schema options dialect r
            (.spread r selected (parentsOf r.cardinality rows) (tasks.map Task.keyed) [] [])
            ({(sqlOf dialect r selected, .ok rows)} +
              Multiset.bind (Multiset.ofList ([] : List (String × String))) fun _ => 0) := by
          refine .spread hclassified hmissing htasks hrequest ?_ ?_ (by simp) (by simp)
          · rw [map_fst_keyed, List.map_nil, List.map_nil, List.append_nil, List.append_nil]
          · intro e he
            obtain ⟨t, ht, rfl⟩ := List.mem_map.1 he
            exact (hrequest t ht).symm
        simpa using hstage

/-- The next in line is taken up; it has cost nothing so far. -/
theorem Stage.start {r r' : Request} {selected : Classified r'.node} {rows : List ResultObject}
    {next : (String × String) × Request} {line : List ((String × String) × Request)}
    {active : List ((String × String) × Job)} {done : Results} {cost : Multiset Exchange}
    (h : Stage schema options dialect r
      (.spread r' selected rows (next :: line) active done) cost) :
    Stage schema options dialect r
      (.spread r' selected rows line (active ++ [(next.1, .waiting next.2)]) done) cost := by
  cases h with
  | @spread _ _ rows tasks _ _ _ request part hc hp ht hrequest hkeys hline hactive hdone =>
    have hnodup := hkeys.nodup_iff.2 (nodup_index hc ht)
    have hfresh : next.1 ∉ active.map Prod.fst ++ done.map Prod.fst :=
      fun hmem => (List.nodup_cons.1 hnodup).1 (List.mem_append_right _ hmem)
    have hpart : ∀ k ∈ active.map Prod.fst ++ done.map Prod.fst,
        Function.update part next.1 0 k = part k := by
      intro k hk
      refine Function.update_of_ne ?_ _ _
      rintro rfl
      exact hfresh hk
    have hmove : ((active ++ [(next.1, Job.waiting next.2)]).map Prod.fst ++
        done.map Prod.fst).Perm (next.1 :: (active.map Prod.fst ++ done.map Prod.fst)) := by
      rw [List.map_append, List.append_assoc]
      exact List.perm_middle
    have hkeys' := ((hmove.append_left (line.map Prod.fst)).trans List.perm_middle).trans hkeys
    have hcost : Multiset.bind ((active ++ [(next.1, Job.waiting next.2)]).map Prod.fst ++
        done.map Prod.fst : List (String × String)) (Function.update part next.1 0) =
          Multiset.bind (active.map Prod.fst ++ done.map Prod.fst : List _) part := by
      rw [Multiset.coe_eq_coe.2 hmove, ← Multiset.cons_coe, Multiset.cons_bind,
        Function.update_self, zero_add]
      exact Multiset.bind_congr fun k hk => hpart k (Multiset.mem_coe.1 hk)
    rw [← hcost]
    refine .spread hc hp ht hrequest hkeys' (fun e he => hline e (List.mem_cons_of_mem _ he)) ?_ ?_
    · intro e he
      rcases List.mem_append.1 he with he | he
      · rw [hpart e.1 (List.mem_append_left _ (List.mem_map_of_mem he))]
        exact hactive e he
      · obtain rfl := List.mem_singleton.1 he
        rw [Function.update_self, ← hline next List.mem_cons_self]
        exact .waiting
    · intro e he
      rw [hpart e.1 (List.mem_append_right _ (List.mem_map_of_mem he))]
      exact hdone e he

/-- One sub-resolution advances, and the level pays for it. -/
theorem Stage.advance {r r' : Request} {selected : Classified r'.node} {rows : List ResultObject}
    {line : List ((String × String) × Request)} {before after : List ((String × String) × Job)}
    {done : Results} {k : String × String} {j j' : Job} {cost c : Multiset Exchange}
    (h : Stage schema options dialect r
      (.spread r' selected rows line (before ++ (k, j) :: after) done) cost)
    (hj : ∀ {r : Request} {cost : Multiset Exchange}, Stage schema options dialect r j cost →
      Stage schema options dialect r j' (cost + c)) :
    Stage schema options dialect r
      (.spread r' selected rows line (before ++ (k, j') :: after) done) (cost + c) := by
  cases h with
  | @spread _ _ rows tasks _ _ _ request part hc hp ht hrequest hkeys hline hactive hdone =>
    have hsame : (before ++ (k, j') :: after).map Prod.fst =
        (before ++ (k, j) :: after).map Prod.fst := by
      rw [List.map_append, List.map_append, List.map_cons, List.map_cons]
    have hnodup := (List.nodup_append.1 (hkeys.nodup_iff.2 (nodup_index hc ht))).2.1
    have hk : k ∈ (before ++ (k, j) :: after).map Prod.fst ++ done.map Prod.fst := by simp
    have hother : ∀ k' ∈ before.map Prod.fst ++ (after.map Prod.fst ++ done.map Prod.fst),
        Function.update part k (part k + c) k' = part k' := by
      intro k' hk'
      refine Function.update_of_ne ?_ _ _
      rintro rfl
      exact not_mem_others hnodup hk'
    rw [add_assoc, ← bind_update hnodup hk part c, ← hsame]
    rw [← hsame] at hkeys
    refine .spread hc hp ht hrequest hkeys hline ?_ ?_
    · intro e he
      rcases List.mem_append.1 he with he | he
      · rw [hother e.1 (List.mem_append_left _ (List.mem_map_of_mem he))]
        exact hactive e (List.mem_append_left _ he)
      rcases List.mem_cons.1 he with rfl | he
      · rw [Function.update_self]
        exact hj (hactive (k, j) (by simp))
      · rw [hother e.1 (List.mem_append_right _
          (List.mem_append_left _ (List.mem_map_of_mem he)))]
        exact hactive e (List.mem_append_right _ (List.mem_cons_of_mem _ he))
    · intro e he
      rw [hother e.1 (List.mem_append_right _ (List.mem_append_right _ (List.mem_map_of_mem he)))]
      exact hdone e he

theorem Stage.deliver {r r' : Request} {selected : Classified r'.node} {rows : List ResultObject}
    {line : List ((String × String) × Request)} {before after : List ((String × String) × Job)}
    {done : Results} {k : String × String} {v : ResultValue} {cost : Multiset Exchange}
    (h : Stage schema options dialect r
      (.spread r' selected rows line (before ++ (k, .finished (.ok v)) :: after) done) cost) :
    Stage schema options dialect r
      (.spread r' selected rows line (before ++ after) (done ++ [(k, v)])) cost := by
  cases h with
  | @spread _ _ rows tasks _ _ _ request part hc hp ht hrequest hkeys hline hactive hdone =>
    have hmove := (perm_map_fst_deliver before after done k (.finished (.ok v)) v).symm
    have hvalue : Yields schema options dialect (request k) (part k) v := by
      have hfinished := hactive (k, .finished (.ok v)) (by simp)
      cases hfinished with
      | yielded hyields => exact hyields
    rw [← Multiset.coe_eq_coe.2 hmove]
    refine .spread hc hp ht hrequest ((hmove.append_left _).trans hkeys) hline ?_ ?_
    · intro e he
      rcases List.mem_append.1 he with he | he
      · exact hactive e (List.mem_append_left _ he)
      · exact hactive e (List.mem_append_right _ (List.mem_cons_of_mem _ he))
    · intro e he
      rcases List.mem_append.1 he with he | he
      · exact hdone e he
      · obtain rfl := List.mem_singleton.1 he
        exact hvalue

theorem Stage.finish {r r' : Request} {selected : Classified r'.node} {rows : List ResultObject}
    {done : Results} {cost : Multiset Exchange}
    (h : Stage schema options dialect r (.spread r' selected rows [] [] done) cost) :
    Stage schema options dialect r (.finished (.ok (resultOf r'.cardinality (rows.map
      (finish r'.node selected (levelOf r' selected).statement.hiddenId done))))) cost := by
  cases h with
  | spread hc hp ht hrequest hkeys _ _ hdone =>
    exact .yielded (yields_of_done hc hp ht hrequest hkeys hdone)

/-- One step of a job: what was exchanged in it is added to the cost. -/
theorem Stage.step {x : Executor σ} {permits : Nat} {r : Request} {j j' : Job}
    {cost : Multiset Exchange} {s s' : σ} {log : List Exchange}
    (h : Stage schema options x.dialect r j cost)
    (hstep : Step x schema options permits s j log s' j') :
    Stage schema options x.dialect r j' (cost + log) := by
  induction hstep generalizing r cost with
  | refuse hclassified => exact .failed
  | ask hclassified hpermits =>
    cases h
    exact .asking hclassified
  | answer hclassified hanswer =>
    cases h
    rw [zero_add]
    exact .afterAnswer hclassified _
  | start hroom =>
    rw [Multiset.coe_nil, add_zero]
    exact h.start
  | advance _ hstep ih => exact h.advance ih
  | deliver =>
    rw [Multiset.coe_nil, add_zero]
    exact h.deliver
  | fail => exact .failed
  | finish =>
    rw [Multiset.coe_nil, add_zero]
    exact h.finish

theorem Stage.course {x : Executor σ} {r : Request} {j j' : Job} {cost : Multiset Exchange}
    {s s' : σ} {log : List Exchange} (h : Stage schema options x.dialect r j cost)
    (hcourse : Course x schema options s j log s' j') :
    Stage schema options x.dialect r j' (cost + log) := by
  induction hcourse generalizing cost with
  | refl =>
    rw [Multiset.coe_nil, add_zero]
    exact h
  | step hstep _ ih =>
    rw [← Multiset.coe_add, ← add_assoc]
    exact ih (h.step hstep)

theorem Course.yields {x : Executor σ} {r : Request} {s s' : σ} {log : List Exchange}
    {v : ResultValue}
    (h : Course x schema options s (.waiting r) log s' (.finished (.ok v))) :
    Yields schema options x.dialect r log v := by
  have hstage := Stage.waiting.course h
  rw [zero_add] at hstage
  cases hstage with
  | yielded hyields => exact hyields

end Resolution
end SelectionSql
