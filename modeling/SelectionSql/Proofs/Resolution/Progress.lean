import SelectionSql.Proofs.Resolution.Stage

/-!
# Resolutions come to an end

* `Course.exists_step`: no course gets stuck before the resolution is finished.
* `Resolution.Healthy`: nothing in a job has failed.
* `Step.healthy`: with answers that depend on the statement alone, no step towards what a request
  yields fails.
* `Course.isOk_iff`: a resolution ends with a value exactly if its request yields one.
-/
set_option autoImplicit false

namespace SelectionSql
namespace Resolution
open Selection (Node Related Classified)
variable {σ : Type} {schema : Schema} {options : Options} {dialect : Dialect}

/-! ## No course gets stuck -/

theorem Options.width_pos (o : Options) : 0 < o.width :=
  Nat.lt_of_lt_of_le Nat.one_pos (le_max_right _ _)

theorem exists_inFlight {active : List ((String × String) × Job)} (h : 0 < inFlightOf active) :
    ∃ e ∈ active, 0 < e.2.inFlight := by
  induction active with
  | nil => exact absurd h (lt_irrefl 0)
  | cons e rest ih =>
    rw [inFlightOf] at h
    by_cases he : 0 < e.2.inFlight
    · exact ⟨e, List.mem_cons_self, he⟩
    · obtain ⟨e', he', hpos⟩ := ih (by omega)
      exact ⟨e', List.mem_cons_of_mem e he', hpos⟩

theorem Stage.exists_step_of_inFlight (x : Executor σ) {permits : Nat} {r : Request} {j : Job}
    {cost : Multiset Exchange} (h : Stage schema options x.dialect r j cost)
    (hj : 0 < j.inFlight) (s : σ) :
    ∃ log s' j', Step x schema options permits s j log s' j' := by
  generalize hd : x.dialect = d at h
  induction h with
  | waiting => exact absurd hj (lt_irrefl 0)
  | asking hclassified => exact ⟨_, _, _, .answer hclassified rfl⟩
  | spread hc hp ht hrequest hkeys hline hactive hdone ih =>
    rw [Job.inFlight] at hj
    obtain ⟨e, he, hpos⟩ := exists_inFlight hj
    obtain ⟨log, s', j', hstep⟩ := ih e he hpos
    obtain ⟨before, after, rfl⟩ := List.append_of_mem he
    exact ⟨log, s', _, .advance before hstep⟩
  | yielded => exact absurd hj (lt_irrefl 0)
  | failed => exact absurd hj (lt_irrefl 0)

theorem Stage.exists_step_of_permit (x : Executor σ) {permits : Nat} (hpermits : 0 < permits)
    {r : Request} {j : Job} {cost : Multiset Exchange}
    (h : Stage schema options x.dialect r j cost) (hj : ∀ o, j ≠ .finished o) (s : σ) :
    ∃ log s' j', Step x schema options permits s j log s' j' := by
  generalize hd : x.dialect = d at h
  induction h with
  | @waiting r =>
    cases hclassified : classified schema options r with
    | error e => exact ⟨_, _, _, .refuse hclassified⟩
    | ok selected => exact ⟨_, _, _, .ask hclassified hpermits⟩
  | asking hclassified => exact ⟨_, _, _, .answer hclassified rfl⟩
  | @spread r selected rows tasks line active done request part hc hp ht hr hkeys hl ha hd ih =>
    cases active with
    | nil =>
      cases line with
      | nil => exact ⟨_, _, _, .finish⟩
      | cons next rest => exact ⟨_, _, _, .start options.width_pos⟩
    | cons e rest =>
      obtain ⟨k, j⟩ := e
      by_cases hfinished : ∃ o, j = .finished o
      · obtain ⟨o, rfl⟩ := hfinished
        cases o with
        | ok v => exact ⟨_, _, _, .deliver []⟩
        | error e => exact ⟨_, _, _, .fail []⟩
      · obtain ⟨log, s', j', hstep⟩ :=
          ih (k, j) List.mem_cons_self fun o ho => hfinished ⟨o, ho⟩
        exact ⟨_, _, _, .advance [] hstep⟩
  | @yielded _ _ v => exact absurd rfl (hj (.ok v))
  | @failed _ _ e => exact absurd rfl (hj (.error e))

theorem Course.exists_step {x : Executor σ} {r : Request} {s s' : σ} {log : List Exchange}
    {j : Job} (h : Course x schema options s (.waiting r) log s' j) (hj : ∀ o, j ≠ .finished o) :
    ∃ log' s'' j', Step x schema options (options.width - j.inFlight) s' j log' s'' j' := by
  have hstage := Stage.waiting.course h
  by_cases hflight : 0 < j.inFlight
  · exact hstage.exists_step_of_inFlight x hflight s'
  · have hpermits : 0 < options.width - j.inFlight := by
      have := options.width_pos
      omega
    exact hstage.exists_step_of_permit x hpermits hj s'

/-! ## Answers that depend on the statement alone -/

inductive Healthy : Job → Prop
  | waiting {r : Request} : Healthy (.waiting r)
  | asking {r : Request} : Healthy (.asking r)
  | spread {r : Request} {selected : Classified r.node} {rows : List ResultObject}
      {line : List ((String × String) × Request)} {active : List ((String × String) × Job)}
      {done : Results} (h : ∀ e ∈ active, Healthy e.2) :
      Healthy (.spread r selected rows line active done)
  | finished {v : ResultValue} : Healthy (.finished (.ok v))

variable {x : Executor σ} {answers : String → Except StorageError (List Row)}

theorem Healthy.afterAnswer {r : Request} {selected : Classified r.node}
    (hclassified : classified schema options r = .ok selected)
    (hr : Resolvable schema options dialect answers r) :
    Healthy (Resolution.afterAnswer options r selected (answers (sqlOf dialect r selected))) := by
  obtain ⟨rows, hrows, hpresent⟩ := hr.own hclassified
  rw [hrows, Resolution.afterAnswer]
  cases hmissing : isMissing r.cardinality (parentsOf r.cardinality rows) with
  | true => exact .finished
  | false =>
    obtain ⟨caller, hcaller, hids, -⟩ := hpresent hmissing
    have htasks := tasksOf_eq_ok_iff.2 ⟨caller, hcaller, hids, rfl⟩
    rw [if_neg Bool.false_ne_true, htasks]
    exact .spread (by simp)

theorem Step.answered {permits : Nat} {s s' : σ} {j j' : Job} {log : List Exchange}
    (hx : x.AnswersBy answers) (h : Step x schema options permits s j log s' j') :
    AnsweredBy answers log := by
  induction h with
  | answer _ hanswer =>
    intro e he
    obtain rfl := List.mem_singleton.1 (Multiset.mem_coe.1 he)
    exact hx.answer_eq hanswer
  | advance _ _ ih => exact ih
  | _ => simp [AnsweredBy]

theorem Course.answered {s s' : σ} {j j' : Job} {log : List Exchange} (hx : x.AnswersBy answers)
    (h : Course x schema options s j log s' j') : AnsweredBy answers log := by
  induction h with
  | refl => simp [AnsweredBy]
  | step hstep _ ih =>
    intro e he
    rcases List.mem_append.1 (Multiset.mem_coe.1 he) with he | he
    · exact hstep.answered hx e he
    · exact ih e he

/-- What is below a resolvable request is resolvable, too. -/
theorem Stage.resolvable_part {r r' : Request} {selected : Classified r'.node}
    {rows : List ResultObject} {line : List ((String × String) × Request)}
    {active : List ((String × String) × Job)} {done : Results} {cost : Multiset Exchange}
    (h : Stage schema options dialect r (.spread r' selected rows line active done) cost)
    (hr : Resolvable schema options dialect answers r) (hcost : AnsweredBy answers cost)
    {e : (String × String) × Job} (he : e ∈ active) :
    ∃ request part, Stage schema options dialect request e.2 part ∧
      Resolvable schema options dialect answers request ∧ AnsweredBy answers part := by
  cases h with
  | @spread _ _ rows tasks _ _ _ request part hc hp ht hrequest hkeys hline hactive hdone =>
    have hkey : e.1 ∈ active.map Prod.fst ++ done.map Prod.fst :=
      List.mem_append_left _ (List.mem_map_of_mem he)
    refine ⟨request e.1, part e.1, hactive e he, ?_, hcost.part hkey⟩
    obtain ⟨t, ht', hindex⟩ := List.mem_map.1 (hkeys.mem_iff.1 (List.mem_append_right _ hkey))
    obtain ⟨rows', hrows', hpresent⟩ := hr.own hc
    cases hcost.own.trans hrows'
    obtain ⟨caller, hcaller, -, hparts⟩ := hpresent hp
    obtain ⟨caller', hcaller', -, rfl⟩ := tasksOf_eq_ok_iff.1 ht
    obtain ⟨related, hrelated, htask⟩ := List.mem_flatMap.1 ht'
    obtain ⟨p, hp', rfl⟩ := List.mem_map.1 htask
    have hsame : caller related = caller' related :=
      Except.ok.inj ((hcaller related hrelated).symm.trans (hcaller' related hrelated))
    rw [← hindex, hrequest _ ht']
    have hpart := hparts related hrelated p hp'
    rwa [hsame] at hpart

/-- No step towards what a resolvable request yields fails. -/
theorem Step.healthy {permits : Nat} {s s' : σ} {j j' : Job} {log : List Exchange}
    (hx : x.AnswersBy answers) (hstep : Step x schema options permits s j log s' j')
    {r : Request} {cost : Multiset Exchange} (h : Stage schema options x.dialect r j cost)
    (hr : Resolvable schema options x.dialect answers r) (hcost : AnsweredBy answers cost)
    (hj : Healthy j) : Healthy j' := by
  induction hstep generalizing r cost with
  | refuse hclassified =>
    cases h
    obtain ⟨_, _, hyields, -⟩ := hr
    cases hyields with
    | missing hclassified' => cases hclassified.symm.trans hclassified'
    | level hclassified' => cases hclassified.symm.trans hclassified'
  | ask => exact .asking
  | answer hclassified hanswer =>
    cases h
    rw [hx.answer_eq hanswer]
    exact .afterAnswer hclassified hr
  | start =>
    cases hj with
    | spread hactive =>
      refine .spread fun e he => ?_
      rcases List.mem_append.1 he with he | he
      · exact hactive e he
      · obtain rfl := List.mem_singleton.1 he
        exact .waiting
  | advance _ hstep ih =>
    obtain ⟨request, part, hstage, hrequest, hpart⟩ :=
      h.resolvable_part hr hcost (List.mem_append_right _ List.mem_cons_self)
    cases hj with
    | spread hactive =>
      refine .spread fun e he => ?_
      rcases List.mem_append.1 he with he | he
      · exact hactive e (List.mem_append_left _ he)
      rcases List.mem_cons.1 he with rfl | he
      · exact ih hstage hrequest hpart
          (hactive _ (List.mem_append_right _ List.mem_cons_self))
      · exact hactive e (List.mem_append_right _ (List.mem_cons_of_mem _ he))
  | deliver =>
    cases hj with
    | spread hactive =>
      refine .spread fun e he => ?_
      rcases List.mem_append.1 he with he | he
      · exact hactive e (List.mem_append_left _ he)
      · exact hactive e (List.mem_append_right _ (List.mem_cons_of_mem _ he))
  | fail =>
    cases hj with
    | spread hactive => cases hactive _ (List.mem_append_right _ List.mem_cons_self)
  | finish => exact .finished

theorem Course.healthy {s s' : σ} {j j' : Job} {log : List Exchange} (hx : x.AnswersBy answers)
    (hcourse : Course x schema options s j log s' j') {r : Request} {cost : Multiset Exchange}
    (h : Stage schema options x.dialect r j cost)
    (hr : Resolvable schema options x.dialect answers r) (hcost : AnsweredBy answers cost)
    (hj : Healthy j) : Healthy j' := by
  induction hcourse generalizing cost with
  | refl => exact hj
  | step hstep _ ih =>
    refine ih (h.step hstep) ?_ (hstep.healthy hx h hr hcost hj)
    intro e he
    rcases Multiset.mem_add.1 he with he | he
    · exact hcost e he
    · exact hstep.answered hx e he

/-- A resolution ends with a value exactly if its request yields one. -/
theorem Course.isOk_iff {s s' : σ} {log : List Exchange} {r : Request}
    {o : Except ResolveError ResultValue} (hx : x.AnswersBy answers)
    (h : Course x schema options s (.waiting r) log s' (.finished o)) :
    o.isOk = true ↔ Resolvable schema options x.dialect answers r := by
  constructor
  · intro ho
    cases o with
    | error e => cases ho
    | ok v => exact ⟨log, v, h.yields, h.answered hx⟩
  · intro hr
    have hhealthy := h.healthy hx .waiting hr (by simp [AnsweredBy]) .waiting
    cases hhealthy with
    | finished => rfl

end Resolution
end SelectionSql
