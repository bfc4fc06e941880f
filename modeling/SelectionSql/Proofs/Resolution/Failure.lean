import SelectionSql.Proofs.Resolution.History
import SelectionSql.Proofs.Resolution.Sequential

/-!
# Resolutions that fail

* `Resolution.Follows`: a job is where its history says: the invariant of `Step`.
* `Follows.step`, `Follows.course`: the history grows by what is exchanged.
* `Resolution.no_partial_results`: a resolution succeeds exactly if nothing is wrong at any level
  that it reaches, fails with the error of a level that fails, and reaches nothing below a level
  that cannot go on.
-/
set_option autoImplicit false

namespace SelectionSql
namespace Resolution
open Selection (Node Related Classified)
variable {σ : Type} {schema : Schema} {options : Options}

/-! ## The invariant -/

/-- A job is where its history says. What has delivered is flawless, and what is in line was not
reached. -/
inductive Follows : {r : Request} → History schema options r → Job → Prop
  | waiting {r : Request} : Follows (.reached r) (.waiting r)
  | asking {r : Request} {selected : Classified r.node}
      {hclassified : classified schema options r = .ok selected} :
      Follows (.asked hclassified) (.asking r)
  | spread {r : Request} {selected : Classified r.node} {rows : List Row}
      {tasks : List (Task r.node)} {started : List (String × String)}
      {hclassified : classified schema options r = .ok selected}
      {hpresent : isMissing r.cardinality (parentsOf r.cardinality rows) = false}
      {htasks : tasksOf options r selected.relations (parentsOf r.cardinality rows) = .ok tasks}
      {hstarted : started.Subperm (tasks.map Task.index)}
      {below : (k : String × String) → History schema options (requestAt r tasks k)}
      {line : List ((String × String) × Request)} {active : List ((String × String) × Job)}
      {done : Results}
      (hkeys : (line.map Prod.fst ++ started).Perm (tasks.map Task.index))
      (htaken : started.Perm (active.map Prod.fst ++ done.map Prod.fst))
      (hline : ∀ e ∈ line, e.2 = requestAt r tasks e.1 ∧ below e.1 = .reached _)
      (hactive : ∀ e ∈ active, Follows (below e.1) e.2)
      (hdone : ∀ e ∈ done, (below e.1).Flawless) :
      Follows (.spread hclassified hpresent htasks hstarted below)
        (.spread r selected (parentsOf r.cardinality rows) line active done)
  | finished {r : Request} {h : History schema options r} {v : ResultValue} (hall : h.Flawless) :
      Follows h (.finished (.ok v))
  | failed {r r' : Request} {h : History schema options r} {l : History schema options r'}
      {e : ResolveError} (hl : l.Within h) (hfails : l.FailsWith e) :
      Follows h (.finished (.error e))

theorem Follows.flawless {r : Request} {h : History schema options r} {v : ResultValue}
    (hfollows : Follows h (.finished (.ok v))) : h.Flawless := by
  cases hfollows with
  | finished hall => exact hall

theorem Follows.fails {r : Request} {h : History schema options r} {e : ResolveError}
    (hfollows : Follows h (.finished (.error e))) :
    ∃ (r' : Request) (l : History schema options r'), l.Within h ∧ l.FailsWith e := by
  cases hfollows with
  | failed hl hfails => exact ⟨_, _, hl, hfails⟩

/-- The history `h` can be continued, by the exchanges `log`, to one that a job follows. -/
def Continues (dialect : Dialect) {r : Request} (h : History schema options r)
    (log : Multiset Exchange) (j : Job) : Prop :=
  ∃ h' : History schema options r, Follows h' j ∧ h'.exchanges dialect = h.exchanges dialect + log

variable {dialect : Dialect}

/-! ## Steps keep it -/

theorem Follows.afterAnswer {r : Request} {selected : Classified r.node}
    (hclassified : classified schema options r = .ok selected)
    (answer : Except StorageError (List Row)) :
    Continues dialect (.asked hclassified) {(sqlOf dialect r selected, answer)}
      (Resolution.afterAnswer options r selected answer) := by
  cases answer with
  | error cause =>
    refine ⟨.answered hclassified (.error cause), ?_, (zero_add _).symm⟩
    exact .failed (.refl _) (.storage hclassified rfl)
  | ok rows =>
    rw [Resolution.afterAnswer]
    cases hmissing : isMissing r.cardinality (parentsOf r.cardinality rows) with
    | true =>
      refine ⟨.answered hclassified (.ok rows), ?_, (zero_add _).symm⟩
      exact .finished (History.flawless_answered hclassified hmissing)
    | false =>
      rw [if_neg Bool.false_ne_true]
      cases htasks : tasksOf options r selected.relations (parentsOf r.cardinality rows) with
      | error e =>
        refine ⟨.answered hclassified (.ok rows), ?_, (zero_add _).symm⟩
        exact .failed (.refl _) (History.failsWith_answered hclassified hmissing htasks)
      | ok tasks =>
        -- All tasks are in line, and nothing is below yet.
        have hstarted : [].Subperm (tasks.map Task.index) := List.nil_subperm
        refine ⟨.spread hclassified hmissing htasks hstarted fun k => .reached _, ?_, ?_⟩
        · refine .spread ?_ (List.Perm.refl []) ?_ (by simp) (by simp)
          · rw [List.append_nil, map_fst_keyed]
          · intro e he
            refine ⟨?_, rfl⟩
            obtain ⟨t, ht, rfl⟩ := List.mem_map.1 he
            exact (requestAt_index (nodup_index hclassified htasks) ht).symm
        · show ({(sqlOf dialect r selected, .ok rows)} : Multiset Exchange) + 0 = 0 + _
          rw [add_zero, zero_add]

theorem Follows.start {r r' : Request} {h : History schema options r}
    {selected : Classified r'.node} {rows : List ResultObject}
    {next : (String × String) × Request} {line : List ((String × String) × Request)}
    {active : List ((String × String) × Job)} {done : Results}
    (hfollows : Follows h (.spread r' selected rows (next :: line) active done)) :
    Continues dialect h 0
      (.spread r' selected rows line (active ++ [(next.1, .waiting next.2)]) done) := by
  cases hfollows with
  | @spread _ _ rows tasks started hc hp ht hs below _ _ _ hkeys htaken hline hactive hdone =>
    have hmoved : (line.map Prod.fst ++ (next.1 :: started)).Perm (tasks.map Task.index) :=
      List.perm_middle.trans hkeys
    have hs' : (next.1 :: started).Subperm (tasks.map Task.index) :=
      (List.sublist_append_right _ _).subperm.trans hmoved.subperm
    obtain ⟨hrequest, hreached⟩ := hline next List.mem_cons_self
    refine ⟨.spread hc hp ht hs' below, ?_, ?_⟩
    · refine .spread hmoved ?_ (fun e he => hline e (List.mem_cons_of_mem _ he)) ?_ hdone
      · rw [List.map_append, List.append_assoc]
        exact (htaken.cons next.1).trans List.perm_middle.symm
      · intro e he
        rcases List.mem_append.1 he with he | he
        · exact hactive e he
        · obtain rfl := List.mem_singleton.1 he
          rw [hreached, hrequest]
          exact .waiting
    · show _ + Multiset.bind (next.1 ::ₘ (started : Multiset (String × String))) _ = _
      rw [Multiset.cons_bind, hreached, add_zero]
      exact congrArg _ (zero_add _)

theorem Follows.advance {r r' : Request} {h : History schema options r}
    {selected : Classified r'.node} {rows : List ResultObject}
    {line : List ((String × String) × Request)} {before after : List ((String × String) × Job)}
    {done : Results} {k : String × String} {j j' : Job} {log : Multiset Exchange}
    (hfollows : Follows h (.spread r' selected rows line (before ++ (k, j) :: after) done))
    (hj : ∀ {r : Request} {h : History schema options r}, Follows h j →
      Continues dialect h log j') :
    Continues dialect h log
      (.spread r' selected rows line (before ++ (k, j') :: after) done) := by
  cases hfollows with
  | @spread _ _ rows tasks started hc hp ht hs below _ _ _ hkeys htaken hline hactive hdone =>
    obtain ⟨hk', hfollows', hexchanges⟩ := hj (hactive (k, j) (by simp))
    have hnodup : (line.map Prod.fst ++ started).Nodup := hkeys.nodup_iff.2 (nodup_index hc ht)
    have hstarted : started.Nodup := (List.nodup_append.1 hnodup).2.1
    have hk : k ∈ started := htaken.mem_iff.2 (by simp)
    have hother : ∀ k' ∈ before.map Prod.fst ++ (after.map Prod.fst ++ done.map Prod.fst),
        Function.update below k hk' k' = below k' := by
      intro k' hmem
      refine Function.update_of_ne ?_ _ _
      rintro rfl
      exact not_mem_others (htaken.nodup_iff.1 hstarted) hmem
    -- Only what is below in the place of the job changes, by what the job has exchanged.
    refine ⟨.spread hc hp ht hs (Function.update below k hk'), ?_, ?_⟩
    · refine .spread hkeys ?_ ?_ ?_ ?_
      · rwa [List.map_append, List.map_cons] at htaken ⊢
      · intro e he
        have hne : e.1 ≠ k := fun heq =>
          (List.nodup_append.1 hnodup).2.2 e.1 (List.mem_map_of_mem he) k hk heq
        rw [Function.update_of_ne hne]
        exact hline e he
      · intro e he
        rcases List.mem_append.1 he with he | he
        · rw [hother e.1 (List.mem_append_left _ (List.mem_map_of_mem he))]
          exact hactive e (List.mem_append_left _ he)
        rcases List.mem_cons.1 he with rfl | he
        · rw [Function.update_self]
          exact hfollows'
        · rw [hother e.1 (List.mem_append_right _
            (List.mem_append_left _ (List.mem_map_of_mem he)))]
          exact hactive e (List.mem_append_right _ (List.mem_cons_of_mem _ he))
      · intro e he
        rw [hother e.1 (List.mem_append_right _
          (List.mem_append_right _ (List.mem_map_of_mem he)))]
        exact hdone e he
    · have hupdate : (fun k' => (Function.update below k hk' k').exchanges dialect) =
          Function.update (fun k' => (below k').exchanges dialect) k
            ((below k).exchanges dialect + log) := by
        funext k'
        rw [Function.apply_update (fun _ (h : History schema options _) => h.exchanges dialect),
          hexchanges]
      show _ + Multiset.bind (started : Multiset (String × String)) _ = _ + _ + log
      rw [hupdate, bind_update hstarted hk, add_assoc]

theorem Follows.deliver {r r' : Request} {h : History schema options r}
    {selected : Classified r'.node} {rows : List ResultObject}
    {line : List ((String × String) × Request)} {before after : List ((String × String) × Job)}
    {done : Results} {k : String × String} {v : ResultValue}
    (hfollows : Follows h
      (.spread r' selected rows line (before ++ (k, .finished (.ok v)) :: after) done)) :
    Follows h (.spread r' selected rows line (before ++ after) (done ++ [(k, v)])) := by
  cases hfollows with
  | @spread _ _ rows tasks started hc hp ht hs below _ _ _ hkeys htaken hline hactive hdone =>
    have hflawless : (below k).Flawless := (hactive (k, .finished (.ok v)) (by simp)).flawless
    refine .spread hkeys (htaken.trans (perm_map_fst_deliver before after done k _ v)) hline ?_ ?_
    · intro e he
      rcases List.mem_append.1 he with he | he
      · exact hactive e (List.mem_append_left _ he)
      · exact hactive e (List.mem_append_right _ (List.mem_cons_of_mem _ he))
    · intro e he
      rcases List.mem_append.1 he with he | he
      · exact hdone e he
      · obtain rfl := List.mem_singleton.1 he
        exact hflawless

theorem Follows.fail {r r' : Request} {h : History schema options r}
    {selected : Classified r'.node} {rows : List ResultObject}
    {line : List ((String × String) × Request)} {before after : List ((String × String) × Job)}
    {done : Results} {k : String × String} {e : ResolveError}
    (hfollows : Follows h
      (.spread r' selected rows line (before ++ (k, .finished (.error e)) :: after) done)) :
    Follows h (.finished (.error e)) := by
  cases hfollows with
  | @spread _ _ rows tasks started hc hp ht hs below _ _ _ hkeys htaken hline hactive hdone =>
    have hk : k ∈ started := htaken.mem_iff.2 (by simp)
    obtain ⟨r', l, hl, hfails⟩ := (hactive (k, .finished (.error e)) (by simp)).fails
    exact .failed (.task hk hl) hfails

theorem Follows.finish {r r' : Request} {h : History schema options r}
    {selected : Classified r'.node} {rows : List ResultObject} {done : Results} {v : ResultValue}
    (hfollows : Follows h (.spread r' selected rows [] [] done)) :
    Follows h (.finished (.ok v)) := by
  cases hfollows with
  | spread hkeys htaken hline hactive hdone =>
    refine .finished (History.flawless_spread _ _ _ hkeys fun k hk => ?_)
    obtain ⟨e, he, rfl⟩ := List.mem_map.1 (htaken.mem_iff.1 hk)
    exact hdone e he

theorem Follows.step {x : Executor σ} {permits : Nat} {r : Request} {h : History schema options r}
    {j j' : Job} {s s' : σ} {log : List Exchange} (hfollows : Follows h j)
    (hstep : Step x schema options permits s j log s' j') : Continues x.dialect h log j' := by
  induction hstep generalizing r h with
  | refuse hclassified =>
    cases hfollows
    exact ⟨.reached _, .failed (.refl _) (.fields hclassified), (add_zero _).symm⟩
  | ask hclassified =>
    cases hfollows
    exact ⟨.asked hclassified, .asking, (add_zero _).symm⟩
  | answer hclassified hanswer =>
    cases hfollows
    exact Follows.afterAnswer hclassified _
  | start => exact hfollows.start
  | advance _ _ ih => exact hfollows.advance ih
  | deliver => exact ⟨h, hfollows.deliver, (add_zero _).symm⟩
  | fail => exact ⟨h, hfollows.fail, (add_zero _).symm⟩
  | finish => exact ⟨h, hfollows.finish, (add_zero _).symm⟩

theorem Follows.course {x : Executor σ} {r : Request} {h : History schema options r}
    {j j' : Job} {s s' : σ} {log : List Exchange} (hfollows : Follows h j)
    (hcourse : Course x schema options s j log s' j') : Continues x.dialect h log j' := by
  induction hcourse generalizing h with
  | refl => exact ⟨h, hfollows, (add_zero _).symm⟩
  | step hstep _ ih =>
    obtain ⟨h₁, hfollows₁, hlog⟩ := hfollows.step hstep
    obtain ⟨h₂, hfollows₂, hlog'⟩ := ih hfollows₁
    refine ⟨h₂, hfollows₂, ?_⟩
    rw [hlog', hlog, add_assoc, Multiset.coe_add]

/-! ## Whole resolutions -/

/-- A history accounts for what was exchanged in a resolution and for its outcome. -/
structure History.Accounts (dialect : Dialect) {r : Request} (h : History schema options r)
    (log : List Exchange) (o : Except ResolveError ResultValue) : Prop where
  exchanges_eq : h.exchanges dialect = log
  /-- There is a result exactly if nothing is wrong at any level. -/
  isOk_iff : o.isOk = true ↔
    ∀ {r' : Request} (l : History schema options r'), l.Within h → l.Sound
  /-- There is a result only if all tasks of all levels were taken up. -/
  exhausted : o.isOk = true →
    ∀ {r' : Request} (l : History schema options r'), l.Within h → l.Exhausted
  /-- There is no other error than that of a level that failed. -/
  error_eq : ∀ e, o = .error e →
    ∃ (r' : Request) (l : History schema options r'), l.Within h ∧ l.FailsWith e
  /-- Without known fields a level issues nothing. -/
  unclassified : ∀ {r' : Request} (l : History schema options r') (e : ResolveError),
    l.Within h → classified schema options r' = .error e →
      l.isAsked = false ∧ l.started = [] ∧ l.exchanges dialect = 0
  /-- Where any relation's arguments or any row's id are at fault, a level issues its own statement
  and reaches nothing below. -/
  unstarted : ∀ {r' : Request} (l : History schema options r') (selected : Classified r'.node)
    (rows : List Row), l.Within h → classified schema options r' = .ok selected →
      l.answer? = some (.ok rows) → ∀ related ∈ selected.relations,
      (∃ e, Modifiers.ofArguments related.node.arguments options.allowRawOrderBy = .error e) ∨
        (∃ row ∈ parentsOf r'.cardinality rows, rowId? row = none) →
      l.started = [] ∧ l.exchanges dialect = {(sqlOf dialect r' selected, .ok rows)}

theorem Course.accounts {x : Executor σ} {r : Request} {s s' : σ} {log : List Exchange}
    {o : Except ResolveError ResultValue}
    (hcourse : Course x schema options s (.waiting r) log s' (.finished o)) :
    ∃ h : History schema options r, h.Accounts x.dialect log o := by
  obtain ⟨h, hfollows, hlog⟩ := Follows.waiting.course hcourse
  refine ⟨h, ?_, ?_, ?_, ?_, ?_, ?_⟩
  · rw [hlog]
    exact zero_add _
  · cases o with
    | ok v => exact ⟨fun _ _ _ hl => (hfollows.flawless hl).1, fun _ => rfl⟩
    | error e =>
      obtain ⟨r', l, hl, hfails⟩ := hfollows.fails
      exact ⟨fun hok => (nomatch hok), fun hall => absurd (hall l hl) hfails.not_sound⟩
  · intro hok r' l hl
    cases o with
    | ok v => exact (hfollows.flawless hl).2
    | error e => cases hok
  · rintro e rfl
    exact hfollows.fails
  · intro r' l e _ hclassified
    obtain ⟨hasked, hnone, hstarted⟩ := l.isAsked_of_error hclassified x.dialect
    exact ⟨hasked, hstarted, hnone⟩
  · intro r' l selected rows _ hclassified hanswer related hrelated hfault
    exact History.started_of_fault hclassified hanswer hrelated hfault x.dialect

/-- Every resolution, in whatever order its levels are run, is accounted for by a history: it
succeeds exactly if nothing is wrong at any level that it reaches, fails with the error of a level
that fails, and reaches nothing below a level that cannot go on. -/
theorem no_partial_results (x : Executor σ) (schema : Schema) (options : Options) (r : Request) :
    (∀ (s s' : σ) (o : Except ResolveError ResultValue), resolve x schema options r s = (o, s') →
      ∃ log, resolve x.transcribed schema options r (s, []) = (o, (s', log)) ∧
        ∃ h : History schema options r, h.Accounts x.dialect log o) ∧
    ∀ (s s' : σ) (log : List Exchange) (o : Except ResolveError ResultValue),
      Course x schema options s (.waiting r) log s' (.finished o) →
        ∃ h : History schema options r, h.Accounts x.dialect log o := by
  constructor
  · intro s s' o hresolve
    obtain ⟨log, htranscribed, hcourse⟩ := course_of_resolve hresolve
    exact ⟨log, htranscribed, hcourse.accounts⟩
  · intro s s' log o hcourse
    exact hcourse.accounts

/-! ## A post without an id -/

/-- A post that came without its id. -/
def Blog.anonymous : Row := .ofList [("id", .null), ("body", .string "text")]

theorem Blog.resolve_anonymous :
    resolve (executor [row 1, anonymous]) Blog.schema .default (request .empty) () =
      (.error (.missingParentId "Post" "comments"), ()) := by
  rw [resolve_eq, classified_request]
  rfl

/-- The comments of the first post are not asked for, because the second has no id. -/
theorem no_partial_results_anonymous :
    ∃ (log : List Exchange) (h : History Blog.schema .default (Blog.request .empty)),
      resolve (Blog.executor [Blog.row 1, Blog.anonymous]).transcribed Blog.schema .default
        (Blog.request .empty) ((), []) =
          (.error (.missingParentId "Post" "comments"), ((), log)) ∧
      h.Accounts .sqlite log (.error (.missingParentId "Post" "comments")) ∧
      log = [(sqlOf .sqlite (Blog.request .empty) (Blog.selected .empty),
        .ok [Blog.row 1, Blog.anonymous])] := by
  obtain ⟨hresolve, -⟩ := no_partial_results (Blog.executor [Blog.row 1, Blog.anonymous])
    Blog.schema .default (Blog.request .empty)
  obtain ⟨log, htranscribed, h, haccounts⟩ := hresolve () () _ Blog.resolve_anonymous
  refine ⟨log, h, htranscribed, haccounts, ?_⟩
  rw [resolve_eq, Blog.classified_request] at htranscribed
  have hlog := congrArg (fun p => p.2.2) htranscribed
  exact hlog.symm

end Resolution
end SelectionSql
