import SelectionSql.Proofs.Resolution.Sequential

/-!
# The order of completion does not matter

Results are found by field and key, and no two sub-resolutions of a level deliver to one place. So
it is all the same in which order they are delivered, at every level and hence in the whole tree.

* `Resolution.attach_eq_of_perm`: delivered in any order, results are attached alike.
* `Resolution.yields_iff_of_concurrency`: what a request yields does not depend on how much may be
  under way at once.
* `Course.eq_sequential`: a course ends as the sequential resolution does.
* `Resolution.order_irrelevant`: all of this, and no course gets stuck.
-/
set_option autoImplicit false

namespace SelectionSql
namespace Resolution
open Selection (Node Related Classified)

/-! ## One level -/

theorem lookup_eq_of_perm {results delivered : Results} (hkeys : (results.map Prod.fst).Nodup)
    (h : delivered.Perm results) (k : String × String) :
    delivered.lookup k = results.lookup k := by
  have hdelivered : (delivered.map Prod.fst).Nodup := (h.map Prod.fst).nodup_iff.2 hkeys
  refine Option.ext fun v => ?_
  rw [lookup_eq_some_iff_mem hdelivered, lookup_eq_some_iff_mem hkeys]
  exact h.mem_iff

theorem attach_eq_of_perm {results delivered : Results} (hkeys : (results.map Prod.fst).Nodup)
    (h : delivered.Perm results) (fields : List String) (row : ResultObject) :
    attach fields delivered row = attach fields results row := by
  have hfield : attachField delivered = attachField results := by
    funext key acc field
    unfold attachField
    rw [lookup_eq_of_perm hkeys h]
  unfold attach
  rw [hfield]

/-! ## The whole tree -/

variable {schema : Schema} {options : Options} {dialect : Dialect}

theorem Yields.of_concurrency {n : Nat} {r : Request} {cost : Multiset Exchange} {v : ResultValue}
    (h : Yields schema { options with maxConcurrency := n } dialect r cost v) :
    Yields schema options dialect r cost v := by
  induction h with
  | missing hclassified hmissing => exact .missing hclassified hmissing
  | level hclassified hpresent hcaller hids _ ih =>
    exact .level hclassified hpresent hcaller hids ih

theorem yields_iff_of_concurrency {n : Nat} {r : Request} {cost : Multiset Exchange}
    {v : ResultValue} :
    Yields schema { options with maxConcurrency := n } dialect r cost v ↔
      Yields schema options dialect r cost v :=
  ⟨.of_concurrency, fun h => by
    have hback : Yields schema { { options with maxConcurrency := n } with
        maxConcurrency := options.maxConcurrency } dialect r cost v := h
    exact hback.of_concurrency⟩

theorem resolvable_iff_of_concurrency {n : Nat} {r : Request}
    {answers : String → Except StorageError (List Row)} :
    Resolvable schema { options with maxConcurrency := n } dialect answers r ↔
      Resolvable schema options dialect answers r := by
  unfold Resolvable
  simp only [yields_iff_of_concurrency]

/-- With answers that depend on the statement alone, a course ends as the sequential resolution
does, with the same value from the same exchanges. -/
theorem Course.eq_sequential {σ : Type} {x : Executor σ}
    {answers : String → Except StorageError (List Row)} (hx : x.AnswersBy answers) {n : Nat}
    {r : Request} {s s' s₁ s₁' : σ} {log log₁ : List Exchange}
    {o o₁ : Except ResolveError ResultValue}
    (h : resolve x.transcribed schema options r (s, []) = (o, (s', log)))
    (h₁ : Course x schema { options with maxConcurrency := n } s₁ (.waiting r) log₁ s₁'
      (.finished o₁)) :
    o₁.isOk = o.isOk ∧ ∀ v, o = .ok v → o₁ = .ok v ∧ log₁.Perm log := by
  obtain ⟨log₂, hcourse⟩ := exists_course x.transcribed schema options r (s, [])
  rw [h] at hcourse
  have hlog : log = [] ++ log₂ := hcourse.transcript
  subst hlog
  have hx' : x.transcribed.AnswersBy answers := fun sql s => hx sql s.1
  have hboth : o₁.isOk = o.isOk := by
    rw [Bool.eq_iff_iff, h₁.isOk_iff hx, hcourse.isOk_iff hx']
    exact resolvable_iff_of_concurrency
  refine ⟨hboth, ?_⟩
  rintro v rfl
  cases o₁ with
  | error e => cases hboth
  | ok v₁ =>
    obtain ⟨hcost, rfl⟩ :=
      (yields_iff_of_concurrency.1 h₁.yields).unique (h₁.answered hx) hcourse.yields
        (hcourse.answered hx')
    exact ⟨rfl, Multiset.coe_eq_coe.1 hcost⟩

/-- Results that are delivered in another order than that of the tasks make the same rows. With
answers that depend on the statement alone, every course, for every bound on what may be under way,
ends as the sequential resolution does, with the same value from the same exchanges; and no course
gets stuck before its end. -/
theorem order_irrelevant (schema : Schema) (options : Options) (r : Request) :
    (∀ (selected : Classified r.node) (rows : List ResultObject) (tasks : List (Task r.node))
      (results delivered : Results) (fields : List String),
      classified schema options r = .ok selected →
      tasksOf options r selected.relations rows = .ok tasks →
      results.map Prod.fst = tasks.map Task.index →
      delivered.Perm results →
      rows.map (attach fields delivered) = rows.map (attach fields results)) ∧
    (∀ (σ : Type) (x : Executor σ) (answers : String → Except StorageError (List Row)),
      x.AnswersBy answers → ∀ (n : Nat) (s s' s₁ s₁' : σ) (log log₁ : List Exchange)
        (o o₁ : Except ResolveError ResultValue),
        resolve x.transcribed schema options r (s, []) = (o, (s', log)) →
        Course x schema { options with maxConcurrency := n } s₁ (.waiting r) log₁ s₁'
          (.finished o₁) →
        o₁.isOk = o.isOk ∧ ∀ v, o = .ok v → o₁ = .ok v ∧ log₁.Perm log) ∧
    (∀ (σ : Type) (x : Executor σ) (s s' : σ) (log : List Exchange) (j : Job),
      Course x schema options s (.waiting r) log s' j → (∀ o, j ≠ .finished o) →
        ∃ log' s'' j', Step x schema options (options.width - j.inFlight) s' j log' s'' j') := by
  refine ⟨?_, ?_, ?_⟩
  · intro selected rows tasks results delivered fields hclassified htasks hkeys hperm
    have hnodup : (results.map Prod.fst).Nodup := by
      rw [hkeys]
      exact nodup_index hclassified htasks
    exact List.map_congr_left fun row _ => attach_eq_of_perm hnodup hperm fields row
  · intro σ x answers hx n s s' s₁ s₁' log log₁ o o₁ h h₁
    exact h₁.eq_sequential hx h
  · intro σ x s s' log j h hj
    exact h.exists_step hj

theorem order_irrelevant_blog :
    (∃ tasks : List (Task (Blog.request .empty).node),
      tasksOf .default (Blog.request .empty) (Blog.selected .empty).relations
        (parentsOf .many [Blog.row 1, Blog.row 2]) = .ok tasks ∧
      tasks.map Task.index = [("comments", "i:1"), ("comments", "i:2")] ∧
      ∀ first second : ResultValue,
        (parentsOf .many [Blog.row 1, Blog.row 2]).map (attach ["comments"]
          [(("comments", "i:2"), second), (("comments", "i:1"), first)]) =
        (parentsOf .many [Blog.row 1, Blog.row 2]).map (attach ["comments"]
          [(("comments", "i:1"), first), (("comments", "i:2"), second)])) ∧
    (∃ log log₁, resolve (Blog.executor [Blog.row 1]).transcribed Blog.schema .default
        (Blog.request .empty) ((), []) = (.ok Blog.answer, ((), log)) ∧
      Course (Blog.executor [Blog.row 1]) Blog.schema ⟨1, true, true⟩ ()
        (.waiting (Blog.request .empty)) log₁ () (.finished (.ok Blog.answer)) ∧
      log₁.Perm log) ∧
    ∃ log s' j', Step (Blog.executor [Blog.row 1]) Blog.schema .default 4 ()
      (.waiting (Blog.request .empty)) log s' j' := by
  obtain ⟨hlevel, hcourses, hstep⟩ :=
    order_irrelevant Blog.schema .default (Blog.request .empty)
  refine ⟨⟨_, rfl, rfl, fun first second => ?_⟩, ?_, ?_⟩
  · exact hlevel (Blog.selected .empty) _ _ _ _ ["comments"] (Blog.classified_request _ _) rfl rfl
      (List.Perm.swap _ _ [])
  · obtain ⟨log, htranscribed, -⟩ := yields_of_resolve Blog.resolve_request
    obtain ⟨log₁, hcourse⟩ := exists_course (Blog.executor [Blog.row 1]) Blog.schema ⟨1, true, true⟩
      (Blog.request .empty) ()
    obtain ⟨-, hvalue⟩ := hcourses Unit (Blog.executor [Blog.row 1]) _ (fun _ _ => rfl) 1
      _ _ _ _ _ _ _ _ htranscribed hcourse
    obtain ⟨hok, hperm⟩ := hvalue Blog.answer rfl
    rw [hok] at hcourse
    exact ⟨log, log₁, htranscribed, hcourse, hperm⟩
  · exact hstep Unit (Blog.executor [Blog.row 1]) () () [] _ .refl fun o h => (nomatch h)

end Resolution
end SelectionSql
