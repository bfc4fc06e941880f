import Mathlib.Data.List.Forall2

/-!
# Computations that may fail

* `bind_eq_ok_iff`: a computation in steps succeeds exactly if every step does.
* `mapM_eq_ok_iff`, `mapM_eq_some_iff`, `forM_eq_ok_iff`: a list of computations succeeds exactly
  if all of them do.
* `bind_eq_error_iff`, `exists_error_of_mapM`: a failure is that of one step.
* `FirstFault`, `mapM_eq_error_iff`: a list of computations fails as the first one that does.
* `Run.bind_apply`, `Run.lift_apply`: steps taken on a state.
-/
set_option autoImplicit false

namespace SelectionSql
variable {ε α β : Type}

theorem bind_eq_ok_iff {m : Except ε α} {f : α → Except ε β} {b : β} :
    (m >>= f) = .ok b ↔ ∃ a, m = .ok a ∧ f a = .ok b := by
  cases m with
  | error e => exact ⟨fun h => (nomatch h), fun ⟨_, h, _⟩ => (nomatch h)⟩
  | ok a => exact ⟨fun h => ⟨a, rfl, h⟩, fun ⟨_, h, h'⟩ => by cases h; exact h'⟩

theorem bind_eq_error_iff {m : Except ε α} {f : α → Except ε β} {e : ε} :
    (m >>= f) = .error e ↔ m = .error e ∨ ∃ a, m = .ok a ∧ f a = .error e := by
  cases m with
  | error e' =>
    constructor
    · intro h
      cases h
      exact .inl rfl
    · rintro (h | ⟨_, h, _⟩)
      · cases h
        rfl
      · cases h
  | ok a =>
    constructor
    · exact fun h => .inr ⟨a, rfl, h⟩
    · rintro (h | ⟨_, h, h'⟩)
      · cases h
      · cases h
        exact h'

theorem exists_ok_iff {m : Except ε α} : (∃ a, m = .ok a) ↔ ∀ e, m ≠ .error e := by
  cases m with
  | error e => exact ⟨fun ⟨_, h⟩ => (nomatch h), fun h => absurd rfl (h e)⟩
  | ok a => exact ⟨fun _ _ h => (nomatch h), fun _ => ⟨a, rfl⟩⟩

theorem mapError_eq_ok_iff {ε' : Type} {m : Except ε α} {f : ε → ε'} {a : α} :
    m.mapError f = .ok a ↔ m = .ok a := by
  cases m with
  | error e => exact ⟨fun h => (nomatch h), fun h => (nomatch h)⟩
  | ok a' => exact ⟨fun h => by cases h; rfl, fun h => by cases h; rfl⟩

theorem mapM_eq_ok_iff [Inhabited β] {f : α → Except ε β} {l : List α} {values : List β} :
    l.mapM f = .ok values ↔ ∃ g : α → β, (∀ a ∈ l, f a = .ok (g a)) ∧ values = l.map g := by
  constructor
  · intro h
    refine ⟨fun a => (f a).toOption.getD default, ?_⟩
    induction l generalizing values with
    | nil =>
      cases h
      exact ⟨by simp, rfl⟩
    | cons a rest ih =>
      rw [List.mapM_cons] at h
      obtain ⟨b, ha, h⟩ := bind_eq_ok_iff.1 h
      obtain ⟨bs, hrest, h⟩ := bind_eq_ok_iff.1 h
      cases h
      obtain ⟨hall, hvalues⟩ := ih hrest
      refine ⟨?_, ?_⟩
      · intro c hc
        rcases List.mem_cons.1 hc with rfl | hc
        · show f c = .ok ((f c).toOption.getD default)
          rw [ha]
          rfl
        · exact hall c hc
      · rw [List.map_cons, ← hvalues, ha]
        rfl
  · rintro ⟨g, hall, rfl⟩
    induction l with
    | nil => rfl
    | cons a rest ih =>
      rw [List.mapM_cons, hall a List.mem_cons_self,
        ih fun b hb => hall b (List.mem_cons_of_mem a hb)]
      rfl

theorem exists_error_of_mapM {f : α → Except ε β} {l : List α} {e : ε}
    (h : l.mapM f = .error e) : ∃ a ∈ l, f a = .error e := by
  induction l with
  | nil => cases h
  | cons a rest ih =>
    rw [List.mapM_cons] at h
    rcases bind_eq_error_iff.1 h with ha | ⟨b, -, h⟩
    · exact ⟨a, List.mem_cons_self, ha⟩
    · rcases bind_eq_error_iff.1 h with hrest | ⟨bs, -, h⟩
      · obtain ⟨a', ha', he⟩ := ih hrest
        exact ⟨a', List.mem_cons_of_mem a ha', he⟩
      · cases h

theorem mapM_eq_some_iff {f : α → Option β} {l : List α} {values : List β} :
    l.mapM f = some values ↔ List.Forall₂ (fun a b => f a = some b) l values := by
  induction l generalizing values with
  | nil => simp [eq_comm]
  | cons a rest ih =>
    rw [List.mapM_cons, List.forall₂_cons_left_iff]
    simp only [Option.bind_eq_bind, Option.bind_eq_some_iff, Option.pure_def, Option.some_inj, ih]
    constructor
    · rintro ⟨b, hb, bs, hbs, rfl⟩
      exact ⟨b, bs, hb, hbs, rfl⟩
    · rintro ⟨b, bs, hb, hbs, rfl⟩
      exact ⟨b, hb, bs, hbs, rfl⟩

/-- Something is wrong with an element of a list, and nothing with those before it. -/
def FirstFault (fault : α → ε → Prop) (l : List α) (e : ε) : Prop :=
  ∃ before a after, l = before ++ a :: after ∧ (∀ b ∈ before, ∀ e', ¬ fault b e') ∧ fault a e

theorem firstFault_cons {fault : α → ε → Prop} {a : α} {rest : List α} {e : ε} :
    FirstFault fault (a :: rest) e ↔
      fault a e ∨ (∀ e', ¬ fault a e') ∧ FirstFault fault rest e := by
  constructor
  · rintro ⟨before, b, after, hl, hbefore, hb⟩
    cases before with
    | nil =>
      obtain ⟨rfl, rfl⟩ := List.cons.inj hl
      exact .inl hb
    | cons c before =>
      obtain ⟨rfl, rfl⟩ := List.cons.inj hl
      obtain ⟨hc, hbefore⟩ := List.forall_mem_cons.1 hbefore
      exact .inr ⟨hc, before, b, after, rfl, hbefore, hb⟩
  · rintro (ha | ⟨ha, before, b, after, rfl, hbefore, hb⟩)
    · exact ⟨[], a, rest, rfl, by simp, ha⟩
    · exact ⟨a :: before, b, after, rfl, List.forall_mem_cons.2 ⟨ha, hbefore⟩, hb⟩

theorem firstFault_map {γ : Type} {fault : α → ε → Prop} {f : γ → α} {l : List γ} {e : ε} :
    FirstFault fault (l.map f) e ↔ FirstFault (fun c => fault (f c)) l e := by
  induction l with
  | nil => simp [FirstFault]
  | cons c rest ih => rw [List.map_cons, firstFault_cons, firstFault_cons, ih]

/-- If something is wrong with an element at all, there is a first one. -/
theorem exists_firstFault_iff {fault : α → ε → Prop} {l : List α} :
    (∃ e, FirstFault fault l e) ↔ ∃ a ∈ l, ∃ e, fault a e := by
  induction l with
  | nil => simp [FirstFault]
  | cons a rest ih =>
    simp only [firstFault_cons, exists_or, exists_and_left, ih, List.mem_cons, or_and_right,
      exists_eq_left]
    by_cases ha : ∃ e, fault a e
    · simp [ha]
    · simp [not_exists.1 ha]

/-- Where elements at fault stay at fault, a first fault stays one, perhaps an earlier one. -/
theorem FirstFault.exists_mono {fault fault' : α → ε → Prop} {l : List α} {e : ε}
    (h : FirstFault fault l e) (hmono : ∀ a e, fault a e → ∃ e', fault' a e') :
    ∃ e', FirstFault fault' l e' := by
  obtain ⟨a, ha, e', hfault⟩ := exists_firstFault_iff.1 ⟨e, h⟩
  exact exists_firstFault_iff.2 ⟨a, ha, hmono a e' hfault⟩

theorem firstFault_congr {fault fault' : α → ε → Prop} {l : List α}
    (h : ∀ a ∈ l, ∀ e, fault a e ↔ fault' a e) {e : ε} :
    FirstFault fault l e ↔ FirstFault fault' l e := by
  induction l with
  | nil => simp [FirstFault]
  | cons a rest ih =>
    obtain ⟨ha, hrest⟩ := List.forall_mem_cons.1 h
    simp only [firstFault_cons, ha, ih hrest]

theorem mapM_eq_error_iff {f : α → Except ε β} {l : List α} {e : ε} :
    l.mapM f = .error e ↔ FirstFault (fun a e => f a = .error e) l e := by
  induction l with
  | nil => exact ⟨fun h => (nomatch h), by simp [FirstFault]⟩
  | cons a rest ih =>
    have hrest : ∀ b, (rest.mapM f >>= fun bs => pure (b :: bs)) = .error e ↔
        rest.mapM f = .error e := by
      intro b
      rw [bind_eq_error_iff]
      exact ⟨fun h => h.elim id fun ⟨_, _, h⟩ => (nomatch h), .inl⟩
    rw [List.mapM_cons, bind_eq_error_iff, firstFault_cons, ← ih]
    simp only [hrest]
    cases f a with
    | error e' => simp
    | ok b => simp

theorem forM_eq_ok_iff {f : α → Except ε Unit} {l : List α} :
    l.forM f = .ok () ↔ ∀ a ∈ l, f a = .ok () := by
  induction l with
  | nil => exact ⟨fun _ a ha => (nomatch ha), fun _ => rfl⟩
  | cons a rest ih =>
    show (f a >>= fun _ => rest.forM f) = .ok () ↔ _
    rw [bind_eq_ok_iff, List.forall_mem_cons]
    constructor
    · rintro ⟨⟨⟩, ha, hrest⟩
      exact ⟨ha, ih.1 hrest⟩
    · rintro ⟨ha, hrest⟩
      exact ⟨(), ha, ih.2 hrest⟩

/-! ## Runs on a state -/

namespace Run
variable {σ : Type}

theorem bind_apply (m : ExceptT ε (StateM σ) α) (f : α → ExceptT ε (StateM σ) β) (s : σ) :
    (m >>= f) s = match m s with
      | (.ok a, s') => f a s'
      | (.error e, s') => (.error e, s') := by
  show ExceptT.bindCont f (m s).1 (m s).2 = _
  cases m s with
  | mk o s' => cases o <;> rfl

theorem pure_apply (a : α) (s : σ) : (pure a : ExceptT ε (StateM σ) α) s = (.ok a, s) := rfl

theorem lift_apply (m : Except ε α) (s : σ) : (liftM m : ExceptT ε (StateM σ) α) s = (m, s) := rfl

end Run

end SelectionSql
