import SelectionSql.Proofs.Text.Cutting
import SelectionSql.Reader

/-!
# What readers read

* `Reader.bind_of_some`, `bind_of_none`, `orElse_of_some`, `orElse_of_none`: a sequence, resp. an
  alternative, once it is known what its first part does.
* `Reader.bind_eq_some_iff`, `pure_eq_some_iff`, `orElse_eq_some_iff`: what each has read.
* `Reader.char_cons`, `char_of_head`, `satisfy_of_head`, `literal_of_head`: single steps at the
  character they look for, and at another one.
* `Reader.char_eq_some_iff`, `satisfy_eq_some_iff`, `literal_eq_some_iff`, `takeWhile_eq_some_iff`,
  `takeWhile1_eq_some_iff`, `opt_eq_some_iff`: the same of single steps.
-/
set_option autoImplicit false

namespace SelectionSql
namespace Reader
variable {α β : Type} {r s : Reader α} {f : α → Reader β} {a : α} {b : β} {c : Char}
  {p : Char → Bool} {cs rest : List Char}

/-! ## Sequences and alternatives -/

theorem bind_of_some (h : r cs = some (a, rest)) : (r >>= f) cs = f a rest := by
  show (r cs).bind _ = _
  rw [h, Option.bind_some]

theorem bind_of_none (h : r cs = none) : (r >>= f) cs = none := by
  show (r cs).bind _ = _
  rw [h, Option.bind_none]

theorem bind_eq_some_iff : (r >>= f) cs = some (b, rest) ↔
    ∃ a mid, r cs = some (a, mid) ∧ f a mid = some (b, rest) := by
  show (r cs).bind _ = _ ↔ _
  rw [Option.bind_eq_some_iff, Prod.exists]

theorem pure_eq_some_iff {a' : α} :
    (pure a : Reader α) cs = some (a', rest) ↔ a = a' ∧ cs = rest := by
  show some (a, cs) = some (a', rest) ↔ _
  rw [Option.some_inj, Prod.mk.injEq]

theorem orElse_of_some {x : α × List Char} (h : r cs = some x) : (r <|> s) cs = some x := by
  show (r cs <|> s cs) = _
  rw [h]
  rfl

theorem orElse_of_none (h : r cs = none) : (r <|> s) cs = s cs := by
  show (r cs <|> s cs) = _
  rw [h]
  rfl

theorem orElse_eq_some_iff {x : α × List Char} :
    (r <|> s) cs = some x ↔ r cs = some x ∨ r cs = none ∧ s cs = some x := by
  cases h : r cs with
  | none => simp [orElse_of_none h]
  | some y => simp [orElse_of_some h]

/-! ## Single steps -/

theorem char_eq_some_iff {u : Unit} : char c cs = some (u, rest) ↔ cs = c :: rest := by
  cases cs with
  | nil => simp [char]
  | cons d cs =>
    rw [char, List.cons.injEq]
    split
    · next h => simp [h]
    · next h => simp [h]

theorem char_cons (c : Char) (rest : List Char) : char c (c :: rest) = some ((), rest) := if_pos rfl

theorem char_of_head (h : ∀ d ∈ cs.head?, d ≠ c) : char c cs = none := by
  cases cs with
  | nil => rfl
  | cons d cs => rw [char, if_neg (h d rfl)]

theorem satisfy_of_head (h : ∀ d ∈ cs.head?, p d = false) : satisfy p cs = none := by
  cases cs with
  | nil => rfl
  | cons d cs => rw [satisfy, h d rfl, if_neg Bool.false_ne_true]

theorem satisfy_eq_some_iff : satisfy p cs = some (c, rest) ↔ p c = true ∧ cs = c :: rest := by
  cases cs with
  | nil => simp [satisfy]
  | cons d cs =>
    rw [satisfy, List.cons.injEq]
    split
    · next h =>
      simp only [Option.some_inj, Prod.mk.injEq]
      constructor
      · rintro ⟨rfl, rfl⟩
        exact ⟨h, rfl, rfl⟩
      · rintro ⟨-, rfl, rfl⟩
        exact ⟨rfl, rfl⟩
    · next h =>
      simp only [false_iff, not_and, reduceCtorEq]
      rintro hc rfl
      exact absurd hc h

theorem dropLiteral_eq_some_iff {word : List Char} :
    dropLiteral word cs = some rest ↔ cs = word ++ rest := by
  induction word generalizing cs with
  | nil => simp [dropLiteral]
  | cons w word ih =>
    cases cs with
    | nil => simp [dropLiteral]
    | cons c cs =>
      rw [dropLiteral, List.cons_append, List.cons.injEq]
      split
      · next h => rw [ih, h, eq_self, true_and]
      · next h => simp [Ne.symm h]

theorem literal_eq_some_iff {word : String} {u : Unit} :
    literal word cs = some (u, rest) ↔ cs = word.toList ++ rest := by
  rw [literal, Option.map_eq_some_iff]
  simp [dropLiteral_eq_some_iff]

theorem literal_of_head {word : String} {w : Char} {ws : List Char} (hword : word.toList = w :: ws)
    (h : ∀ d ∈ cs.head?, d ≠ w) : literal word cs = none := by
  refine Option.eq_none_iff_forall_ne_some.2 fun x hx => ?_
  rw [literal_eq_some_iff.1 hx, hword] at h
  exact h w rfl rfl

theorem takeWhile_eq_some_iff {run : List Char} : takeWhile p cs = some (run, rest) ↔
    cs = run ++ rest ∧ (∀ c ∈ run, p c = true) ∧ ∀ c ∈ rest.head?, p c = false := by
  rw [takeWhile, Option.some_inj, Prod.mk.injEq]
  constructor
  · rintro ⟨rfl, rfl⟩
    exact ⟨List.takeWhile_append_dropWhile.symm, fun c hc => List.mem_takeWhile_imp hc,
      fun c hc => not_of_mem_head?_dropWhile hc⟩
  · rintro ⟨rfl, hrun, hrest⟩
    exact takeWhile_append_of_head hrun hrest

theorem takeWhile1_eq_some_iff {run : List Char} : takeWhile1 p cs = some (run, rest) ↔
    cs = run ++ rest ∧ run ≠ [] ∧ (∀ c ∈ run, p c = true) ∧ ∀ c ∈ rest.head?, p c = false := by
  simp only [takeWhile1, bind_eq_some_iff, pure_eq_some_iff, satisfy_eq_some_iff,
    takeWhile_eq_some_iff]
  constructor
  · rintro ⟨c, mid, ⟨hc, rfl⟩, others, mid', ⟨rfl, hothers, hrest⟩, rfl, rfl⟩
    exact ⟨rfl, List.cons_ne_nil c others, List.forall_mem_cons.2 ⟨hc, hothers⟩, hrest⟩
  · rintro ⟨rfl, hne, hrun, hrest⟩
    obtain ⟨c, others, rfl⟩ := List.exists_cons_of_ne_nil hne
    obtain ⟨hc, hothers⟩ := List.forall_mem_cons.1 hrun
    exact ⟨c, others ++ rest, ⟨hc, rfl⟩, others, rest, ⟨rfl, hothers, hrest⟩, rfl, rfl⟩

theorem opt_eq_some_iff {x : Option α} : opt r cs = some (x, rest) ↔
    (∃ a, x = some a ∧ r cs = some (a, rest)) ∨ x = none ∧ r cs = none ∧ cs = rest := by
  unfold opt
  cases h : r cs with
  | none => simp [eq_comm]
  | some y =>
    obtain ⟨a, mid⟩ := y
    simp only [Option.some_inj, Prod.mk.injEq, reduceCtorEq, false_and, and_false, or_false]
    constructor
    · rintro ⟨rfl, rfl⟩
      exact ⟨a, rfl, rfl, rfl⟩
    · rintro ⟨b, rfl, rfl, rfl⟩
      exact ⟨rfl, rfl⟩

end Reader
end SelectionSql
