import Mathlib.Algebra.Order.Field.Power
import Mathlib.Data.Rat.Cast.Order
import Mathlib.Tactic.Linarith
import Mathlib.Tactic.Positivity
import Mathlib.Tactic.Ring
import SelectionSql.Binary64.Shortest

/-!
# How many digits stand before the point

`Binary64.decimalPoint` guesses from the binary length and looks at the neighbours of the guess.

* `Binary64.two_pow_le_ten_pow`, `ten_pow_le_two_pow`: powers of two and ten whose exponents stand
  as 100000 to 30103.
* `Binary64.guess_bounds`: the guess is off by one at most.
* `Binary64.decimalPoint_spec`: what is found is the place of the first digit.
-/
set_option autoImplicit false

namespace SelectionSql
namespace Binary64

/-! ## Powers of two and ten -/

theorem ratio_lower : (2 : Nat) ^ 100000 ≤ 10 ^ 30103 := by decide +kernel

theorem ratio_upper : (10 : Nat) ^ 30103 ≤ 2 ^ 100001 := by decide +kernel

theorem two_pow_le_ten_pow {l g : Nat} (h : 30103 * l ≤ 100000 * g) : (2 : Nat) ^ l ≤ 10 ^ g := by
  refine (Nat.pow_le_pow_iff_left (by decide : 100000 ≠ 0)).1 ?_
  calc ((2 : Nat) ^ l) ^ 100000
      = (2 ^ 100000) ^ l := by rw [← pow_mul, ← pow_mul, Nat.mul_comm]
    _ ≤ (10 ^ 30103) ^ l := Nat.pow_le_pow_left ratio_lower l
    _ = 10 ^ (30103 * l) := by rw [← pow_mul]
    _ ≤ 10 ^ (100000 * g) := Nat.pow_le_pow_right (by decide) h
    _ = (10 ^ g) ^ 100000 := by rw [← pow_mul, Nat.mul_comm]

theorem ten_pow_le_two_pow {l g : Nat} (h : 100000 * g ≤ 30103 * l) (hl : l ≤ 100000) :
    (10 : Nat) ^ g ≤ 2 ^ (l + 1) := by
  refine (Nat.pow_le_pow_iff_left (by decide : 100000 ≠ 0)).1 ?_
  calc ((10 : Nat) ^ g) ^ 100000
      = 10 ^ (100000 * g) := by rw [← pow_mul, Nat.mul_comm]
    _ ≤ 10 ^ (30103 * l) := Nat.pow_le_pow_right (by decide) h
    _ = (10 ^ 30103) ^ l := by rw [← pow_mul]
    _ ≤ (2 ^ 100001) ^ l := Nat.pow_le_pow_left ratio_upper l
    _ = 2 ^ (100001 * l) := by rw [← pow_mul]
    _ ≤ 2 ^ (100000 * (l + 1)) := Nat.pow_le_pow_right (by decide) (by omega)
    _ = (2 ^ (l + 1)) ^ 100000 := by rw [← pow_mul, Nat.mul_comm]

theorem ten_zpow_neg_le {l g : Nat} (h : 30103 * l ≤ 100000 * g) :
    (10 : ℚ) ^ (-(g : ℤ)) ≤ 2 ^ (-(l : ℤ)) := by
  rw [zpow_neg, zpow_neg, zpow_natCast, zpow_natCast]
  exact inv_anti₀ (by positivity) (by exact_mod_cast two_pow_le_ten_pow h)

theorem two_zpow_neg_le {l g : Nat} (h : 100000 * g ≤ 30103 * l) (hl : l ≤ 100000) :
    (2 : ℚ) ^ (-(l : ℤ) - 1) ≤ 10 ^ (-(g : ℤ)) := by
  have hexponent : -(l : ℤ) - 1 = -((l + 1 : Nat) : ℤ) := by
    push_cast
    ring
  rw [hexponent, zpow_neg, zpow_neg, zpow_natCast, zpow_natCast]
  exact inv_anti₀ (by positivity) (by exact_mod_cast ten_pow_le_two_pow h hl)

/-- A power of ten guessed from a binary length is off by a small factor. -/
theorem guess_bounds (length guess : ℤ) (hlow : 100000 * guess ≤ 30103 * length)
    (hhigh : 30103 * length < 100000 * (guess + 1)) (hsmall : -100000 ≤ length)
    (hlarge : length ≤ 100000) :
    (10 : ℚ) ^ guess ≤ 2 ^ (length + 1) ∧ (2 : ℚ) ^ (length - 1) ≤ 10 ^ (guess + 1) := by
  rcases le_or_gt 0 length with hpos | hneg
  · obtain ⟨l, rfl⟩ := Int.eq_ofNat_of_zero_le hpos
    obtain ⟨g, rfl⟩ := Int.eq_ofNat_of_zero_le (by omega : 0 ≤ guess)
    constructor
    · have h := ten_pow_le_two_pow (l := l) (g := g) (by omega) (by omega)
      exact_mod_cast h
    · have h := two_pow_le_ten_pow (l := l) (g := g + 1) (by omega)
      calc (2 : ℚ) ^ ((l : ℤ) - 1)
          ≤ 2 ^ (l : ℤ) := zpow_le_zpow_right₀ (by norm_num) (by omega)
        _ ≤ 10 ^ ((g : ℤ) + 1) := by exact_mod_cast h
  · obtain ⟨l, rfl⟩ : ∃ l : Nat, length = -(l : ℤ) := ⟨length.natAbs, by omega⟩
    constructor
    · obtain ⟨g, rfl⟩ : ∃ g : Nat, guess = -(g : ℤ) := ⟨guess.natAbs, by omega⟩
      calc (10 : ℚ) ^ (-(g : ℤ))
          ≤ 2 ^ (-(l : ℤ)) := ten_zpow_neg_le (by omega)
        _ ≤ 2 ^ (-(l : ℤ) + 1) := zpow_le_zpow_right₀ (by norm_num) (by omega)
    · obtain ⟨g, hg⟩ : ∃ g : Nat, guess + 1 = -(g : ℤ) := ⟨(guess + 1).natAbs, by omega⟩
      rw [hg]
      exact two_zpow_neg_le (by omega) (by omega)

/-! ## The place of the first digit -/

theorem belowPowerOfTen_iff (num : Nat) {den : Nat} (hden : 0 < den) (e : ℤ) :
    belowPowerOfTen num den e = true ↔ (num : ℚ) / den < 10 ^ e := by
  have hdenQ : (0 : ℚ) < den := by exact_mod_cast hden
  unfold belowPowerOfTen
  rcases le_or_gt 0 e with hpos | hneg
  · obtain ⟨k, rfl⟩ := Int.eq_ofNat_of_zero_le hpos
    rw [if_pos hpos, decide_eq_true_iff, div_lt_iff₀ hdenQ, zpow_natCast, Int.toNat_natCast,
      Nat.pow_eq, mul_comm ((10 : ℚ) ^ k)]
    exact_mod_cast Iff.rfl
  · obtain ⟨k, rfl⟩ : ∃ k : Nat, e = -(k : ℤ) := ⟨e.natAbs, by omega⟩
    have hten : (0 : ℚ) < 10 ^ k := by positivity
    rw [if_neg (not_le.2 hneg), decide_eq_true_iff, div_lt_iff₀ hdenQ, zpow_neg, zpow_natCast,
      neg_neg, Int.toNat_natCast, Nat.pow_eq, ← div_eq_inv_mul, lt_div_iff₀ hten]
    exact_mod_cast Iff.rfl

/-- A fraction lies within its binary length. -/
theorem fraction_bounds {num den : Nat} (hnum : 0 < num) (hden : 0 < den) :
    (2 : ℚ) ^ ((num.log2 : ℤ) - den.log2 - 1) ≤ (num : ℚ) / den ∧
      (num : ℚ) / den < 2 ^ ((num.log2 : ℤ) - den.log2 + 1) := by
  have hdenQ : (0 : ℚ) < den := by exact_mod_cast hden
  have hnumLow : (2 : ℚ) ^ num.log2 ≤ num := by exact_mod_cast Nat.log2_self_le hnum.ne'
  have hnumHigh : (num : ℚ) < 2 ^ (num.log2 + 1) := by exact_mod_cast Nat.lt_log2_self
  have hdenLow : (2 : ℚ) ^ den.log2 ≤ den := by exact_mod_cast Nat.log2_self_le hden.ne'
  have hdenHigh : (den : ℚ) < 2 ^ (den.log2 + 1) := by exact_mod_cast Nat.lt_log2_self
  constructor
  · have hexponent : (num.log2 : ℤ) - den.log2 - 1 = (num.log2 : ℤ) - (den.log2 + 1 : Nat) := by
      push_cast
      ring
    rw [hexponent, zpow_sub₀ (by norm_num), zpow_natCast, zpow_natCast]
    exact div_le_div₀ (by positivity) hnumLow hdenQ hdenHigh.le
  · have hexponent : (num.log2 : ℤ) - den.log2 + 1 = (num.log2 + 1 : Nat) - (den.log2 : ℤ) := by
      push_cast
      ring
    rw [hexponent, zpow_sub₀ (by norm_num), zpow_natCast, zpow_natCast]
    exact div_lt_div₀ hnumHigh hdenLow (by positivity) (by positivity)

/-- The least power of ten above a fraction. -/
theorem decimalPoint_spec {num den : Nat} (hnum : 0 < num) (hden : 0 < den)
    (hnumSmall : num.log2 ≤ 100000) (hdenSmall : den.log2 ≤ 100000) :
    (10 : ℚ) ^ (decimalPoint num den - 1) ≤ (num : ℚ) / den ∧
      (num : ℚ) / den < 10 ^ decimalPoint num den := by
  obtain ⟨hvalueLow, hvalueHigh⟩ := fraction_bounds hnum hden
  have hbelow := belowPowerOfTen_iff num hden
  unfold decimalPoint
  generalize hlength : (num.log2 : ℤ) - den.log2 = length at hvalueLow hvalueHigh ⊢
  generalize hguess : length * 30103 / 100000 = guess
  obtain ⟨hguessLow, hguessHigh⟩ :=
    guess_bounds length guess (by omega) (by omega) (by omega) (by omega)
  have htwo : (2 : ℚ) ^ (length + 1) = 4 * 2 ^ (length - 1) := by
    rw [show length + 1 = length - 1 + 2 by ring, zpow_add₀ (by norm_num)]
    ring
  have htwoPos : (0 : ℚ) < 2 ^ (length - 1) := by positivity
  have hmin : (10 : ℚ) ^ (guess - 2) ≤ (num : ℚ) / den := by
    rw [zpow_sub₀ (by norm_num)]
    norm_num
    linarith
  have hmax : (num : ℚ) / den < 10 ^ (guess + 2) := by
    rw [show guess + 2 = guess + 1 + 1 by ring, zpow_add_one₀ (by norm_num)]
    linarith
  dsimp only
  by_cases h₁ : belowPowerOfTen num den (guess - 1) = true
  · rw [List.find?_cons_of_pos h₁, Option.getD_some, sub_sub]
    exact ⟨hmin, (hbelow _).1 h₁⟩
  have h₁' := not_lt.1 (mt (hbelow _).2 h₁)
  rw [List.find?_cons_of_neg h₁]
  by_cases h₂ : belowPowerOfTen num den guess = true
  · rw [List.find?_cons_of_pos h₂, Option.getD_some]
    exact ⟨h₁', (hbelow _).1 h₂⟩
  have h₂' := not_lt.1 (mt (hbelow _).2 h₂)
  rw [List.find?_cons_of_neg h₂]
  by_cases h₃ : belowPowerOfTen num den (guess + 1) = true
  · rw [List.find?_cons_of_pos h₃, Option.getD_some, add_sub_cancel_right]
    exact ⟨h₂', (hbelow _).1 h₃⟩
  have h₃' := not_lt.1 (mt (hbelow _).2 h₃)
  rw [List.find?_cons_of_neg h₃, List.find?_nil, Option.getD_none,
    show guess + 2 - 1 = guess + 1 by ring]
  exact ⟨h₃', hmax⟩

end Binary64
end SelectionSql
