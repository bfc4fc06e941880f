import Mathlib.Data.Nat.Cast.Order.Field
import SelectionSql.Proofs.Binary64.DecimalPoint
import SelectionSql.Proofs.Binary64.Interval

/-!
# The shortest digits lie in the interval

* `Binary64.candidate?_spec`: a candidate is next to the double on its grid and lies in the
  interval; there is none only if neither neighbour does.
* `Binary64.candidate?_seventeen`: with seventeen digits there is one.
* `Binary64.shortest_spec`: the number that the shortest digits name rounds to the double.
-/
set_option autoImplicit false

namespace SelectionSql
namespace Binary64

/-! ## The grid of `n` digits -/

theorem grid_eq (e : ℤ) :
    ((if 0 ≤ e then Nat.pow 10 e.toNat else 1 : Nat) : ℚ) /
      (if 0 ≤ e then 1 else Nat.pow 10 (-e).toNat : Nat) = 10 ^ e := by
  rcases le_or_gt 0 e with hpos | hneg
  · obtain ⟨k, rfl⟩ := Int.eq_ofNat_of_zero_le hpos
    rw [if_pos hpos, if_pos hpos, zpow_natCast, Int.toNat_natCast, Nat.pow_eq]
    push_cast
    ring
  · obtain ⟨k, rfl⟩ : ∃ k : Nat, e = -(k : ℤ) := ⟨e.natAbs, by omega⟩
    rw [if_neg (not_le.2 hneg), if_neg (not_le.2 hneg), zpow_neg, zpow_natCast, neg_neg,
      Int.toNat_natCast, Nat.pow_eq]
    push_cast
    ring

theorem inside_iff {i : Interval} (hden : 0 < i.den) {fine coarse : Nat} (hfine : 0 < fine)
    (hcoarse : 0 < coarse) (c : Nat) :
    (if i.closed then
        decide (i.low * fine ≤ c * (coarse * i.den) ∧ c * (coarse * i.den) ≤ i.high * fine)
      else decide (i.low * fine < c * (coarse * i.den) ∧ c * (coarse * i.den) < i.high * fine))
        = true ↔ i.Contains ((c : ℚ) / (fine / coarse)) := by
  have hdenQ : (0 : ℚ) < i.den := by exact_mod_cast hden
  have hfineQ : (0 : ℚ) < fine := by exact_mod_cast hfine
  have hcoarseQ : (0 : ℚ) < coarse := by exact_mod_cast hcoarse
  unfold Interval.Contains
  rw [div_div_eq_mul_div]
  split
  · rw [decide_eq_true_iff, div_le_div_iff₀ hdenQ hfineQ, div_le_div_iff₀ hfineQ hdenQ, mul_assoc]
    exact_mod_cast Iff.rfl
  · rw [decide_eq_true_iff, div_lt_div_iff₀ hdenQ hfineQ, div_lt_div_iff₀ hfineQ hdenQ, mul_assoc]
    exact_mod_cast Iff.rfl

theorem grid_pos (e : ℤ) :
    0 < (if 0 ≤ e then Nat.pow 10 e.toNat else 1) ∧
      0 < (if 0 ≤ e then 1 else Nat.pow 10 (-e).toNat) := by
  split
  · exact ⟨Nat.pow_pos (by decide), Nat.one_pos⟩
  · exact ⟨Nat.one_pos, Nat.pow_pos (by decide)⟩

/-- The value lies between its two neighbours on a grid. -/
theorem grid_floor (value : Nat) {den coarse : Nat} (hden : 0 < den) (hcoarse : 0 < coarse)
    (fine : Nat) :
    ((value * fine / (coarse * den) : Nat) : ℚ) ≤ (value : ℚ) / den * (fine / coarse) ∧
      (value : ℚ) / den * (fine / coarse) < (value * fine / (coarse * den) + 1 : Nat) := by
  have hunit : 0 < coarse * den := Nat.mul_pos hcoarse hden
  have hunitQ : (0 : ℚ) < (coarse * den : Nat) := by exact_mod_cast hunit
  have hvalue : (value : ℚ) / den * (fine / coarse) =
      (value * fine : Nat) / (coarse * den : Nat) := by
    push_cast
    rw [div_mul_div_comm, mul_comm (den : ℚ)]
  rw [hvalue]
  refine ⟨Nat.cast_div_le, ?_⟩
  rw [div_lt_iff₀ hunitQ]
  exact_mod_cast Nat.lt_mul_of_div_lt (Nat.lt_succ_self _) hunit

/-- A candidate is one of the two neighbours of the value on the grid of `n` digits. It lies in the
interval, and is missing only if neither does. -/
theorem candidate?_spec (tie : Tie) {i : Interval} (hden : 0 < i.den) (point : ℤ) (n : Nat) :
    ∃ q : Nat, (q : ℚ) ≤ (i.value : ℚ) / i.den * 10 ^ ((n : ℤ) - point) ∧
      (i.value : ℚ) / i.den * 10 ^ ((n : ℤ) - point) < (q + 1 : Nat) ∧
      (∀ c, candidate? tie i point n = some c →
        (c = q ∨ c = q + 1) ∧ i.Contains ((c : ℚ) / 10 ^ ((n : ℤ) - point))) ∧
      (candidate? tie i point n = none →
        ¬i.Contains ((q : ℚ) / 10 ^ ((n : ℤ) - point)) ∧
          ¬i.Contains (((q + 1 : Nat) : ℚ) / 10 ^ ((n : ℤ) - point))) := by
  have hgrid := grid_eq ((n : ℤ) - point)
  have hcoarseEq : (if 0 ≤ (n : ℤ) - point then 1 else Nat.pow 10 (point - (n : ℤ)).toNat) =
      (if 0 ≤ (n : ℤ) - point then 1 else Nat.pow 10 (-((n : ℤ) - point)).toNat) := by
    rw [neg_sub]
  obtain ⟨hfine, hcoarse⟩ := grid_pos ((n : ℤ) - point)
  unfold candidate?
  dsimp only
  rw [hcoarseEq]
  generalize (if 0 ≤ (n : ℤ) - point then Nat.pow 10 ((n : ℤ) - point).toNat else 1) = fine at *
  generalize (if 0 ≤ (n : ℤ) - point then 1
      else Nat.pow 10 (-((n : ℤ) - point)).toNat) = coarse at *
  rw [← hgrid]
  have hinside := inside_iff hden hfine hcoarse
  obtain ⟨hfloor, hnext⟩ := grid_floor i.value hden hcoarse fine
  refine ⟨i.value * fine / (coarse * i.den), hfloor, hnext, ?_, ?_⟩
  · intro c hc
    split at hc
    · next hlow hhigh =>
      cases hc
      split
      · exact ⟨.inr rfl, (hinside _).1 hhigh⟩
      · exact ⟨.inl rfl, (hinside _).1 hlow⟩
    · next hlow hhigh =>
      cases hc
      exact ⟨.inl rfl, (hinside _).1 hlow⟩
    · next hlow hhigh =>
      cases hc
      exact ⟨.inr rfl, (hinside _).1 hhigh⟩
    · cases hc
  · intro hnone
    split at hnone
    · cases hnone
    · cases hnone
    · cases hnone
    · next hlow hhigh =>
      exact ⟨fun h => Bool.false_ne_true (hlow.symm.trans ((hinside _).2 h)),
        fun h => Bool.false_ne_true (hhigh.symm.trans ((hinside _).2 h))⟩

/-! ## Seventeen digits suffice -/

theorem significand_lt (b : Binary64) : b.significand < 2 ^ 53 := by
  have hfraction := b.fractionBits_lt
  have hpow : Nat.pow 2 52 = 4503599627370496 := by decide
  unfold significand
  rw [hpow] at hfraction ⊢
  split <;> omega

theorem below_bound (b : Binary64) : 4 * b.significand < (2 + b.below) * 10 ^ 16 := by
  have hsignificand := b.significand_lt
  have hpow : Nat.pow 2 52 = 4503599627370496 := by decide
  unfold below
  split
  · next hsmallest =>
    rw [significand, hsmallest.1, hpow, if_neg (by omega)]
    decide
  · omega

theorem below_le (b : Binary64) : b.below ≤ 2 := by
  unfold below
  split <;> decide

theorem power_bounds (b : Binary64) : -1074 ≤ b.power ∧ b.power < 1000 := by
  have hexponent : b.exponentBits < 2048 := Nat.mod_lt _ (by decide)
  unfold power
  omega

theorem interval_value_pos {b : Binary64} (hb : 0 < b.significand) : 0 < b.interval.value := by
  refine Nat.mul_pos (Nat.mul_pos (by decide) hb) ?_
  split
  · exact Nat.pow_pos (by decide)
  · exact Nat.one_pos

theorem log2_value_le {b : Binary64} (hb : 0 < b.significand) :
    b.interval.value.log2 ≤ 100000 := by
  have hpower := b.power_bounds
  have hscale : (if 0 ≤ b.power - 2 then Nat.pow 2 (b.power - 2).toNat else 1) ≤
      2 ^ (b.power - 2).toNat := by
    split
    · exact Nat.le_refl _
    · exact Nat.one_le_two_pow
  have hvalue : b.interval.value < 2 ^ (55 + (b.power - 2).toNat) := by
    rw [pow_add]
    refine Nat.mul_lt_mul_of_lt_of_le ?_ hscale (Nat.pow_pos (by decide))
    have hsignificand := b.significand_lt
    omega
  have hlog := (Nat.log2_lt (interval_value_pos hb).ne').2 hvalue
  omega

theorem log2_den_le (b : Binary64) : b.interval.den.log2 ≤ 100000 := by
  have hpower := b.power_bounds
  have hden : b.interval.den < 2 ^ ((-(b.power - 2)).toNat + 1) := by
    unfold interval
    dsimp only
    split
    · exact Nat.one_lt_two_pow (by omega)
    · exact Nat.pow_lt_pow_right (by decide) (by omega)
  have hlog := (Nat.log2_lt b.interval_den_pos.ne').2 hden
  omega

theorem decimalPoint_interval {b : Binary64} (hb : 0 < b.significand) :
    (10 : ℚ) ^ (decimalPoint b.interval.value b.interval.den - 1) ≤
        (b.interval.value : ℚ) / b.interval.den ∧
      (b.interval.value : ℚ) / b.interval.den <
        10 ^ decimalPoint b.interval.value b.interval.den :=
  decimalPoint_spec (interval_value_pos hb) b.interval_den_pos (log2_value_le hb) b.log2_den_le

/-- If both neighbours of a double on a grid lie outside, then its interval is no wider than a step
of the grid. -/
theorem width_le_of_outside {b : Binary64} (hb : 0 < b.significand) {q : Nat} {step : ℚ}
    (hstep : 0 < step)
    (hq : (q : ℚ) ≤ (b.interval.value : ℚ) / b.interval.den * step)
    (hq' : (b.interval.value : ℚ) / b.interval.den * step < (q + 1 : Nat))
    (hlow : ¬b.interval.Contains ((q : ℚ) / step))
    (hhigh : ¬b.interval.Contains (((q + 1 : Nat) : ℚ) / step)) :
    (2 + b.below : ℚ) * (b.quarter * step) ≤ 1 := by
  have hw := b.quarter_pos
  have hbelow := b.below_le
  have hbelowPos : 0 < b.below := by
    unfold below
    split <;> decide
  have hbelowQ : (0 : ℚ) < b.below := by exact_mod_cast hbelowPos
  rw [interval_value] at hq hq'
  have hlowEnd := b.interval_low
  have hhighEnd := b.interval_high
  rw [Nat.cast_sub (by omega)] at hlowEnd
  have hbefore : (q : ℚ) / step ≤ (b.interval.low : ℚ) / b.interval.den := by
    by_contra hinside
    refine hlow (Interval.contains_of_strict (not_le.1 hinside) ?_)
    refine ((div_le_iff₀ hstep).2 hq).trans_lt ?_
    rw [hhighEnd]
    push_cast
    linarith
  have hafter : (b.interval.high : ℚ) / b.interval.den ≤ ((q + 1 : Nat) : ℚ) / step := by
    by_contra hinside
    refine hhigh (Interval.contains_of_strict ?_ (not_le.1 hinside))
    refine lt_of_lt_of_le ?_ ((lt_div_iff₀ hstep).2 hq').le
    rw [hlowEnd]
    push_cast
    have := mul_pos hbelowQ hw
    linarith
  rw [hlowEnd, div_le_iff₀ hstep] at hbefore
  rw [hhighEnd, le_div_iff₀ hstep] at hafter
  push_cast at hbefore hafter
  linarith

/-- The interval is wider than a step of the grid on which the double has seventeen digits. -/
theorem one_lt_width {b : Binary64} {point : ℤ}
    (hpoint : (10 : ℚ) ^ (point - 1) ≤ (4 * b.significand : Nat) * b.quarter) :
    1 < (2 + b.below : ℚ) * (b.quarter * 10 ^ ((17 : Nat) - point : ℤ)) := by
  have hstep : (0 : ℚ) < 10 ^ ((17 : Nat) - point : ℤ) := by positivity
  have hexponent : ((17 : Nat) : ℤ) - point + (point - 1) = (16 : Nat) := by
    push_cast
    ring
  have hshift : (10 : ℚ) ^ ((17 : Nat) - point : ℤ) * 10 ^ (point - 1) = 10 ^ 16 := by
    rw [← zpow_add₀ (by norm_num), hexponent, zpow_natCast]
  generalize (10 : ℚ) ^ ((17 : Nat) - point : ℤ) = step at *
  have hlarge : (10 : ℚ) ^ 16 ≤ 4 * b.significand * (b.quarter * step) := by
    rw [← hshift]
    calc step * 10 ^ (point - 1)
        ≤ step * ((4 * b.significand : Nat) * b.quarter) :=
          mul_le_mul_of_nonneg_left hpoint hstep.le
      _ = 4 * b.significand * (b.quarter * step) := by
          push_cast
          ring
  have hbound : (4 * b.significand : ℚ) < (2 + b.below) * 10 ^ 16 := by
    exact_mod_cast b.below_bound
  have hcontra := mul_lt_mul_of_pos_right hbound (mul_pos b.quarter_pos hstep)
  linarith

theorem candidate?_seventeen (tie : Tie) {b : Binary64} (hb : 0 < b.significand) :
    (candidate? tie b.interval (decimalPoint b.interval.value b.interval.den) 17).isSome := by
  obtain ⟨hpoint, -⟩ := decimalPoint_interval hb
  generalize decimalPoint b.interval.value b.interval.den = point at *
  obtain ⟨q, hq, hq', -, hnone⟩ := candidate?_spec tie b.interval_den_pos point 17
  by_contra hmissing
  obtain ⟨hlow, hhigh⟩ := hnone (Option.not_isSome_iff_eq_none.1 hmissing)
  rw [interval_value] at hpoint
  have hnarrow := width_le_of_outside hb (by positivity) hq hq' hlow hhigh
  exact absurd hnarrow (not_le.2 (one_lt_width hpoint))

/-! ## The shortest digits -/

theorem length_toDigits {n c : Nat} (hlow : 10 ^ n ≤ c) (hhigh : c < 10 ^ (n + 1)) :
    (Nat.toDigits 10 c).length = n + 1 := by
  have hle : (Nat.toDigits 10 c).length ≤ n + 1 :=
    (Nat.length_toDigits_le_iff (by decide) (Nat.succ_pos n)).2 hhigh
  rcases Nat.eq_zero_or_pos n with rfl | hn
  · exact le_antisymm hle Nat.length_toDigits_pos
  · have hge : ¬(Nat.toDigits 10 c).length ≤ n := fun h =>
      absurd ((Nat.length_toDigits_le_iff (by decide) hn).1 h) (not_lt.2 hlow)
    omega

/-- A candidate has the digits it was looked for with, or is the next power of ten. -/
theorem candidate?_bounds {tie : Tie} {i : Interval} (hden : 0 < i.den) {point : ℤ}
    (hpointLow : (10 : ℚ) ^ (point - 1) ≤ (i.value : ℚ) / i.den)
    (hpointHigh : (i.value : ℚ) / i.den < 10 ^ point) {k c : Nat}
    (hc : candidate? tie i point (k + 1) = some c) :
    10 ^ k ≤ c ∧ c ≤ 10 ^ (k + 1) ∧ i.Contains ((c : ℚ) / 10 ^ ((k + 1 : Nat) - point : ℤ)) := by
  obtain ⟨q, hq, hq', hspec, -⟩ := candidate?_spec tie hden point (k + 1)
  obtain ⟨hnext, hcontains⟩ := hspec c hc
  have hgrid : (0 : ℚ) < 10 ^ ((k + 1 : Nat) - point : ℤ) := by positivity
  have hlow : (10 : ℚ) ^ k < (q + 1 : Nat) := by
    refine lt_of_le_of_lt ?_ hq'
    calc (10 : ℚ) ^ k
        = 10 ^ (point - 1) * 10 ^ ((k + 1 : Nat) - point : ℤ) := by
          rw [← zpow_add₀ (by norm_num), ← zpow_natCast]
          congr 1
          push_cast
          ring
      _ ≤ _ := mul_le_mul_of_nonneg_right hpointLow hgrid.le
  have hhigh : (q : ℚ) < 10 ^ (k + 1) := by
    refine lt_of_le_of_lt hq ?_
    calc (i.value : ℚ) / i.den * 10 ^ ((k + 1 : Nat) - point : ℤ)
        < 10 ^ point * 10 ^ ((k + 1 : Nat) - point : ℤ) := mul_lt_mul_of_pos_right hpointHigh hgrid
      _ = 10 ^ (k + 1) := by rw [← zpow_add₀ (by norm_num), add_sub_cancel, zpow_natCast]
  have hlowNat : 10 ^ k < q + 1 := by exact_mod_cast hlow
  have hhighNat : q < 10 ^ (k + 1) := by exact_mod_cast hhigh
  exact ⟨by omega, by omega, hcontains⟩

/-- The number that the shortest digits name lies in the interval of the double. -/
theorem shortest_spec (tie : Tie) {b : Binary64} (hb : 0 < b.significand) :
    0 < (b.shortest tie).digits ∧
      b.interval.Contains ((b.shortest tie).digits * 10 ^ ((b.shortest tie).point -
        (Nat.toDigits 10 (b.shortest tie).digits).length)) := by
  obtain ⟨hpointLow, hpointHigh⟩ := decimalPoint_interval hb
  have hseventeen := candidate?_seventeen tie hb
  unfold shortest
  dsimp only
  generalize decimalPoint b.interval.value b.interval.den = point at *
  cases hfound : (List.range 17).findSome? fun k =>
      (candidate? tie b.interval point (k + 1)).map (·, k + 1) with
  | none =>
    have hnone := List.findSome?_eq_none_iff.1 hfound 16 (by decide)
    rw [Option.map_eq_none_iff] at hnone
    rw [hnone] at hseventeen
    cases hseventeen
  | some found =>
    obtain ⟨k, -, hk⟩ := List.exists_of_findSome?_eq_some hfound
    obtain ⟨c, hc, rfl⟩ := Option.map_eq_some_iff.1 hk
    obtain ⟨hlow, hhigh, hcontains⟩ :=
      candidate?_bounds b.interval_den_pos hpointLow hpointHigh hc
    dsimp only
    by_cases hfull : c = Nat.pow 10 (k + 1)
    · rw [if_pos hfull]
      refine ⟨Nat.one_pos, ?_⟩
      have hone : (Nat.toDigits 10 1).length = 1 := by decide
      have hvalue : ((1 : Nat) : ℚ) * 10 ^ (point + 1 - (Nat.toDigits 10 1).length) =
          (c : ℚ) / 10 ^ ((k + 1 : Nat) - point : ℤ) := by
        rw [hone, hfull, Nat.cast_one, one_mul, Nat.cast_one, add_sub_cancel_right, Nat.pow_eq,
          Nat.cast_pow, Nat.cast_ofNat, ← zpow_natCast, ← zpow_sub₀ (by norm_num), sub_sub_cancel]
      rw [hvalue]
      exact hcontains
    · rw [if_neg hfull]
      refine ⟨lt_of_lt_of_le (Nat.pow_pos (by decide)) hlow, ?_⟩
      have hvalue : (c : ℚ) * 10 ^ (point - (Nat.toDigits 10 c).length) =
          (c : ℚ) / 10 ^ ((k + 1 : Nat) - point : ℤ) := by
        rw [length_toDigits hlow (lt_of_le_of_ne hhigh hfull), div_eq_mul_inv, ← zpow_neg, neg_sub]
      rw [hvalue]
      exact hcontains

end Binary64
end SelectionSql
