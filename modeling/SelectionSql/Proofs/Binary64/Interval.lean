import Mathlib.Algebra.Order.Field.Power
import Mathlib.Data.Rat.Cast.Order
import Mathlib.Tactic.Linarith
import Mathlib.Tactic.Positivity
import Mathlib.Tactic.Ring
import SelectionSql.Binary64.Shortest

/-!
# The intervals that round to doubles

* `Binary64.magnitude`: the bits of a double below its sign, as one number. Neighbouring doubles
  have neighbouring magnitudes.
* `Interval.Contains`: a number lies in an interval.
* `Binary64.lowEnd`, `highEnd`: the ends of the interval of a magnitude, in quarters of the least
  double. Where one interval ends the next begins.
* `Binary64.magnitude_eq_of_contains`: a number rounds to one magnitude only.
-/
set_option autoImplicit false

namespace SelectionSql
namespace Binary64

/-- The sixty-three bits below the sign. -/
def magnitude (b : Binary64) : Nat := b.exponentBits * Nat.pow 2 52 + b.fractionBits

/-- How far below the double its interval begins, in quarters of the last bit. -/
def below (b : Binary64) : Nat := if b.fractionBits = 0 ∧ 1 < b.exponentBits then 1 else 2

def Interval.Contains (i : Interval) (x : ℚ) : Prop :=
  if i.closed then (i.low : ℚ) / i.den ≤ x ∧ x ≤ (i.high : ℚ) / i.den
  else (i.low : ℚ) / i.den < x ∧ x < (i.high : ℚ) / i.den

theorem Interval.Contains.bounds {i : Interval} {x : ℚ} (h : i.Contains x) :
    (i.low : ℚ) / i.den ≤ x ∧ x ≤ (i.high : ℚ) / i.den := by
  unfold Contains at h
  split at h
  · exact h
  · exact ⟨h.1.le, h.2.le⟩

theorem Interval.Contains.strict {i : Interval} {x : ℚ} (h : i.Contains x)
    (hopen : i.closed = false) : (i.low : ℚ) / i.den < x ∧ x < (i.high : ℚ) / i.den := by
  rw [Contains, hopen, if_neg Bool.false_ne_true] at h
  exact h

theorem Interval.contains_of_strict {i : Interval} {x : ℚ} (hlow : (i.low : ℚ) / i.den < x)
    (hhigh : x < (i.high : ℚ) / i.den) : i.Contains x := by
  unfold Contains
  split
  · exact ⟨hlow.le, hhigh.le⟩
  · exact ⟨hlow, hhigh⟩

/-! ## The interval of a double -/

/-- A quarter of the last bit of a double. -/
def quarter (b : Binary64) : ℚ := 2 ^ (b.power - 2)

theorem quarter_pos (b : Binary64) : 0 < b.quarter := by
  unfold quarter
  positivity

theorem interval_den_pos (b : Binary64) : 0 < b.interval.den := by
  unfold interval
  dsimp only
  split
  · exact Nat.one_pos
  · exact Nat.pow_pos (by decide)

theorem interval_scale (b : Binary64) (n : Nat) :
    ((n * (if 0 ≤ b.power - 2 then Nat.pow 2 (b.power - 2).toNat else 1) : Nat) : ℚ) /
      (if 0 ≤ b.power - 2 then 1 else Nat.pow 2 (-(b.power - 2)).toNat : Nat) = n * b.quarter := by
  unfold quarter
  rcases le_or_gt 0 (b.power - 2) with hpos | hneg
  · obtain ⟨k, hk⟩ := Int.eq_ofNat_of_zero_le hpos
    rw [if_pos hpos, if_pos hpos, hk, zpow_natCast, Int.toNat_natCast, Nat.pow_eq]
    push_cast
    ring
  · obtain ⟨k, hk⟩ : ∃ k : Nat, b.power - 2 = -(k : ℤ) := ⟨(b.power - 2).natAbs, by omega⟩
    rw [if_neg (not_le.2 hneg), if_neg (not_le.2 hneg), hk, zpow_neg, zpow_natCast, neg_neg,
      Int.toNat_natCast, Nat.pow_eq]
    push_cast
    ring

theorem interval_low (b : Binary64) :
    (b.interval.low : ℚ) / b.interval.den =
      (4 * b.significand - b.below : Nat) * b.quarter := b.interval_scale _

theorem interval_value (b : Binary64) :
    (b.interval.value : ℚ) / b.interval.den = (4 * b.significand : Nat) * b.quarter :=
  b.interval_scale _

theorem interval_high (b : Binary64) :
    (b.interval.high : ℚ) / b.interval.den = (4 * b.significand + 2 : Nat) * b.quarter :=
  b.interval_scale _

/-! ## Neighbouring intervals -/

def significandOf (magnitude : Nat) : Nat :=
  if magnitude / Nat.pow 2 52 = 0 then magnitude % Nat.pow 2 52
  else Nat.pow 2 52 + magnitude % Nat.pow 2 52

/-- Half the last bit of a magnitude, as a multiple of half the least double. -/
def scaleOf (magnitude : Nat) : Nat := 2 ^ (max (magnitude / Nat.pow 2 52) 1 - 1)

/-- Where the interval of a magnitude begins, in quarters of the least double. -/
def lowEnd (magnitude : Nat) : Nat :=
  (4 * significandOf magnitude -
    (if magnitude % Nat.pow 2 52 = 0 ∧ 1 < magnitude / Nat.pow 2 52 then 1 else 2)) *
      scaleOf magnitude

def highEnd (magnitude : Nat) : Nat := (4 * significandOf magnitude + 2) * scaleOf magnitude

/-- Where one interval ends the next begins. -/
theorem lowEnd_succ (magnitude : Nat) : lowEnd (magnitude + 1) = highEnd magnitude := by
  have hpow : Nat.pow 2 52 = 4503599627370496 := by decide
  unfold lowEnd highEnd significandOf scaleOf
  rw [hpow]
  by_cases hcarry : magnitude % 4503599627370496 + 1 < 4503599627370496
  · have hdiv : (magnitude + 1) / 4503599627370496 = magnitude / 4503599627370496 := by omega
    have hmod : (magnitude + 1) % 4503599627370496 = magnitude % 4503599627370496 + 1 := by omega
    have hfraction :
        ¬(magnitude % 4503599627370496 + 1 = 0 ∧ 1 < magnitude / 4503599627370496) := by
      omega
    rw [hdiv, hmod, if_neg hfraction]
    congr 1
    split_ifs <;> omega
  · have hdiv : (magnitude + 1) / 4503599627370496 = magnitude / 4503599627370496 + 1 := by omega
    have hmod : (magnitude + 1) % 4503599627370496 = 0 := by omega
    have hlast : magnitude % 4503599627370496 = 4503599627370495 := by omega
    rw [hdiv, hmod, hlast]
    rcases Nat.eq_zero_or_pos (magnitude / 4503599627370496) with hzero | hpos
    · rw [hzero]
      decide
    · obtain ⟨k, hk⟩ := Nat.exists_eq_succ_of_ne_zero hpos.ne'
      have hmax : max (k + 1 + 1) 1 - 1 = k + 1 := by omega
      have hmax' : max (k + 1) 1 - 1 = k := by omega
      rw [hk, Nat.succ_eq_add_one, if_neg (by omega), if_pos (by omega), if_neg (by omega), hmax,
        hmax', pow_succ]
      ring

theorem lowEnd_lt_highEnd (magnitude : Nat) : lowEnd magnitude < highEnd magnitude := by
  unfold lowEnd highEnd
  refine Nat.mul_lt_mul_of_pos_right ?_ (Nat.pow_pos (by decide))
  split <;> omega

theorem strictMono_highEnd : StrictMono highEnd := by
  refine strictMono_nat_of_lt_succ fun magnitude => ?_
  rw [← lowEnd_succ]
  exact lowEnd_lt_highEnd (magnitude + 1)

/-! ## The interval of a double, by its magnitude -/

theorem fractionBits_lt (b : Binary64) : b.fractionBits < Nat.pow 2 52 :=
  Nat.mod_lt _ (by decide)

theorem magnitude_div (b : Binary64) : b.magnitude / Nat.pow 2 52 = b.exponentBits := by
  have hfraction := b.fractionBits_lt
  have hpow : Nat.pow 2 52 = 4503599627370496 := by decide
  unfold magnitude
  rw [hpow] at hfraction ⊢
  omega

theorem magnitude_mod (b : Binary64) : b.magnitude % Nat.pow 2 52 = b.fractionBits := by
  have hfraction := b.fractionBits_lt
  have hpow : Nat.pow 2 52 = 4503599627370496 := by decide
  unfold magnitude
  rw [hpow] at hfraction ⊢
  omega

theorem significandOf_magnitude (b : Binary64) : significandOf b.magnitude = b.significand := by
  rw [significandOf, magnitude_div, magnitude_mod, significand]

/-- A quarter of the least double above zero. -/
def leastQuarter : ℚ := 2 ^ (-1076 : ℤ)

theorem leastQuarter_pos : 0 < leastQuarter := by
  unfold leastQuarter
  positivity

theorem quarter_eq (b : Binary64) : b.quarter = scaleOf b.magnitude * leastQuarter := by
  unfold quarter scaleOf power leastQuarter
  rw [magnitude_div, Nat.cast_pow, Nat.cast_ofNat, ← zpow_natCast, ← zpow_add₀ (by norm_num)]
  congr 1
  omega

theorem interval_low_eq (b : Binary64) :
    (b.interval.low : ℚ) / b.interval.den = lowEnd b.magnitude * leastQuarter := by
  rw [interval_low, quarter_eq, lowEnd, significandOf_magnitude, magnitude_mod, magnitude_div,
    below]
  push_cast
  ring

theorem interval_high_eq (b : Binary64) :
    (b.interval.high : ℚ) / b.interval.den = highEnd b.magnitude * leastQuarter := by
  rw [interval_high, quarter_eq, highEnd, significandOf_magnitude]
  push_cast
  ring

/-- The ends belong to every other interval. -/
theorem interval_closed (b : Binary64) : b.interval.closed = (b.magnitude % 2 == 0) := by
  have hpow : Nat.pow 2 52 = 4503599627370496 := by decide
  have hparity : b.significand % 2 = b.magnitude % 2 := by
    unfold significand magnitude
    rw [hpow]
    split_ifs <;> omega
  unfold interval
  dsimp only
  rw [hparity]

/-- Of two intervals the lower ends where the other begins, or before; they do not share the end. -/
theorem not_contains_of_lt {b c : Binary64} (h : b.magnitude < c.magnitude) {x : ℚ}
    (hb : b.interval.Contains x) (hc : c.interval.Contains x) : False := by
  obtain ⟨k, hk⟩ := Nat.exists_eq_add_of_le' (Nat.succ_le_of_lt (Nat.zero_lt_of_lt h))
  have hlow : lowEnd c.magnitude = highEnd k := by
    rw [hk]
    exact lowEnd_succ k
  have hle : highEnd b.magnitude ≤ highEnd k := strictMono_highEnd.monotone (by omega)
  have hhighB := interval_high_eq b
  have hlowC := interval_low_eq c
  have hcross : (c.interval.low : ℚ) / c.interval.den ≤ (b.interval.high : ℚ) / b.interval.den :=
    hc.bounds.1.trans hb.bounds.2
  have hge : highEnd k ≤ highEnd b.magnitude := by
    rw [hhighB, hlowC, hlow, mul_le_mul_iff_left₀ leastQuarter_pos] at hcross
    exact_mod_cast hcross
  have hnext : b.magnitude = k := strictMono_highEnd.injective (le_antisymm hle hge)
  have hend : (c.interval.low : ℚ) / c.interval.den = (b.interval.high : ℚ) / b.interval.den := by
    rw [hhighB, hlowC, hlow, hnext]
  -- Of two neighbours one has an odd magnitude, and its interval is open.
  have hopen : b.interval.closed = false ∨ c.interval.closed = false := by
    rw [interval_closed, interval_closed, hk, hnext]
    rcases Nat.mod_two_eq_zero_or_one k with heven | hodd
    · exact .inr (by simp; omega)
    · exact .inl (by simp; omega)
  rcases hopen with hopen | hopen
  · exact absurd (hc.bounds.1.trans_lt (hb.strict hopen).2) (by rw [hend]; exact lt_irrefl _)
  · exact absurd ((hc.strict hopen).1.trans_le hb.bounds.2) (by rw [hend]; exact lt_irrefl _)

/-- A number rounds to one magnitude only. -/
theorem magnitude_eq_of_contains {b c : Binary64} {x : ℚ} (hb : b.interval.Contains x)
    (hc : c.interval.Contains x) : b.magnitude = c.magnitude := by
  rcases Nat.lt_trichotomy b.magnitude c.magnitude with h | h | h
  · exact (not_contains_of_lt h hb hc).elim
  · exact h
  · exact (not_contains_of_lt h hc hb).elim

end Binary64
end SelectionSql
