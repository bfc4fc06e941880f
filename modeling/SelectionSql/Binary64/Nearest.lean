import SelectionSql.Binary64.Basic

/-!
# The double nearest to a fraction

* `roundedQuotient`: a quotient rounded to the nearest natural number, a half going to the even
  neighbour.
* `Binary64.nearest`: the double nearest to a fraction of natural numbers; too large a fraction
  gives infinity.
* `Binary64.ofNat`, `times`, `dividedBy`: conversion, product and quotient, each rounded once.
-/
set_option autoImplicit false

namespace SelectionSql

/-- The natural number nearest to `num / den`; a half goes to the even neighbour. -/
def roundedQuotient (num den : Nat) : Nat :=
  let q := num / den
  let r := num % den
  if den < 2 * r then q + 1 else if 2 * r = den ∧ q % 2 = 1 then q + 1 else q

namespace Binary64

/-- The power of two of the last significand bit of the doubles around `num / den`. -/
def lastBitPower (num den : Nat) : Int :=
  let low : Int := (Nat.log2 num : Int) - (Nat.log2 den : Int) - 53
  let quotient :=
    if 0 ≤ low then num / (den * Nat.pow 2 low.toNat) else num * Nat.pow 2 (-low).toNat / den
  max (if Nat.pow 2 53 ≤ quotient then low + 1 else low) (-1074)

/-- The magnitude bits of the double nearest to `num / den`. The bits of neighbouring doubles are
neighbouring numbers, so a significand that rounds up to the next power of two carries into the
exponent by itself. -/
def nearestMagnitude (num den : Nat) : Nat :=
  if num = 0 then 0
  else
    let p := lastBitPower num den
    let significand :=
      if 0 ≤ p then roundedQuotient num (den * Nat.pow 2 p.toNat)
      else roundedQuotient (num * Nat.pow 2 (-p).toNat) den
    min ((p + 1074).toNat * Nat.pow 2 52 + significand) (2047 * Nat.pow 2 52)

def nearest (negative : Bool) (num den : Nat) : Binary64 :=
  ofMagnitude negative (nearestMagnitude num den)

def ofNat (n : Nat) : Binary64 := nearest false n 1

/-- The product of two magnitudes, rounded. -/
def times (a b : Binary64) : Binary64 :=
  nearest false (a.ratio.1 * b.ratio.1) (a.ratio.2 * b.ratio.2)

/-- The quotient of two magnitudes, rounded. -/
def dividedBy (a b : Binary64) : Binary64 :=
  nearest false (a.ratio.1 * b.ratio.2) (a.ratio.2 * b.ratio.1)

end Binary64
end SelectionSql
