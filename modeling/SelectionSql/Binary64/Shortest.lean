import SelectionSql.Binary64.Basic

/-!
# The shortest decimal that reads back

A double is the nearest one to every number of an interval around it. `Binary64.shortest` finds the
fewest decimal digits that name a number of that interval, and of the candidates with that many
digits the one nearest to the double.

* `Binary64.Interval`: the interval, as numerators over one denominator.
* `Binary64.decimalPoint`: how many digits stand before the decimal point.
* `Binary64.candidate?`: the best number with `n` digits, if one lies in the interval.
* `Tie`: which of two equally near candidates is taken.
-/
set_option autoImplicit false

namespace SelectionSql

/-- What becomes of a number halfway between two candidates. -/
inductive Tie where
  /-- The candidate with an even last digit. -/
  | toEven
  /-- The larger candidate. -/
  | up
deriving DecidableEq, Repr

/-- A positive decimal `0.d₁d₂…dₙ · 10 ^ point`, the digits read as one natural number. -/
structure DecimalDigits where
  digits : Nat
  point : Int
deriving DecidableEq, Repr

namespace Binary64

/-- The numbers that round to a double: those between `low / den` and `high / den`, with the ends
if `closed`. The double itself is `value / den`. -/
structure Interval where
  low : Nat
  value : Nat
  high : Nat
  den : Nat
  closed : Bool

/-- The rounding interval of a finite double. The lower half is shorter at a power of two. The ends
round to the double exactly if its significand is even. -/
def interval (b : Binary64) : Interval :=
  let m := b.significand
  let below := if b.fractionBits = 0 ∧ 1 < b.exponentBits then 1 else 2
  let p := b.power - 2
  let scale := if 0 ≤ p then Nat.pow 2 p.toNat else 1
  let den := if 0 ≤ p then 1 else Nat.pow 2 (-p).toNat
  { low := (4 * m - below) * scale, value := 4 * m * scale, high := (4 * m + 2) * scale, den,
    closed := m % 2 == 0 }

def belowPowerOfTen (num den : Nat) (e : Int) : Bool :=
  if 0 ≤ e then num < den * Nat.pow 10 e.toNat else num * Nat.pow 10 (-e).toNat < den

/-- The least `e` with `num / den < 10 ^ e`, searched near the estimate that the binary length
gives. -/
def decimalPoint (num den : Nat) : Int :=
  let guess : Int := ((Nat.log2 num : Int) - (Nat.log2 den : Int)) * 30103 / 100000
  ([guess - 1, guess, guess + 1].find? (belowPowerOfTen num den)).getD (guess + 2)

/-- Of the two neighbours of the value on the grid of `n` digits, the nearer one that lies in the
interval. -/
def candidate? (tie : Tie) (i : Interval) (point : Int) (n : Nat) : Option Nat :=
  let fine := if 0 ≤ (n : Int) - point then Nat.pow 10 ((n : Int) - point).toNat else 1
  let coarse := if 0 ≤ (n : Int) - point then 1 else Nat.pow 10 (point - (n : Int)).toNat
  let unit := coarse * i.den
  let q := i.value * fine / unit
  let r := i.value * fine % unit
  let inside (c : Nat) : Bool :=
    if i.closed then decide (i.low * fine ≤ c * unit ∧ c * unit ≤ i.high * fine)
    else decide (i.low * fine < c * unit ∧ c * unit < i.high * fine)
  let upper : Bool := decide (unit < 2 * r) ||
    (decide (2 * r = unit) && (tie == .up || q % 2 == 1))
  match inside q, inside (q + 1) with
  | true, true => some (if upper then q + 1 else q)
  | true, false => some q
  | false, true => some (q + 1)
  | false, false => none

/-- The shortest digits of a finite double other than zero: seventeen digits always suffice. -/
def shortest (tie : Tie) (b : Binary64) : DecimalDigits :=
  let i := b.interval
  let point := decimalPoint i.value i.den
  let found := (List.range 17).findSome? fun k => (candidate? tie i point (k + 1)).map (·, k + 1)
  match found with
  | some (digits, n) => if digits = Nat.pow 10 n then ⟨1, point + 1⟩ else ⟨digits, point⟩
  | none => ⟨0, point⟩

end Binary64
end SelectionSql
