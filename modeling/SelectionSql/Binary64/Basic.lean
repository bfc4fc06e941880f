/-!
# Double-precision numbers as bit patterns

A double is its 64 bits: a sign, eleven exponent bits, fifty-two fraction bits. Everything said
about its value is exact arithmetic on natural numbers and integers.

* `Binary64.significand`, `Binary64.power`: a finite double is `± significand · 2 ^ power`.
* `isNaN`, `isFinite`, `isZero`, `isNegative`: the classes.
* `sameNumber`: equality of numbers, where no NaN equals anything and the two zeros are equal.
-/
set_option autoImplicit false

namespace SelectionSql

/-- A double-precision number, as its bits. -/
structure Binary64 where
  bits : UInt64
deriving DecidableEq

namespace Binary64

instance : Inhabited Binary64 := ⟨⟨0⟩⟩

def exponentBits (b : Binary64) : Nat := b.bits.toNat / Nat.pow 2 52 % 2048

def fractionBits (b : Binary64) : Nat := b.bits.toNat % Nat.pow 2 52

def isNegative (b : Binary64) : Bool := decide (Nat.pow 2 63 ≤ b.bits.toNat)

def isFinite (b : Binary64) : Bool := b.exponentBits != 2047

def isNaN (b : Binary64) : Bool := b.exponentBits == 2047 && b.fractionBits != 0

def isZero (b : Binary64) : Bool := b.exponentBits == 0 && b.fractionBits == 0

/-- The significand as a natural number; the leading bit is implicit unless the exponent is
smallest. -/
def significand (b : Binary64) : Nat :=
  if b.exponentBits = 0 then b.fractionBits else Nat.pow 2 52 + b.fractionBits

/-- The power of two by which the significand is scaled. -/
def power (b : Binary64) : Int := (max b.exponentBits 1 : Nat) - 1075

/-- The magnitude of a finite double as a fraction: `significand · 2 ^ power`. -/
def ratio (b : Binary64) : Nat × Nat :=
  if 0 ≤ b.power then (b.significand * Nat.pow 2 b.power.toNat, 1)
  else (b.significand, Nat.pow 2 (-b.power).toNat)

/-- The double with the given sign and the given sixty-three magnitude bits. -/
def ofMagnitude (negative : Bool) (magnitude : Nat) : Binary64 :=
  ⟨UInt64.ofNat (magnitude + if negative then Nat.pow 2 63 else 0)⟩

def infinity (negative : Bool) : Binary64 := ofMagnitude negative (2047 * Nat.pow 2 52)

def nan : Binary64 := ofMagnitude false (2047 * Nat.pow 2 52 + Nat.pow 2 51)

def zero (negative : Bool) : Binary64 := ofMagnitude negative 0

/-- Equality as numbers: a NaN equals nothing, the two zeros are equal. -/
def sameNumber (a b : Binary64) : Bool :=
  !a.isNaN && !b.isNaN && (a == b || (a.isZero && b.isZero))

end Binary64
end SelectionSql
