import SelectionSql.Binary64.Nearest

/-!
# Reading decimals

* `DecimalText`: a decimal as it is written: a sign, digits before and after the point, a power of
  ten.
* `DecimalText.scan`: the longest decimal at the start of a text.
* `Binary64.ofText?`: the double nearest to a written number, with `NaN` and `inf`.
* `DecimalText.scaled`: the double reached in two roundings: first the digits, as far as they fit
  into 64 bits, then their product with, or quotient by, a power of ten.
-/
set_option autoImplicit false

namespace SelectionSql

/-- The number that a list of decimal digits names. -/
def digitsValue (digits : List Char) : Nat :=
  digits.foldl (fun acc c => acc * 10 + (c.toNat - '0'.toNat)) 0

structure DecimalText where
  negative : Bool
  whole : List Char
  /-- The digits after the point, if there is a point. -/
  fraction : Option (List Char)
  /-- The power of ten, if one is written. -/
  exponent : Option Int
deriving DecidableEq

namespace DecimalText

/-- Splits a leading sign off. -/
def scanSign : List Char → Bool × List Char
  | '-' :: rest => (true, rest)
  | '+' :: rest => (false, rest)
  | cs => (false, cs)

/-- The exponent part at the start of a text, if it is complete. -/
def scanExponent : List Char → Option Int × List Char
  | [] => (none, [])
  | c :: rest =>
    if c = 'e' ∨ c = 'E' then
      let (negative, digits) := scanSign rest
      match digits.takeWhile Char.isDigit with
      | [] => (none, c :: rest)
      | ds => (some (if negative then -(digitsValue ds : Int) else digitsValue ds),
          digits.dropWhile Char.isDigit)
    else (none, c :: rest)

/-- The decimal at the start of a text, and what follows it. -/
def scan (cs : List Char) : DecimalText × List Char :=
  let (negative, unsigned) := scanSign cs
  let whole := unsigned.takeWhile Char.isDigit
  let (fraction, afterFraction) := match unsigned.dropWhile Char.isDigit with
    | '.' :: rest => (some (rest.takeWhile Char.isDigit), rest.dropWhile Char.isDigit)
    | rest => (none, rest)
  let (exponent, rest) := scanExponent afterFraction
  (⟨negative, whole, fraction, exponent⟩, rest)

/-- Neither a point nor a power of ten is written. -/
def isInteger (d : DecimalText) : Bool := d.fraction.isNone && d.exponent.isNone

def nearest (d : DecimalText) : Binary64 :=
  let fraction := d.fraction.getD []
  let digits := digitsValue (d.whole ++ fraction)
  let power := d.exponent.getD 0 - fraction.length
  -- A power far outside the range of doubles is settled without writing it out.
  if digits = 0 then Binary64.zero d.negative
  else if power < -(1100 + (d.whole.length + fraction.length : Nat)) then Binary64.zero d.negative
  else if 400 < power then Binary64.infinity d.negative
  else if 0 ≤ power then Binary64.nearest d.negative (digits * Nat.pow 10 power.toNat) 1
  else Binary64.nearest d.negative digits (Nat.pow 10 (-power).toNat)

/-! ## Two roundings -/

/-- Whether one more digit keeps the number within 64 bits. -/
def fitsWord (number : Nat) (digit : Char) : Bool :=
  decide (number * 10 + (digit.toNat - '0'.toNat) < Nat.pow 2 64)

/-- Takes in digits before the point while they fit; counts those that are left out. -/
def takeWhole : List Char → Nat → Nat × Nat
  | [], number => (number, 0)
  | c :: rest, number =>
    if fitsWord number c then takeWhole rest (number * 10 + (c.toNat - '0'.toNat))
    else (number, (c :: rest).length)

/-- Takes in digits after the point while they fit; counts those taken. -/
def takeFraction : List Char → Nat → Nat → Nat × Nat
  | [], number, taken => (number, taken)
  | c :: rest, number, taken =>
    if fitsWord number c then takeFraction rest (number * 10 + (c.toNat - '0'.toNat)) (taken + 1)
    else (number, taken)

/-- A quotient by ten to the power `n`, in steps of at most 308. -/
def scaleDown (f : Binary64) (n : Nat) : Binary64 :=
  if n ≤ 308 then f.dividedBy (Binary64.ofNat (Nat.pow 10 n))
  else if f.isZero then f
  else scaleDown (f.dividedBy (Binary64.ofNat (Nat.pow 10 308))) (n - 308)
termination_by n

/-- The magnitude of the decimal in two roundings; infinite where the power of ten is too large. -/
def scaledMagnitude (d : DecimalText) : Binary64 :=
  let (number, leftOut) := takeWhole d.whole 0
  let (number, taken) := takeFraction (d.fraction.getD []) number 0
  let power : Int := d.exponent.getD 0 + leftOut - taken
  let f := Binary64.ofNat number
  if power < 0 then scaleDown f (-power).toNat
  else if power ≤ 308 then f.times (Binary64.ofNat (Nat.pow 10 power.toNat))
  else if number = 0 then f
  else Binary64.infinity false

/-- The double that the decimal names when its digits and its power of ten are rounded apart. -/
def scaled (d : DecimalText) : Binary64 :=
  let f := d.scaledMagnitude
  if d.negative then ⟨f.bits ||| 0x8000000000000000⟩ else f

end DecimalText

/-- The double nearest to a written number; also reads `NaN`, `inf` and `infinity`. -/
def Binary64.ofText? (text : String) : Option Binary64 :=
  let (negative, unsigned) := DecimalText.scanSign text.toList
  let word := String.ofList (unsigned.map Char.toLower)
  if word = "nan" then some Binary64.nan
  else if word = "inf" ∨ word = "infinity" then some (Binary64.infinity negative)
  else
    match DecimalText.scan text.toList with
    | (d, []) => if d.whole.isEmpty && (d.fraction.getD []).isEmpty then none else some d.nearest
    | _ => none

end SelectionSql
