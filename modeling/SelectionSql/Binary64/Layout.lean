import SelectionSql.Binary64.Shortest

/-!
# How a double is written

`Binary64.Layout` holds the decisions that differ between written forms: for which magnitudes the
digits stand around the point, whether a whole number shows a fraction, how an exponent is signed.
`Layout.text` writes a double in a layout; the digits are always the shortest that read back.
`Layout.toList_text` says what is written for a finite double.
-/
set_option autoImplicit false

namespace SelectionSql
namespace Binary64

/-- The decisions of a written form. -/
structure Layout where
  /-- Positional when the point stands more than `fst` and at most `snd` digits in; `none` writes
  every number positionally. -/
  positional : Option (Int × Int)
  /-- A whole number is written with `.0`. -/
  wholeFraction : Bool
  /-- A positive exponent is written with a plus sign. -/
  plusSign : Bool
  tie : Tie

namespace Layout

/-- Digits around the point: zeros fill the gap on either side. -/
def positionalText (l : Layout) (digits : List Char) (point : Int) : List Char :=
  if point ≤ 0 then '0' :: '.' :: (List.replicate (-point).toNat '0' ++ digits)
  else if point < digits.length then digits.take point.toNat ++ '.' :: digits.drop point.toNat
  else digits ++ List.replicate (point.toNat - digits.length) '0' ++
    (if l.wholeFraction then ['.', '0'] else [])

/-- One digit, the others behind the point, and the exponent. -/
def scientificText (l : Layout) (digits : List Char) (point : Int) : List Char :=
  let exponent := point - 1
  let mark := if exponent < 0 then ['e', '-'] else if l.plusSign then ['e', '+'] else ['e']
  let fraction := if digits.length ≤ 1 then [] else '.' :: digits.drop 1
  digits.take 1 ++ fraction ++ mark ++ (Nat.repr exponent.natAbs).toList

/-- A finite number without its sign. -/
def magnitudeText (l : Layout) (b : Binary64) : List Char :=
  if b.isZero then if l.wholeFraction then ['0', '.', '0'] else ['0']
  else
    let d := b.shortest l.tie
    let digits := (Nat.repr d.digits).toList
    let isPositional : Bool := match l.positional with
      | none => true
      | some (low, high) => decide (low < d.point ∧ d.point ≤ high)
    if isPositional then l.positionalText digits d.point else l.scientificText digits d.point

/-- The text of a double: a sign if it is negative, and words for what is not finite. -/
def text (l : Layout) (b : Binary64) : String :=
  if b.isNaN then "NaN"
  else
    let magnitude := if b.isFinite then l.magnitudeText b else ['i', 'n', 'f']
    String.ofList (if b.isNegative then '-' :: magnitude else magnitude)

theorem toList_text (l : Layout) {b : Binary64} (h : b.isFinite = true) :
    (l.text b).toList =
      if b.isNegative then '-' :: l.magnitudeText b else l.magnitudeText b := by
  have hnan : b.isNaN = false := by
    have hexponent : (b.exponentBits == 2047) = false := by simpa [isFinite] using h
    rw [isNaN, hexponent, Bool.false_and]
  rw [text, hnan, h, if_neg Bool.false_ne_true, if_pos rfl, String.toList_ofList]

end Layout
end Binary64
end SelectionSql
