import SelectionSql.Text.LetterTable

/-!
# Kinds of characters

* `inRanges`: membership in an ascending list of ranges of code points.
* `isAlphabetic`: the Unicode property Alphabetic.
* `isAlphanumeric`: Alphabetic, or a number of the categories Nd, Nl and No.
* `isBlank`: the Unicode property White_Space.
-/
set_option autoImplicit false

namespace SelectionSql

/-- Whether `n` lies in one of the ranges, which ascend. -/
def inRanges : List (Nat × Nat) → Nat → Bool
  | [], _ => false
  | (first, last) :: rest, n =>
    if n < first then false else if n ≤ last then true else inRanges rest n

def isAlphabetic (c : Char) : Bool := inRanges alphabeticRanges c.toNat

def isAlphanumeric (c : Char) : Bool := isAlphabetic c || inRanges numericRanges c.toNat

/-- The characters with the property White_Space. -/
def isBlank (c : Char) : Bool :=
  let n := c.toNat
  (9 ≤ n && n ≤ 13) || n == 0x20 || n == 0x85 || n == 0xA0 || n == 0x1680 ||
    (0x2000 ≤ n && n ≤ 0x200A) || n == 0x2028 || n == 0x2029 || n == 0x202F || n == 0x205F ||
    n == 0x3000

end SelectionSql
