import SelectionSql.Proofs.Binary64.Spelling
import SelectionSql.Scalar

/-!
# Integers are read back

* `DecimalText.scan_digits`: digits behind a sign are a decimal without point and power of ten.
* `Number.ofText_intText`: an integer of 64 bits is read back from its text.
* `Scalar.ofNumber_int`, `Scalar.ofNumber_of_ne`: the numbers that are integers as column values,
  and those that are doubles.
-/
set_option autoImplicit false

namespace SelectionSql

namespace DecimalText

theorem scan_digits (negative : Bool) {digits : List Char} (hne : digits ≠ [])
    (h : ∀ c ∈ digits, c.isDigit = true) :
    scan (signText negative ++ digits) = (⟨negative, digits, none, none⟩, []) := by
  have hdigits : HasDigits ⟨negative, digits, none, none⟩ := ⟨hne, h, by simp, by simp⟩
  have hscan := scan_chars hdigits false
  simpa [chars, pointText, powerText] using hscan

end DecimalText

theorem toList_intText (n : Int) :
    (intText n).toList = DecimalText.signText (n < 0) ++ Nat.toDigits 10 n.natAbs := by
  unfold intText DecimalText.signText
  by_cases hn : n < 0
  · rw [if_pos hn, if_pos (decide_eq_true hn), String.toList_append, Nat.toList_repr]
    rfl
  · rw [if_neg hn, if_neg (by simpa using hn), Nat.toList_repr]
    rfl

/-- An integer that fits 64 bits, signed or unsigned, is read back. A zero behind a minus sign is a
double, but no integer is written so. -/
theorem Number.ofText_intText {n : Int} (hlow : -2 ^ 63 ≤ n) (hhigh : n < 2 ^ 64) :
    Number.ofText (intText n) = .int n := by
  have h63 : Nat.pow 2 63 = 9223372036854775808 := by decide
  have h64 : Nat.pow 2 64 = 18446744073709551616 := by decide
  have hscan := DecimalText.scan_digits (n < 0) Nat.toDigits_ne_nil
    (Binary64.isDigit_toDigits n.natAbs)
  unfold Number.ofText
  rw [toList_intText, hscan]
  dsimp only
  rw [digitsValue_toDigits, h63, h64]
  by_cases hn : n < 0
  · rw [if_neg (by simp [hn]), if_pos ⟨rfl, by simpa using hn, by omega, by omega⟩]
    congr 1
    omega
  · rw [if_pos ⟨rfl, by simpa using hn, by omega⟩]
    congr 1
    omega

namespace Scalar

theorem ofNumber_int (n : Int64) : ofNumber (.int n.toInt) = .int n := by
  rw [ofNumber, if_pos ⟨n.minValue_le_toInt, n.toInt_le⟩, Int64.ofInt_toInt]

/-- A number that is no integer of 64 bits with a sign is a double. -/
theorem ofNumber_of_ne {number : Number} (h : ∀ n : Int64, number ≠ .int n.toInt) :
    ∃ f, ofNumber number = .float f := by
  cases number with
  | float f => exact ⟨f, rfl⟩
  | int i =>
    refine ⟨Binary64.ofNat i.toNat, if_neg fun hfits => h (Int64.ofInt i) ?_⟩
    rw [Int64.toInt_ofInt_of_le hfits.1 (Int.lt_of_le_of_lt hfits.2 (by decide))]

end Scalar
end SelectionSql
