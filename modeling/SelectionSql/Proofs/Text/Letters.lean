/-!
# Characters by their numbers

* `toNat_toLower`, `isAlpha_iff`, `isDigit_iff`: small letters, letters and digits of ASCII.
* `le_iff_toNat_le`, `eq_iff_toNat_eq`: characters compare as their numbers do.
-/
set_option autoImplicit false

namespace SelectionSql

theorem toNat_toLower (c : Char) :
    c.toLower.toNat = if 65 ≤ c.toNat ∧ c.toNat ≤ 90 then c.toNat + 32 else c.toNat := by
  unfold Char.toLower
  simp only [ge_iff_le, UInt32.le_iff_toNat_le]
  show (if _ : 65 ≤ c.toNat ∧ c.toNat ≤ 90 then _ else _ : Char).toNat = _
  split
  · next h =>
    show (c.val + 32).toNat = _
    have hc : c.val.toNat = c.toNat := rfl
    rw [UInt32.toNat_add, hc]
    show (c.toNat + 32) % 4294967296 = _
    omega
  · rfl

theorem isAlpha_iff (c : Char) :
    c.isAlpha = true ↔ 65 ≤ c.toNat ∧ c.toNat ≤ 90 ∨ 97 ≤ c.toNat ∧ c.toNat ≤ 122 := by
  show (decide (65 ≤ c.val ∧ c.val ≤ 90) || (decide (97 ≤ c.val) && decide (c.val ≤ 122))) =
    true ↔ _
  simp only [Bool.or_eq_true, Bool.and_eq_true, decide_eq_true_eq, UInt32.le_iff_toNat_le]
  rfl

theorem isDigit_iff (c : Char) : c.isDigit = true ↔ 48 ≤ c.toNat ∧ c.toNat ≤ 57 := by
  simp only [Char.isDigit, Bool.and_eq_true, decide_eq_true_eq, ge_iff_le, UInt32.le_iff_toNat_le]
  rfl

theorem le_iff_toNat_le (c d : Char) : c ≤ d ↔ c.toNat ≤ d.toNat := by
  rw [Char.le_def, UInt32.le_iff_toNat_le]
  rfl

theorem eq_iff_toNat_eq (c d : Char) : c = d ↔ c.toNat = d.toNat := Char.toNat_inj.symm

end SelectionSql
