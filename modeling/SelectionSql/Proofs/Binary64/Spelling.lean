import SelectionSql.Proofs.Binary64.PlainText
import SelectionSql.Proofs.Text.Cutting

/-!
# Decimals are read as they are spelled

* `DecimalText.chars`: a decimal as text.
* `DecimalText.scan_chars`: the text is read as the decimal.
* `DecimalText.magnitude`, `Spells`: the number that is spelled, and the double that it is for.
-/
set_option autoImplicit false

namespace SelectionSql
namespace DecimalText

/-! ## Text -/

/-- A sign that may stand in front of digits. -/
def signText (negative : Bool) : List Char := if negative then ['-'] else []

def pointText : Option (List Char) → List Char
  | none => []
  | some digits => '.' :: digits

def powerText (plus : Bool) : Option Int → List Char
  | none => []
  | some e =>
    'e' :: ((if e < 0 then ['-'] else if plus then ['+'] else []) ++ Nat.toDigits 10 e.natAbs)

/-- The text of a decimal; the first argument says whether a positive power of ten shows its sign.
-/
def chars (plus : Bool) (d : DecimalText) : List Char :=
  signText d.negative ++ (d.whole ++ (pointText d.fraction ++ powerText plus d.exponent))

/-- There are digits before the point, and none but digits; likewise behind it. -/
structure HasDigits (d : DecimalText) : Prop where
  whole_ne : d.whole ≠ []
  whole : ∀ c ∈ d.whole, c.isDigit = true
  fraction_ne : ∀ digits ∈ d.fraction, digits ≠ []
  fraction : ∀ digits ∈ d.fraction, ∀ c ∈ digits, c.isDigit = true

/-! ## Reading -/

theorem scanSign_signText (negative : Bool) {c : Char} (hc : c.isDigit = true) (rest : List Char) :
    scanSign (signText negative ++ c :: rest) = (negative, c :: rest) := by
  cases negative with
  | true => rfl
  | false =>
    have hminus : c ≠ '-' := by
      rintro rfl
      exact absurd hc (by decide)
    have hplus : c ≠ '+' := by
      rintro rfl
      exact absurd hc (by decide)
    show scanSign (c :: rest) = (false, c :: rest)
    unfold scanSign
    split
    · next heq => exact absurd (List.cons.inj heq).1 hminus
    · next heq => exact absurd (List.cons.inj heq).1 hplus
    · rfl

/-- The sign of a power of ten is read, whether a positive one shows it or not. -/
theorem scanSign_power (plus : Bool) (e : Int) {c : Char} (hc : c.isDigit = true)
    (rest : List Char) :
    scanSign ((if e < 0 then ['-'] else if plus then ['+'] else []) ++ c :: rest) =
      (decide (e < 0), c :: rest) := by
  split
  · next he => rw [decide_eq_true he]; rfl
  · next he =>
    rw [decide_eq_false he]
    split
    · rfl
    · exact scanSign_signText false hc rest

theorem scanExponent_powerText (plus : Bool) (exponent : Option Int) :
    scanExponent (powerText plus exponent) = (exponent, []) := by
  cases exponent with
  | none => rfl
  | some e =>
    have hdigits := Binary64.isDigit_toDigits e.natAbs
    have htake := List.takeWhile_eq_self_iff.2 hdigits
    have hdrop := List.dropWhile_eq_nil_iff.2 hdigits
    have hvalue := digitsValue_toDigits e.natAbs
    obtain ⟨c, rest, hcons⟩ := List.exists_cons_of_ne_nil (Nat.toDigits_ne_nil (b := 10)
      (n := e.natAbs))
    rw [hcons] at hdigits htake hdrop hvalue
    rw [powerText, hcons, scanExponent, if_pos (.inl rfl),
      scanSign_power plus e (hdigits c List.mem_cons_self) rest]
    dsimp only
    rw [htake, hdrop]
    dsimp only
    rw [hvalue]
    by_cases he : e < 0
    · rw [if_pos (decide_eq_true he)]
      congr 2
      omega
    · rw [if_neg (by simpa using he)]
      congr 2
      omega

theorem head_powerText (plus : Bool) (exponent : Option Int) :
    ∀ c ∈ (powerText plus exponent).head?, c.isDigit = false ∧ c ≠ '.' := by
  cases exponent with
  | none => simp [powerText]
  | some e => simp [powerText]

theorem scan_chars {d : DecimalText} (h : d.HasDigits) (plus : Bool) :
    scan (d.chars plus) = (d, []) := by
  obtain ⟨negative, whole, fraction, exponent⟩ := d
  have hsign : scanSign (chars plus ⟨negative, whole, fraction, exponent⟩) =
      (negative, whole ++ (pointText fraction ++ powerText plus exponent)) := by
    obtain ⟨c, rest, rfl⟩ := List.exists_cons_of_ne_nil h.whole_ne
    exact scanSign_signText negative (h.whole c List.mem_cons_self) _
  have hrest : ∀ fraction' rest, fraction' = fraction → rest = powerText plus exponent →
      ((⟨negative, whole, fraction', (scanExponent rest).1⟩ : DecimalText),
        (scanExponent rest).2) = (⟨negative, whole, fraction, exponent⟩, []) := by
    rintro fraction' rest rfl rfl
    rw [scanExponent_powerText]
  have hhead : ∀ c ∈ (powerText plus exponent).head?, c.isDigit = false :=
    fun c hc => (head_powerText plus exponent c hc).1
  unfold scan
  rw [hsign]
  dsimp only
  cases fraction with
  | none =>
    obtain ⟨htake, hdrop⟩ := takeWhile_append_of_head h.whole hhead
    rw [pointText, List.nil_append, htake, hdrop]
    -- What is left starts with the mark of a power of ten, if with anything.
    cases exponent with
    | none => rfl
    | some e => exact hrest none _ rfl rfl
  | some digits =>
    have hpoint : ∀ c ∈ (pointText (some digits) ++ powerText plus exponent).head?,
        c.isDigit = false := by simp [pointText]
    obtain ⟨htake, hdrop⟩ := takeWhile_append_of_head h.whole hpoint
    obtain ⟨htake', hdrop'⟩ := takeWhile_append_of_head (h.fraction digits rfl) hhead
    rw [htake, hdrop]
    exact hrest _ _ (congrArg some htake') hdrop'

/-! ## The number that is spelled -/

/-- The number without its sign. -/
def magnitude (d : DecimalText) : ℚ :=
  digitsValue (d.whole ++ d.fraction.getD []) *
    10 ^ (d.exponent.getD 0 - (d.fraction.getD []).length)

/-- The decimal is for this double: it has the sign of the double and is one of the numbers that the
double is nearest to. It shows a point or a power of ten. -/
structure Spells (d : DecimalText) (b : Binary64) : Prop where
  isInteger : d.isInteger = false
  negative : d.negative = b.isNegative
  zero : b.isZero = true → d.magnitude = 0
  nonzero : b.isZero = false → 0 < d.magnitude ∧ b.interval.Contains d.magnitude

end DecimalText
end SelectionSql
