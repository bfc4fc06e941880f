import SelectionSql.Proofs.Binary64.Spelling
import SelectionSql.Proofs.Json.Integer
import SelectionSql.Proofs.Json.RoundTrip

/-!
# Integers and doubles are written as JSON numbers

* `Json.isNumber_chars`: decimals without a needless zero in front are numbers.
* `Json.IsSpelled`: a text is a decimal for the magnitude of a double.
* `Json.isSpelled_positionalText`, `isSpelled_scientificText`: both ways to write digits.
* `Json.isNumber_intText`, `isNumber_floatText`: what is written for an integer and for a finite
  double.
* `Json.exists_scan_spells`: what is written for a finite double is read as a decimal that spells it.
-/
set_option autoImplicit false

namespace SelectionSql
open Binary64 (Layout positionalValue)

namespace Json
open DecimalText (signText pointText powerText)

/-! ## Digits -/

namespace IsPositive
variable {digits : List Char}

theorem ne_nil (h : IsPositive digits) : digits ≠ [] := by
  obtain ⟨c, rest, -, -, rfl⟩ := h
  exact List.cons_ne_nil c rest

theorem append (h : IsPositive digits) {others : List Char}
    (hothers : ∀ c ∈ others, c.isDigit = true) : IsPositive (digits ++ others) := by
  obtain ⟨c, rest, hc, hrest, rfl⟩ := h
  exact ⟨c, rest ++ others, hc, List.forall_mem_append.2 ⟨hrest, hothers⟩, rfl⟩

theorem take (h : IsPositive digits) {n : Nat} (hn : 0 < n) : IsPositive (digits.take n) := by
  obtain ⟨c, rest, hc, hrest, rfl⟩ := h
  obtain ⟨n, rfl⟩ := Nat.exists_eq_add_one_of_ne_zero (Nat.pos_iff_ne_zero.1 hn)
  exact ⟨c, rest.take n, hc, fun d hd => hrest d (List.mem_of_mem_take hd), List.take_succ_cons⟩

end IsPositive

theorem IsWhole.isDigit {whole : List Char} (h : IsWhole whole) :
    ∀ c ∈ whole, c.isDigit = true := by
  have hhead := h.head
  rcases h with rfl | ⟨c, rest, -, hrest, rfl⟩
  · exact List.forall_mem_singleton.2 rfl
  · obtain ⟨d, digits, heq, hd⟩ := hhead
    cases heq
    exact List.forall_mem_cons.2 ⟨hd, hrest⟩

/-! ## Decimals -/

theorem isNumber_chars {d : DecimalText} (hwhole : IsWhole d.whole) (h : d.HasDigits)
    (plus : Bool) : IsNumber (d.chars plus) := by
  have hsign : signText d.negative = [] ∨ signText d.negative = ['-'] := by
    cases d.negative with
    | false => exact .inl rfl
    | true => exact .inr rfl
  have hfraction : pointText d.fraction = [] ∨ IsFraction (pointText d.fraction) := by
    cases hd : d.fraction with
    | none => exact .inl rfl
    | some digits => exact .inr ⟨digits, h.fraction_ne digits hd, h.fraction digits hd, rfl⟩
  have hexponent : powerText plus d.exponent = [] ∨ IsExponent (powerText plus d.exponent) := by
    cases d.exponent with
    | none => exact .inl rfl
    | some e =>
      refine .inr ⟨'e', _, _, .inl rfl, ?_, Nat.toDigits_ne_nil, Binary64.isDigit_toDigits _, rfl⟩
      split
      · exact .inr (.inr rfl)
      split
      · exact .inr (.inl rfl)
      · exact .inl rfl
  have hnumber := IsNumber.intro hsign hwhole hfraction hexponent
  simpa only [DecimalText.chars, List.append_assoc] using hnumber

/-- The text of a decimal without a sign that is no integer. -/
structure IsSpelled (plus : Bool) (w : List Char) (magnitude : ℚ) (d : DecimalText) : Prop where
  whole : IsWhole d.whole
  hasDigits : d.HasDigits
  negative : d.negative = false
  isInteger : d.isInteger = false
  magnitude_eq : d.magnitude = magnitude
  text : w = d.chars plus

/-- Digits before and behind a point. -/
theorem isSpelled_point (plus : Bool) {whole digits : List Char} (hwhole : IsWhole whole)
    (hne : digits ≠ []) (h : ∀ c ∈ digits, c.isDigit = true) :
    IsSpelled plus (whole ++ '.' :: digits) (positionalValue (whole ++ '.' :: digits))
      ⟨false, whole, some digits, none⟩ where
  whole := hwhole
  hasDigits := by
    obtain ⟨c, rest, heq, -⟩ := hwhole.head
    refine ⟨?_, hwhole.isDigit, ?_, ?_⟩
    · rw [heq]
      exact List.cons_ne_nil c rest
    · rintro _ ⟨rfl⟩
      exact hne
    · rintro _ ⟨rfl⟩
      exact h
  negative := rfl
  isInteger := rfl
  magnitude_eq := by
    rw [Binary64.positionalValue_point whole digits hwhole.isDigit h]
    exact (Binary64.div_ten_pow (by simp)).symm
  text := by simp [DecimalText.chars, signText, pointText, powerText]

section Layouts
variable {l : Layout} {digits : List Char}

/-- Where nothing stands before the point, a zero does, and where nothing stands behind it. -/
theorem isSpelled_positionalText (hl : l.wholeFraction = true) (h : IsPositive digits)
    (point : ℤ) : ∃ d, IsSpelled l.plusSign (l.positionalText digits point)
      (digitsValue digits * 10 ^ (point - digits.length)) d := by
  have hdigits : ∀ c ∈ digits, c.isDigit = true := IsWhole.isDigit (.inr h)
  rw [← Binary64.positionalValue_positionalText l hdigits]
  unfold Layout.positionalText
  split
  · have hzeros : List.replicate (-point).toNat '0' ++ digits ≠ [] := by simp [h.ne_nil]
    exact ⟨_, isSpelled_point l.plusSign (.inl rfl) hzeros
      (List.forall_mem_append.2 ⟨Binary64.isDigit_zeros, hdigits⟩)⟩
  split
  · next hpoint hlength =>
    have hdrop : digits.drop point.toNat ≠ [] := by
      rw [ne_eq, List.drop_eq_nil_iff]
      omega
    exact ⟨_, isSpelled_point l.plusSign (.inr (h.take (by omega))) hdrop
      fun c hc => hdigits c (List.mem_of_mem_drop hc)⟩
  · exact ⟨_, isSpelled_point l.plusSign (.inr (h.append Binary64.isDigit_zeros))
      (List.cons_ne_nil '0' []) (List.forall_mem_singleton.2 rfl)⟩

theorem powerText_eq (plus : Bool) (e : ℤ) : powerText plus (some e) =
    (if e < 0 then ['e', '-'] else if plus then ['e', '+'] else ['e']) ++
      (Nat.repr e.natAbs).toList := by
  rw [Nat.toList_repr, powerText]
  split
  · rfl
  split
  · rfl
  · rfl

/-- One digit before the point, the others behind it. -/
theorem isSpelled_scientificText (l : Layout) (h : IsPositive digits) (point : ℤ) :
    ∃ d, IsSpelled l.plusSign (l.scientificText digits point)
      (digitsValue digits * 10 ^ (point - digits.length)) d := by
  have hdigits : ∀ c ∈ digits, c.isDigit = true := IsWhole.isDigit (.inr h)
  have hfirst := h.take Nat.one_pos
  unfold Layout.scientificText
  dsimp only
  rw [List.append_assoc _ (if point - 1 < 0 then _ else _), ← powerText_eq]
  split
  · next hlength =>
    have htake : digits.take 1 = digits := List.take_of_length_le hlength
    have hone : digits.length = 1 :=
      Nat.le_antisymm hlength (List.length_pos_iff.2 h.ne_nil)
    refine ⟨⟨false, digits, none, some (point - 1)⟩, .inr h, ⟨h.ne_nil, hdigits, by simp, by simp⟩,
      rfl, rfl, ?_, ?_⟩
    · simp [DecimalText.magnitude, hone]
    · rw [htake]
      simp [DecimalText.chars, signText, pointText]
  · next hlength =>
    have hdrop : digits.drop 1 ≠ [] := by
      rw [ne_eq, List.drop_eq_nil_iff]
      omega
    refine ⟨⟨false, digits.take 1, some (digits.drop 1), some (point - 1)⟩, .inr hfirst,
      ⟨hfirst.ne_nil, IsWhole.isDigit (.inr hfirst), ?_, ?_⟩, rfl, rfl, ?_, ?_⟩
    · rintro _ ⟨rfl⟩
      exact hdrop
    · rintro _ ⟨rfl⟩ c hc
      exact hdigits c (List.mem_of_mem_drop hc)
    · have hpow : point - 1 - (digits.drop 1).length = point - digits.length := by
        rw [List.length_drop]
        omega
      simp only [DecimalText.magnitude, Option.getD_some, List.take_append_drop]
      rw [hpow]
    · simp [DecimalText.chars, signText, pointText]

theorem exists_isSpelled (hl : l.wholeFraction = true) {n : Nat} (hn : 0 < n) (positional : Bool)
    (point : ℤ) : ∃ d, IsSpelled l.plusSign
      (if positional then l.positionalText (Nat.repr n).toList point
        else l.scientificText (Nat.repr n).toList point)
      (n * 10 ^ (point - (Nat.toDigits 10 n).length)) d := by
  have hdigits := isPositive_toDigits hn
  have hvalue := digitsValue_toDigits n
  rw [Nat.toList_repr]
  split
  · obtain ⟨d, hd⟩ := isSpelled_positionalText hl hdigits point
    rw [hvalue] at hd
    exact ⟨d, hd⟩
  · obtain ⟨d, hd⟩ := isSpelled_scientificText l hdigits point
    rw [hvalue] at hd
    exact ⟨d, hd⟩

theorem positionalValue_zero : positionalValue ['0', '.', '0'] = 0 := by
  have hdigits : digitsValue ['0', '0'] = 0 := digitsValue_zeros 2
  have hpoint := Binary64.positionalValue_point ['0'] ['0']
    (List.forall_mem_singleton.2 rfl) (List.forall_mem_singleton.2 rfl)
  rw [List.singleton_append] at hpoint
  rw [hpoint, List.singleton_append, hdigits, Nat.cast_zero, zero_div]

theorem isSpelled_magnitudeText (hl : l.wholeFraction = true) (b : Binary64) :
    ∃ q d, IsSpelled l.plusSign (l.magnitudeText b) q d ∧ (b.isZero = true → q = 0) ∧
      (b.isZero = false → 0 < q ∧ b.interval.Contains q) := by
  unfold Layout.magnitudeText
  split
  · next hzero =>
    have hspelled := isSpelled_point l.plusSign (.inl rfl) (List.cons_ne_nil '0' [])
      (List.forall_mem_singleton.2 rfl)
    refine ⟨_, _, hspelled, fun _ => positionalValue_zero, fun hb => ?_⟩
    rw [hzero] at hb
    cases hb
  · next hzero =>
    have hb : 0 < b.significand :=
      Nat.pos_of_ne_zero fun h => hzero ((Binary64.isZero_iff b).2 h)
    obtain ⟨hpos, hcontains⟩ := Binary64.shortest_spec l.tie hb
    have hposQ : (0 : ℚ) < (b.shortest l.tie).digits := by exact_mod_cast hpos
    obtain ⟨d, hd⟩ := exists_isSpelled hl hpos _ (b.shortest l.tie).point
    exact ⟨_, d, hd, fun h => absurd h hzero, fun _ => ⟨by positivity, hcontains⟩⟩

end Layouts

/-! ## What is written -/

/-- The text of an integer is a number. -/
theorem isNumber_intText (n : Int) : IsNumber (intText n).toList := by
  have hwhole := isWhole_toDigits n.natAbs
  have hdigits : DecimalText.HasDigits ⟨n < 0, Nat.toDigits 10 n.natAbs, none, none⟩ :=
    ⟨Nat.toDigits_ne_nil, hwhole.isDigit, by simp, by simp⟩
  have hnumber := isNumber_chars hwhole hdigits false
  rw [toList_intText]
  simpa [DecimalText.chars, pointText, powerText] using hnumber

/-- The text of a finite double is a decimal that spells it. -/
theorem exists_spells {f : Binary64} (h : f.isFinite = true) :
    ∃ d : DecimalText, IsWhole d.whole ∧ d.HasDigits ∧ d.Spells f ∧
      (floatLayout.text f).toList = d.chars floatLayout.plusSign := by
  obtain ⟨q, d, hd, hzero, hnonzero⟩ :=
    isSpelled_magnitudeText (l := floatLayout) rfl f
  have htext : (floatLayout.text f).toList =
      signText f.isNegative ++ floatLayout.magnitudeText f := by
    rw [Layout.toList_text floatLayout h]
    cases f.isNegative with
    | false => rfl
    | true => rfl
  refine ⟨{ d with negative := f.isNegative }, hd.whole,
    ⟨hd.hasDigits.whole_ne, hd.hasDigits.whole, hd.hasDigits.fraction_ne, hd.hasDigits.fraction⟩,
    ⟨hd.isInteger, rfl, fun hf => ?_, fun hf => ?_⟩, ?_⟩
  · exact hd.magnitude_eq.trans (hzero hf)
  · have hvalue : DecimalText.magnitude { d with negative := f.isNegative } = q := hd.magnitude_eq
    rw [hvalue]
    exact hnonzero hf
  · rw [htext, hd.text, DecimalText.chars, hd.negative]
    rfl

/-- The text of a finite double is a number. -/
theorem isNumber_floatText {f : Binary64} (h : f.isFinite = true) :
    IsNumber (floatLayout.text f).toList := by
  obtain ⟨d, hwhole, hdigits, -, htext⟩ := exists_spells h
  rw [htext]
  exact isNumber_chars hwhole hdigits floatLayout.plusSign

/-- The text of a finite double is read as a decimal that spells it. -/
theorem exists_scan_spells {f : Binary64} (h : f.isFinite = true) :
    ∃ d, DecimalText.scan (floatLayout.text f).toList = (d, []) ∧ d.Spells f := by
  obtain ⟨d, -, hdigits, hspells, htext⟩ := exists_spells h
  exact ⟨d, by rw [htext, DecimalText.scan_chars hdigits], hspells⟩

end Json
end SelectionSql
