import Mathlib.Data.List.TakeWhile
import SelectionSql.Binary64.Reading
import SelectionSql.Proofs.Binary64.Shortest
import SelectionSql.Scalar

/-!
# Plain text tells doubles apart

* `Binary64.positionalValue`: the number that digits around a point name.
* `Binary64.positionalValue_positionalText`: what is written is what is meant.
* `Binary64.magnitude_eq_of_magnitudeText`: the plain text of a magnitude names it.
* `Binary64.plainText_inj`: doubles with one plain text are one double, or no numbers.
-/
set_option autoImplicit false

namespace SelectionSql

/-! ## Digits -/

theorem digitsValue_eq (digits : List Char) :
    digitsValue digits = Nat.ofDigitChars 10 digits 0 := by
  unfold digitsValue
  rw [Nat.ofDigitChars_eq_foldl]
  congr 1
  funext acc c
  rw [Nat.mul_comm]

theorem digitsValue_append (a b : List Char) :
    digitsValue (a ++ b) = 10 ^ b.length * digitsValue a + digitsValue b := by
  rw [digitsValue_eq, digitsValue_eq, digitsValue_eq, Nat.ofDigitChars_append,
    Nat.ofDigitChars_eq_ofDigitChars_zero]

theorem digitsValue_zeros (n : Nat) : digitsValue (List.replicate n '0') = 0 := by
  rw [digitsValue_eq, Nat.ofDigitChars_replicate_zero, Nat.mul_zero]

theorem digitsValue_toDigits (n : Nat) : digitsValue (Nat.toDigits 10 n) = n := by
  rw [digitsValue_eq, Nat.ofDigitChars_ten_toDigits]

namespace Binary64

def fractionDigits (cs : List Char) : List Char := (cs.dropWhile fun c => c != '.').drop 1

/-- The number that digits around a point name. -/
def positionalValue (cs : List Char) : ℚ :=
  digitsValue (cs.filter fun c => c != '.') / 10 ^ (fractionDigits cs).length

theorem filter_digits {digits : List Char} (h : ∀ c ∈ digits, c.isDigit = true) :
    digits.filter (fun c => c != '.') = digits := by
  refine List.filter_eq_self.2 fun c hc => bne_iff_ne.2 ?_
  rintro rfl
  exact absurd (h _ hc) (by decide)

theorem positionalValue_whole {digits : List Char} (h : ∀ c ∈ digits, c.isDigit = true) :
    positionalValue digits = digitsValue digits := by
  have hdrop : digits.dropWhile (fun c => c != '.') = [] := by
    refine List.dropWhile_eq_nil_iff.2 fun c hc => bne_iff_ne.2 ?_
    rintro rfl
    exact absurd (h _ hc) (by decide)
  rw [positionalValue, filter_digits h, fractionDigits, hdrop, List.drop_nil, List.length_nil,
    pow_zero, div_one]

theorem positionalValue_point (whole fraction : List Char) (hw : ∀ c ∈ whole, c.isDigit = true)
    (hf : ∀ c ∈ fraction, c.isDigit = true) :
    positionalValue (whole ++ '.' :: fraction) =
      digitsValue (whole ++ fraction) / 10 ^ fraction.length := by
  have hdrop : (whole ++ '.' :: fraction).dropWhile (fun c => c != '.') = '.' :: fraction := by
    rw [List.dropWhile_append_of_pos fun c hc => ?_]
    · rfl
    · refine bne_iff_ne.2 ?_
      rintro rfl
      exact absurd (hw _ hc) (by decide)
  have hfilter : (whole ++ '.' :: fraction).filter (fun c => c != '.') = whole ++ fraction := by
    rw [List.filter_append, filter_digits hw, List.filter_cons_of_neg (by decide), filter_digits hf]
  rw [positionalValue, hfilter, fractionDigits, hdrop, List.drop_one, List.tail_cons]

theorem isDigit_zeros {n : Nat} : ∀ c ∈ List.replicate n '0', c.isDigit = true := by
  intro c hc
  rw [List.eq_of_mem_replicate hc]
  decide

theorem div_ten_pow {d : ℚ} {n : Nat} {e : ℤ} (h : e = -n) : d / 10 ^ n = d * 10 ^ e := by
  rw [h, zpow_neg, zpow_natCast, div_eq_mul_inv]

/-- A zero behind the point changes nothing. -/
theorem positionalValue_wholeFraction (l : Layout) {digits : List Char}
    (h : ∀ c ∈ digits, c.isDigit = true) :
    positionalValue (digits ++ if l.wholeFraction then ['.', '0'] else []) =
      digitsValue digits := by
  split
  · have hzero : digitsValue ['0'] = 0 := digitsValue_zeros 1
    rw [positionalValue_point digits ['0'] h (List.forall_mem_singleton.2 rfl),
      digitsValue_append, hzero, List.length_singleton]
    push_cast
    ring
  · rw [List.append_nil, positionalValue_whole h]

/-- What is written in digits around a point is what is meant. -/
theorem positionalValue_positionalText (l : Layout) {digits : List Char}
    (h : ∀ c ∈ digits, c.isDigit = true) (point : ℤ) :
    positionalValue (l.positionalText digits point) =
      digitsValue digits * 10 ^ (point - digits.length) := by
  unfold Layout.positionalText
  split
  · next hpoint =>
    obtain ⟨zeros, rfl⟩ : ∃ k : Nat, point = -(k : ℤ) := ⟨point.natAbs, by omega⟩
    have hfraction : ∀ c ∈ List.replicate zeros '0' ++ digits, c.isDigit = true := fun c hc =>
      (List.mem_append.1 hc).elim (isDigit_zeros c) (h c)
    have hvalue := positionalValue_point ['0'] _ (List.forall_mem_singleton.2 rfl) hfraction
    have hzero : digitsValue ['0'] = 0 := digitsValue_zeros 1
    rw [List.singleton_append] at hvalue
    rw [neg_neg, Int.toNat_natCast, hvalue, digitsValue_append, digitsValue_append,
      digitsValue_zeros, hzero, Nat.mul_zero, Nat.mul_zero, Nat.zero_add, Nat.zero_add]
    refine div_ten_pow ?_
    rw [List.length_append, List.length_replicate]
    push_cast
    ring
  · next hpoint =>
    obtain ⟨p, rfl⟩ := Int.eq_ofNat_of_zero_le (le_of_lt (not_le.1 hpoint))
    rw [Int.toNat_natCast]
    split
    · next hinside =>
      have hp : p ≤ digits.length := by omega
      rw [positionalValue_point _ _ (fun c hc => h c (List.mem_of_mem_take hc))
        (fun c hc => h c (List.mem_of_mem_drop hc)), List.take_append_drop, List.length_drop]
      refine div_ten_pow ?_
      rw [Nat.cast_sub hp, neg_sub]
    · next houtside =>
      have hp : digits.length ≤ p := by omega
      rw [positionalValue_wholeFraction l fun c hc =>
        (List.mem_append.1 hc).elim (h c) (isDigit_zeros c), digitsValue_append,
        digitsValue_zeros, List.length_replicate, Nat.add_zero, ← Nat.cast_sub hp, zpow_natCast]
      push_cast
      ring

/-! ## The text of a magnitude -/

theorem isZero_iff (b : Binary64) : b.isZero = true ↔ b.significand = 0 := by
  have hpow : Nat.pow 2 52 = 4503599627370496 := by decide
  unfold isZero significand
  rw [hpow, Bool.and_eq_true, beq_iff_eq, beq_iff_eq]
  split <;> omega

theorem magnitude_eq_zero {b : Binary64} (h : b.isZero = true) : b.magnitude = 0 := by
  unfold isZero at h
  rw [Bool.and_eq_true, beq_iff_eq, beq_iff_eq] at h
  rw [magnitude, h.1, h.2, Nat.zero_mul]

/-- The digits of a finite double other than zero stand around the point. -/
theorem magnitudeText_of_nonzero {b : Binary64} (h : b.isZero = false) :
    plainFloatLayout.magnitudeText b = plainFloatLayout.positionalText
      (Nat.toDigits 10 (b.shortest .up).digits) (b.shortest .up).point := by
  unfold Layout.magnitudeText
  rw [h, if_neg Bool.false_ne_true, ← Nat.toList_repr]
  rfl

theorem isDigit_toDigits (n : Nat) : ∀ c ∈ Nat.toDigits 10 n, c.isDigit = true :=
  fun _ hc => Nat.isDigit_of_mem_toDigits (by decide) (by decide) hc

theorem positionalValue_of_nonzero {b : Binary64} (h : b.isZero = false) :
    0 < positionalValue (plainFloatLayout.magnitudeText b) ∧
      b.interval.Contains (positionalValue (plainFloatLayout.magnitudeText b)) := by
  have hb : 0 < b.significand := by
    refine Nat.pos_of_ne_zero fun hzero => ?_
    rw [(isZero_iff b).2 hzero] at h
    cases h
  obtain ⟨hpos, hcontains⟩ := shortest_spec .up hb
  rw [magnitudeText_of_nonzero h, positionalValue_positionalText _ (isDigit_toDigits _),
    digitsValue_toDigits]
  have hposQ : (0 : ℚ) < (b.shortest .up).digits := by exact_mod_cast hpos
  exact ⟨by positivity, hcontains⟩

theorem positionalValue_of_zero {b : Binary64} (h : b.isZero = true) :
    positionalValue (plainFloatLayout.magnitudeText b) = 0 := by
  have htext : plainFloatLayout.magnitudeText b = ['0'] := by
    unfold Layout.magnitudeText
    rw [h]
    rfl
  have hzero : digitsValue ['0'] = 0 := digitsValue_zeros 1
  rw [htext, positionalValue_whole (List.forall_mem_singleton.2 rfl), hzero, Nat.cast_zero]

/-- The plain text of a magnitude names it. -/
theorem magnitude_eq_of_magnitudeText {b c : Binary64}
    (h : plainFloatLayout.magnitudeText b = plainFloatLayout.magnitudeText c) :
    b.magnitude = c.magnitude := by
  cases hb : b.isZero with
  | true =>
    cases hc : c.isZero with
    | true => rw [magnitude_eq_zero hb, magnitude_eq_zero hc]
    | false =>
      have hpos := (positionalValue_of_nonzero hc).1
      rw [← h, positionalValue_of_zero hb] at hpos
      exact absurd hpos (lt_irrefl 0)
  | false =>
    cases hc : c.isZero with
    | true =>
      have hpos := (positionalValue_of_nonzero hb).1
      rw [h, positionalValue_of_zero hc] at hpos
      exact absurd hpos (lt_irrefl 0)
    | false =>
      have hcontains := (positionalValue_of_nonzero hb).2
      rw [h] at hcontains
      exact magnitude_eq_of_contains hcontains (positionalValue_of_nonzero hc).2

theorem mem_positionalText {digits : List Char} (h : ∀ c ∈ digits, c.isDigit = true) {point : ℤ}
    {c : Char} (hc : c ∈ plainFloatLayout.positionalText digits point) :
    c.isDigit = true ∨ c = '.' := by
  unfold Layout.positionalText at hc
  split at hc
  · rcases List.mem_cons.1 hc with rfl | hc
    · exact .inl (by decide)
    rcases List.mem_cons.1 hc with rfl | hc
    · exact .inr rfl
    · exact .inl ((List.mem_append.1 hc).elim (isDigit_zeros c) (h c))
  split at hc
  · rcases List.mem_append.1 hc with hc | hc
    · exact .inl (h c (List.mem_of_mem_take hc))
    rcases List.mem_cons.1 hc with rfl | hc
    · exact .inr rfl
    · exact .inl (h c (List.mem_of_mem_drop hc))
  · have hplain : (if plainFloatLayout.wholeFraction = true then ['.', '0'] else []) = [] := rfl
    rw [hplain, List.append_nil] at hc
    exact .inl ((List.mem_append.1 hc).elim (h c) (isDigit_zeros c))

theorem mem_magnitudeText {b : Binary64} {c : Char}
    (hc : c ∈ plainFloatLayout.magnitudeText b) : c.isDigit = true ∨ c = '.' := by
  cases hb : b.isZero with
  | true =>
    unfold Layout.magnitudeText at hc
    rw [hb] at hc
    obtain rfl := List.mem_singleton.1 hc
    exact .inl (by decide)
  | false =>
    rw [magnitudeText_of_nonzero hb] at hc
    exact mem_positionalText (isDigit_toDigits _) hc

/-! ## The text of a double -/

/-- The text of a double that is a number, without its sign. -/
def unsignedText (b : Binary64) : List Char :=
  if b.isFinite then plainFloatLayout.magnitudeText b else ['i', 'n', 'f']

theorem mem_unsignedText {b : Binary64} {c : Char} (hc : c ∈ b.unsignedText) :
    c ≠ '-' ∧ c ≠ 'N' := by
  have hmark : ∀ mark : Char, mark.isDigit = false → mark ≠ '.' → c.isDigit = true ∨ c = '.' →
      c ≠ mark := by
    rintro mark hdigit hpoint (hc | hc) rfl
    · rw [hdigit] at hc
      cases hc
    · exact hpoint hc
  unfold unsignedText at hc
  split at hc
  · have hdigits := mem_magnitudeText hc
    exact ⟨hmark '-' (by decide) (by decide) hdigits, hmark 'N' (by decide) (by decide) hdigits⟩
  · simp only [List.mem_cons, List.not_mem_nil, or_false] at hc
    rcases hc with rfl | rfl | rfl <;> decide

/-- Numbers with one text below the sign have one magnitude. -/
theorem magnitude_eq_of_unsignedText {b c : Binary64} (hb : b.isNaN = false)
    (hc : c.isNaN = false) (h : b.unsignedText = c.unsignedText) : b.magnitude = c.magnitude := by
  have hinf : ∀ d : Binary64, plainFloatLayout.magnitudeText d ≠ ['i', 'n', 'f'] := by
    intro d hd
    have hmem : 'i' ∈ plainFloatLayout.magnitudeText d := by
      rw [hd]
      exact List.mem_cons_self
    rcases mem_magnitudeText hmem with hdigit | hpoint
    · exact absurd hdigit (by decide)
    · exact absurd hpoint (by decide)
  have hinfinite : ∀ d : Binary64, d.isNaN = false → d.isFinite = false →
      d.magnitude = 2047 * Nat.pow 2 52 := by
    intro d hnan hfinite
    simp only [isFinite, bne_eq_false_iff_eq] at hfinite
    simp only [isNaN, hfinite, beq_self_eq_true, Bool.true_and, bne_eq_false_iff_eq] at hnan
    rw [magnitude, hfinite, hnan, Nat.add_zero]
  unfold unsignedText at h
  cases hbf : b.isFinite with
  | true =>
    cases hcf : c.isFinite with
    | true =>
      rw [hbf, hcf] at h
      exact magnitude_eq_of_magnitudeText h
    | false =>
      rw [hbf, hcf] at h
      exact absurd h (hinf b)
  | false =>
    cases hcf : c.isFinite with
    | true =>
      rw [hbf, hcf] at h
      exact absurd h.symm (hinf c)
    | false => rw [hinfinite b hb hbf, hinfinite c hc hcf]

theorem bits_eq (b : Binary64) :
    b.bits.toNat = (if b.isNegative then Nat.pow 2 63 else 0) + b.magnitude := by
  have hbits := b.bits.toNat_lt
  have h52 : Nat.pow 2 52 = 4503599627370496 := by decide
  have h63 : Nat.pow 2 63 = 9223372036854775808 := by decide
  unfold isNegative magnitude exponentBits fractionBits
  rw [h52, h63]
  by_cases hnegative : 9223372036854775808 ≤ b.bits.toNat
  · rw [if_pos (decide_eq_true hnegative)]
    omega
  · rw [if_neg (by simpa using hnegative)]
    omega

theorem eq_of_sign_magnitude {b c : Binary64} (hsign : b.isNegative = c.isNegative)
    (hmagnitude : b.magnitude = c.magnitude) : b = c := by
  have hbits : b.bits.toNat = c.bits.toNat := by rw [bits_eq, bits_eq, hsign, hmagnitude]
  cases b
  cases c
  exact congrArg Binary64.mk (UInt64.toNat_inj.1 hbits)

theorem text_toList (b : Binary64) :
    (plainFloatLayout.text b).toList =
      if b.isNaN then ['N', 'a', 'N']
      else if b.isNegative then '-' :: b.unsignedText else b.unsignedText := by
  unfold Layout.text unsignedText
  split
  · rfl
  · exact String.toList_ofList

theorem text_ne_nan {b : Binary64} (hb : b.isNaN = false) :
    (plainFloatLayout.text b).toList ≠ ['N', 'a', 'N'] := by
  intro hlist
  have hmem : 'N' ∈ b.unsignedText := by
    rw [text_toList, hb, if_neg Bool.false_ne_true] at hlist
    split at hlist
    · cases hlist
    · rw [hlist]
      exact List.mem_cons_self
  exact (mem_unsignedText hmem).2 rfl

/-- Doubles with one plain text are one double, or no numbers. -/
theorem plainText_inj {b c : Binary64} (h : plainFloatLayout.text b = plainFloatLayout.text c) :
    b = c ∨ (b.isNaN = true ∧ c.isNaN = true) := by
  have hlist := congrArg String.toList h
  cases hb : b.isNaN with
  | true =>
    refine .inr ⟨rfl, ?_⟩
    by_contra hc
    rw [text_toList b, hb, if_pos rfl] at hlist
    exact text_ne_nan (Bool.not_eq_true _ ▸ hc) hlist.symm
  | false =>
    have hc : c.isNaN = false := by
      by_contra hc
      rw [text_toList c, if_pos (Bool.not_eq_false _ ▸ hc)] at hlist
      exact text_ne_nan hb hlist
    rw [text_toList, text_toList, hb, hc, if_neg Bool.false_ne_true, if_neg Bool.false_ne_true]
      at hlist
    have hminus : ∀ d e : Binary64, '-' :: d.unsignedText ≠ e.unsignedText := fun d e heq =>
      (mem_unsignedText (heq ▸ List.mem_cons_self)).1 rfl
    refine .inl ?_
    cases hbs : b.isNegative with
    | true =>
      cases hcs : c.isNegative with
      | true =>
        rw [hbs, hcs] at hlist
        exact eq_of_sign_magnitude (hbs.trans hcs.symm)
          (magnitude_eq_of_unsignedText hb hc (List.cons.inj hlist).2)
      | false =>
        rw [hbs, hcs] at hlist
        exact absurd hlist (hminus b c)
    | false =>
      cases hcs : c.isNegative with
      | true =>
        rw [hbs, hcs] at hlist
        exact absurd hlist.symm (hminus c b)
      | false =>
        rw [hbs, hcs] at hlist
        exact eq_of_sign_magnitude (hbs.trans hcs.symm)
          (magnitude_eq_of_unsignedText hb hc hlist)

end Binary64
end SelectionSql
