import SelectionSql.Proofs.Sql.Lexeme

/-!
# Integers and doubles are written as numbers

* `Sql.isMagnitude_positionalText`, `Sql.isMagnitude_scientificText`: digits around the point, or
  one digit before it and an exponent, are a number without a sign.
* `Sql.isNumber_intText`, `Sql.isNumber_floatText`: what stands in statements for an integer and for
  a finite double.
-/
set_option autoImplicit false

namespace SelectionSql
namespace Sql
open Binary64

theorem isDigits_repr (n : Nat) : IsDigits (Nat.repr n).toList := by
  rw [Nat.toList_repr]
  exact ⟨Nat.toDigits_ne_nil, fun c hc => Nat.isDigit_of_mem_toDigits (by decide) (by decide) hc⟩

theorem IsDigits.append {a b : List Char} (ha : IsDigits a) (hb : ∀ c ∈ b, c.isDigit = true) :
    IsDigits (a ++ b) := by
  refine ⟨fun h => ha.1 (List.append_eq_nil_iff.1 h).1, fun c hc => ?_⟩
  rcases List.mem_append.1 hc with hc | hc
  · exact ha.2 c hc
  · exact hb c hc

theorem IsDigits.take {digits : List Char} (h : IsDigits digits) {n : Nat} (hn : 0 < n) :
    IsDigits (digits.take n) := by
  refine ⟨fun hnil => ?_, fun c hc => h.2 c (List.mem_of_mem_take hc)⟩
  rcases List.take_eq_nil_iff.1 hnil with hzero | hempty
  · omega
  · exact h.1 hempty

theorem IsDigits.drop {digits : List Char} (h : IsDigits digits) {n : Nat}
    (hn : n < digits.length) : IsDigits (digits.drop n) := by
  refine ⟨fun hnil => ?_, fun c hc => h.2 c (List.mem_of_mem_drop hc)⟩
  have := List.drop_eq_nil_iff.1 hnil
  omega

theorem isDigit_of_mem_zeros {n : Nat} {c : Char} (h : c ∈ List.replicate n '0') :
    c.isDigit = true := by
  rw [List.eq_of_mem_replicate h]
  decide

theorem isFraction_point {digits : List Char} (h : IsDigits digits) : IsFraction ('.' :: digits) :=
  .inr ⟨digits, h, rfl⟩

theorem isDigits_singleton {c : Char} (h : c.isDigit = true) : IsDigits [c] :=
  ⟨List.cons_ne_nil c [], fun x hx => by rw [List.mem_singleton.1 hx]; exact h⟩

theorem isMagnitude_whole {whole fraction : List Char} (hwhole : IsDigits whole)
    (hfraction : IsFraction fraction) : IsMagnitude (whole ++ fraction) :=
  ⟨whole, fraction, [], hwhole, hfraction, .inl rfl, by rw [List.append_nil]⟩

theorem isMagnitude_positionalText (l : Layout) {digits : List Char} (h : IsDigits digits)
    (point : Int) : IsMagnitude (l.positionalText digits point) := by
  unfold Layout.positionalText
  split
  · next hpoint =>
    have hzeros : IsDigits (List.replicate (-point).toNat '0' ++ digits) := by
      refine ⟨fun hnil => h.1 (List.append_eq_nil_iff.1 hnil).2, fun c hc => ?_⟩
      rcases List.mem_append.1 hc with hc | hc
      · exact isDigit_of_mem_zeros hc
      · exact h.2 c hc
    have hzero : IsDigits ['0'] := isDigits_singleton rfl
    exact isMagnitude_whole hzero (isFraction_point hzeros)
  · split
    · next hpoint hlength =>
      exact isMagnitude_whole (h.take (by omega)) (isFraction_point (h.drop (by omega)))
    · refine isMagnitude_whole (h.append fun c hc => isDigit_of_mem_zeros hc) ?_
      split
      · exact isFraction_point (isDigits_singleton rfl)
      · exact .inl rfl

theorem isMagnitude_scientificText {l : Layout} (hplus : l.plusSign = false) {digits : List Char}
    (h : IsDigits digits) (point : Int) : IsMagnitude (l.scientificText digits point) := by
  have hfraction : IsFraction (if digits.length ≤ 1 then [] else '.' :: digits.drop 1) := by
    split
    · exact .inl rfl
    · exact isFraction_point (h.drop (by omega))
  have hexponent : ∀ e : Int, IsExponent
      ((if e < 0 then ['e', '-'] else if l.plusSign then ['e', '+'] else ['e']) ++
        (Nat.repr e.natAbs).toList) := by
    intro e
    rw [hplus, if_neg Bool.false_ne_true]
    split
    · exact .inr ⟨['-'], _, .inr rfl, isDigits_repr _, rfl⟩
    · exact .inr ⟨[], _, .inl rfl, isDigits_repr _, rfl⟩
  refine ⟨_, _, _, h.take Nat.one_pos, hfraction, hexponent (point - 1), ?_⟩
  simp only [Layout.scientificText, List.append_assoc]

theorem isMagnitude_magnitudeText {l : Layout} (hplus : l.plusSign = false) (b : Binary64) :
    IsMagnitude (l.magnitudeText b) := by
  have hzero : IsDigits ['0'] := isDigits_singleton rfl
  unfold Layout.magnitudeText
  split
  · split
    · exact isMagnitude_whole hzero (isFraction_point hzero)
    · exact isMagnitude_whole hzero (.inl rfl)
  · have hforms : ∀ (n : Nat) (point : Int) (positional : Bool), IsMagnitude
        (if positional then l.positionalText (Nat.repr n).toList point
        else l.scientificText (Nat.repr n).toList point) := by
      intro n point positional
      split
      · exact isMagnitude_positionalText l (isDigits_repr n) point
      · exact isMagnitude_scientificText hplus (isDigits_repr n) point
    exact hforms _ _ _

/-- The text of a finite double is a number. -/
theorem isNumber_floatText {f : Binary64} (h : f.isFinite = true) :
    IsNumber (floatLayout.text f).toList := by
  have hmagnitude : IsMagnitude (floatLayout.magnitudeText f) :=
    isMagnitude_magnitudeText rfl f
  rw [Layout.toList_text floatLayout h]
  split
  · exact ⟨['-'], _, .inr rfl, hmagnitude, rfl⟩
  · exact ⟨[], _, .inl rfl, hmagnitude, rfl⟩

/-- The text of an integer is a number. -/
theorem isNumber_intText (n : Int) : IsNumber (intText n).toList := by
  have hmagnitude : IsMagnitude (Nat.repr n.natAbs).toList :=
    ⟨_, [], [], isDigits_repr n.natAbs, .inl rfl, .inl rfl, (List.append_nil _).symm⟩
  unfold intText
  split
  · exact ⟨['-'], _, .inr rfl, hmagnitude, by rw [String.toList_append]; rfl⟩
  · exact ⟨[], _, .inl rfl, hmagnitude, rfl⟩

end Sql
end SelectionSql
