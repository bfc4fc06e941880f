import SelectionSql.Json.Reader
import SelectionSql.Proofs.Reader
import SelectionSql.Proofs.Text.Letters

/-!
# The grammar of JSON numbers

* `Json.IsWhole`, `IsFraction`, `IsExponent`, `IsNumber`: a number and its parts, as written.
* `Json.EndsNumber`: what may follow a number without becoming a part of it.
* `Json.numberLexeme_sound`, `IsNumber.numberLexeme_append`: a number is read exactly by the
  grammar.
-/
set_option autoImplicit false

namespace SelectionSql
namespace Json
open Reader

/-! ## The grammar -/

def IsWhole (cs : List Char) : Prop :=
  cs = ['0'] ∨ ∃ c digits, ('1' ≤ c && c ≤ '9') = true ∧ (∀ d ∈ digits, d.isDigit = true) ∧
    cs = c :: digits

def IsFraction (cs : List Char) : Prop :=
  ∃ digits, digits ≠ [] ∧ (∀ d ∈ digits, d.isDigit = true) ∧ cs = '.' :: digits

def IsExponent (cs : List Char) : Prop :=
  ∃ mark sign digits, (mark = 'e' ∨ mark = 'E') ∧ (sign = [] ∨ sign = ['+'] ∨ sign = ['-']) ∧
    digits ≠ [] ∧ (∀ d ∈ digits, d.isDigit = true) ∧ cs = mark :: (sign ++ digits)

/-- A number: a sign, digits, a fraction, a power of ten. -/
inductive IsNumber : List Char → Prop
  | intro {sign whole fraction exponent : List Char} (hsign : sign = [] ∨ sign = ['-'])
      (hwhole : IsWhole whole) (hfraction : fraction = [] ∨ IsFraction fraction)
      (hexponent : exponent = [] ∨ IsExponent exponent) :
      IsNumber (sign ++ whole ++ fraction ++ exponent)

/-! ## Reading -/

def NoDigit (rest : List Char) : Prop := ∀ c ∈ rest.head?, c.isDigit = false

/-- Nothing that follows can belong to a number. -/
def EndsNumber (rest : List Char) : Prop :=
  ∀ c ∈ rest.head?, c.isDigit = false ∧ c ≠ '.' ∧ c ≠ 'e' ∧ c ≠ 'E'

theorem wholeDigits_eq_some_iff {cs w rest : List Char} : wholeDigits cs = some (w, rest) ↔
    cs = w ++ rest ∧ IsWhole w ∧ (w = ['0'] ∨ NoDigit rest) := by
  simp only [wholeDigits, orElse_eq_some_iff, bind_eq_some_iff, char_eq_some_iff, pure_eq_some_iff,
    satisfy_eq_some_iff, takeWhile_eq_some_iff]
  constructor
  · rintro (⟨-, mid, rfl, rfl, rfl⟩ | ⟨-, c, mid, ⟨hc, rfl⟩, digits, mid', ⟨rfl, hdigits, hrest⟩,
      rfl, rfl⟩)
    · exact ⟨rfl, .inl rfl, .inl rfl⟩
    · exact ⟨rfl, .inr ⟨c, digits, hc, hdigits, rfl⟩, .inr hrest⟩
  · rintro ⟨rfl, rfl | ⟨c, digits, hc, hdigits, rfl⟩, hends⟩
    · exact .inl ⟨(), rest, rfl, rfl, rfl⟩
    · have hzero : c ≠ '0' := by
        rintro rfl
        exact absurd hc (by decide)
      have hrest : NoDigit rest := hends.resolve_left fun h => hzero (List.cons.inj h).1
      refine .inr ⟨?_, c, digits ++ rest, ⟨hc, rfl⟩, digits, rest, ⟨rfl, hdigits, hrest⟩, rfl, rfl⟩
      refine bind_of_none ?_
      rw [List.cons_append, char, if_neg hzero]

theorem fractionPart_eq_some_iff {cs w rest : List Char} : fractionPart cs = some (w, rest) ↔
    cs = w ++ rest ∧ IsFraction w ∧ NoDigit rest := by
  simp only [fractionPart, bind_eq_some_iff, char_eq_some_iff, pure_eq_some_iff,
    takeWhile1_eq_some_iff]
  constructor
  · rintro ⟨-, mid, rfl, digits, mid', ⟨rfl, hne, hdigits, hrest⟩, rfl, rfl⟩
    exact ⟨rfl, ⟨digits, hne, hdigits, rfl⟩, hrest⟩
  · rintro ⟨rfl, ⟨digits, hne, hdigits, rfl⟩, hrest⟩
    exact ⟨(), digits ++ rest, rfl, digits, rest, ⟨rfl, hne, hdigits, hrest⟩, rfl, rfl⟩

theorem exponentPart_eq_some_iff {cs w rest : List Char} : exponentPart cs = some (w, rest) ↔
    cs = w ++ rest ∧ IsExponent w ∧ NoDigit rest := by
  simp only [exponentPart, bind_eq_some_iff, satisfy_eq_some_iff, pure_eq_some_iff,
    opt_eq_some_iff, takeWhile1_eq_some_iff, Bool.or_eq_true, beq_iff_eq]
  constructor
  · rintro ⟨mark, mid, ⟨hmark, rfl⟩, sign, mid', hsign, digits, mid'',
      ⟨rfl, hne, hdigits, hrest⟩, rfl, rfl⟩
    rcases hsign with ⟨c, rfl, hc, rfl⟩ | ⟨rfl, -, rfl⟩
    · have hsign : [c] = [] ∨ [c] = ['+'] ∨ [c] = ['-'] := by simpa using hc
      exact ⟨by simp, ⟨mark, [c], digits, hmark, hsign, hne, hdigits, rfl⟩, hrest⟩
    · exact ⟨rfl, ⟨mark, [], digits, hmark, .inl rfl, hne, hdigits, rfl⟩, hrest⟩
  · rintro ⟨rfl, ⟨mark, sign, digits, hmark, hsign, hne, hdigits, rfl⟩, hrest⟩
    have hrun : digits ++ rest = digits ++ rest ∧ digits ≠ [] ∧ (∀ d ∈ digits, d.isDigit = true) ∧
        NoDigit rest := ⟨rfl, hne, hdigits, hrest⟩
    rcases hsign with rfl | hsign
    · refine ⟨mark, digits ++ rest, ⟨hmark, rfl⟩, none, digits ++ rest, .inr ⟨rfl, ?_, rfl⟩, digits,
        rest, hrun, rfl, rfl⟩
      obtain ⟨d, digits, rfl⟩ := List.exists_cons_of_ne_nil hne
      have hd : ¬ ((d == '+' || d == '-') = true) := by
        have hdigit := hdigits d List.mem_cons_self
        simp only [Bool.or_eq_true, beq_iff_eq]
        rintro (rfl | rfl) <;> exact absurd hdigit (by decide)
      rw [List.cons_append, satisfy, if_neg hd]
    · obtain ⟨c, rfl, hc⟩ : ∃ c, sign = [c] ∧ (c = '+' ∨ c = '-') := by
        rcases hsign with rfl | rfl
        · exact ⟨_, rfl, .inl rfl⟩
        · exact ⟨_, rfl, .inr rfl⟩
      exact ⟨mark, c :: (digits ++ rest), ⟨hmark, rfl⟩, some c, digits ++ rest,
        .inl ⟨c, rfl, hc, rfl⟩, digits, rest, hrun, rfl, rfl⟩

/-- A part that may be missing is read if it is there, and is not mistaken for what follows. -/
theorem exists_opt {r : Reader (List Char)} {P : List Char → Prop} {w rest : List Char}
    (hw : w = [] ∨ P w) (hsome : P w → r (w ++ rest) = some (w, rest)) (hnone : r rest = none) :
    ∃ x, opt r (w ++ rest) = some (x, rest) ∧ x.getD [] = w := by
  rcases hw with rfl | hw
  · exact ⟨none, opt_eq_some_iff.2 (.inr ⟨rfl, hnone, rfl⟩), rfl⟩
  · exact ⟨some w, opt_eq_some_iff.2 (.inl ⟨w, rfl, hsome hw⟩), rfl⟩

theorem numberLexeme_sound {cs w rest : List Char} (h : numberLexeme cs = some (w, rest)) :
    IsNumber w ∧ cs = w ++ rest := by
  simp only [numberLexeme, bind_eq_some_iff, pure_eq_some_iff, opt_eq_some_iff,
    satisfy_eq_some_iff, wholeDigits_eq_some_iff, fractionPart_eq_some_iff,
    exponentPart_eq_some_iff, beq_iff_eq] at h
  obtain ⟨sign, mid, hsign, whole, mid', ⟨rfl, hwhole, -⟩, fraction, mid'', hfraction, exponent,
    mid''', hexponent, rfl, rfl⟩ := h
  have hsign' : (sign.toList = [] ∨ sign.toList = ['-']) ∧ cs = sign.toList ++ (whole ++ mid') := by
    rcases hsign with ⟨c, rfl, rfl, rfl⟩ | ⟨rfl, -, rfl⟩
    · exact ⟨.inr rfl, rfl⟩
    · exact ⟨.inl rfl, rfl⟩
  have hfraction' : (fraction.getD [] = [] ∨ IsFraction (fraction.getD [])) ∧
      mid' = fraction.getD [] ++ mid'' := by
    rcases hfraction with ⟨w, rfl, rfl, hw, -⟩ | ⟨rfl, -, rfl⟩
    · exact ⟨.inr hw, rfl⟩
    · exact ⟨.inl rfl, rfl⟩
  have hexponent' : (exponent.getD [] = [] ∨ IsExponent (exponent.getD [])) ∧
      mid'' = exponent.getD [] ++ mid''' := by
    rcases hexponent with ⟨w, rfl, rfl, hw, -⟩ | ⟨rfl, -, rfl⟩
    · exact ⟨.inr hw, rfl⟩
    · exact ⟨.inl rfl, rfl⟩
  refine ⟨.intro hsign'.1 hwhole hfraction'.1 hexponent'.1, ?_⟩
  rw [hsign'.2, hfraction'.2, hexponent'.2]
  simp

theorem IsWhole.head {whole : List Char} (h : IsWhole whole) :
    ∃ c digits, whole = c :: digits ∧ c.isDigit = true := by
  rcases h with rfl | ⟨c, digits, hc, -, rfl⟩
  · exact ⟨'0', [], rfl, by decide⟩
  · refine ⟨c, digits, rfl, ?_⟩
    simp only [Bool.and_eq_true, decide_eq_true_eq, le_iff_toNat_le] at hc
    rw [isDigit_iff]
    exact ⟨Nat.le_trans (by decide) hc.1, hc.2⟩

theorem IsNumber.numberLexeme_append {w rest : List Char} (h : IsNumber w)
    (hrest : EndsNumber rest) : numberLexeme (w ++ rest) = some (w, rest) := by
  cases h with
  | @intro sign whole fraction exponent hsign hwhole hfraction hexponent =>
    have hpoint : ∀ c ∈ (exponent ++ rest).head?, c.isDigit = false ∧ c ≠ '.' := by
      rcases hexponent with rfl | ⟨mark, s, digits, hmark, -, -, -, rfl⟩
      · exact fun c hc => ⟨(hrest c hc).1, (hrest c hc).2.1⟩
      · intro c hc
        cases hc
        rcases hmark with rfl | rfl <;> decide
    have hdigit : NoDigit (fraction ++ (exponent ++ rest)) := by
      rcases hfraction with rfl | ⟨digits, -, -, rfl⟩
      · exact fun c hc => (hpoint c hc).1
      · intro c hc
        cases hc
        decide
    have hnone : exponentPart rest = none := by
      refine bind_of_none (satisfy_of_head fun c hc => ?_)
      obtain ⟨-, -, he, hE⟩ := hrest c hc
      simp [he, hE]
    obtain ⟨x, hx, rfl⟩ := exists_opt hexponent
      (fun h => exponentPart_eq_some_iff.2 ⟨rfl, h, fun c hc => (hrest c hc).1⟩) hnone
    have hnone' : fractionPart (x.getD [] ++ rest) = none :=
      bind_of_none (char_of_head fun c hc => (hpoint c hc).2)
    obtain ⟨y, hy, rfl⟩ := exists_opt hfraction
      (fun h => fractionPart_eq_some_iff.2 ⟨rfl, h, fun c hc => (hpoint c hc).1⟩) hnone'
    have hwhole' : wholeDigits (whole ++ (y.getD [] ++ (x.getD [] ++ rest))) =
        some (whole, y.getD [] ++ (x.getD [] ++ rest)) :=
      wholeDigits_eq_some_iff.2 ⟨rfl, hwhole, .inr hdigit⟩
    obtain ⟨z, hz, rfl⟩ : ∃ z : Option Char, opt (satisfy fun c => c == '-')
        (sign ++ (whole ++ (y.getD [] ++ (x.getD [] ++ rest)))) =
          some (z, whole ++ (y.getD [] ++ (x.getD [] ++ rest))) ∧ z.toList = sign := by
      rcases hsign with rfl | rfl
      · refine ⟨none, opt_eq_some_iff.2 (.inr ⟨rfl, satisfy_of_head fun c hc => ?_, rfl⟩), rfl⟩
        obtain ⟨d, digits, rfl, hd⟩ := hwhole.head
        cases hc
        rw [beq_eq_false_iff_ne]
        rintro rfl
        exact absurd hd (by decide)
      · exact ⟨some '-', rfl, rfl⟩
    have htext : z.toList ++ whole ++ y.getD [] ++ x.getD [] ++ rest =
        z.toList ++ (whole ++ (y.getD [] ++ (x.getD [] ++ rest))) := by simp
    rw [htext, numberLexeme, bind_of_some hz, bind_of_some hwhole', bind_of_some hy,
      bind_of_some hx]
    rfl

theorem IsNumber.head {w : List Char} (h : IsNumber w) :
    ∃ c w', w = c :: w' ∧ (c = '-' ∨ c.isDigit = true) := by
  cases h with
  | @intro sign whole fraction exponent hsign hwhole _ _ =>
    obtain ⟨c, digits, rfl, hc⟩ := hwhole.head
    rcases hsign with rfl | rfl
    · exact ⟨c, _, rfl, .inr hc⟩
    · exact ⟨'-', _, rfl, .inl rfl⟩

end Json
end SelectionSql
