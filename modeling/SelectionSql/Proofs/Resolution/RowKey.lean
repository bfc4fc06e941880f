import SelectionSql.Proofs.Binary64.PlainText
import SelectionSql.Proofs.Json.Integer
import SelectionSql.Sql.Token

/-!
# Keys tell ids apart

What is resolved for a row finds the row by a text alone, the key of its id. The text must tell
which value the id is, and agree with what the id is written as in the statement.

* `Scalar.idKey?_eq_some_iff`: a key is the mark of a kind and the plain text of a value.
* `Scalar.SameId`: ids that count as one: doubles by their plain text, all others as values.
* `Scalar.exists_idKey?_iff`: ids have one key exactly if they count as one.
* `Scalar.SameId.eq_or_isNaN`: different ids count as one only if they are no numbers.
* `Scalar.keys_identify_ids`: who has no key, who has one key, and that one key is one literal.
-/
set_option autoImplicit false

namespace SelectionSql
open Sql (literalChars)

theorem intText_inj {m n : Int64} (h : intText m.toInt = intText n.toInt) : m = n := by
  have hread : ∀ k : Int64, Number.ofText (intText k.toInt) = .int k.toInt := fun k =>
    Number.ofText_intText k.le_toInt (Int.lt_trans k.toInt_lt (by decide))
  have hnumber : Number.int m.toInt = .int n.toInt := by rw [← hread m, h, hread n]
  exact Int64.toInt_inj.1 (Number.int.inj hnumber)

theorem boolText_inj : ∀ {a b : Bool}, boolText a = boolText b → a = b := by decide

namespace Scalar

/-! ## Keys -/

/-- The kind of a value, as it stands in keys. -/
def kindMark : Scalar → Char
  | .null => 'n'
  | .bool _ => 'b'
  | .int _ => 'i'
  | .float _ => 'f'
  | .string _ => 's'

theorem idKey?_eq_some_iff {a : Scalar} {key : String} :
    a.idKey? = some key ↔
      a.isNull = false ∧ key.toList = a.kindMark :: ':' :: a.display.toList := by
  have htext : ∀ mark text : String,
      mark ++ text = key ↔ key.toList = mark.toList ++ text.toList := by
    intro mark text
    rw [← String.toList_inj, String.toList_append, eq_comm]
  cases a with
  | null => simp [idKey?, isNull]
  | bool b => simp [idKey?, isNull, htext, kindMark, display]
  | int n => simp [idKey?, isNull, htext, kindMark, display]
  | float f => simp [idKey?, isNull, htext, kindMark, display]
  | string s => simp [idKey?, isNull, htext, kindMark, display]

theorem idKey?_eq_none_iff {a : Scalar} : a.idKey? = none ↔ a = .null := by
  cases a <;> simp [idKey?]

/-! ## Ids that count as one -/

/-- Ids that count as one: they are of one kind and equal, doubles as far as their plain text
shows. -/
inductive SameId : Scalar → Scalar → Prop
  | bool (b : Bool) : SameId (.bool b) (.bool b)
  | int (n : Int64) : SameId (.int n) (.int n)
  | float {f g : Binary64} (h : plainFloatLayout.text f = plainFloatLayout.text g) :
      SameId (.float f) (.float g)
  | string (s : String) : SameId (.string s) (.string s)

variable {a b : Scalar}

/-- A kind and a plain text leave no choice. -/
theorem sameId_of_display (hnull : a.isNull = false) (hkind : a.kindMark = b.kindMark)
    (hdisplay : a.display = b.display) : SameId a b := by
  cases a with
  | null => cases hnull
  | bool x =>
    cases b with
    | bool y => exact boolText_inj hdisplay ▸ .bool x
    | _ => exact absurd hkind (by simp [kindMark])
  | int x =>
    cases b with
    | int y => exact intText_inj hdisplay ▸ .int x
    | _ => exact absurd hkind (by simp [kindMark])
  | float x =>
    cases b with
    | float y => exact .float hdisplay
    | _ => exact absurd hkind (by simp [kindMark])
  | string x =>
    cases b with
    | string y => exact (show x = y from hdisplay) ▸ .string x
    | _ => exact absurd hkind (by simp [kindMark])

theorem SameId.idKey?_eq (h : SameId a b) : a.idKey? = b.idKey? := by
  cases h with
  | float h => exact congrArg (fun text => some ("f:" ++ text)) h
  | _ => rfl

theorem exists_idKey?_iff :
    (∃ key, a.idKey? = some key ∧ b.idKey? = some key) ↔ SameId a b := by
  constructor
  · rintro ⟨key, ha, hb⟩
    obtain ⟨hnull, hkeyA⟩ := idKey?_eq_some_iff.1 ha
    obtain ⟨-, hkeyB⟩ := idKey?_eq_some_iff.1 hb
    obtain ⟨hkind, hrest⟩ := List.cons.inj (hkeyA.symm.trans hkeyB)
    exact sameId_of_display hnull hkind (String.toList_inj.1 (List.cons.inj hrest).2)
  · intro h
    have hsome : a.idKey? ≠ none := by
      rw [ne_eq, idKey?_eq_none_iff]
      rintro rfl
      cases h
    obtain ⟨key, hkey⟩ := Option.ne_none_iff_exists'.1 hsome
    exact ⟨key, hkey, h.idKey?_eq ▸ hkey⟩

/-! ## One key, one literal -/

theorem SameId.eq_or_isNaN (h : SameId a b) :
    a = b ∨ ∃ f g, a = .float f ∧ b = .float g ∧ f.isNaN = true ∧ g.isNaN = true := by
  cases h with
  | @float f g h =>
    rcases Binary64.plainText_inj h with rfl | ⟨hf, hg⟩
    · exact .inl rfl
    · exact .inr ⟨f, g, rfl, rfl, hf, hg⟩
  | _ => exact .inl rfl

theorem literalChars_nan {f : Binary64} (h : f.isNaN = true) (d : Dialect) :
    literalChars d (.float f) = Dialect.nullChars := by
  unfold Binary64.isNaN at h
  rw [Bool.and_eq_true, beq_iff_eq] at h
  have hfinite : f.isFinite = false := by
    rw [Binary64.isFinite, h.1]
    rfl
  rw [literalChars, hfinite, if_neg Bool.false_ne_true]

theorem SameId.literalChars_eq (h : SameId a b) (d : Dialect) :
    literalChars d a = literalChars d b := by
  rcases h.eq_or_isNaN with rfl | ⟨f, g, rfl, rfl, hf, hg⟩
  · rfl
  · rw [literalChars_nan hf, literalChars_nan hg]

/-- Null alone has no key. Values have one key exactly if they are of one kind and equal, doubles
if their plain text is, and then every dialect writes them as one literal. -/
theorem keys_identify_ids (v w : Scalar) :
    (v.idKey? = none ↔ v = .null) ∧
      ((∃ key, v.idKey? = some key ∧ w.idKey? = some key) ↔ SameId v w) ∧
      (v ≠ .null → v.idKey? = w.idKey? → ∀ d, literalChars d v = literalChars d w) := by
  refine ⟨idKey?_eq_none_iff, exists_idKey?_iff, fun hnull hkeys d => ?_⟩
  obtain ⟨key, hkey⟩ := Option.ne_none_iff_exists'.1 (mt idKey?_eq_none_iff.1 hnull)
  exact (exists_idKey?_iff.1 ⟨key, hkey, hkeys ▸ hkey⟩).literalChars_eq d

/-- Two values that are no numbers, with different bits. -/
theorem keys_identify_ids_nan :
    Scalar.float ⟨0x7ff8000000000000⟩ ≠ .null ∧
      (Scalar.float ⟨0x7ff8000000000000⟩).idKey? = (Scalar.float ⟨0xfff0000000000001⟩).idKey? ∧
      ∀ d, literalChars d (.float ⟨0x7ff8000000000000⟩) =
        literalChars d (.float ⟨0xfff0000000000001⟩) := by
  have hnull : Scalar.float ⟨0x7ff8000000000000⟩ ≠ .null := by decide
  have hkeys : (Scalar.float ⟨0x7ff8000000000000⟩).idKey? =
      (Scalar.float ⟨0xfff0000000000001⟩).idKey? := by decide +kernel
  exact ⟨hnull, hkeys, (keys_identify_ids _ _).2.2 hnull hkeys⟩

/-- A text that looks like the key of another value has a key of its own. -/
example : (Scalar.string "i:7").idKey? ≠ (Scalar.int 7).idKey? := by decide

end Scalar
end SelectionSql
