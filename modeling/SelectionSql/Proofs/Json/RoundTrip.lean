import SelectionSql.Json.Printer
import SelectionSql.Proofs.Binary64.PlainText
import SelectionSql.Proofs.Json.Grammar

/-!
# JSON that is written is read back

* `Json.IsWritten`: every number of a value has the form of one.
* `Json.quoted_quote`, `denotes_renderChars`: what is written for a string, resp. a value, denotes
  it.
* `Json.read_render`, `parse?_render`: what is written for a value is read back, by the grammar
  alone, and within the limits if it keeps them.
-/
set_option autoImplicit false

namespace SelectionSql
namespace Json

/-! ## Strings -/

theorem hexValue?_hexDigit : ∀ n < 16, hexValue? (hexDigit n) = some n := by decide

theorem escapes_control {c : Char} (h : c.toNat < 32) :
    Escapes ['u', '0', '0', hexDigit (c.toNat / 16), hexDigit (c.toNat % 16)] c := by
  have hzero : hexValue? '0' = some 0 := by decide
  have hcode := IsCode.four hzero hzero (hexValue?_hexDigit (c.toNat / 16) (by omega))
    (hexValue?_hexDigit (c.toNat % 16) (by omega))
  have hn : ((0 * 16 + 0) * 16 + c.toNat / 16) * 16 + c.toNat % 16 = c.toNat := by omega
  rw [hn] at hcode
  have hescapes := Escapes.code hcode (.inl (by omega))
  rwa [Char.ofNat_toNat] at hescapes

/-- What is written for a character stands for it. -/
theorem body_quoteChar {c : Char} {w ds : List Char} (h : Body StandsFor w ds) :
    Body StandsFor (quoteChar c ++ w) (c :: ds) := by
  have hescaped : ∀ {e : List Char} {d : Char}, Escapes e d →
      Body StandsFor ('\\' :: (e ++ w)) (d :: ds) := by
    intro e d he
    exact .escaped ⟨d, he, rfl⟩ h
  have hshort : ∀ {e d : Char}, (e, d) ∈ shortEscapes →
      Body StandsFor (['\\', e] ++ w) (d :: ds) := fun hmem => hescaped (.short hmem)
  unfold quoteChar
  split
  · next hc =>
    rcases hc with rfl | rfl
    · exact hshort (by decide)
    · exact hshort (by decide)
  next hplain =>
  split
  · next hc => exact hc ▸ hshort (by decide)
  split
  · next hc => exact hc ▸ hshort (by decide)
  split
  · next hc => exact hc ▸ hshort (by decide)
  split
  · next hc => exact hc ▸ hshort (by decide)
  split
  · next hc => exact hc ▸ hshort (by decide)
  split
  · next hcontrol => exact hescaped (escapes_control hcontrol)
  · next hcontrol =>
    obtain ⟨hquote, hback⟩ := not_or.1 hplain
    exact .plain hquote hback (by omega) h

theorem quoted_quote (s : String) : Quoted (quote s) s := by
  have hbody : Body StandsFor (s.toList.flatMap quoteChar) s.toList := by
    induction s.toList with
    | nil => exact .nil
    | cons c cs ih => exact body_quoteChar ih
  have hquoted := Quoted.intro hbody
  rwa [String.ofList_toList] at hquoted

/-! ## Numbers -/

/-- Digits without a zero in front. -/
def IsPositive (digits : List Char) : Prop :=
  ∃ c rest, ('1' ≤ c && c ≤ '9') = true ∧ (∀ d ∈ rest, d.isDigit = true) ∧ digits = c :: rest

theorem isPositive_toDigits {n : Nat} (hn : 0 < n) : IsPositive (Nat.toDigits 10 n) := by
  have hfirst : ∃ c rest, ('1' ≤ c && c ≤ '9') = true ∧ Nat.toDigits 10 n = c :: rest := by
    induction n using Nat.strong_induction_on with
    | _ n ih =>
      by_cases hsmall : n < 10
      · have hdigit : ∀ d < 10, 0 < d →
            ('1' ≤ Nat.digitChar d && Nat.digitChar d ≤ '9') = true := by decide
        exact ⟨_, [], hdigit n hsmall hn, Nat.toDigits_of_lt_base hsmall⟩
      · -- The first digit is that of the quotient by ten.
        obtain ⟨c, rest, hc, htext⟩ := ih (n / 10) (by omega) (by omega)
        rw [Nat.toDigits_of_base_le (by decide) (by omega), htext]
        exact ⟨c, _, hc, rfl⟩
  obtain ⟨c, rest, hc, htext⟩ := hfirst
  refine ⟨c, rest, hc, fun d hd => Binary64.isDigit_toDigits n d ?_, htext⟩
  rw [htext]
  exact List.mem_cons_of_mem c hd

theorem isWhole_toDigits (n : Nat) : IsWhole (Nat.toDigits 10 n) := by
  rcases Nat.eq_zero_or_pos n with rfl | hn
  · exact .inl rfl
  · exact .inr (isPositive_toDigits hn)

theorem isNumber_repr (n : Nat) : IsNumber (Nat.repr n).toList := by
  have hnumber := IsNumber.intro (.inl rfl) (isWhole_toDigits n) (.inl rfl) (.inl rfl)
  rwa [List.nil_append, List.append_nil, List.append_nil, ← Nat.toList_repr] at hnumber

/-! ## Values -/

mutual

/-- Every number of the value has the form of a number. -/
def IsWritten : Json → Prop
  | .number text => IsNumber text.toList
  | .array items => AreWritten items
  | .object members => MembersWritten members
  | _ => True

def AreWritten : List Json → Prop
  | [] => True
  | v :: rest => IsWritten v ∧ AreWritten rest

def MembersWritten : List (String × Json) → Prop
  | [] => True
  | (_, v) :: rest => IsWritten v ∧ MembersWritten rest

end

theorem isGap_nil : IsGap [] := nofun

section
variable {α : Type} {P : List Char → α → Prop} {w others : List Char} {a : α} {as : List α}

theorem Items.of_one (h : P w a) : Items P w [a] := by
  have hlast := Items.last h isGap_nil
  rwa [List.append_nil] at hlast

theorem Items.of_more (h : P w a) (hothers : Items P others as) :
    Items P (w ++ ',' :: others) (a :: as) := by
  have hmore := Items.more h isGap_nil isGap_nil hothers
  rwa [List.append_nil] at hmore

theorem Listed.of_items (h : Items P w as) : Listed P w as := .filled isGap_nil h

end

theorem member_quote {P : List Char → Json → Prop} {k : String} {w : List Char} {v : Json}
    (h : P w v) : Member Quoted P (quote k ++ ':' :: w) (k, v) := by
  have hmember := Member.intro (quoted_quote k) isGap_nil isGap_nil h
  rwa [List.append_nil] at hmember

mutual

/-- What is written for a value denotes it. -/
theorem denotes_renderChars : ∀ v : Json, v.IsWritten → Denotes Quoted (renderChars v) v
  | .null, _ => .null
  | .bool true, _ => .true
  | .bool false, _ => .false
  | .number text, h => by
    have hnumber := Denotes.number (T := Quoted) h
    rwa [String.ofList_toList] at hnumber
  | .string s, _ => .string (quoted_quote s)
  | .array [], _ => .array (.empty isGap_nil)
  | .array (v :: rest), h => .array (.of_items (items_renderItems (v :: rest) h nofun))
  | .object [], _ => .object (.empty isGap_nil)
  | .object (m :: rest), h => .object (.of_items (items_renderMembers (m :: rest) h nofun))

theorem items_renderItems : ∀ items : List Json, AreWritten items → items ≠ [] →
    Items (Denotes Quoted) (renderItems items) items
  | [], _, hne => absurd rfl hne
  | [v], h, _ => .of_one (denotes_renderChars v h.1)
  | v :: v' :: rest, h, _ =>
    .of_more (denotes_renderChars v h.1) (items_renderItems (v' :: rest) h.2 nofun)

theorem items_renderMembers : ∀ members : List (String × Json), MembersWritten members →
    members ≠ [] → Items (Member Quoted (Denotes Quoted)) (renderMembers members) members
  | [], _, hne => absurd rfl hne
  | [(_, v)], h, _ => .of_one (member_quote (denotes_renderChars v h.1))
  | (_, v) :: m :: rest, h, _ =>
    .of_more (member_quote (denotes_renderChars v h.1)) (items_renderMembers (m :: rest) h.2 nofun)

end

theorem isText_render {v : Json} (h : v.IsWritten) : IsText Quoted v.render.toList v := by
  have htext : IsText Quoted ([] ++ renderChars v ++ []) v :=
    .intro isGap_nil (denotes_renderChars v h) isGap_nil
  rw [List.nil_append, List.append_nil] at htext
  rwa [render, String.toList_ofList]

/-- What is written for a value is read back, however deep it nests. -/
theorem read_render {v : Json} (h : v.IsWritten) : read v.render = some v := by
  have htext := isText_render h
  exact (readWithin_eq_some_iff readsStrings_stringText).2 ⟨htext, htext.nesting_le⟩

/-- What is written for a value is read back, if it keeps the limits. -/
theorem parse?_render {v : Json} (h : v.IsWritten) (hdepth : v.nesting ≤ maxDepth)
    (hrange : v.inRange = true) : parse? v.render = some v :=
  parse?_eq_some_iff.2 ⟨isText_render h, hdepth, hrange⟩

end Json
end SelectionSql
