import SelectionSql.Json.Basic
import SelectionSql.Proofs.Outcome

/-!
# Members that must not be given twice

* `Json.Missing`, `Once`, `AtMostOnce`: no member of a name, one of a value, or one of a property.
* `Json.single?_eq_some_none_iff`, `single?_eq_some_some_iff`: which members are found.
* `Json.string?_eq_some_iff`, `strings?_eq_some_iff`: the values that are strings, or lists of
  strings.
-/
set_option autoImplicit false

namespace SelectionSql

namespace Json
variable {members : List (String × Json)} {name : String} {v : Json}

def Missing (members : List (String × Json)) (name : String) : Prop := ∀ m ∈ members, m.1 ≠ name

/-- The member is given, and given once. -/
def Once (members : List (String × Json)) (name : String) (v : Json) : Prop :=
  ∃ before after, members = before ++ (name, v) :: after ∧ Missing before name ∧ Missing after name

/-- The member is missing, or given once with a value of a property. -/
def AtMostOnce (members : List (String × Json)) (name : String) (P : Json → Prop) : Prop :=
  Missing members name ∨ ∃ v, Once members name v ∧ P v

theorem missing_iff_filter : Missing members name ↔ (members.filter fun m => m.1 = name) = [] := by
  simp [Missing, List.filter_eq_nil_iff]

theorem once_iff_filter :
    Once members name v ↔ (members.filter fun m => m.1 = name) = [(name, v)] := by
  rw [List.filter_eq_cons_iff]
  constructor
  · rintro ⟨before, after, hmembers, hbefore, hafter⟩
    exact ⟨before, after, hmembers, by simpa [Missing] using hbefore, by simp,
      missing_iff_filter.1 hafter⟩
  · rintro ⟨before, after, hmembers, hbefore, -, hafter⟩
    exact ⟨before, after, hmembers, by simpa [Missing] using hbefore, missing_iff_filter.2 hafter⟩

theorem single?_eq_some_none_iff : single? members name = some none ↔ Missing members name := by
  rw [missing_iff_filter, single?]
  split
  · next h => simp [h]
  · next h => simp [h]
  · next hnil _ => exact ⟨nofun, fun h => (hnil h).elim⟩

theorem single?_eq_some_some_iff : single? members name = some (some v) ↔ Once members name v := by
  rw [once_iff_filter, single?]
  split
  · next h => simp [h]
  · next m h =>
    have hname : m.1 = name := by
      have hm : m ∈ members.filter fun m => m.1 = name := by simp [h]
      simpa using (List.mem_filter.1 hm).2
    rw [h, Option.some_inj, Option.some_inj, List.singleton_inj, ← hname]
    exact ⟨fun h => h ▸ rfl, fun h => by rw [h]⟩
  · next _ hone => exact ⟨nofun, fun h => (hone _ h).elim⟩

/-- What is found of a member that must not be given twice. -/
theorem single?_eq_some_iff {x : Option Json} : single? members name = some x ↔
    x = none ∧ Missing members name ∨ ∃ v, x = some v ∧ Once members name v := by
  cases x with
  | none => simp [single?_eq_some_none_iff]
  | some v => simp [single?_eq_some_some_iff]

theorem atMostOnce_iff {P : Json → Prop} : AtMostOnce members name P ↔
    ∃ x, single? members name = some x ∧ ∀ v, x = some v → P v := by
  constructor
  · rintro (h | ⟨v, h, hv⟩)
    · exact ⟨none, single?_eq_some_none_iff.2 h, nofun⟩
    · refine ⟨some v, single?_eq_some_some_iff.2 h, fun w hw => ?_⟩
      cases hw
      exact hv
  · rintro ⟨x, hx, h⟩
    rcases single?_eq_some_iff.1 hx with ⟨rfl, hmissing⟩ | ⟨v, rfl, honce⟩
    · exact .inl hmissing
    · exact .inr ⟨v, honce, h v rfl⟩

theorem string?_eq_some_iff {s : String} : string? v = some s ↔ v = .string s := by
  cases v <;> simp [string?]

theorem strings?_eq_some_iff {texts : List String} :
    strings? v = some texts ↔ v = .array (texts.map .string) := by
  have hitems : ∀ {items : List Json}, List.Forall₂ (fun v s => string? v = some s) items texts ↔
      items = texts.map .string := by
    intro items
    simp only [string?_eq_some_iff, List.forall₂_eq_eq_eq, ← List.forall₂_map_right_iff]
  cases v with
  | array items => rw [strings?, mapM_eq_some_iff, hitems, Json.array.injEq]
  | _ => simp [strings?]

end Json
end SelectionSql
