import SelectionSql.Auth.Token
import SelectionSql.Proofs.Json.Integer
import SelectionSql.Proofs.Json.Members
import SelectionSql.Proofs.Json.RoundTrip

/-!
# What the payload of a token says

* `Token.Claims.Says`: whom a payload is for and when it was issued.
* `Token.Claims.SoundTerms`: the terms that are not used do not spoil a payload.
* `Token.Claims.ofJson?_eq_some_iff`: which claims an object makes.
* `Token.Claims.parse?_toJson`, `ofJson?_toJson`: the payload that is written for claims is read
  back as them.
-/
set_option autoImplicit false

namespace SelectionSql

theorem Number.lt_of_ofText {text : String} {n : Int} (h : Number.ofText text = .int n) :
    n < 2 ^ 64 := by
  have h64 : Nat.pow 2 64 = 18446744073709551616 := by decide
  unfold Number.ofText at h
  dsimp only at h
  split at h
  · next hn =>
    cases h
    omega
  split at h
  · cases h
    omega
  · cases h

namespace Token
open Json

theorem natural?_eq_some_iff {v : Json} {n : UInt64} : natural? v = some n ↔
    ∃ text, v = .number text ∧ Number.ofText text = .int n.toNat := by
  unfold natural?
  constructor
  · intro h
    split at h
    · next text =>
      split at h
      · next i hi =>
        split at h
        · next hpos =>
          have hlt : i.toNat < 2 ^ 64 := by
            have := Number.lt_of_ofText hi
            omega
          have hn : UInt64.ofNat i.toNat = n := Option.some_inj.1 h
          refine ⟨text, rfl, ?_⟩
          rw [hi, ← hn, UInt64.toNat_ofNat_of_lt' hlt, Int.toNat_of_nonneg hpos]
        · cases h
      · cases h
    · cases h
  · rintro ⟨text, rfl, htext⟩
    simp [htext]

namespace Claims

/-- The payload of a token says whom it is for and when it was issued. -/
structure Says (members : List (String × Json)) (c : Claims) : Prop where
  name : Once members "name" (.string c.identity.name)
  rules : Missing members "rules" ∧ c.identity.rules = [] ∨
    Once members "rules" (.array (c.identity.rules.map .string))
  issuedAt : Missing members "iat" ∧ c.issuedAt = 0 ∨
    ∃ text, Once members "iat" (.number text) ∧ Number.ofText text = .int c.issuedAt.toNat
  noAudience : ∀ v, Once members "aud" v →
    (∀ s, v ≠ .string s) ∧ ∀ texts : List String, v ≠ .array (texts.map .string)

/-- The terms that are not used: none is given twice, the times are no lists or objects with
something in them, the subject is no list or object at all. -/
structure SoundTerms (members : List (String × Json)) : Prop where
  issuer : AtMostOnce members "iss" fun _ => True
  audience : AtMostOnce members "aud" fun _ => True
  times : ∀ name ∈ ["exp", "nbf"], AtMostOnce members name fun v =>
    (∀ item items, v ≠ .array (item :: items)) ∧ ∀ m ms, v ≠ .object (m :: ms)
  subject : AtMostOnce members "sub" fun v => (∀ items, v ≠ .array items) ∧ ∀ ms, v ≠ .object ms

theorem isFilled_eq_false_iff {v : Json} : isFilled v = false ↔
    (∀ item items, v ≠ .array (item :: items)) ∧ ∀ m ms, v ≠ .object (m :: ms) := by
  cases v with
  | array items => cases items <;> simp [isFilled]
  | object members => cases members <;> simp [isFilled]
  | _ => simp [isFilled]

theorem isNested_eq_false_iff {v : Json} :
    isNested v = false ↔ (∀ items, v ≠ .array items) ∧ ∀ ms, v ≠ .object ms := by
  cases v <;> simp [isNested]

theorem isAudience_eq_false_iff {v : Json} : isAudience v = false ↔
    (∀ s, v ≠ .string s) ∧ ∀ texts : List String, v ≠ .array (texts.map .string) := by
  simp only [isAudience, Bool.or_eq_false_iff, Option.isSome_eq_false_iff,
    Option.isNone_iff_eq_none, Option.eq_none_iff_forall_ne_some, ne_eq, string?_eq_some_iff,
    strings?_eq_some_iff]

variable {members : List (String × Json)}

theorem holds_iff {isRefused : Json → Bool} {P : Json → Prop} {name : String}
    (hP : ∀ v, isRefused v = false ↔ P v) :
    hasSoundTerms.holds members isRefused name = true ↔ AtMostOnce members name P := by
  rw [atMostOnce_iff, hasSoundTerms.holds]
  cases single? members name with
  | none => simp
  | some x => cases x <;> simp [← hP]

theorem hasSoundTerms_iff : hasSoundTerms members = true ↔ SoundTerms members := by
  have honce : ∀ name, (single? members name).isSome = true ↔
      AtMostOnce members name fun _ => True := by
    intro name
    simp [atMostOnce_iff, Option.isSome_iff_exists]
  simp only [hasSoundTerms, Bool.and_eq_true, List.all_eq_true, honce,
    holds_iff fun _ => isFilled_eq_false_iff, holds_iff fun _ => isNested_eq_false_iff]
  constructor
  · rintro ⟨⟨hterms, htimes⟩, hsubject⟩
    exact ⟨hterms "iss" (by decide), hterms "aud" (by decide), htimes, hsubject⟩
  · rintro ⟨hissuer, haudience, htimes, hsubject⟩
    exact ⟨⟨by simp [hissuer, haudience], htimes⟩, hsubject⟩

/-- What a member that may be missing is read as. -/
def given? {α : Type} (members : List (String × Json)) (name : String) (missing : α)
    (read : Json → Option α) : Option α :=
  (single? members name).bind fun
    | some v => read v
    | none => some missing

theorem given?_eq_some_iff {α : Type} {name : String} {missing a : α} {read : Json → Option α} :
    given? members name missing read = some a ↔
      Missing members name ∧ a = missing ∨ ∃ v, Once members name v ∧ read v = some a := by
  simp only [given?, Option.bind_eq_some_iff, single?_eq_some_iff]
  constructor
  · rintro ⟨x, ⟨rfl, hmissing⟩ | ⟨v, rfl, honce⟩, h⟩
    · exact .inl ⟨hmissing, (Option.some_inj.1 h).symm⟩
    · exact .inr ⟨v, honce, h⟩
  · rintro (⟨hmissing, rfl⟩ | ⟨v, honce, h⟩)
    · exact ⟨none, .inl ⟨rfl, hmissing⟩, rfl⟩
    · exact ⟨some v, .inr ⟨v, rfl, honce⟩, h⟩

theorem given?_bind {α β : Type} {name : String} {missing : α} {read : Json → Option α}
    {f : α → Option β} : (given? members name missing read).bind f =
      (single? members name).bind fun
        | some v => (read v).bind f
        | none => f missing := by
  rw [given?, Option.bind_assoc]
  congr 1
  funext x
  cases x <;> rfl

theorem ofJson?_object : ofJson? (.object members) =
    (single? members "name").bind fun found => found.bind fun v => (string? v).bind fun name =>
      (given? members "rules" [] strings?).bind fun rules =>
        (given? members "iat" 0 natural?).bind fun issuedAt =>
          (single? members "aud").bind fun audience =>
            if (audience.map isAudience).getD false || !hasSoundTerms members then none
            else some ⟨⟨name, rules⟩, issuedAt⟩ := by
  simp only [given?_bind]
  rfl

theorem ofJson?_eq_some_iff {v : Json} {c : Claims} : ofJson? v = some c ↔
    ∃ members, v = .object members ∧ Says members c ∧ SoundTerms members := by
  constructor
  · intro h
    cases v with
    | object members =>
      simp only [ofJson?_object, Option.bind_eq_some_iff, given?_eq_some_iff, string?_eq_some_iff,
        strings?_eq_some_iff, natural?_eq_some_iff] at h
      obtain ⟨_, hname, _, rfl, name, rfl, rules, hrules, issuedAt, hissuedAt, audience, haudience,
        h⟩ := h
      split at h
      · cases h
      · next hsound =>
        cases h
        obtain ⟨hrefused, hterms⟩ := Bool.or_eq_false_iff.1 (Bool.eq_false_iff.2 hsound)
        rw [Bool.not_eq_false', hasSoundTerms_iff] at hterms
        refine ⟨members, rfl, ⟨single?_eq_some_some_iff.1 hname, ?_, ?_, fun v hv => ?_⟩, hterms⟩
        · rcases hrules with hrules | ⟨v, hv, rfl⟩
          · exact .inl hrules
          · exact .inr hv
        · rcases hissuedAt with hissuedAt | ⟨v, hv, text, rfl, htext⟩
          · exact .inl hissuedAt
          · exact .inr ⟨text, hv, htext⟩
        · rw [← single?_eq_some_some_iff, haudience, Option.some_inj] at hv
          rw [hv] at hrefused
          exact isAudience_eq_false_iff.1 hrefused
    | _ => cases h
  · rintro ⟨members, rfl, hclaims, hterms⟩
    have hrules : given? members "rules" [] strings? = some c.identity.rules :=
      given?_eq_some_iff.2 (hclaims.rules.imp_right fun h => ⟨_, h, strings?_eq_some_iff.2 rfl⟩)
    have hissuedAt : given? members "iat" 0 natural? = some c.issuedAt := by
      refine given?_eq_some_iff.2 (hclaims.issuedAt.imp_right ?_)
      rintro ⟨text, h, htext⟩
      exact ⟨_, h, natural?_eq_some_iff.2 ⟨text, rfl, htext⟩⟩
    obtain ⟨audience, haudience, -⟩ := atMostOnce_iff.1 hterms.audience
    have hrefused : (audience.map isAudience).getD false = false := by
      cases audience with
      | none => rfl
      | some v =>
        have honce : Once members "aud" v := single?_eq_some_some_iff.1 haudience
        exact isAudience_eq_false_iff.2 (hclaims.noAudience v honce)
    rw [ofJson?_object, single?_eq_some_some_iff.2 hclaims.name, hrules, hissuedAt, haudience]
    simp only [Option.bind_some, string?, hrefused, hasSoundTerms_iff.2 hterms]
    rfl

/-! ## The payload that is written -/

theorem strings_written (texts : List String) : AreWritten (texts.map .string) ∧
    nestingList (texts.map .string) = 0 ∧ inRangeList (texts.map .string) = true := by
  induction texts with
  | nil => exact ⟨trivial, rfl, rfl⟩
  | cons s texts ih =>
    obtain ⟨hwritten, hdepth, hrange⟩ := ih
    refine ⟨⟨trivial, hwritten⟩, ?_, ?_⟩
    · rw [List.map_cons, nestingList, hdepth]
      rfl
    · rw [List.map_cons, inRangeList, hrange]
      rfl

theorem ofText_repr (n : UInt64) : Number.ofText (Nat.repr n.toNat) = .int n.toNat := by
  have hlt := n.toNat_lt
  have htext := Number.ofText_intText (n := n.toNat) (by omega) (by omega)
  rwa [intText, if_neg (by omega), Int.natAbs_natCast] at htext

theorem parse?_toJson (c : Claims) : parse? c.toJson.render = some c.toJson := by
  obtain ⟨hwritten, hdepth, hrange⟩ := strings_written c.identity.rules
  refine parse?_render ⟨trivial, hwritten, isNumber_repr _, trivial⟩ ?_ ?_
  · simp only [toJson, nesting, nestingMembers, hdepth]
    decide
  · simp only [toJson, inRange, inRangeMembers, hrange, ofText_repr, Number.inRange, Bool.and_self]

theorem ofJson?_toJson (c : Claims) : ofJson? c.toJson = some c := by
  have hrules : strings? (.array (c.identity.rules.map .string)) = some c.identity.rules :=
    strings?_eq_some_iff.2 rfl
  have hissuedAt : natural? (.number (Nat.repr c.issuedAt.toNat)) = some c.issuedAt :=
    natural?_eq_some_iff.2 ⟨_, rfl, ofText_repr _⟩
  simp [toJson, ofJson?_object, given?, single?, string?, hrules, hissuedAt, hasSoundTerms,
    hasSoundTerms.holds]

end Claims
end Token
end SelectionSql
