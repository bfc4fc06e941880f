import SelectionSql.Auth.Header
import SelectionSql.Proofs.Json.Grammar
import SelectionSql.Proofs.Json.Members

/-!
# Which headers are taken

* `Token.Counted`, `Token.Describes`: the members that count of a header, given by an object or by
  the list of their values.
* `Token.SoundHeader`: a header that names the one algorithm and describes itself in the right form.
* `Token.isHeader_iff`: the bytes that are taken for a header.
-/
set_option autoImplicit false

namespace SelectionSql
namespace Token
open Json WebKey

/-- The members that count of an object as written. A member that does not count needs a name, but
its value is not looked into. -/
inductive Counted : List (String × Json) → List (String × Json) → Prop
  | nil : Counted [] []
  | counts {written name : String} {v value : Json} {ms members : List (String × Json)}
      (hname : textOfWritten? written = some name) (hcounts : name ∈ headerMembers.map Prod.fst)
      (hvalue : ofWritten? v = some value) (h : Counted ms members) :
      Counted ((written, v) :: ms) ((name, value) :: members)
  | passes {written name : String} {v : Json} {ms members : List (String × Json)}
      (hname : textOfWritten? written = some name) (hpasses : name ∉ headerMembers.map Prod.fst)
      (h : Counted ms members) : Counted ((written, v) :: ms) members

/-- Bytes are a JSON text that gives the members that count. -/
inductive Describes (bytes : List UInt8) : List (String × Json) → Prop
  | object {ms members : List (String × Json)} (htext : IsText Raw (byteChars bytes) (.object ms))
      (h : Counted ms members) : Describes bytes members
  | array {vs values : List Json} (htext : IsText Raw (byteChars bytes) (.array vs))
      (hlength : vs.length = headerMembers.length)
      (hvalues : List.Forall₂ (fun v value => ofWritten? v = some value) vs values) :
      Describes bytes ((headerMembers.map Prod.fst).zip values)

def IsTextOrNull (v : Json) : Prop := v = .null ∨ ∃ s, v = .string s

/-- The algorithm is the one that is used here, and the other members have their forms. -/
structure SoundHeader (members : List (String × Json)) : Prop where
  algorithm : ∃ v, Once members "alg" v ∧ (v = .string "HS256" ∨ v = .object [("HS256", .null)])
  texts : ∀ name ∈ ["typ", "cty", "jku", "kid", "x5u", "x5t", "x5t#S256"],
    AtMostOnce members name IsTextOrNull
  certificates : AtMostOnce members "x5c" fun v =>
    v = .null ∨ ∃ texts : List String, v = .array (texts.map .string)
  key : AtMostOnce members "jwk" fun v => v = .null ∨ isDescription v = true

variable {bytes : List UInt8} {members ms : List (String × Json)} {name : String}

/-! ## Members -/

theorem isNull_iff {v : Json} : isNull v = true ↔ v = .null := by cases v <;> simp [isNull]

theorem isText_iff {v : Json} : isText v = true ↔ ∃ s, v = .string s := by
  simp only [isText, Option.isSome_iff_exists, string?_eq_some_iff]

theorem isTexts_iff {v : Json} :
    isTexts v = true ↔ ∃ texts : List String, v = .array (texts.map .string) := by
  simp only [isTexts, Option.isSome_iff_exists, strings?_eq_some_iff]

theorem isGiven_iff {form : Json → Bool} :
    isGiven members name form = true ↔ ∃ v, Once members name v ∧ form v = true := by
  simp only [← single?_eq_some_some_iff, isGiven]
  split
  · next v h => simp [h]
  · next h =>
    refine ⟨nofun, ?_⟩
    rintro ⟨v, hv, -⟩
    exact (h v hv).elim

theorem isAllowed_iff {form : Json → Bool} : isAllowed members name form = true ↔
    AtMostOnce members name fun v => v = .null ∨ form v = true := by
  rw [atMostOnce_iff, isAllowed]
  cases single? members name with
  | none => simp
  | some x => cases x <;> simp [isNull_iff]

theorem isChoice_algorithm_iff {v : Json} : isChoice [algorithm] isNull v = true ↔
    v = .string "HS256" ∨ v = .object [("HS256", .null)] := by
  unfold isChoice
  split
  · next s => simp [algorithm]
  · next s u => simp [algorithm, isNull_iff]
  · next hstring hobject =>
    refine ⟨nofun, ?_⟩
    rintro (rfl | rfl)
    · exact (hstring _ rfl).elim
    · exact (hobject _ _ rfl).elim

theorem isKept_iff : (headerMembers.all fun (name, form) => form.isKept members name) = true ↔
    SoundHeader members := by
  simp only [headerMembers, List.all_cons, List.all_nil, Bool.and_true, Bool.and_eq_true,
    Form.isKept, isGiven_iff, isAllowed_iff, isChoice_algorithm_iff, isText_iff, isTexts_iff]
  constructor
  · rintro ⟨htyp, halg, hcty, hjku, hjwk, hkid, hx5u, hx5c, hx5t, hx5t'⟩
    refine ⟨halg, ?_, hx5c, hjwk⟩
    simp only [List.forall_mem_cons, List.not_mem_nil, false_imp_iff, implies_true, and_true]
    exact ⟨htyp, hcty, hjku, hkid, hx5u, hx5t, hx5t'⟩
  · rintro ⟨halg, htexts, hx5c, hjwk⟩
    simp only [List.forall_mem_cons, List.not_mem_nil, false_imp_iff, implies_true,
      and_true] at htexts
    obtain ⟨htyp, hcty, hjku, hkid, hx5u, hx5t, hx5t'⟩ := htexts
    exact ⟨htyp, halg, hcty, hjku, hjwk, hkid, hx5u, hx5c, hx5t, hx5t'⟩

/-! ## Texts -/

theorem namedMember?_eq_some_iff {m : String × Json} {kept : Option (String × Json)} :
    namedMember? m = some kept ↔ ∃ name, textOfWritten? m.1 = some name ∧
      ((name ∈ headerMembers.map Prod.fst ∧ ∃ value, ofWritten? m.2 = some value ∧
        kept = some (name, value)) ∨ name ∉ headerMembers.map Prod.fst ∧ kept = none) := by
  have hany : ∀ name, (headerMembers.any fun m => m.1 = name) = true ↔
      name ∈ headerMembers.map Prod.fst := by
    intro name
    simp only [List.any_eq_true, decide_eq_true_eq, List.mem_map]
  simp only [namedMember?, Option.bind_eq_bind, Option.bind_eq_some_iff, Option.pure_def]
  refine exists_congr fun name => and_congr_right fun _ => ?_
  by_cases hname : name ∈ headerMembers.map Prod.fst
  · rw [if_pos ((hany name).2 hname), Option.bind_eq_some_iff]
    simp only [hname, true_and, not_true, false_and, or_false, Option.some_inj, eq_comm]
  · rw [if_neg (mt (hany name).1 hname)]
    simp [hname, eq_comm]

theorem counted_of_forall₂ {kept : List (Option (String × Json))}
    (h : List.Forall₂ (fun m x => namedMember? m = some x) ms kept) :
    Counted ms (kept.filterMap id) := by
  induction h with
  | nil => exact .nil
  | cons hm _ ih =>
    obtain ⟨name, hname, ⟨hcounts, value, hvalue, rfl⟩ | ⟨hpasses, rfl⟩⟩ :=
      namedMember?_eq_some_iff.1 hm
    · exact .counts hname hcounts hvalue ih
    · exact .passes hname hpasses ih

theorem Counted.exists_forall₂ (h : Counted ms members) :
    ∃ kept, List.Forall₂ (fun m x => namedMember? m = some x) ms kept ∧
      kept.filterMap id = members := by
  induction h with
  | nil => exact ⟨[], .nil, rfl⟩
  | counts hname hcounts hvalue _ ih =>
    obtain ⟨kept, hkept, rfl⟩ := ih
    exact ⟨some _ :: kept,
      .cons (namedMember?_eq_some_iff.2 ⟨_, hname, .inl ⟨hcounts, _, hvalue, rfl⟩⟩) hkept, rfl⟩
  | passes hname hpasses _ ih =>
    obtain ⟨kept, hkept, rfl⟩ := ih
    exact ⟨none :: kept,
      .cons (namedMember?_eq_some_iff.2 ⟨_, hname, .inr ⟨hpasses, rfl⟩⟩) hkept, rfl⟩

theorem describes_iff :
    Describes bytes members ↔ (readWritten bytes).bind namedMembers? = some members := by
  simp only [Option.bind_eq_some_iff, readWritten_eq_some_iff]
  constructor
  · rintro (⟨htext, h⟩ | ⟨htext, hlength, hvalues⟩)
    · obtain ⟨kept, hkept, rfl⟩ := h.exists_forall₂
      refine ⟨_, htext, ?_⟩
      rw [namedMembers?, mapM_eq_some_iff.2 hkept, Option.map_some]
    · refine ⟨_, htext, ?_⟩
      rw [namedMembers?, if_pos hlength, mapM_eq_some_iff.2 hvalues, Option.map_some]
  · rintro ⟨v, htext, h⟩
    cases v with
    | object ms =>
      obtain ⟨kept, hkept, rfl⟩ := Option.map_eq_some_iff.1 h
      exact .object htext (counted_of_forall₂ (mapM_eq_some_iff.1 hkept))
    | array vs =>
      rw [namedMembers?] at h
      split at h
      · next hlength =>
        obtain ⟨values, hvalues, rfl⟩ := Option.map_eq_some_iff.1 h
        exact .array htext hlength (mapM_eq_some_iff.1 hvalues)
      · cases h
    | _ => cases h

/-- The bytes that are taken for a header. -/
theorem isHeader_iff : isHeader bytes = true ↔ ∃ members, Describes bytes members ∧
    SoundHeader members := by
  simp only [describes_iff, ← isKept_iff, isHeader]
  split
  · next members h => simp [h]
  · next h => simp [h]

end Token
end SelectionSql
