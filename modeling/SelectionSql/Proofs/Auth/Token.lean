import SelectionSql.Auth.Authority
import SelectionSql.Proofs.Auth.Base64Url
import SelectionSql.Proofs.Auth.Claims
import SelectionSql.Proofs.Auth.Header
import SelectionSql.Proofs.Text.Cutting

/-!
# What a token is made of

* `Token.assembled`: a header and a payload between points, with what signs them.
* `Token.verify?_assembled`, `verify?_eq_some_iff`: the tokens that are taken, and the claims that
  are taken from them.
* `Token.verify?_issue`: a token that was issued is taken.
* `Authority.Presents`: the token that a text presents.
-/
set_option autoImplicit false

namespace SelectionSql
namespace Token
open Json

/-- A header and a payload, signed. -/
def assembled (secret header : List UInt8) (payload : String) : List Char :=
  let signed := Base64Url.encode header ++ '.' :: Base64Url.encode (utf8Bytes payload)
  signed ++ '.' :: Base64Url.encode (Hmac.sign secret (utf8Bytes (String.ofList signed)))

theorem utf8Bytes_of_ofUtf8? {bytes : List UInt8} {text : String} (h : ofUtf8? bytes = some text) :
    utf8Bytes text = bytes := by
  unfold ofUtf8? String.fromUTF8? at h
  split at h
  · cases h
    rfl
  · cases h

theorem textOf?_eq_some_iff {part : List Char} {text : String} :
    textOf? part = some text ↔ part = Base64Url.encode (utf8Bytes text) := by
  simp only [textOf?, Option.bind_eq_bind, Option.bind_eq_some_iff, Base64Url.decode?_eq_some_iff]
  constructor
  · rintro ⟨bytes, rfl, htext⟩
    rw [utf8Bytes_of_ofUtf8? htext]
  · rintro rfl
    exact ⟨_, rfl, ofUtf8?_utf8Bytes text⟩

theorem notMem_encode (bytes : List UInt8) : '.' ∉ Base64Url.encode bytes :=
  fun h => (Base64Url.solid_encode bytes '.' h).1 rfl

theorem verify?_assembled (secret header : List UInt8) (payload : String) :
    verify? secret (assembled secret header payload) =
      if isHeader header then (parse? payload).bind Claims.ofJson? else none := by
  have hpieces : pieces '.' (assembled secret header payload) =
      [Base64Url.encode header, Base64Url.encode (utf8Bytes payload),
        signature secret (Base64Url.encode header ++ '.' ::
          Base64Url.encode (utf8Bytes payload))] := by
    refine pieces_eq_three_iff.2 ⟨?_, notMem_encode _, notMem_encode _, notMem_encode _⟩
    simp only [assembled, signature, List.append_assoc, List.cons_append]
  rw [verify?, hpieces]
  simp only [Base64Url.decode?_encode, textOf?_eq_some_iff.2 rfl, beq_self_eq_true, Bool.and_true,
    Option.bind_eq_bind, Option.bind_some]

/-- A token is taken exactly if it is a sound header and a payload that makes claims, signed. -/
theorem verify?_eq_some_iff {secret : List UInt8} {token : List Char} {c : Claims} :
    verify? secret token = some c ↔ ∃ header payload v, token = assembled secret header payload ∧
      isHeader header = true ∧ parse? payload = some v ∧ Claims.ofJson? v = some c := by
  constructor
  · intro h
    unfold verify? at h
    split at h
    · next head part signed hpieces =>
      obtain ⟨rfl, -⟩ := pieces_eq_three_iff.1 hpieces
      simp only [Option.bind_eq_bind, Option.bind_eq_some_iff, Base64Url.decode?_eq_some_iff] at h
      obtain ⟨header, rfl, h⟩ := h
      split at h
      · next hsound =>
        simp only [Bool.and_eq_true, beq_iff_eq] at hsound
        obtain ⟨hheader, rfl⟩ := hsound
        simp only [Option.bind_eq_some_iff, textOf?_eq_some_iff] at h
        obtain ⟨payload, rfl, v, hv, hc⟩ := h
        refine ⟨header, payload, v, ?_, hheader, hv, hc⟩
        simp only [assembled, signature, List.append_assoc, List.cons_append]
      · cases h
    · cases h
  · rintro ⟨header, payload, v, rfl, hheader, hv, hc⟩
    rw [verify?_assembled, if_pos hheader, hv, Option.bind_some, hc]

theorem toList_issue (secret : List UInt8) (c : Claims) :
    (issue secret c).toList = assembled secret (utf8Bytes header.render) c.toJson.render :=
  String.toList_ofList

/-- A token that was issued is taken. -/
theorem verify?_issue (secret : List UInt8) (c : Claims) :
    verify? secret (issue secret c).toList = some c :=
  verify?_eq_some_iff.2 ⟨_, _, _, toList_issue secret c, isHeader_header, Claims.parse?_toJson c,
    Claims.ofJson?_toJson c⟩

theorem solid_assembled (secret header : List UInt8) (payload : String) :
    ∀ c ∈ assembled secret header payload, isBlank c = false := by
  have hencode : ∀ bytes, ∀ c ∈ Base64Url.encode bytes, isBlank c = false :=
    fun bytes c hc => (Base64Url.solid_encode bytes c hc).2
  have hpoint : isBlank '.' = false := by decide
  simp only [assembled, List.forall_mem_append, List.forall_mem_cons]
  exact ⟨⟨hencode _, hpoint, hencode _⟩, hpoint, hencode _⟩

end Token

namespace Authority

/-- The token that a text presents: blanks at its ends do not count, nor does one leading word. -/
inductive Presents (text : String) (token : List Char) : Prop
  | word {rest : List Char} (h : text.toList = "Bearer ".toList ++ rest) (htrims : Trims rest token)
  | bare (h : ¬ "Bearer ".toList <+: text.toList) (htrims : Trims text.toList token)

theorem presents_iff {text : String} {token : List Char} :
    Presents text token ↔ bareToken text = token := by
  have hletters : "Bearer ".toList = ['B', 'e', 'a', 'r', 'e', 'r', ' '] := rfl
  unfold bareToken
  dsimp only
  rw [← hletters]
  split
  · next hword =>
    rw [List.isPrefixOf_iff_prefix] at hword
    obtain ⟨rest, hrest⟩ := hword
    rw [trimBlanks_eq_iff, ← hrest, List.drop_left]
    constructor
    · rintro (⟨h, htrims⟩ | ⟨h, -⟩)
      · rwa [List.append_cancel_left (hrest.trans h)]
      · exact absurd ⟨rest, hrest⟩ h
    · exact .word hrest.symm
  · next hword =>
    rw [List.isPrefixOf_iff_prefix] at hword
    rw [trimBlanks_eq_iff]
    constructor
    · rintro (⟨h, -⟩ | ⟨-, htrims⟩)
      · exact absurd ⟨_, h.symm⟩ hword
      · exact htrims
    · exact .bare hword

end Authority
end SelectionSql
