import SelectionSql.Proofs.Auth.Token

/-!
# Who a token is for

* `Authority.identity_login`: a token that was issued is for whom it was issued.
* `Authority.Grants`: a text makes its bearer an identity.
* `Authority.identity_eq_iff`: every text that does not do so leaves its bearer a guest.
-/
set_option autoImplicit false

namespace SelectionSql
namespace Authority
open Json Token

theorem ofSecret?_of_ne_nil {secret : List UInt8} (h : secret ≠ []) :
    ofSecret? secret = .ok ⟨secret, .guest, h⟩ := dif_neg h

theorem identity_some (a : Authority) (text : String) : a.identity (some text) =
    ((verify? a.secret (bareToken text)).map Claims.identity).getD a.guest := by
  rw [identity, Option.bind_some]
  cases verify? a.secret (bareToken text) <;> rfl

theorem identity_of_presents {a : Authority} {text : String} {token : List Char}
    (h : Presents text token) : a.identity (some text) =
      ((verify? a.secret token).map Claims.identity).getD a.guest := by
  rw [identity_some, presents_iff.1 h]

theorem presents_of_solid {token : List Char} (h : ∀ c ∈ token, isBlank c = false) :
    Presents (String.ofList token) token := by
  have htext : (String.ofList token).toList = token := String.toList_ofList
  refine .bare ?_ ?_
  · rw [htext]
    intro hword
    have hmem : ' ' ∈ "Bearer ".toList := by decide
    have hblank : isBlank ' ' = false := h ' ' (hword.subset hmem)
    exact absurd hblank (by decide)
  · rw [htext]
    exact (IsTrimmed.of_solid h).trims

/-! ## Tokens that were issued -/

theorem head?_issue (secret : List UInt8) (c : Claims) :
    (issue secret c).toList.head? = some 'e' := by
  have hhead : (Base64Url.encode (utf8Bytes header.render)).head? = some 'e' := by decide +kernel
  rw [toList_issue, assembled, List.append_assoc, List.head?_append, hhead, Option.some_or]

/-- Blanks around a token do not count, with and without the word in front of it. -/
theorem presents_issue (secret : List UInt8) (c : Claims) {front back : List Char}
    (hfront : AllBlank front) (hback : AllBlank back) {word : String}
    (hword : word ∈ ["", "Bearer "]) :
    Presents (word ++ String.ofList front ++ issue secret c ++ String.ofList back)
      (issue secret c).toList := by
  have htrims : Trims (front ++ (issue secret c).toList ++ back) (issue secret c).toList := by
    refine ⟨.of_solid ?_, front, back, hfront, hback, rfl⟩
    rw [toList_issue]
    exact solid_assembled _ _ _
  have htext : ∀ word : String, (word ++ String.ofList front ++ issue secret c ++
      String.ofList back).toList =
        word.toList ++ (front ++ (issue secret c).toList ++ back) := by
    intro word
    simp only [String.toList_append, String.toList_ofList, List.append_assoc]
  simp only [List.mem_cons, List.not_mem_nil, or_false] at hword
  rcases hword with rfl | rfl
  · refine .bare ?_ ?_
    · rw [htext]
      rintro ⟨rest, hrest⟩
      -- A token starts with a small letter, so neither it nor a blank starts the word.
      have hhead : (front ++ (issue secret c).toList ++ back).head? = some 'B' :=
        (congrArg List.head? hrest).symm
      cases front with
      | nil =>
        rw [List.nil_append, List.head?_append, head?_issue] at hhead
        cases hhead
      | cons b front =>
        cases hhead
        exact absurd (hfront 'B' List.mem_cons_self) (by decide)
    · rw [htext]
      exact htrims
  · exact .word (htext _) htrims

/-- Whoever knows the secret reads a token as whom it was issued for. -/
theorem identity_login {secret : List UInt8} (hsecret : secret ≠ []) :
    ∃ a, ofSecret? secret = .ok a ∧ ∀ (issuer guest i : Identity) (issuedAt : UInt64)
      (front back : List Char), AllBlank front → AllBlank back → ∀ word ∈ ["", "Bearer "],
        (a.withGuest guest).identity (some (word ++ String.ofList front ++
          (a.withGuest issuer).login i issuedAt ++ String.ofList back)) = i := by
  refine ⟨_, ofSecret?_of_ne_nil hsecret, ?_⟩
  intro issuer guest i issuedAt front back hfront hback word hword
  have hpresents := presents_issue secret ⟨i, issuedAt⟩ hfront hback hword
  refine (identity_of_presents hpresents).trans ?_
  show ((verify? secret _).map Claims.identity).getD guest = i
  rw [verify?_issue]
  rfl

theorem identity_login_quoted : ([115] : List UInt8) ≠ [] ∧
    ∃ a, ofSecret? [115] = .ok a ∧ (a.withGuest ⟨"", []⟩).identity (some ("Bearer " ++ " \t" ++
      (a.withGuest .guest).login ⟨"\x22\\\n\u00E9", ["", "\x00"]⟩ 5 ++ "\n")) =
        ⟨"\x22\\\n\u00E9", ["", "\x00"]⟩ := by
  have hsecret : ([115] : List UInt8) ≠ [] := by decide
  obtain ⟨a, ha, hlogin⟩ := identity_login hsecret
  refine ⟨hsecret, a, ha, ?_⟩
  have hfront : AllBlank [' ', '\t'] := by simp [AllBlank, isBlank]
  have hback : AllBlank ['\n'] := by simp [AllBlank, isBlank]
  exact hlogin _ _ _ _ _ _ hfront hback "Bearer " (by decide)

/-! ## Tokens that are taken -/

/-- A text presents a token that holds a header and the members of a payload, signed. -/
def Carries (secret : List UInt8) (text : String) (header : List UInt8)
    (members : List (String × Json)) : Prop :=
  ∃ token payload, Presents text token ∧ token = assembled secret header payload ∧
    IsText Quoted payload.toList (.object members) ∧ (Json.object members).nesting ≤ maxDepth ∧
    (Json.object members).inRange = true

/-- A text makes its bearer an identity: it carries a sound header and a payload that says so. -/
def Grants (secret : List UInt8) (text : String) (i : Identity) : Prop :=
  ∃ header members issuedAt, Carries secret text header members ∧
    (∃ headers, Describes header headers ∧ SoundHeader headers) ∧
    Claims.Says members ⟨i, issuedAt⟩ ∧ Claims.SoundTerms members

theorem grants_iff {secret : List UInt8} {text : String} {i : Identity} : Grants secret text i ↔
    ∃ c, verify? secret (bareToken text) = some c ∧ c.identity = i := by
  simp only [verify?_eq_some_iff, Claims.ofJson?_eq_some_iff, isHeader_iff, parse?_eq_some_iff]
  constructor
  · rintro ⟨header, members, issuedAt, ⟨token, payload, htoken, rfl, hpayload⟩, hheader, hclaims,
      hterms⟩
    exact ⟨⟨i, issuedAt⟩, ⟨header, payload, _, presents_iff.1 htoken, hheader, hpayload, members,
      rfl, hclaims, hterms⟩, rfl⟩
  · rintro ⟨⟨i, issuedAt⟩, ⟨header, payload, _, htoken, hheader, hpayload, members, rfl, hclaims,
      hterms⟩, rfl⟩
    exact ⟨header, members, issuedAt, ⟨_, payload, presents_iff.2 htoken, rfl, hpayload⟩, hheader,
      hclaims, hterms⟩

/-- Who a token is for: whom its text grants it to, and the guest where it grants nothing. -/
theorem identity_eq_iff (a : Authority) (token : Option String) (i : Identity) :
    a.identity token = i ↔ (∃ text, token = some text ∧ Grants a.secret text i) ∨
      i = a.guest ∧ ∀ text, token = some text → ∀ j, ¬ Grants a.secret text j := by
  cases token with
  | none =>
    show a.guest = i ↔ _
    simp [eq_comm]
  | some text =>
    simp only [Option.some_inj, exists_eq_left', forall_eq', grants_iff, identity_some]
    cases verify? a.secret (bareToken text) with
    | none => simp [eq_comm]
    | some c => simp

/-- The members of a payload with an unused term that is a list. -/
def listedSubject : List (String × Json) := [("name", .string "a"), ("sub", .array [])]

/-- That payload behind a plain header, signed. -/
def listedSubjectToken : String :=
  String.ofList (assembled (utf8Bytes "s3cret") (utf8Bytes header.render)
    (Json.object listedSubject).render)

/-- A signed payload may say whom it is for and still grant nothing. -/
theorem listed_subject_refused : ∃ a, ofSecret? (utf8Bytes "s3cret") = .ok a ∧
    Carries (utf8Bytes "s3cret") listedSubjectToken (utf8Bytes header.render) listedSubject ∧
      (∃ headers, Describes (utf8Bytes header.render) headers ∧ SoundHeader headers) ∧
        Claims.Says listedSubject ⟨⟨"a", []⟩, 0⟩ ∧
          a.identity (some listedSubjectToken) = .guest ∧ Identity.guest ≠ ⟨"a", []⟩ := by
  have htoken := presents_of_solid (solid_assembled (utf8Bytes "s3cret") (utf8Bytes header.render)
    (Json.object listedSubject).render)
  have hpayload : parse? (Json.object listedSubject).render = some (.object listedSubject) := by
    refine parse?_render ?_ (by decide) (by decide)
    simp [listedSubject, IsWritten, MembersWritten, AreWritten]
  have hclaims : Claims.ofJson? (.object listedSubject) = none := rfl
  have hmeant : Claims.Says listedSubject ⟨⟨"a", []⟩, 0⟩ := by
    refine ⟨single?_eq_some_some_iff.1 rfl, .inl ⟨single?_eq_some_none_iff.1 rfl, rfl⟩,
      .inl ⟨single?_eq_some_none_iff.1 rfl, rfl⟩, fun v hv => ?_⟩
    have hnone : some none = some (some v) := single?_eq_some_some_iff.2 hv
    cases hnone
  refine ⟨_, ofSecret?_of_ne_nil (by decide), ⟨_, _, htoken, rfl, parse?_eq_some_iff.1 hpayload⟩,
    isHeader_iff.1 isHeader_header, hmeant, ?_, by decide⟩
  rw [listedSubjectToken, identity_of_presents htoken, verify?_assembled, if_pos isHeader_header,
    hpayload, Option.bind_some, hclaims]
  rfl

end Authority
end SelectionSql
