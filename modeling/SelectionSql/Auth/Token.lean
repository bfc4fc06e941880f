import SelectionSql.Auth.Base64Url
import SelectionSql.Auth.Header
import SelectionSql.Auth.Hmac
import SelectionSql.Identity
import SelectionSql.Json.Printer
import SelectionSql.Text.Basic

/-!
# Tokens

A token is a header, claims and a signature, each in Base64 for URLs, with dots between them.

* `Token.Claims`: who the token is for, and when it was issued.
* `Token.Claims.hasSoundTerms`: the terms that are not used here, such as an expiry, do not spoil
  the claims.
* `Token.Claims.ofJson?`: the claims that a JSON object makes. Other members do not count, except
  that a token meant for an audience is refused.
* `Token.signature`: the signature of header and claims under a secret.
* `Token.issue`, `verify?`: a token for claims; the claims of a token with a valid signature.
-/
set_option autoImplicit false

namespace SelectionSql
namespace Token
open Json

/-! ## Claims -/

/-- A whole number of 64 bits without a sign. -/
def natural? : Json → Option UInt64
  | .number text =>
    match Number.ofText text with
    | .int n => if 0 ≤ n then some (UInt64.ofNat n.toNat) else none
    | .float _ => none
  | _ => none

/-- What a token says. -/
structure Claims where
  identity : Identity
  /-- Seconds since the beginning of 1970. -/
  issuedAt : UInt64
deriving DecidableEq, Repr

namespace Claims

def toJson (c : Claims) : Json :=
  .object [("name", .string c.identity.name),
    ("rules", .array (c.identity.rules.map Json.string)),
    ("iat", .number (Nat.repr c.issuedAt.toNat))]

/-- The value names an audience: a text or a list of texts. -/
def isAudience (v : Json) : Bool := (string? v).isSome || (strings? v).isSome

/-- A list or an object. -/
def isNested : Json → Bool
  | .array _ => true
  | .object _ => true
  | _ => false

/-- A list or an object with something in it. -/
def isFilled : Json → Bool
  | .array items => !items.isEmpty
  | .object members => !members.isEmpty
  | _ => false

/-- No term of the token is given twice, its times are no lists or objects with something in them,
and its subject is no list or object at all. -/
def hasSoundTerms (members : List (String × Json)) : Bool :=
  ["iss", "aud"].all (fun name => (single? members name).isSome) &&
    ["exp", "nbf"].all (holds isFilled) && holds isNested "sub"
where
  /-- The member is not given twice, nor once in a form to be refused. -/
  holds (isRefused : Json → Bool) (name : String) : Bool :=
    match single? members name with
    | none => false
    | some v => !(v.map isRefused).getD false

def ofJson? : Json → Option Claims
  | .object members => do
    let name ← string? (← (← single? members "name"))
    let rules ← match ← single? members "rules" with
      | some v => strings? v
      | none => some []
    let issuedAt ← match ← single? members "iat" with
      | some v => natural? v
      | none => some 0
    let audience ← single? members "aud"
    if (audience.map isAudience).getD false || !hasSoundTerms members then none
    else return ⟨⟨name, rules⟩, issuedAt⟩
  | _ => none

end Claims

/-! ## Parts -/

def partOf (text : String) : List Char := Base64Url.encode (utf8Bytes text)

def textOf? (part : List Char) : Option String := do ofUtf8? (← Base64Url.decode? part)

/-- The signature of what stands before it. -/
def signature (secret : List UInt8) (signed : List Char) : List Char :=
  Base64Url.encode (Hmac.sign secret (utf8Bytes (String.ofList signed)))

def issue (secret : List UInt8) (c : Claims) : String :=
  let signed := partOf header.render ++ '.' :: partOf c.toJson.render
  String.ofList (signed ++ '.' :: signature secret signed)

/-- The header of the tokens that are issued is one. -/
theorem isHeader_header : isHeader (utf8Bytes header.render) = true := by decide +kernel

def verify? (secret : List UInt8) (token : List Char) : Option Claims :=
  match pieces '.' token with
  | [head, payload, signed] => do
    let header ← Base64Url.decode? head
    if isHeader header && signed == signature secret (head ++ '.' :: payload) then
      Claims.ofJson? (← Json.parse? (← textOf? payload))
    else none
  | _ => none

end Token
end SelectionSql
