import SelectionSql.Json.Reader

/-!
# Keys described in JSON

The header of a token may describe a key. Nothing here uses the key, but a description that does not
hold together spoils the header.

* `WebKey.isChoice`: one of several names, as a string or as the only name of an object.
* `WebKey.hasCommonMembers`: what a description may say about a key of any kind.
* `WebKey.Kind`: the kinds of keys, with what a description must say of each.
* `WebKey.isDescription`: a description of a key of one of the kinds.
-/
set_option autoImplicit false

namespace SelectionSql
namespace WebKey
open Json

/-! ## Members -/

def isText (v : Json) : Bool := (string? v).isSome

def isTexts (v : Json) : Bool := (strings? v).isSome

def isNull : Json → Bool
  | .null => true
  | _ => false

/-- One of several names, as a string or as the only name of an object, with nothing behind it. -/
def isChoice (names : List String) (isNothing : Json → Bool) : Json → Bool
  | .string name => names.contains name
  | .object [(name, v)] => names.contains name && isNothing v
  | _ => false

def isGiven (members : List (String × Json)) (name : String) (form : Json → Bool) : Bool :=
  match single? members name with
  | some (some v) => form v
  | _ => false

/-- The member is missing, or given once: as null or in the right form. -/
def isAllowed (members : List (String × Json)) (name : String) (form : Json → Bool) : Bool :=
  match single? members name with
  | none => false
  | some none => true
  | some (some v) => isNull v || form v

/-! ## Keys of any kind -/

/-- What a key may be for. -/
def algorithms : List String :=
  ["HS256", "HS384", "HS512", "ES256", "ES384", "RS256", "RS384", "RS512", "PS256", "PS384",
    "PS512", "EdDSA", "RSA1_5", "RSA-OAEP", "RSA-OAEP-256"]

/-- Null, or an object with no members. -/
def isNullOrBare : Json → Bool
  | .null => true
  | .object [] => true
  | _ => false

/-- What the description says about the use of the key has the right form. -/
def hasCommonMembers (members : List (String × Json)) : Bool :=
  isAllowed members "alg" (isChoice algorithms isNullOrBare) &&
    ["use", "kid", "x5u", "x5t", "x5t#S256"].all (isAllowed members · isText) &&
    ["key_ops", "x5c"].all (isAllowed members · isTexts)

/-! ## Kinds of keys -/

structure Kind where
  name : String
  /-- The key belongs to a curve. -/
  onCurve : Bool
  /-- The names of the numbers that make up the key. -/
  parts : List String

def kinds : List Kind :=
  [⟨"EC", true, ["x", "y"]⟩, ⟨"RSA", false, ["n", "e"]⟩, ⟨"oct", false, ["k"]⟩,
    ⟨"OKP", true, ["x"]⟩]

def curves : List String := ["P-256", "P-384", "P-521", "Ed25519"]

/-- The description gives all that makes up a key of the kind. -/
def Kind.isDescribedBy (kind : Kind) (members : List (String × Json)) : Bool :=
  isGiven members "kty" (isChoice [kind.name] isNull) &&
    (!kind.onCurve || isGiven members "crv" (isChoice curves isNull)) &&
    kind.parts.all (isGiven members · isText)

/-- A description of a key, inside one more value. -/
def isDescription (v : Json) : Bool :=
  match v with
  | .object members =>
    v.inRange && decide (v.nesting < maxDepth) && hasCommonMembers members &&
      kinds.any (·.isDescribedBy members)
  | _ => false

end WebKey
end SelectionSql
