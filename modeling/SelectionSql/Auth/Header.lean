import SelectionSql.Auth.WebKey
import SelectionSql.Json.Written

/-!
# Headers of tokens

A header is a JSON object, or an array with the values of all members that count. It must name the
one algorithm that is used here; whatever else it says about the token must have the right form.

* `Token.header`: the header of the tokens that are issued.
* `Token.Form`, `headerMembers`: the members that count, each with its form.
* `Token.namedMembers?`: the members that count of a header as written. The values of others are
  not looked into.
* `Token.isHeader`: bytes that hold a header.
-/
set_option autoImplicit false

namespace SelectionSql
namespace Token
open Json WebKey

def algorithm : String := "HS256"

def header : Json := .object [("typ", .string "JWT"), ("alg", .string algorithm)]

/-! ## Members -/

/-- What a member of a header holds. -/
inductive Form where
  /-- The algorithm; it may not be missing. -/
  | algorithm
  | text
  | texts
  | key
deriving DecidableEq, Repr

/-- The members that count, in the order in which an array gives their values. -/
def headerMembers : List (String × Form) :=
  [("typ", .text), ("alg", .algorithm), ("cty", .text), ("jku", .text), ("jwk", .key),
    ("kid", .text), ("x5u", .text), ("x5c", .texts), ("x5t", .text), ("x5t#S256", .text)]

def Form.isKept (members : List (String × Json)) (name : String) : Form → Bool
  | .algorithm => isGiven members name (isChoice [Token.algorithm] isNull)
  | .text => isAllowed members name isText
  | .texts => isAllowed members name isTexts
  | .key => isAllowed members name isDescription

/-- A member of a header as written, if it counts. -/
def namedMember? (member : String × Json) : Option (Option (String × Json)) := do
  let name ← textOfWritten? member.1
  if headerMembers.any fun m => m.1 = name then return some (name, ← ofWritten? member.2)
  else return none

/-- The members that count of a header as written. -/
def namedMembers? : Json → Option (List (String × Json))
  | .object members => (members.mapM namedMember?).map fun ms => ms.filterMap id
  | .array values =>
    if values.length = headerMembers.length then
      (values.mapM ofWritten?).map fun vs => (headerMembers.map Prod.fst).zip vs
    else none
  | _ => none

/-! ## Headers -/

def isHeader (bytes : List UInt8) : Bool :=
  match (readWritten bytes).bind namedMembers? with
  | some members => headerMembers.all fun (name, form) => form.isKept members name
  | none => false

end Token
end SelectionSql
