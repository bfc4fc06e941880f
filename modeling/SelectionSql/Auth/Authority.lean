import SelectionSql.Auth.Token
import SelectionSql.Text.Basic
import SelectionSql.Text.Quoted

/-!
# Token authorities

* `Authority`: a secret that is not empty, and the identity of callers without a valid token.
* `Authority.ofSecret?`: the authority of a secret.
* `Authority.login`: a token for an identity.
* `Authority.identity`: who a token is for. Without a valid token that is the guest; nothing is an
  error.
-/
set_option autoImplicit false

namespace SelectionSql

inductive AuthError where
  | missingSecret
deriving DecidableEq, Repr

def AuthError.message : AuthError → String
  | .missingSecret => "No signing secret configured"

/-- Issues tokens and tells whom they are for. -/
structure Authority where
  secret : List UInt8
  guest : Identity
  secret_ne_nil : secret ≠ []

namespace Authority

def ofSecret? (secret : List UInt8) : Except AuthError Authority :=
  if h : secret = [] then .error .missingSecret else .ok ⟨secret, .guest, h⟩

def withGuest (a : Authority) (guest : Identity) : Authority := { a with guest := guest }

/-- A token for an identity. -/
def login (a : Authority) (i : Identity) (issuedAt : UInt64) : String :=
  Token.issue a.secret ⟨i, issuedAt⟩

/-- A token without the word that may stand in front of it, and without blanks around. -/
def bareToken (text : String) : List Char :=
  let word := ['B', 'e', 'a', 'r', 'e', 'r', ' ']
  let cs := text.toList
  trimBlanks (if word.isPrefixOf cs then cs.drop word.length else cs)

/-- Who a token is for. -/
def identity (a : Authority) (token : Option String) : Identity :=
  match token.bind fun text => Token.verify? a.secret (bareToken text) with
  | some claims => claims.identity
  | none => a.guest

/-- The text that shows an authority, without its secret. -/
def inspected (a : Authority) : String :=
  "TokenAuthority \x7b guest: Identity \x7b name: " ++ quotedText a.guest.name ++ ", rules: [" ++
    ", ".intercalate (a.guest.rules.map quotedText) ++ "] \x7d, .. \x7d"

end Authority
end SelectionSql
