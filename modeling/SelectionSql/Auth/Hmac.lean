import SelectionSql.Auth.Sha256

/-!
# Keyed hashes

`Hmac.sign` is the hash of a message under a key: the message is hashed twice, each time behind the
key mixed with a constant.
-/
set_option autoImplicit false

namespace SelectionSql
namespace Hmac

/-- How many bytes the hash takes at a time. -/
def blockSize : Nat := 64

/-- The key in one block: a longer one is hashed, a shorter one is filled up with zeros. -/
def blockKey (key : List UInt8) : List UInt8 :=
  let short := if key.length > blockSize then Sha256.hash key else key
  short ++ List.replicate (blockSize - short.length) 0

/-- The keyed hash of a message. -/
def sign (key message : List UInt8) : List UInt8 :=
  let k := blockKey key
  let inner := Sha256.hash (k.map (· ^^^ 0x36) ++ message)
  Sha256.hash (k.map (· ^^^ 0x5c) ++ inner)

end Hmac
end SelectionSql
