import SelectionSql.Json.Reader
import SelectionSql.Text.Basic

/-!
# JSON as it is written

Bytes can be read as JSON in two steps, so that a string nobody asks for is never looked into:
first the value as written, in which every byte between the quotes of a string stands for a
character of its own, then the value of the parts that matter.

* `Json.writtenBody`: what stands between the quotes of a string. Escapes must have their form,
  but may name what is no character, and the bytes need not be valid UTF-8.
* `Json.readWritten`: the value that bytes hold, as written.
* `Json.ofWritten?`: the value itself; nothing if one of its strings is not valid.
-/
set_option autoImplicit false

namespace SelectionSql
namespace Json

open Reader

/-! ## Strings as written -/

/-- The characters behind a backslash that belong to it, and the rest. -/
def writtenEscape? : List Char → Option (List Char × List Char)
  | [] => none
  | c :: rest =>
    if c = 'u' then (hexFour? rest).map fun (_, after) => (c :: rest.take 4, after)
    else if c ∈ ['\x22', '\\', '/', 'b', 'f', 'n', 'r', 't'] then some ([c], rest)
    else none

/-- The characters of a string as written, and what follows its closing quote. The first argument
bounds the number of characters; the length of the text is enough. -/
def writtenBody : Nat → List Char → Option (List Char × List Char)
  | _, [] => none
  | 0, _ => none
  | n + 1, c :: rest =>
    if c = '\x22' then some ([], rest)
    else if c = '\\' then do
      let (taken, rest) ← writtenEscape? rest
      let (ds, rest) ← writtenBody n rest
      return (c :: (taken ++ ds), rest)
    else if c.toNat < 32 then none
    else do
      let (ds, rest) ← writtenBody n rest
      return (c :: ds, rest)

/-- A string as written, without its quotes. -/
def writtenText : Reader String := do
  char '\x22'
  fun cs => (writtenBody (cs.length + 1) cs).map fun (ds, rest) => (String.ofList ds, rest)

/-- The value that bytes hold, as written. No text nests deeper than it is long. -/
def readWritten (bytes : List UInt8) : Option Json :=
  readWithin writtenText bytes.length (bytes.map fun b => Char.ofNat b.toNat)

/-! ## What was written -/

/-- The string that was written, if it is valid. -/
def textOfWritten? (written : String) : Option String := do
  let text ← ofUtf8? (written.toList.map fun c => UInt8.ofNat c.toNat)
  let cs := text.toList ++ ['\x22']
  match ← stringBody (cs.length + 1) cs with
  | (ds, []) => return String.ofList ds
  | _ => none

mutual

/-- The value that was written. -/
def ofWritten? : Json → Option Json
  | .string s => (textOfWritten? s).map .string
  | .array items => (ofWrittenList? items).map .array
  | .object members => (ofWrittenMembers? members).map .object
  | v => some v

def ofWrittenList? : List Json → Option (List Json)
  | [] => some []
  | v :: rest => do return (← ofWritten? v) :: (← ofWrittenList? rest)

def ofWrittenMembers? : List (String × Json) → Option (List (String × Json))
  | [] => some []
  | (k, v) :: rest => do
    return (← textOfWritten? k, ← ofWritten? v) :: (← ofWrittenMembers? rest)

end

end Json
end SelectionSql
