import SelectionSql.Json.Basic
import SelectionSql.Reader

/-!
# Reading JSON

* `Json.stringBody`: the characters of a string up to its closing quote.
* `Json.numberLexeme`: a number, as written.
* `Json.value text depth`: a value whose arrays and objects nest at most `depth` deep; `text` reads
  its strings.
* `Json.read`: a whole text by the grammar alone.
* `Json.parse?`: a whole text that nests at most 127 deep and holds no number too large for a
  double.
-/
set_option autoImplicit false

namespace SelectionSql
namespace Json

open Reader

/-- Blanks between the parts of a JSON text. -/
def isJsonBlank (c : Char) : Bool := c == ' ' || c == '\t' || c == '\n' || c == '\r'

def blanks : Reader Unit := do
  let _ ← takeWhile isJsonBlank

/-! ## Strings -/

/-- The value of a digit of base sixteen. -/
def hexValue? (c : Char) : Option Nat :=
  if '0' ≤ c ∧ c ≤ '9' then some (c.toNat - 48)
  else if 'a' ≤ c ∧ c ≤ 'f' then some (c.toNat - 87)
  else if 'A' ≤ c ∧ c ≤ 'F' then some (c.toNat - 55)
  else none

/-- Four digits of base sixteen at the front of a text. -/
def hexFour? : List Char → Option (Nat × List Char)
  | a :: b :: c :: d :: rest => do
    let a ← hexValue? a
    let b ← hexValue? b
    let c ← hexValue? c
    let d ← hexValue? d
    return (((a * 16 + b) * 16 + c) * 16 + d, rest)
  | _ => none

/-- The character that two halves of a surrogate pair name. -/
def joinSurrogates (high low : Nat) : Char :=
  Char.ofNat (0x10000 + (high - 0xD800) * 1024 + (low - 0xDC00))

/-- The character behind a backslash, and the rest. A code point in digits must not be half of a
surrogate pair, unless the other half follows in the same form. -/
def escape? : List Char → Option (Char × List Char)
  | '\x22' :: rest => some ('\x22', rest)
  | '\\' :: rest => some ('\\', rest)
  | '/' :: rest => some ('/', rest)
  | 'b' :: rest => some ('\x08', rest)
  | 'f' :: rest => some ('\x0c', rest)
  | 'n' :: rest => some ('\n', rest)
  | 'r' :: rest => some ('\r', rest)
  | 't' :: rest => some ('\t', rest)
  | 'u' :: rest => do
    let (n, rest) ← hexFour? rest
    if n < 0xD800 ∨ 0xDFFF < n then return (Char.ofNat n, rest)
    else if 0xDC00 ≤ n then none
    else match rest with
      | '\\' :: 'u' :: rest => do
        let (low, rest) ← hexFour? rest
        if 0xDC00 ≤ low ∧ low ≤ 0xDFFF then return (joinSurrogates n low, rest) else none
      | _ => none
  | _ => none

/-- The characters of a string, and what follows its closing quote. The first argument bounds the
number of characters; the length of the text is enough. -/
def stringBody : Nat → List Char → Option (List Char × List Char)
  | _, [] => none
  | 0, _ => none
  | n + 1, c :: rest =>
    if c = '\x22' then some ([], rest)
    else if c = '\\' then do
      let (d, rest) ← escape? rest
      let (ds, rest) ← stringBody n rest
      return (d :: ds, rest)
    else if c.toNat < 32 then none
    else do
      let (ds, rest) ← stringBody n rest
      return (c :: ds, rest)

/-- A string between double quotes. -/
def stringText : Reader String := do
  char '\x22'
  fun cs => (stringBody (cs.length + 1) cs).map fun (ds, rest) => (String.ofList ds, rest)

/-! ## Numbers -/

/-- Digits of a whole number, without a leading zero. -/
def wholeDigits : Reader (List Char) :=
  (do char '0'; return ['0']) <|> (do
    let first ← satisfy fun c => '1' ≤ c && c ≤ '9'
    let others ← takeWhile Char.isDigit
    return first :: others)

def fractionPart : Reader (List Char) := do
  char '.'
  let digits ← takeWhile1 Char.isDigit
  return '.' :: digits

def exponentPart : Reader (List Char) := do
  let mark ← satisfy fun c => c == 'e' || c == 'E'
  let sign ← opt (satisfy fun c => c == '+' || c == '-')
  let digits ← takeWhile1 Char.isDigit
  return mark :: (sign.toList ++ digits)

/-- A number as written: a sign, digits, a fraction, a power of ten. -/
def numberLexeme : Reader (List Char) := do
  let sign ← opt (satisfy fun c => c == '-')
  let whole ← wholeDigits
  let fraction ← opt fractionPart
  let exponent ← opt exponentPart
  return sign.toList ++ whole ++ fraction.getD [] ++ exponent.getD []

/-! ## Values -/

/-- Items with commas between them, blanks around each. -/
def separated {α : Type} (item : Reader α) : Reader (List α) := do
  blanks
  let first ← opt (do
    let a ← item
    blanks
    return a)
  match first with
  | none => return []
  | some a => do
    let others ← many (do
      char ','
      blanks
      let b ← item
      blanks
      return b)
    return a :: others

/-- A value in which arrays and objects nest at most `depth` deep. -/
def value (text : Reader String) : Nat → Reader Json
  | 0 => leaf
  | depth + 1 => leaf
      <|> (do
        char '['
        let items ← separated (value text depth)
        char ']'
        return .array items)
      <|> (do
        char '\x7b'
        let members ← separated (do
          let name ← text
          blanks
          char ':'
          blanks
          let v ← value text depth
          return (name, v))
        char '\x7d'
        return .object members)
where
  /-- A value without parts. -/
  leaf : Reader Json :=
    (do literal "null"; return .null)
      <|> (do literal "true"; return .bool true)
      <|> (do literal "false"; return .bool false)
      <|> (do let s ← text; return .string s)
      <|> (do let cs ← numberLexeme; return .number (String.ofList cs))

/-- A whole text that holds one value of the given depth. -/
def readWithin (text : Reader String) (depth : Nat) (cs : List Char) : Option Json :=
  Reader.run (do
    blanks
    let v ← value text depth
    blanks
    return v) cs

/-- The value of a text, by the grammar alone. No text nests deeper than it is long. -/
def read (text : String) : Option Json := readWithin stringText text.length text.toList

/-- How deep arrays and objects may nest. -/
def maxDepth : Nat := 127

/-- The value of a text that keeps the limits on depth and numbers. -/
def parse? (text : String) : Option Json := do
  let v ← readWithin stringText maxDepth text.toList
  if v.inRange then return v else none

end Json
end SelectionSql
