import SelectionSql.Binary64.Reading
import SelectionSql.Json.Reader
import SelectionSql.Toml.Table

/-!
# Lexical grammar of TOML

The smallest parts of a TOML text.

* `Toml.blanks`, `comment`, `lineEnd`, `gaps`: what stands between the parts.
* `Toml.string`: the four forms of strings, in double or single quotes, on one line or on several.
* `Toml.integer`, `float`, `boolean`, `moment`: the other values without parts.
* `Toml.key`: keys, bare or quoted, with dots.
* `Toml.maxDepth`: how far keys and values may go down.
-/
set_option autoImplicit false

namespace SelectionSql
namespace Toml
open Reader

/-! ## Between the parts -/

def isBlankChar (c : Char) : Bool := c == ' ' || c == '\t'

/-- A character that comments and strings may hold as it is; tabs, but no other controls. -/
def isPlain (c : Char) : Bool := c == '\t' || (' ' ≤ c && c != '\x7f')

def blanks : Reader Unit := do
  let _ ← takeWhile isBlankChar

def comment : Reader Unit := do
  char '#'
  let _ ← takeWhile isPlain

/-- A line feed, with or without a carriage return before it. -/
def lineEnd : Reader Unit := char '\n' <|> literal "\r\n"

/-- Blanks, comments and line ends. -/
def gaps : Reader Unit := do
  blanks
  let _ ← many (do
    let _ ← opt comment
    lineEnd
    blanks)

/-! ## Strings -/

/-- The number that digits of base sixteen name. -/
def hexNumber? (digits : List Char) : Option Nat :=
  digits.foldlM (fun n c => (Json.hexValue? c).map (16 * n + ·)) 0

/-- The character of a code point in so many digits, and the rest. -/
def codePoint? (count : Nat) (cs : List Char) : Option (Char × List Char) := do
  let digits := cs.take count
  if digits.length < count then none
  else
    let n ← hexNumber? digits
    if n < 0xD800 ∨ (0xE000 ≤ n ∧ n < 0x110000) then return (Char.ofNat n, cs.drop count) else none

/-- The character behind a backslash, and the rest. -/
def escape? : List Char → Option (Char × List Char)
  | 'b' :: rest => some ('\x08', rest)
  | 't' :: rest => some ('\t', rest)
  | 'n' :: rest => some ('\n', rest)
  | 'f' :: rest => some ('\x0c', rest)
  | 'r' :: rest => some ('\r', rest)
  | 'e' :: rest => some ('\x1b', rest)
  | '\x22' :: rest => some ('\x22', rest)
  | '\\' :: rest => some ('\\', rest)
  | 'x' :: rest => codePoint? 2 rest
  | 'u' :: rest => codePoint? 4 rest
  | 'U' :: rest => codePoint? 8 rest
  | _ => none

/-- The characters of a string on one line, and what follows its closing quote. The first argument
bounds the number of characters; the length of the text is enough. -/
def lineBody : Nat → List Char → Option (List Char × List Char)
  | _, [] => none
  | 0, _ => none
  | n + 1, c :: rest =>
    if c = '\x22' then some ([], rest)
    else if c = '\\' then do
      let (d, rest) ← escape? rest
      let (ds, rest) ← lineBody n rest
      return (d :: ds, rest)
    else if isPlain c then do
      let (ds, rest) ← lineBody n rest
      return (c :: ds, rest)
    else none

/-- The line end at the front of a text, and the rest. -/
def takeLineEnd? : List Char → Option (List Char × List Char)
  | '\n' :: rest => some (['\n'], rest)
  | '\r' :: '\n' :: rest => some (['\r', '\n'], rest)
  | _ => none

/-- What follows a backslash at the end of a line: the next character that is neither a blank nor a
line end. -/
def joinLines? (cs : List Char) : Option (List Char) := do
  let (_, rest) ← takeLineEnd? (cs.dropWhile isBlankChar)
  return rest.dropWhile fun c => isBlankChar c || c == '\n' || c == '\r'

/-- The quotes of a run that stand in a string before the three that close it, at most two, and
what follows. -/
def closing (quote : Char) (cs : List Char) : Option (List Char × List Char) :=
  let run := (cs.takeWhile (· == quote)).length
  if run < 3 then none
  else
    let extra := min (run - 3) 2
    some (List.replicate extra quote, cs.drop (extra + 3))

/-- The characters of a string in double quotes on several lines, and what follows it. -/
def linesBody : Nat → List Char → Option (List Char × List Char)
  | _, [] => none
  | 0, _ => none
  | n + 1, c :: rest =>
    match closing '\x22' (c :: rest) with
    | some done => some done
    | none =>
      if c = '\\' then
        match joinLines? rest with
        | some rest => linesBody n rest
        | none => do
          let (d, rest) ← escape? rest
          let (ds, rest) ← linesBody n rest
          return (d :: ds, rest)
      else do
        let (taken, rest) ←
          (if isPlain c then some ([c], rest) else takeLineEnd? (c :: rest))
        let (ds, rest) ← linesBody n rest
        return (taken ++ ds, rest)

/-- The characters of a string in single quotes on several lines, and what follows it. -/
def rawLinesBody : Nat → List Char → Option (List Char × List Char)
  | _, [] => none
  | 0, _ => none
  | n + 1, c :: rest =>
    match closing '\x27' (c :: rest) with
    | some done => some done
    | none => do
      let (taken, rest) ←
        (if isPlain c then some ([c], rest) else takeLineEnd? (c :: rest))
      let (ds, rest) ← rawLinesBody n rest
      return (taken ++ ds, rest)

def bodyText (body : Nat → List Char → Option (List Char × List Char)) : Reader String := fun cs =>
  (body (cs.length + 1) cs).map fun (ds, rest) => (String.ofList ds, rest)

def quoted : Reader String := do
  char '\x22'
  bodyText lineBody

/-- A string in single quotes, which holds no escapes. -/
def raw : Reader String := do
  char '\x27'
  let cs ← takeWhile fun c => isPlain c && c != '\x27'
  char '\x27'
  return String.ofList cs

/-- A string on several lines; a line end directly behind the opening quotes does not count. -/
def severalLines : Reader String :=
  (do
    literal "\x22\x22\x22"
    let _ ← opt lineEnd
    bodyText linesBody)
  <|> (do
    literal "\x27\x27\x27"
    let _ ← opt lineEnd
    bodyText rawLinesBody)

/-- A string of any form. -/
def string : Reader String := severalLines <|> quoted <|> raw

/-! ## Numbers -/

/-- Digits; between two of them one `_` may stand. -/
def digits (isDigit : Char → Bool) : Reader (List Char) := do
  let first ← satisfy isDigit
  let others ← many (do
    let _ ← opt (char '_')
    satisfy isDigit)
  return first :: others

/-- The digits of a decimal whole number, without a leading zero. -/
def wholeDigits : Reader (List Char) := do
  let ds ← digits Char.isDigit
  if ds.head? = some '0' ∧ ds.length ≠ 1 then refuse else return ds

def sign : Reader (List Char) := do
  let s ← opt (satisfy fun c => c == '+' || c == '-')
  return s.toList

def numberIn (base : Nat) (ds : List Char) : Nat :=
  ds.foldl (fun n c => base * n + (Json.hexValue? c).getD 0) 0

def numberOfBase (letter : Char) (base : Nat) : Reader Int := do
  char '0'
  char letter
  let ds ← digits fun c => ((Json.hexValue? c).map fun n => decide (n < base)).getD false
  return numberIn base ds

/-- A whole number. -/
def integer : Reader Int :=
  numberOfBase 'x' 16 <|> numberOfBase 'o' 8 <|> numberOfBase 'b' 2 <|> (do
    let s ← sign
    let ds ← wholeDigits
    return if s = ['-'] then -(digitsValue ds : Int) else digitsValue ds)

/-- A number with a point or a power of ten, or one of the words for infinity and for what is not a
number; nothing for a number that is too large for a double. -/
def float : Reader (Option Binary64) := do
  let s ← sign
  (do literal "inf"; return some (Binary64.infinity (s = ['-'])))
    <|> (do literal "nan"; return some Binary64.nan)
    <|> (do
      let whole ← wholeDigits
      let fraction ← opt (do
        char '.'
        let ds ← digits Char.isDigit
        return '.' :: ds)
      let power ← opt (do
        let mark ← satisfy fun c => c == 'e' || c == 'E'
        let sgn ← sign
        let ds ← digits Char.isDigit
        return mark :: (sgn ++ ds))
      if fraction.isNone && power.isNone then refuse
      else
        let text := s ++ whole ++ fraction.getD [] ++ power.getD []
        let f := (DecimalText.scan text).1.nearest
        return if f.isFinite then some f else none)

def boolean : Reader Bool :=
  (do literal "true"; return true) <|> (do literal "false"; return false)

/-! ## Dates and times -/

/-- A number of exactly so many digits. -/
def fixedNumber : Nat → Reader Nat
  | 0 => return 0
  | count + 1 => do
    let n ← fixedNumber count
    let c ← satisfy Char.isDigit
    return 10 * n + (c.toNat - 48)

def twoDigits (least most : Nat) : Reader Nat := do
  let n ← fixedNumber 2
  if least ≤ n ∧ n ≤ most then return n else refuse

def isLeapYear (year : Nat) : Bool := year % 4 = 0 && (year % 100 ≠ 0 || year % 400 = 0)

def daysOf (year month : Nat) : Nat :=
  if month = 2 then (if isLeapYear year then 29 else 28)
  else if month = 4 ∨ month = 6 ∨ month = 9 ∨ month = 11 then 30
  else 31

def date : Reader Unit := do
  let year ← fixedNumber 4
  char '-'
  let month ← twoDigits 1 12
  char '-'
  let _ ← twoDigits 1 (daysOf year month)

/-- A time of day, with seconds or without; the second may be a leap second. -/
def timeOfDay : Reader Unit := do
  let _ ← twoDigits 0 23
  char ':'
  let _ ← twoDigits 0 59
  let _ ← opt (do
    char ':'
    let _ ← twoDigits 0 60
    let _ ← opt (do
      char '.'
      let _ ← takeWhile1 Char.isDigit))

/-- The distance of a clock from the common one. -/
def clockOffset : Reader Unit :=
  (do let _ ← satisfy fun c => c == 'Z' || c == 'z')
  <|> (do
    let _ ← satisfy fun c => c == '+' || c == '-'
    let _ ← twoDigits 0 23
    char ':'
    let _ ← twoDigits 0 59)

/-- A date, a time, or both; with both the clock may be told. -/
def moment : Reader Unit :=
  (do
    date
    let _ ← opt (do
      let _ ← satisfy fun c => c == 'T' || c == 't' || c == ' '
      timeOfDay
      let _ ← opt clockOffset))
  <|> timeOfDay

/-! ## Keys -/

def isBareKeyChar (c : Char) : Bool := c.isAlphanum || c == '_' || c == '-'

def simpleKey : Reader String :=
  quoted <|> raw <|> (do
    let cs ← takeWhile1 isBareKeyChar
    return String.ofList cs)

/-- How many parts a key may have, and how deep lists and tables may nest in a value. -/
def maxDepth : Nat := 80

/-- A key; its parts have dots between them, with blanks around. -/
def key : Reader Key := do
  let first ← simpleKey
  let others ← many (do
    blanks
    char '.'
    blanks
    simpleKey)
  let parts := first :: others
  if parts.length ≤ maxDepth then return ⟨parts.dropLast, parts.getLast?.getD first⟩ else refuse

end Toml
end SelectionSql
