import SelectionSql.Json.Reader

/-!
# Lexical grammar of GraphQL texts

The smallest parts of query and schema documents.

* `Grammar.skipIgnored`: blanks, commas, byte-order marks and comments, which may stand between any
  two parts; `Grammar.part` reads what stands behind them.
* `Grammar.word`, `mark`, `name`: fixed words, punctuation, names. A fixed word needs no boundary
  behind it.
* `Grammar.quotedString`, `blockString`: the two forms of strings.
* `Grammar.number`: a number as written, not directly followed by a name.
-/
set_option autoImplicit false

namespace SelectionSql
namespace Grammar
open Reader

/-! ## Between the parts -/

def isLineEnd (c : Char) : Bool := c == '\n' || c == '\r'

/-- A blank of the grammar: it may stand anywhere between two parts. -/
def isSpace (c : Char) : Bool :=
  c == ' ' || c == ',' || c == '\t' || c == '\uFEFF' || isLineEnd c

/-- What follows blanks and comments; the first argument tells whether a comment is open. -/
def dropIgnored : Bool → List Char → List Char
  | _, [] => []
  | true, c :: rest => dropIgnored (!isLineEnd c) rest
  | false, c :: rest =>
    if isSpace c then dropIgnored false rest
    else if c = '#' then dropIgnored true rest
    else c :: rest

/-- Blanks and comments. -/
def skipIgnored : Reader Unit := fun cs => some ((), dropIgnored false cs)

/-- A part, behind blanks and comments. -/
def part {α : Type} (r : Reader α) : Reader α := do
  skipIgnored
  r

/-- A fixed word, behind blanks and comments. -/
def word (text : String) : Reader Unit := part (literal text)

/-- A punctuation mark, behind blanks and comments. -/
def mark (c : Char) : Reader Unit := part (char c)

/-! ## Names -/

def startsName (c : Char) : Bool := c.isAlpha || c == '_'

def continuesName (c : Char) : Bool := c.isAlphanum || c == '_'

/-- A name, right here. -/
def bareName : Reader String := do
  let c ← satisfy startsName
  let cs ← takeWhile continuesName
  return String.ofList (c :: cs)

/-- A name, behind blanks and comments. -/
def name : Reader String := part bareName

/-! ## Strings -/

/-- The character behind a backslash in a string, and the rest. A code point in digits must not be
half of a surrogate pair. -/
def escape? : List Char → Option (Char × List Char)
  | 'u' :: rest => do
    let (n, rest) ← Json.hexFour? rest
    if 0xD800 ≤ n ∧ n ≤ 0xDFFF then none else return (Char.ofNat n, rest)
  | cs => Json.escape? cs

/-- The characters of a string and what follows its closing quote. The first argument bounds the
number of characters; the length of the text is enough. -/
def stringBody : Nat → List Char → Option (List Char × List Char)
  | _, [] => none
  | 0, _ => none
  | n + 1, c :: rest =>
    if c = '\x22' then some ([], rest)
    else if c = '\\' then do
      let (d, rest) ← escape? rest
      let (ds, rest) ← stringBody n rest
      return (d :: ds, rest)
    else if isLineEnd c then none
    else do
      let (ds, rest) ← stringBody n rest
      return (c :: ds, rest)

/-- A string between single quote marks `"`. -/
def quotedString : Reader String := do
  char '\x22'
  fun cs => (stringBody (cs.length + 1) cs).map fun (ds, rest) => (String.ofList ds, rest)

/-- The characters of a block string as they stand, and what follows its closing marks. Three marks
behind a backslash do not close it. -/
def blockBody : List Char → Option (List Char × List Char)
  | [] => none
  | '\x22' :: '\x22' :: '\x22' :: rest => some ([], rest)
  | '\\' :: '\x22' :: '\x22' :: '\x22' :: rest =>
    (blockBody rest).map fun (cs, after) => ('\\' :: '\x22' :: '\x22' :: '\x22' :: cs, after)
  | c :: rest => (blockBody rest).map fun (cs, after) => (c :: cs, after)

/-- The lines of a text; a carriage return with a line feed is one line end. -/
def textLines : List Char → List (List Char)
  | [] => [[]]
  | '\r' :: '\n' :: rest => [] :: textLines rest
  | c :: rest =>
    if isLineEnd c then [] :: textLines rest
    else match textLines rest with
      | [] => [[c]]
      | line :: lines => (c :: line) :: lines

def isIndent (c : Char) : Bool := c == ' ' || c == '\t'

/-- The line holds more than indentation. -/
def hasContent (line : List Char) : Bool := line.any fun c => !isIndent c

/-- The least indentation of the lines that hold something. -/
def commonIndent (lines : List (List Char)) : Nat :=
  (((lines.filter hasContent).map fun line => (line.takeWhile isIndent).length).min?).getD 0

/-- A line without the common indentation; a line that is shorter than it stays as it is. -/
def dedent (indent : Nat) (line : List Char) : List Char :=
  if indent ≤ line.length then line.drop indent else line

/-- The text of a block string: the indentation common to all lines but the first is removed from
them, and lines that hold nothing are dropped at both ends. -/
def blockText (raw : List Char) : List Char :=
  let lines := match textLines raw with
    | [] => []
    | first :: others => first :: others.map (dedent (commonIndent others))
  let kept := ((lines.dropWhile fun l => !hasContent l).reverse.dropWhile fun l =>
    !hasContent l).reverse
  match kept with
  | [] => []
  | first :: others => first ++ others.flatMap fun l => '\n' :: l

/-- A block string between triple quote marks. -/
def blockString : Reader String := do
  literal "\x22\x22\x22"
  fun cs => (blockBody cs).map fun (raw, rest) => (String.ofList (blockText raw), rest)

/-- A string of either form, right here. -/
def bareString : Reader String := blockString <|> quotedString

/-! ## Numbers -/

/-- A number as written, right here; a name must not follow directly. -/
def bareNumber : Reader String := do
  let cs ← Json.numberLexeme
  absent (satisfy startsName)
  return String.ofList cs

end Grammar
end SelectionSql
