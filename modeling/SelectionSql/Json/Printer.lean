import SelectionSql.Json.Basic

/-!
# Writing JSON

* `Json.quote`: a string between double quotes; quotes, backslashes and controls are escaped,
  everything else stands as it is.
* `Json.render`: a value without any blanks.
* `Json.renderPretty`: a value over several lines, indented by two blanks a level.
-/
set_option autoImplicit false

namespace SelectionSql
namespace Json

/-- A digit of base sixteen, with small letters. -/
def hexDigit (n : Nat) : Char := if n < 10 then Char.ofNat (48 + n) else Char.ofNat (87 + n)

def quoteChar (c : Char) : List Char :=
  if c = '\x22' ∨ c = '\\' then ['\\', c]
  else if c = '\x08' then ['\\', 'b']
  else if c = '\t' then ['\\', 't']
  else if c = '\n' then ['\\', 'n']
  else if c = '\x0c' then ['\\', 'f']
  else if c = '\r' then ['\\', 'r']
  else if c.toNat < 32 then ['\\', 'u', '0', '0', hexDigit (c.toNat / 16), hexDigit (c.toNat % 16)]
  else [c]

/-- A string between double quotes. -/
def quote (s : String) : List Char := '\x22' :: (s.toList.flatMap quoteChar ++ ['\x22'])

mutual

/-- A value without blanks. -/
def renderChars : Json → List Char
  | .null => ['n', 'u', 'l', 'l']
  | .bool true => ['t', 'r', 'u', 'e']
  | .bool false => ['f', 'a', 'l', 's', 'e']
  | .number text => text.toList
  | .string s => quote s
  | .array items => '[' :: (renderItems items ++ [']'])
  | .object members => '\x7b' :: (renderMembers members ++ ['\x7d'])

/-- Items with commas between them. -/
def renderItems : List Json → List Char
  | [] => []
  | [v] => renderChars v
  | v :: rest => renderChars v ++ ',' :: renderItems rest

/-- Members with commas between them. -/
def renderMembers : List (String × Json) → List Char
  | [] => []
  | [(k, v)] => quote k ++ ':' :: renderChars v
  | (k, v) :: rest => quote k ++ ':' :: renderChars v ++ ',' :: renderMembers rest

end

/-- The text of a value, without blanks. -/
def render (v : Json) : String := String.ofList (renderChars v)

/-! ## Over several lines -/

def newline (depth : Nat) : List Char := '\n' :: List.replicate (2 * depth) ' '

mutual

/-- A value that starts at a depth, each item and member on its own line. -/
def renderPrettyAt (depth : Nat) : Json → List Char
  | .array [] => ['[', ']']
  | .array items => '[' :: (renderPrettyItems (depth + 1) items ++ newline depth ++ [']'])
  | .object [] => ['\x7b', '\x7d']
  | .object members =>
    '\x7b' :: (renderPrettyMembers (depth + 1) members ++ newline depth ++ ['\x7d'])
  | v => renderChars v

def renderPrettyItems (depth : Nat) : List Json → List Char
  | [] => []
  | [v] => newline depth ++ renderPrettyAt depth v
  | v :: rest => newline depth ++ renderPrettyAt depth v ++ ',' :: renderPrettyItems depth rest

def renderPrettyMembers (depth : Nat) : List (String × Json) → List Char
  | [] => []
  | [(k, v)] => newline depth ++ quote k ++ ':' :: ' ' :: renderPrettyAt depth v
  | (k, v) :: rest => newline depth ++ quote k ++ ':' :: ' ' :: renderPrettyAt depth v ++
      ',' :: renderPrettyMembers depth rest

end

/-- The text of a value over several lines. -/
def renderPretty (v : Json) : String := String.ofList (renderPrettyAt 0 v)

end Json
end SelectionSql
