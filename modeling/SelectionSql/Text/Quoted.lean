import SelectionSql.Text.PrintTable
import SelectionSql.Text.Characters

/-!
# Texts in double quotes

`quotedText` shows a text between double quotes so that every character can be told: quotes and
backslashes behind a backslash, the common controls by their letters, and every character that
would not show by itself as its code point in braces.
-/
set_option autoImplicit false

namespace SelectionSql

/-- The digits of a number in base sixteen, with small letters. -/
def hexText (n : Nat) : List Char := Nat.toDigits 16 n

/-- A mark that joins the character before it. The two halfwidth sound marks of Katakana have the
property Grapheme_Extend too, but they are letters that take a place of their own. -/
def isJoining (c : Char) : Bool :=
  inRanges graphemeExtendRanges c.toNat && c != '\uff9e' && c != '\uff9f'

def quotedChar (c : Char) : List Char :=
  if c = '\x00' then ['\\', '0']
  else if c = '\t' then ['\\', 't']
  else if c = '\r' then ['\\', 'r']
  else if c = '\n' then ['\\', 'n']
  else if c = '\x22' ∨ c = '\\' then ['\\', c]
  else if isJoining c || inRanges unprintableRanges c.toNat then
    ['\\', 'u', '\x7b'] ++ hexText c.toNat ++ ['\x7d']
  else [c]

def quotedText (s : String) : String :=
  String.ofList ('\x22' :: (s.toList.flatMap quotedChar ++ ['\x22']))

end SelectionSql
