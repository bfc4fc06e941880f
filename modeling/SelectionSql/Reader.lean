/-!
# Readers

A reader takes what it wants from the front of a text and returns what it made of it together with
the rest, or refuses. Alternatives (`<|>`) are ordered: the second is tried where the first
refuses, from the same place, and a chosen alternative is never given up later.

* `Reader.satisfy`, `char`, `literal`, `takeWhile`, `finish`: single steps.
* `Reader.opt`, `many`, `many1`, `absent`: optional parts, repetition, look-ahead.
* `Reader.run`: reads a whole text.
-/
set_option autoImplicit false

namespace SelectionSql

/-- A function from a text to a result and the rest of the text. -/
abbrev Reader (α : Type) : Type := StateT (List Char) Option α

namespace Reader
variable {α : Type}

/-- Refuses. -/
def refuse : Reader α := fun _ => none

def satisfy (p : Char → Bool) : Reader Char
  | [] => none
  | c :: rest => if p c then some (c, rest) else none

def char (c : Char) : Reader Unit
  | [] => none
  | d :: rest => if d = c then some ((), rest) else none

/-- The rest of a text behind `word`, if the text starts with it. -/
def dropLiteral : List Char → List Char → Option (List Char)
  | [], cs => some cs
  | _ :: _, [] => none
  | w :: word, c :: cs => if w = c then dropLiteral word cs else none

def literal (word : String) : Reader Unit := fun cs =>
  (dropLiteral word.toList cs).map fun rest => ((), rest)

/-- The longest run of characters with the property `p`, possibly empty. -/
def takeWhile (p : Char → Bool) : Reader (List Char) := fun cs =>
  some (cs.takeWhile p, cs.dropWhile p)

/-- A nonempty run of characters with the property `p`. -/
def takeWhile1 (p : Char → Bool) : Reader (List Char) := do
  let c ← satisfy p
  let cs ← takeWhile p
  return c :: cs

/-- The end of the text. -/
def finish : Reader Unit
  | [] => some ((), [])
  | _ :: _ => none

/-- Accepts without reading where `r` refuses, and refuses where it accepts. -/
def absent (r : Reader α) : Reader Unit := fun cs =>
  match r cs with
  | some _ => none
  | none => some ((), cs)

/-- What `r` reads, or nothing where it refuses. -/
def opt (r : Reader α) : Reader (Option α) := fun cs =>
  match r cs with
  | some (a, rest) => some (some a, rest)
  | none => some (none, cs)

/-- Reads as often as `r` accepts and makes progress. -/
def manyFrom (r : Reader α) (cs : List Char) : List α × List Char :=
  match r cs with
  | none => ([], cs)
  | some (a, rest) =>
    if rest.length < cs.length then
      let (as, final) := manyFrom r rest
      (a :: as, final)
    else ([], cs)
termination_by cs.length

/-- Any number of `r`, as many as there are. -/
def many (r : Reader α) : Reader (List α) := fun cs => some (manyFrom r cs)

/-- One `r` or more. -/
def many1 (r : Reader α) : Reader (List α) := do
  let first ← r
  let others ← many r
  return first :: others

/-- Reads a whole text. -/
def run (r : Reader α) (cs : List Char) : Option α :=
  match r cs with
  | some (a, []) => some a
  | _ => none

end Reader
end SelectionSql
