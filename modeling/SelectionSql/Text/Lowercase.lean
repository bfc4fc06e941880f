import SelectionSql.Text.CaseTable
import SelectionSql.Text.Characters

/-!
# Lower case

`lowercase` maps every letter of a text to lower case, by the full Unicode mapping:

* most letters map to one letter (`lowercaseRuns`);
* the dotted capital I becomes an i with a combining dot;
* a capital sigma becomes a final sigma where it ends a word (`endsWord`), else a small sigma.
-/
set_option autoImplicit false

namespace SelectionSql

/-- The lower-case letter of a code point in a list of runs, or the code point itself. -/
def lowerCode : List CaseRun → Nat → Nat
  | [], n => n
  | run :: rest, n =>
    if n < run.first then n
    else if n ≤ run.last ∧ (n - run.first) % run.step = 0 then ((n : Int) + run.shift).toNat
    else lowerCode rest n

/-- The first character that is not ignored in matters of case is a cased letter. -/
def casedAhead (cs : List Char) : Bool :=
  match cs.dropWhile fun c => inRanges caseIgnorableRanges c.toNat with
  | [] => false
  | c :: _ => inRanges casedRanges c.toNat

/-- Between `before`, read backwards, and `after` a word ends: there is a letter before, and none
after. -/
def endsWord (before after : List Char) : Bool := casedAhead before && !casedAhead after

/-- Lower-cases `cs`, which stands behind the reversed text `before`. -/
def lowercaseAfter (before : List Char) : List Char → List Char
  | [] => []
  | c :: rest =>
    let lower :=
      if c.toNat = 0x3A3 then [if endsWord before rest then 'ς' else 'σ']
      else if c.toNat = 0x130 then ['i', '\u0307']
      else [Char.ofNat (lowerCode lowercaseRuns c.toNat)]
    lower ++ lowercaseAfter (c :: before) rest

def lowercase (s : String) : String := String.ofList (lowercaseAfter [] s.toList)

end SelectionSql
