import SelectionSql.Text.Characters

/-!
# Texts

* `trimBlanks`, `trimText`: a text without the blanks at its two ends.
* `pieces`: a text cut at every separator; it has one piece more than it has separators.
* `utf8Bytes`: the bytes of a text in UTF-8.
* `ofUtf8?`: the text of bytes that are valid UTF-8; it reads back what `utf8Bytes` writes.
-/
set_option autoImplicit false

namespace SelectionSql

/-! ## Blanks -/

/-- Drops the blanks at both ends. -/
def trimBlanks (cs : List Char) : List Char :=
  ((cs.dropWhile isBlank).reverse.dropWhile isBlank).reverse

def trimText (s : String) : String := String.ofList (trimBlanks s.toList)

/-! ## Pieces -/

/-- The pieces between separators. -/
def pieces (sep : Char) : List Char → List (List Char)
  | [] => [[]]
  | c :: rest =>
    if c = sep then [] :: pieces sep rest
    else match pieces sep rest with
      | [] => [[c]]
      | piece :: others => (c :: piece) :: others

theorem length_pieces (sep : Char) (cs : List Char) :
    (pieces sep cs).length = cs.count sep + 1 := by
  induction cs with
  | nil => rfl
  | cons c rest ih =>
    by_cases h : c = sep
    · simp [pieces, h, ih]
    · simp only [pieces, h, if_false]
      split
      · next e => rw [e] at ih; simp at ih
      · next piece others e =>
        rw [e] at ih
        simpa [List.count_cons, h] using ih

/-! ## Bytes -/

def utf8Bytes (s : String) : List UInt8 := s.toUTF8.data.toList

/-- The text of bytes, if they are valid UTF-8. -/
def ofUtf8? (bytes : List UInt8) : Option String := String.fromUTF8? ⟨bytes.toArray⟩

theorem ofUtf8?_utf8Bytes (s : String) : ofUtf8? (utf8Bytes s) = some s := by
  simp only [ofUtf8?, utf8Bytes, String.fromUTF8?, Array.toArray_toList]
  exact dif_pos s.isValidUTF8

end SelectionSql
