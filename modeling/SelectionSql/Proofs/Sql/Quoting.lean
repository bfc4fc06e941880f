import SelectionSql.Sql.Dialect

/-!
# What stands between quotes

The servers' rules for quoted names and strings, apart from how either is written: a text between
quotes is a row of pieces, and it can be cut into pieces in one way only.

* `Sql.Piece`: a quote written twice, a backslash with the character it escapes, any other
  character. `Piece.unique`, `Piece.ne_closing`: no piece is the start of another, and none starts
  with the quote that closes.
* `Sql.Pieces`, `Sql.Quoted`: pieces up to a closing quote; `Quoted.unique`: one text, one reading.
* `Sql.pieces_doubling`: doubled characters are pieces that stand for one of them.
* `Dialect.doubling_doubling`, `Dialect.string_eq`: doubling backslashes and then quotes is doubling
  both at once.
* `Sql.ReadsName`, `ReadsString`: what a server reads from the start of a text.
* `Sql.quotes_invert`: a name and a string are read back, and nothing else is read from them.
-/
set_option autoImplicit false

namespace SelectionSql

/-! ## Doubled characters -/

namespace Dialect

theorem doubling_cons (special : Char → Bool) (c : Char) (cs : List Char) :
    doubling special (c :: cs) = (if special c then [c, c] else [c]) ++ doubling special cs := rfl

/-- Characters of two classes that are doubled one class after the other are doubled once. -/
theorem doubling_doubling {p q : Char → Bool} (h : ∀ c, p c = true → q c = false)
    (cs : List Char) : doubling q (doubling p cs) = doubling (fun c => q c || p c) cs := by
  induction cs with
  | nil => rfl
  | cons c cs ih =>
    rw [doubling_cons, doubling_cons, ← ih]
    cases hp : p c with
    | true => simp [doubling_cons, h c hp]
    | false => simp [doubling_cons]

/-- A string is written by doubling its backslashes, where they escape, and its quotes after
that. -/
theorem string_eq (d : Dialect) (text : String) :
    d.string text = '\x27' :: (doubling (fun c => c == '\x27')
      (if d.escapesBackslash then doubling (fun c => c == '\\') text.toList else text.toList) ++
        ['\x27']) := by
  unfold Dialect.string
  cases d.escapesBackslash with
  | true =>
    have hdisjoint : ∀ c : Char, (c == '\\') = true → (c == '\x27') = false := by
      intro c hc
      rw [beq_iff_eq.1 hc]
      decide
    rw [if_pos rfl, doubling_doubling hdisjoint]
    simp only [Bool.true_and]
  | false => simp only [Bool.false_and, Bool.or_false, Bool.false_eq_true, if_false]

end Dialect

namespace Sql

/-! ## Lexical rules -/

/-- The quote that a server reads names between. -/
def nameQuote : Dialect → Char
  | .mysql => '\x60'
  | .postgres => '\x22'
  | .sqlite => '\x22'

/-- Whether a backslash in a string escapes the character behind it. -/
def readsBackslash : Dialect → Bool
  | .mysql => true
  | .postgres => false
  | .sqlite => false

def stringQuote : Char := '\x27'

/-- What the characters behind a backslash stand for, where it escapes: a backslash and a quote for
themselves, `others` says it for all others. -/
def escapes? (backslash : Bool) (others : Char → List Char) : Option (Char → List Char) :=
  if backslash then some fun c => if c = '\\' ∨ c = stringQuote then [c] else others c else none

section Grammar
variable (quote : Char) (escape? : Option (Char → List Char))

/-- The characters between quotes that belong together, and what they stand for. -/
inductive Piece : List Char → List Char → Prop
  | doubled : Piece [quote, quote] [quote]
  | escaped {meaning : Char → List Char} (h : escape? = some meaning) (c : Char) :
      Piece ['\\', c] (meaning c)
  | plain {c : Char} (hquote : c ≠ quote) (hescape : escape? = none ∨ c ≠ '\\') : Piece [c] [c]

inductive Pieces : List Char → List Char → Prop
  | nil : Pieces [] []
  | cons {piece text value values : List Char} (hpiece : Piece quote escape? piece value)
      (h : Pieces text values) : Pieces (piece ++ text) (value ++ values)

/-- The text starts with pieces between quotes that stand for `value`, and `rest` follows. Two
quotes in a row are a piece, so none follows the one that closes. -/
inductive Quoted : (text value rest : List Char) → Prop
  | intro {body value rest : List Char} (hbody : Pieces quote escape? body value)
      (hrest : rest.head? ≠ some quote) : Quoted (quote :: (body ++ quote :: rest)) value rest

end Grammar

/-! ## One text, one reading -/

section Unique
variable {quote : Char} {escape? : Option (Char → List Char)} {rest rest' : List Char}

theorem Piece.unique (hquote : quote ≠ '\\') {p p' v v' : List Char}
    (h : Piece quote escape? p v) (h' : Piece quote escape? p' v')
    (heq : p ++ rest = p' ++ rest') : v = v' ∧ rest = rest' := by
  cases h with
  | doubled =>
    cases h' with
    | doubled => exact ⟨rfl, List.append_cancel_left heq⟩
    | escaped _ _ => exact absurd (List.cons.inj heq).1 hquote
    | plain hc _ => exact absurd (List.cons.inj heq).1.symm hc
  | escaped hm c =>
    cases h' with
    | doubled => exact absurd (List.cons.inj heq).1.symm hquote
    | escaped hm' c' =>
      cases hm.symm.trans hm'
      obtain ⟨rfl, hrest⟩ := List.cons.inj (List.cons.inj heq).2
      exact ⟨rfl, hrest⟩
    | plain _ hc =>
      have hsome : escape? ≠ none := by simp [hm]
      exact absurd (List.cons.inj heq).1.symm (hc.resolve_left hsome)
  | plain hc hescape =>
    cases h' with
    | doubled => exact absurd (List.cons.inj heq).1 hc
    | escaped hm _ =>
      have hsome : escape? ≠ none := by simp [hm]
      exact absurd (List.cons.inj heq).1 (hescape.resolve_left hsome)
    | plain _ _ =>
      obtain ⟨rfl, hrest⟩ := List.cons.inj heq
      exact ⟨rfl, hrest⟩

theorem Piece.ne_closing (hquote : quote ≠ '\\') {p v : List Char}
    (h : Piece quote escape? p v) (hrest : rest.head? ≠ some quote) :
    p ++ rest' ≠ quote :: rest := by
  intro heq
  cases h with
  | doubled => exact hrest ((List.cons.inj heq).2 ▸ rfl)
  | escaped _ _ => exact hquote (List.cons.inj heq).1.symm
  | plain hc _ => exact hc (List.cons.inj heq).1

theorem Pieces.unique (hquote : quote ≠ '\\') {body body' value value' : List Char}
    (h : Pieces quote escape? body value) (h' : Pieces quote escape? body' value')
    (hrest : rest.head? ≠ some quote) (hrest' : rest'.head? ≠ some quote)
    (heq : body ++ quote :: rest = body' ++ quote :: rest') : value = value' ∧ rest = rest' := by
  induction h generalizing body' value' with
  | nil =>
    cases h' with
    | nil => exact ⟨rfl, (List.cons.inj heq).2⟩
    | cons hpiece' _ =>
      rw [List.append_assoc] at heq
      exact absurd heq.symm (hpiece'.ne_closing hquote hrest)
  | cons hpiece _ ih =>
    cases h' with
    | nil =>
      rw [List.append_assoc] at heq
      exact absurd heq (hpiece.ne_closing hquote hrest')
    | cons hpiece' hbody' =>
      -- Both readings start with one piece, so they differ behind it or nowhere.
      rw [List.append_assoc, List.append_assoc] at heq
      obtain ⟨rfl, htail⟩ := hpiece.unique hquote hpiece' heq
      obtain ⟨rfl, hrests⟩ := ih hbody' htail
      exact ⟨rfl, hrests⟩

theorem Quoted.unique (hquote : quote ≠ '\\') {text value value' : List Char}
    (h : Quoted quote escape? text value rest) (h' : Quoted quote escape? text value' rest') :
    value = value' ∧ rest = rest' := by
  obtain ⟨hbody, hrest⟩ := h
  generalize htext : quote :: (_ ++ quote :: rest) = text at h'
  obtain ⟨hbody', hrest'⟩ := h'
  exact hbody.unique hquote hbody' hrest hrest' (List.cons.inj htext).2

/-! ## What is written -/

theorem piece_doubled (hself : ∀ meaning, escape? = some meaning → meaning '\\' = ['\\'])
    (c : Char) :
    Piece quote escape? (if c == quote || (escape?.isSome && c == '\\') then [c, c] else [c])
      [c] := by
  by_cases hc : c = quote
  · subst hc
    rw [if_pos (by simp)]
    exact .doubled
  · by_cases hescape : escape?.isSome ∧ c = '\\'
    · obtain ⟨hsome, rfl⟩ := hescape
      obtain ⟨meaning, hmeaning⟩ := Option.isSome_iff_exists.1 hsome
      have hpiece : Piece quote escape? ['\\', '\\'] (meaning '\\') := .escaped hmeaning '\\'
      rw [hself meaning hmeaning] at hpiece
      rwa [if_pos (by simp [hsome])]
    · rw [if_neg (by simpa [hc] using hescape)]
      refine .plain hc ?_
      cases escape? with
      | none => exact .inl rfl
      | some meaning => exact .inr fun hbackslash => hescape ⟨rfl, hbackslash⟩

theorem pieces_doubling (hself : ∀ meaning, escape? = some meaning → meaning '\\' = ['\\'])
    (s : List Char) :
    Pieces quote escape?
      (Dialect.doubling (fun c => c == quote || (escape?.isSome && c == '\\')) s) s := by
  induction s with
  | nil => exact .nil
  | cons c s ih => exact .cons (piece_doubled hself c) ih

end Unique

theorem escapes?_backslash {backslash : Bool} {others meaning : Char → List Char}
    (h : escapes? backslash others = some meaning) : meaning '\\' = ['\\'] := by
  cases backslash with
  | false => cases h
  | true =>
    cases h
    exact if_pos (.inl rfl)

theorem escapes?_self : (escapes? true fun c => [c]) = some fun c => [c] :=
  congrArg some (funext fun _ => ite_self _)

theorem isSome_escapes? (backslash : Bool) (others : Char → List Char) :
    (escapes? backslash others).isSome = backslash := by
  cases backslash <;> rfl

/-! ## Names and strings of a dialect -/

/-- A server reads a name from the start of the text. -/
def ReadsName (d : Dialect) (text : List Char) (name : String) (rest : List Char) : Prop :=
  Quoted (nameQuote d) none text name.toList rest

/-- A server reads a string from the start of the text. What a backslash and a character other than
a backslash or a quote stand for, is told by `others`. -/
def ReadsString (d : Dialect) (others : Char → List Char) (text : List Char) (value : String)
    (rest : List Char) : Prop :=
  Quoted stringQuote (escapes? (readsBackslash d) others) text value.toList rest

theorem pieces_identifier (d : Dialect) (name : String) :
    Pieces (nameQuote d) none (Dialect.doubling (fun c => c == nameQuote d) name.toList)
      name.toList := by
  have hspecial : (fun c => c == nameQuote d) =
      fun c => c == nameQuote d || ((none : Option (Char → List Char)).isSome && c == '\\') := by
    simp only [Option.isSome_none, Bool.false_and, Bool.or_false]
  rw [hspecial]
  exact pieces_doubling (fun _ h => by cases h) name.toList

theorem pieces_string (d : Dialect) (others : Char → List Char) (value : String) :
    Pieces stringQuote (escapes? (readsBackslash d) others)
      (Dialect.doubling (fun c => c == stringQuote || (readsBackslash d && c == '\\')) value.toList)
      value.toList := by
  have hspecial : (fun c => c == stringQuote || (readsBackslash d && c == '\\')) =
      fun c => c == stringQuote ||
        ((escapes? (readsBackslash d) others).isSome && c == '\\') := by
    rw [isSome_escapes?]
  rw [hspecial]
  exact pieces_doubling (fun _ => escapes?_backslash) value.toList

theorem identifier_append (d : Dialect) (name : String) (rest : List Char) :
    d.identifier name ++ rest = nameQuote d ::
      (Dialect.doubling (fun c => c == nameQuote d) name.toList ++ nameQuote d :: rest) := by
  have hquote : d.nameDelimiter = nameQuote d := by cases d <;> rfl
  unfold Dialect.identifier
  rw [hquote, List.cons_append, List.append_assoc, List.singleton_append]

theorem string_append (d : Dialect) (value : String) (rest : List Char) :
    d.string value ++ rest = stringQuote ::
      (Dialect.doubling (fun c => c == stringQuote || (readsBackslash d && c == '\\'))
        value.toList ++ stringQuote :: rest) := by
  have hescape : d.escapesBackslash = readsBackslash d := by cases d <;> rfl
  unfold Dialect.string
  rw [hescape, List.cons_append, List.append_assoc, List.singleton_append]
  rfl

theorem readsName_identifier (d : Dialect) (name : String) {rest : List Char}
    (hrest : rest.head? ≠ some (nameQuote d)) :
    ReadsName d (d.identifier name ++ rest) name rest := by
  rw [identifier_append]
  exact .intro (pieces_identifier d name) hrest

theorem readsString_string (d : Dialect) (others : Char → List Char) (value : String)
    {rest : List Char} (hrest : rest.head? ≠ some stringQuote) :
    ReadsString d others (d.string value ++ rest) value rest := by
  rw [string_append]
  exact .intro (pieces_string d others value) hrest

/-- In front of any text that starts with no quote, a name is read back as it was and so is a
string, whatever other escapes a dialect knows: no other reading ends earlier or later. In a string
the backslashes are doubled, where they escape, before the quotes are. -/
theorem quotes_invert (d : Dialect) (others : Char → List Char) (s : String) (r : List Char) :
    (r.head? ≠ some (nameQuote d) → ∀ name rest,
        ReadsName d (d.identifier s ++ r) name rest ↔ name = s ∧ rest = r) ∧
      (r.head? ≠ some stringQuote → ∀ value rest,
        ReadsString d others (d.string s ++ r) value rest ↔ value = s ∧ rest = r) ∧
      d.string s = stringQuote :: (Dialect.doubling (fun c => c == stringQuote)
        (if d.escapesBackslash then Dialect.doubling (fun c => c == '\\') s.toList
          else s.toList) ++ [stringQuote]) := by
  refine ⟨fun hr name rest => ⟨fun h => ?_, ?_⟩, fun hr value rest => ⟨fun h => ?_, ?_⟩,
    d.string_eq s⟩
  · have hquote : nameQuote d ≠ '\\' := by cases d <;> decide
    obtain ⟨hname, hrest⟩ := Quoted.unique hquote h (readsName_identifier d s hr)
    exact ⟨String.toList_inj.1 hname, hrest⟩
  · rintro ⟨rfl, rfl⟩
    exact readsName_identifier d name hr
  · obtain ⟨hvalue, hrest⟩ := Quoted.unique (by decide) h (readsString_string d others s hr)
    exact ⟨String.toList_inj.1 hvalue, hrest⟩
  · rintro ⟨rfl, rfl⟩
    exact readsString_string d others value hr

/-- A text of a name quote, a backslash, a string quote and a backslash, where a backslash and the
letter n stand for the end of a line. -/
theorem quotes_invert_hostile :
    ([' '].head? ≠ some (nameQuote .mysql) ∧ ∀ name rest,
        ReadsName .mysql (Dialect.mysql.identifier "\x60\\'\\" ++ [' ']) name rest ↔
          name = "\x60\\'\\" ∧ rest = [' ']) ∧
      ([' '].head? ≠ some stringQuote ∧ ∀ value rest,
        ReadsString .mysql (fun c => if c = 'n' then ['\n'] else [c])
          (Dialect.mysql.string "\x60\\'\\" ++ [' ']) value rest ↔
            value = "\x60\\'\\" ∧ rest = [' ']) := by
  have hname : [' '].head? ≠ some (nameQuote .mysql) := by decide
  have hstring : [' '].head? ≠ some stringQuote := by decide
  obtain ⟨hnames, hstrings, -⟩ :=
    quotes_invert .mysql (fun c => if c = 'n' then ['\n'] else [c]) "\x60\\'\\" [' ']
  exact ⟨⟨hname, hnames hname⟩, hstring, hstrings hstring⟩

end Sql
end SelectionSql
