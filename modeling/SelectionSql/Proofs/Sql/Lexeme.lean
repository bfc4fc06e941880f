import SelectionSql.Proofs.Sql.Quoting
import SelectionSql.Proofs.Text.Cutting
import SelectionSql.Sql.Token

/-!
# Reading the text of a statement

The servers' own lexical rules, as far as statements use them, apart from how tokens are written.

* `Sql.Lexeme`: words, punctuation, numbers, names between quotes, strings between quotes.
* `Sql.readQuoted`: reads up to a closing quote. A quote written twice is one quote; where
  backslashes escape, the character behind one stands for itself.
* `Sql.readNumber`: digits, perhaps with a sign, a fraction and an exponent.
* `Sql.lexFrom`, `Sql.lex`: the lexemes of a text, whitespace skipped; for `lex` nothing may be left
  over.
* `Sql.Reads`: a text is read as given lexemes where another text follows it.
* `Sql.reads_name`, `Sql.reads_string`, `Sql.reads_word`, `Sql.reads_number`, `Sql.reads_mark`: what
  one lexeme is read from.
-/
set_option autoImplicit false

namespace SelectionSql
namespace Sql

inductive Lexeme where
  | word (text : String)
  | mark (mark : Mark)
  | number (text : String)
  | name (name : String)
  | string (text : String)
deriving DecidableEq

/-! ## Lexical rules -/

/-- What stands before the closing quote, and what follows it. -/
def readQuoted (quote : Char) (backslash : Bool) : List Char → Option (List Char × List Char)
  | [] => none
  | [c] => if c = quote then some ([], []) else none
  | c :: next :: rest =>
    if c = quote then
      if next = quote then (readQuoted quote backslash rest).map fun p => (quote :: p.1, p.2)
      else some ([], next :: rest)
    else if backslash && c == '\\' then
      (readQuoted quote backslash rest).map fun p => (next :: p.1, p.2)
    else (readQuoted quote backslash (next :: rest)).map fun p => (c :: p.1, p.2)

def readSign : List Char → List Char × List Char
  | '-' :: rest => (['-'], rest)
  | cs => ([], cs)

def readFraction : List Char → List Char × List Char
  | '.' :: rest =>
    match rest.takeWhile Char.isDigit with
    | [] => ([], '.' :: rest)
    | digits => ('.' :: digits, rest.dropWhile Char.isDigit)
  | cs => ([], cs)

def readExponent : List Char → List Char × List Char
  | 'e' :: rest =>
    match (readSign rest).2.takeWhile Char.isDigit with
    | [] => ([], 'e' :: rest)
    | digits => ('e' :: ((readSign rest).1 ++ digits), (readSign rest).2.dropWhile Char.isDigit)
  | cs => ([], cs)

def readNumber (cs : List Char) : Option (List Char × List Char) :=
  match (readSign cs).2.takeWhile Char.isDigit with
  | [] => none
  | digits =>
    let fraction := readFraction ((readSign cs).2.dropWhile Char.isDigit)
    let exponent := readExponent fraction.2
    some ((readSign cs).1 ++ (digits ++ (fraction.1 ++ exponent.1)), exponent.2)

def isWordChar (c : Char) : Bool := c.isAlphanum || c == '_'

def markOf? : Char → Option Mark
  | ',' => some .comma
  | '.' => some .dot
  | '*' => some .star
  | '(' => some .leftParen
  | ')' => some .rightParen
  | '=' => some .equals
  | _ => none

def readLexeme (d : Dialect) : List Char → Option (Lexeme × List Char)
  | [] => none
  | c :: rest =>
    if c = nameQuote d then
      (readQuoted c false rest).map fun p => (.name (String.ofList p.1), p.2)
    else if c = stringQuote then
      (readQuoted c (readsBackslash d) rest).map fun p => (.string (String.ofList p.1), p.2)
    else if c.isAlpha then
      some (.word (String.ofList ((c :: rest).takeWhile isWordChar)),
        (c :: rest).dropWhile isWordChar)
    else match markOf? c with
      | some m => some (.mark m, rest)
      | none => (readNumber (c :: rest)).map fun p => (.number (String.ofList p.1), p.2)

/-- The lexemes at the start of a text, and the rest in front of which there is none. -/
def lexFrom (d : Dialect) (cs : List Char) : List Lexeme × List Char :=
  match cs with
  | [] => ([], [])
  | c :: rest =>
    if c.isWhitespace then lexFrom d rest
    else match readLexeme d (c :: rest) with
      | none => ([], c :: rest)
      | some (lexeme, after) =>
        if after.length ≤ rest.length then
          (lexeme :: (lexFrom d after).1, (lexFrom d after).2)
        else ([], c :: rest)
termination_by cs.length

def lex (d : Dialect) (text : String) : Option (List Lexeme) :=
  match lexFrom d text.toList with
  | (lexemes, []) => some lexemes
  | _ => none

/-! ## Steps -/

theorem lexFrom_nil (d : Dialect) : lexFrom d [] = ([], []) := by rw [lexFrom]

def Reads (d : Dialect) (text : List Char) (lexemes : List Lexeme) (rest : List Char) : Prop :=
  lexFrom d (text ++ rest) = (lexemes ++ (lexFrom d rest).1, (lexFrom d rest).2)

theorem Reads.nil (d : Dialect) (rest : List Char) : Reads d [] [] rest := rfl

theorem Reads.append {d : Dialect} {a b rest : List Char} {first second : List Lexeme}
    (ha : Reads d a first (b ++ rest)) (hb : Reads d b second rest) :
    Reads d (a ++ b) (first ++ second) rest := by
  unfold Reads at *
  rw [List.append_assoc, ha, hb, List.append_assoc]

theorem reads_blank {d : Dialect} {c : Char} (h : c.isWhitespace = true) (rest : List Char) :
    Reads d [c] [] rest := by
  show lexFrom d (c :: rest) = _
  rw [lexFrom, if_pos h]
  rfl

theorem reads_blanks (d : Dialect) (n : Nat) (rest : List Char) :
    Reads d (List.replicate n ' ') [] rest := by
  induction n with
  | zero => exact .nil d rest
  | succ n ih => exact (reads_blank (by decide) _).append ih

theorem reads_of_readLexeme {d : Dialect} {c : Char} {cs rest : List Char} {lexeme : Lexeme}
    (hblank : c.isWhitespace = false)
    (h : readLexeme d (c :: (cs ++ rest)) = some (lexeme, rest)) :
    Reads d (c :: cs) [lexeme] rest := by
  have hlength : rest.length ≤ (cs ++ rest).length := by simp
  show lexFrom d (c :: (cs ++ rest)) = _
  rw [lexFrom, hblank, if_neg Bool.false_ne_true, h]
  exact if_pos hlength

theorem reads_mark (d : Dialect) (m : Mark) (rest : List Char) :
    Reads d [m.char] [.mark m] rest := by
  refine reads_of_readLexeme (by cases m <;> decide) ?_
  cases d <;> cases m <;> rfl

/-! ## Between quotes -/

theorem readQuoted_plain {quote c : Char} {backslash : Bool} (hquote : c ≠ quote)
    (hescape : (backslash && c == '\\') = false) {cs : List Char} (hcs : cs ≠ []) :
    readQuoted quote backslash (c :: cs) =
      (readQuoted quote backslash cs).map fun p => (c :: p.1, p.2) := by
  cases cs with
  | nil => exact absurd rfl hcs
  | cons next rest => rw [readQuoted, if_neg hquote, hescape, if_neg Bool.false_ne_true]

/-- Pieces are read up to the quote that closes; what a backslash escapes stands for itself. -/
theorem readQuoted_pieces {quote : Char} {backslash : Bool} (hquote : quote ≠ '\\')
    {body value rest : List Char} (h : Pieces quote (escapes? backslash fun c => [c]) body value)
    (hrest : rest.head? ≠ some quote) :
    readQuoted quote backslash (body ++ quote :: rest) = some (value, rest) := by
  induction h with
  | nil =>
    cases rest with
    | nil => exact if_pos rfl
    | cons next rest =>
      have hnext : next ≠ quote := fun h => hrest (congrArg some h)
      show readQuoted quote backslash (quote :: next :: rest) = some ([], next :: rest)
      rw [readQuoted, if_pos rfl, if_neg hnext]
  | cons hpiece _ ih =>
    rw [List.append_assoc]
    cases hpiece with
    | doubled =>
      rw [List.cons_append, List.cons_append, List.nil_append, readQuoted, if_pos rfl, if_pos rfl,
        ih]
      rfl
    | escaped hmeaning c =>
      cases backslash with
      | false => cases hmeaning
      | true =>
        cases escapes?_self.symm.trans hmeaning
        rw [List.cons_append, List.cons_append, List.nil_append, readQuoted, if_neg hquote.symm,
          if_pos (by decide), ih]
        rfl
    | @plain c hc hescape =>
      have hplain : (backslash && c == '\\') = false := by
        cases backslash with
        | false => rfl
        | true => simpa using hescape.resolve_left nofun
      rw [List.cons_append, List.nil_append, readQuoted_plain hc hplain (by simp), ih]
      rfl

theorem reads_name (d : Dialect) (name : String) {rest : List Char}
    (hrest : rest.head? ≠ some (nameQuote d)) : Reads d (d.identifier name) [.name name] rest := by
  have hquote : nameQuote d ≠ '\\' := by cases d <;> decide
  have hread : readQuoted (nameQuote d) false
      (Dialect.doubling (fun c => c == nameQuote d) name.toList ++ nameQuote d :: rest) =
        some (name.toList, rest) := readQuoted_pieces hquote (pieces_identifier d name) hrest
  have htext := identifier_append d name rest
  unfold Dialect.identifier at htext ⊢
  refine reads_of_readLexeme (by cases d <;> decide) ?_
  rw [← List.cons_append, htext, readLexeme, if_pos rfl, hread, Option.map_some,
    String.ofList_toList]

theorem reads_string (d : Dialect) (text : String) {rest : List Char}
    (hrest : rest.head? ≠ some stringQuote) : Reads d (d.string text) [.string text] rest := by
  have hread := readQuoted_pieces (by decide) (pieces_string d (fun c => [c]) text) hrest
  have hname : ¬ stringQuote = nameQuote d := by cases d <;> decide
  have htext := string_append d text rest
  unfold Dialect.string at htext ⊢
  refine reads_of_readLexeme (by decide) ?_
  rw [← List.cons_append, htext, readLexeme, if_neg hname, if_pos rfl, hread, Option.map_some,
    String.ofList_toList]

/-! ## Runs of characters -/

/-- A word: a letter, then letters, digits and underscores. -/
def isWord : List Char → Bool
  | [] => false
  | c :: cs => c.isAlpha && (c :: cs).all isWordChar

/-- The character belongs to no word or number in front of it. -/
def endsPlain (c : Char) : Bool := !isWordChar c && c != '.'

theorem isWordChar_of_endsPlain {c : Char} (h : endsPlain c = true) : isWordChar c = false := by
  simp only [endsPlain, Bool.and_eq_true, Bool.not_eq_true'] at h
  exact h.1

theorem isWhitespace_of_isAlpha {c : Char} (h : c.isAlpha = true) : c.isWhitespace = false := by
  refine Bool.eq_false_iff.2 fun hblank => ?_
  simp only [Char.isWhitespace, Bool.or_eq_true, decide_eq_true_eq] at hblank
  rcases hblank with ((rfl | rfl) | rfl) | rfl <;> exact absurd h (by decide)

theorem reads_word (d : Dialect) {word rest : List Char} (hword : isWord word = true)
    (hrest : ∀ c ∈ rest.head?, endsPlain c = true) :
    Reads d word [.word (String.ofList word)] rest := by
  cases word with
  | nil => cases hword
  | cons c cs =>
    obtain ⟨hletter, hrun⟩ := Bool.and_eq_true_iff.1 hword
    have hname : c ≠ nameQuote d := by
      rintro rfl
      cases d <;> exact absurd hletter (by decide)
    have hstring : c ≠ stringQuote := by
      rintro rfl
      exact absurd hletter (by decide)
    obtain ⟨htake, hdrop⟩ := takeWhile_append_of_head (List.all_eq_true.1 hrun)
      fun c hc => isWordChar_of_endsPlain (hrest c hc)
    refine reads_of_readLexeme (isWhitespace_of_isAlpha hletter) ?_
    rw [readLexeme, if_neg hname, if_neg hstring, if_pos hletter, ← List.cons_append, htake, hdrop]

/-! ## Numbers -/

/-- Digits, at least one. -/
def IsDigits (cs : List Char) : Prop := cs ≠ [] ∧ ∀ c ∈ cs, c.isDigit = true

def IsSign (cs : List Char) : Prop := cs = [] ∨ cs = ['-']

def IsFraction (cs : List Char) : Prop := cs = [] ∨ ∃ digits, IsDigits digits ∧ cs = '.' :: digits

def IsExponent (cs : List Char) : Prop :=
  cs = [] ∨ ∃ sign digits, IsSign sign ∧ IsDigits digits ∧ cs = 'e' :: (sign ++ digits)

def IsMagnitude (cs : List Char) : Prop :=
  ∃ whole fraction exponent, IsDigits whole ∧ IsFraction fraction ∧ IsExponent exponent ∧
    cs = whole ++ (fraction ++ exponent)

def IsNumber (cs : List Char) : Prop :=
  ∃ sign magnitude, IsSign sign ∧ IsMagnitude magnitude ∧ cs = sign ++ magnitude

theorem readSign_append {sign rest : List Char} (hsign : IsSign sign)
    (hrest : rest.head? ≠ some '-') : readSign (sign ++ rest) = (sign, rest) := by
  rcases hsign with rfl | rfl
  · rw [List.nil_append]
    unfold readSign
    split
    · exact absurd rfl hrest
    · rfl
  · rfl

theorem IsDigits.head {digits : List Char} (h : IsDigits digits) (rest : List Char) :
    ∃ c, (digits ++ rest).head? = some c ∧ c.isDigit = true := by
  cases digits with
  | nil => exact absurd rfl h.1
  | cons c cs => exact ⟨c, rfl, h.2 c List.mem_cons_self⟩

theorem IsDigits.head_ne {digits : List Char} (h : IsDigits digits) (rest : List Char) {c : Char}
    (hc : c.isDigit = false) : (digits ++ rest).head? ≠ some c := by
  obtain ⟨c', hhead, hdigit⟩ := h.head rest
  rintro heq
  cases hhead.symm.trans heq
  rw [hc] at hdigit
  cases hdigit

theorem readFraction_append {fraction rest : List Char} (hfraction : IsFraction fraction)
    (hdigit : ∀ c ∈ rest.head?, c.isDigit = false) (hpoint : rest.head? ≠ some '.') :
    readFraction (fraction ++ rest) = (fraction, rest) := by
  rcases hfraction with rfl | ⟨digits, hdigits, rfl⟩
  · rw [List.nil_append]
    unfold readFraction
    split
    · exact absurd rfl hpoint
    · rfl
  · obtain ⟨htake, hdrop⟩ := takeWhile_append_of_head hdigits.2 hdigit
    rw [List.cons_append, readFraction, htake, hdrop]
    cases digits with
    | nil => exact absurd rfl hdigits.1
    | cons c cs => rfl

theorem readExponent_append {exponent rest : List Char} (hexponent : IsExponent exponent)
    (hdigit : ∀ c ∈ rest.head?, c.isDigit = false) (hmark : rest.head? ≠ some 'e') :
    readExponent (exponent ++ rest) = (exponent, rest) := by
  rcases hexponent with rfl | ⟨sign, digits, hsign, hdigits, rfl⟩
  · rw [List.nil_append]
    unfold readExponent
    split
    · exact absurd rfl hmark
    · rfl
  · obtain ⟨htake, hdrop⟩ := takeWhile_append_of_head hdigits.2 hdigit
    have hread : readSign (sign ++ digits ++ rest) = (sign, digits ++ rest) := by
      rw [List.append_assoc]
      exact readSign_append hsign (hdigits.head_ne rest (by decide))
    rw [List.cons_append, readExponent, hread]
    dsimp only
    rw [htake, hdrop]
    cases digits with
    | nil => exact absurd rfl hdigits.1
    | cons c cs => rfl

theorem endsPlain_head {rest : List Char} (h : ∀ c ∈ rest.head?, endsPlain c = true) :
    (∀ c ∈ rest.head?, c.isDigit = false) ∧ rest.head? ≠ some '.' ∧ rest.head? ≠ some 'e' := by
  refine ⟨fun c hc => ?_, fun hc => ?_, fun hc => ?_⟩
  · have hword := isWordChar_of_endsPlain (h c hc)
    simp only [isWordChar, Char.isAlphanum, Bool.or_eq_false_iff] at hword
    exact hword.1.2
  · exact absurd (h '.' hc) (by decide)
  · exact absurd (h 'e' hc) (by decide)

theorem readNumber_append {number rest : List Char} (hnumber : IsNumber number)
    (hrest : ∀ c ∈ rest.head?, endsPlain c = true) :
    readNumber (number ++ rest) = some (number, rest) := by
  obtain ⟨sign, _, hsign, ⟨whole, fraction, exponent, hwhole, hfraction, hexponent, rfl⟩, rfl⟩ :=
    hnumber
  obtain ⟨hdigit, hpoint, hmark⟩ := endsPlain_head hrest
  -- What follows the whole digits, and what follows the fraction, starts with no digit.
  have hafterFraction : ∀ c ∈ (exponent ++ rest).head?, c.isDigit = false ∧ c ≠ '.' := by
    rcases hexponent with rfl | ⟨_, _, _, _, rfl⟩
    · rw [List.nil_append]
      exact fun c hc => ⟨hdigit c hc, fun h => hpoint (h ▸ hc)⟩
    · intro c hc
      cases hc
      decide
  have hafterWhole : ∀ c ∈ (fraction ++ (exponent ++ rest)).head?, c.isDigit = false := by
    rcases hfraction with rfl | ⟨_, _, rfl⟩
    · rw [List.nil_append]
      exact fun c hc => (hafterFraction c hc).1
    · intro c hc
      cases hc
      decide
  have hreadSign : readSign (sign ++ (whole ++ (fraction ++ exponent)) ++ rest) =
      (sign, whole ++ (fraction ++ (exponent ++ rest))) := by
    rw [List.append_assoc, List.append_assoc, List.append_assoc]
    exact readSign_append hsign (hwhole.head_ne _ (by decide))
  obtain ⟨htake, hdrop⟩ := takeWhile_append_of_head hwhole.2 hafterWhole
  have hreadFraction : readFraction (fraction ++ (exponent ++ rest)) =
      (fraction, exponent ++ rest) :=
    readFraction_append hfraction (fun c hc => (hafterFraction c hc).1)
      fun hc => (hafterFraction '.' hc).2 rfl
  unfold readNumber
  rw [hreadSign]
  dsimp only
  rw [htake, hdrop, hreadFraction, readExponent_append hexponent hdigit hmark]
  cases whole with
  | nil => exact absurd rfl hwhole.1
  | cons c cs => rfl

theorem IsNumber.head {number : List Char} (h : IsNumber number) :
    ∃ c cs, number = c :: cs ∧ (c = '-' ∨ c.isDigit = true) := by
  obtain ⟨sign, _, hsign, ⟨whole, fraction, exponent, hwhole, -, -, rfl⟩, rfl⟩ := h
  rcases hsign with rfl | rfl
  · cases whole with
    | nil => exact absurd rfl hwhole.1
    | cons c cs => exact ⟨c, _, rfl, .inr (hwhole.2 c List.mem_cons_self)⟩
  · exact ⟨'-', _, rfl, .inl rfl⟩

theorem reads_number (d : Dialect) {number rest : List Char} (hnumber : IsNumber number)
    (hrest : ∀ c ∈ rest.head?, endsPlain c = true) :
    Reads d number [.number (String.ofList number)] rest := by
  have hread := readNumber_append hnumber hrest
  obtain ⟨c, cs, rfl, hc⟩ := hnumber.head
  -- A digit or a minus sign starts nothing else.
  have hblank : c.isWhitespace = false := by
    refine Bool.eq_false_iff.2 fun h => ?_
    simp only [Char.isWhitespace, Bool.or_eq_true, decide_eq_true_eq] at h
    rcases h with ((rfl | rfl) | rfl) | rfl <;> rcases hc with hc | hc <;>
      exact absurd hc (by decide)
  have hname : c ≠ nameQuote d := by
    rintro rfl
    rcases hc with hc | hc <;> cases d <;> exact absurd hc (by decide)
  have hstring : c ≠ stringQuote := by
    rintro rfl
    rcases hc with hc | hc <;> exact absurd hc (by decide)
  have hletter : ¬ c.isAlpha = true := by
    rcases hc with rfl | hc
    · decide
    · intro h
      delta Char.isAlpha Char.isUpper Char.isLower at h
      simp only [Char.isDigit, Bool.or_eq_true, Bool.and_eq_true, decide_eq_true_eq,
        UInt32.le_iff_toNat_le, ge_iff_le] at h hc
      have hnine : '9'.val.toNat = 57 := rfl
      have hupper : 'A'.val.toNat = 65 := rfl
      have hlower : 'a'.val.toNat = 97 := rfl
      omega
  have hmark : markOf? c = none := by
    unfold markOf?
    split
    case h_7 => rfl
    all_goals rcases hc with hc | hc <;> exact absurd hc (by decide)
  rw [List.cons_append] at hread
  refine reads_of_readLexeme hblank ?_
  rw [readLexeme, if_neg hname, if_neg hstring, if_neg hletter, hmark, hread]
  rfl

end Sql
end SelectionSql
