import Mathlib.Data.List.Chain
import SelectionSql.Proofs.Sql.NumberText
import SelectionSql.Sql.Token

/-!
# Tokens are read back from the text of a statement

* `Sql.Token.lexemes`: what a token is read as: one lexeme, layout none, a keyword its words.
* `Sql.Token.apart`: two tokens side by side do not run together.
* `Sql.Spaced`: no two neighbours run together, and no text is passed through.
* `Sql.reads_token`, `Sql.reads_tokens`: a token, and spaced tokens, are read as their lexemes.
* `Sql.ReadsBack`: a text is read as its tokens, whatever names and strings stand in them.
-/
set_option autoImplicit false

namespace SelectionSql
namespace Sql

/-! ## What is to be read -/

def Keyword.words : Keyword → List String
  | .ORDER_BY => ["ORDER", "BY"]
  | .IS_NULL => ["IS", "NULL"]
  | word => [word.text]

/-- A literal is one lexeme. Truth values are words only where the server has words for them. -/
def literalLexeme (d : Dialect) : Scalar → Lexeme
  | .null => .word "NULL"
  | .bool b => if d = .postgres then .word (boolText b) else .number (if b then "1" else "0")
  | .int n => .number (intText n.toInt)
  | .float f => if f.isFinite then .number (floatLayout.text f) else .word "NULL"
  | .string s => .string s

def Token.lexemes (d : Dialect) : Token → List Lexeme
  | .keyword word => word.words.map .word
  | .mark m => [.mark m]
  | .space => []
  | .newline => []
  | .indent _ => []
  | .identifier name => [.name name]
  | .literal value => [literalLexeme d value]
  | .raw _ => []

/-! ## Tokens side by side -/

/-- Punctuation and layout that part any token in front of them from what follows. A dot does not:
it may belong to a number. -/
def Token.isFree : Token → Bool
  | .mark m => m != .dot
  | .space => true
  | .newline => true
  | .indent levels => levels != 0
  | _ => false

def Token.apart : Token → Token → Bool
  | .mark _, _ => true
  | .identifier _, .mark _ => true
  | t, u => t.isFree || u.isFree

def Token.isRaw : Token → Bool
  | .raw _ => true
  | _ => false

structure Spaced (ts : List Token) : Prop where
  apart : ts.IsChain fun t u => t.apart u = true
  plain : ∀ t ∈ ts, t.isRaw = false

/-- The character may follow the token in the text. -/
def Token.endsBefore (d : Dialect) (c : Char) : Token → Bool
  | .keyword _ => endsPlain c
  | .identifier _ => c != nameQuote d
  | .literal (.string _) => c != stringQuote
  | .literal _ => endsPlain c
  | _ => true

/-- Blanks and punctuation other than the dot. -/
def isFreeChar (c : Char) : Bool := [' ', '\n', ',', '*', '(', ')', '='].contains c

theorem endsBefore_of_isFreeChar (d : Dialect) {c : Char} (h : isFreeChar c = true) (t : Token) :
    t.endsBefore d c = true := by
  have hplain : endsPlain c = true ∧ c != nameQuote d ∧ c != stringQuote := by
    simp only [isFreeChar, List.contains_eq_mem, decide_eq_true_eq, List.mem_cons,
      List.not_mem_nil, or_false] at h
    rcases h with rfl | rfl | rfl | rfl | rfl | rfl | rfl <;> cases d <;> decide
  cases t with
  | keyword word => exact hplain.1
  | identifier name => exact hplain.2.1
  | literal value =>
    cases value with
    | string s => exact hplain.2.2
    | _ => exact hplain.1
  | _ => rfl

theorem head?_chars_of_isFree (d : Dialect) {t : Token} (h : t.isFree = true) (rest : List Char) :
    ∀ c ∈ (t.chars d ++ rest).head?, isFreeChar c = true := by
  intro c hc
  cases t with
  | mark m =>
    cases m with
    | dot => cases h
    | _ => cases hc; rfl
  | space => cases hc; rfl
  | newline => cases hc; rfl
  | indent levels =>
    cases levels with
    | zero => cases h
    | succ n =>
      cases hc
      rfl
  | _ => cases h

theorem endsBefore_of_apart (d : Dialect) {t u : Token} (h : t.apart u = true)
    (rest : List Char) : ∀ c ∈ (u.chars d ++ rest).head?, t.endsBefore d c = true := by
  intro c hc
  unfold Token.apart at h
  split at h
  · rfl
  · next name m =>
    cases hc
    cases d <;> cases m <;> rfl
  · rcases Bool.or_eq_true_iff.1 h with ht | hu
    · cases t <;> first | rfl | cases ht
    · exact endsBefore_of_isFreeChar d (head?_chars_of_isFree d hu rest c hc) t

/-! ## One token -/

theorem reads_plain_word (d : Dialect) {text : String} {word rest : List Char}
    (htext : text.toList = word) (hword : isWord word = true)
    (hrest : ∀ c ∈ rest.head?, endsPlain c = true) : Reads d word [.word text] rest := by
  have h := reads_word d hword hrest
  rwa [← htext, String.ofList_toList, htext] at h

theorem reads_two_words (d : Dialect) {first second : String} {a b rest : List Char}
    (hfirst : first.toList = a) (hsecond : second.toList = b) (ha : isWord a = true)
    (hb : isWord b = true) (hrest : ∀ c ∈ rest.head?, endsPlain c = true) :
    Reads d (a ++ ' ' :: b) [.word first, .word second] rest := by
  have hgap : Reads d (' ' :: b) [.word second] rest :=
    (reads_blank (by decide) _).append (reads_plain_word d hsecond hb hrest)
  refine (reads_plain_word d hfirst ha ?_).append hgap
  rintro c hc
  cases hc
  decide

theorem reads_keyword (d : Dialect) (word : Keyword) {rest : List Char}
    (hrest : ∀ c ∈ rest.head?, endsPlain c = true) :
    Reads d word.text.toList (word.words.map .word) rest := by
  cases word with
  | ORDER_BY =>
    have horder : "ORDER".toList = ['O', 'R', 'D', 'E', 'R'] := rfl
    have hby : "BY".toList = ['B', 'Y'] := rfl
    exact reads_two_words d horder hby (by decide) (by decide) hrest
  | IS_NULL =>
    have his : "IS".toList = ['I', 'S'] := rfl
    have hnull : "NULL".toList = ['N', 'U', 'L', 'L'] := rfl
    exact reads_two_words d his hnull (by decide) (by decide) hrest
  | _ => exact reads_plain_word d rfl (by decide) hrest

theorem reads_literal (d : Dialect) (value : Scalar) {rest : List Char}
    (hrest : ∀ c ∈ rest.head?, (Token.literal value).endsBefore d c = true) :
    Reads d (literalChars d value) [literalLexeme d value] rest := by
  have hnull : (∀ c ∈ rest.head?, endsPlain c = true) →
      Reads d Dialect.nullChars [.word "NULL"] rest :=
    fun h => reads_plain_word d rfl (by decide) h
  cases value with
  | null => exact hnull hrest
  | bool b =>
    have hdigit : ∀ c : Char, c.isDigit = true → IsNumber [c] := fun c hc =>
      ⟨[], [c], .inl rfl, isMagnitude_whole (isDigits_singleton hc) (.inl rfl), rfl⟩
    cases d <;> cases b
    case postgres.false => exact reads_plain_word .postgres rfl (by decide) hrest
    case postgres.true => exact reads_plain_word .postgres rfl (by decide) hrest
    all_goals exact reads_number _ (hdigit _ (by decide)) hrest
  | int n =>
    have h := reads_number d (isNumber_intText n.toInt) hrest
    rwa [String.ofList_toList] at h
  | float f =>
    cases hfinite : f.isFinite with
    | false =>
      simp only [literalChars, literalLexeme, hfinite, Bool.false_eq_true, if_false]
      exact hnull hrest
    | true =>
      have h := reads_number d (isNumber_floatText hfinite) hrest
      rw [String.ofList_toList] at h
      simpa only [literalChars, literalLexeme, hfinite, if_true] using h
  | string s =>
    refine reads_string d s fun hquote => ?_
    have h := hrest stringQuote hquote
    simp [Token.endsBefore] at h

theorem reads_token (d : Dialect) {t : Token} (ht : t.isRaw = false) {rest : List Char}
    (hrest : ∀ c ∈ rest.head?, t.endsBefore d c = true) :
    Reads d (t.chars d) (t.lexemes d) rest := by
  cases t with
  | keyword word => exact reads_keyword d word hrest
  | mark m => exact reads_mark d m rest
  | space => exact reads_blank (by decide) rest
  | newline => exact reads_blank (by decide) rest
  | indent levels => exact reads_blanks d _ rest
  | identifier name =>
    refine reads_name d name fun hquote => ?_
    have h := hrest _ hquote
    simp [Token.endsBefore] at h
  | literal value => exact reads_literal d value hrest
  | raw sql => cases ht

/-! ## All tokens -/

theorem reads_tokens (d : Dialect) {ts : List Token} (h : Spaced ts) {rest : List Char}
    (hrest : ∀ c ∈ rest.head?, isFreeChar c = true) :
    Reads d (renderChars d ts) (ts.flatMap (Token.lexemes d)) rest := by
  induction ts with
  | nil => exact .nil d rest
  | cons t ts ih =>
    have htail : Spaced ts := ⟨h.apart.tail, fun u hu => h.plain u (List.mem_cons_of_mem t hu)⟩
    have hnext : ∀ c ∈ (renderChars d ts ++ rest).head?, t.endsBefore d c = true := by
      cases ts with
      | nil => exact fun c hc => endsBefore_of_isFreeChar d (hrest c hc) t
      | cons u us =>
        show ∀ c ∈ (u.chars d ++ renderChars d us ++ rest).head?, _
        rw [List.append_assoc]
        exact endsBefore_of_apart d (List.isChain_cons_cons.1 h.apart).1 _
    exact (reads_token d (h.plain t List.mem_cons_self) hnext).append (ih htail)

theorem lexFrom_render (d : Dialect) {ts : List Token} (h : Spaced ts) :
    lexFrom d (render d ts).toList = (ts.flatMap (Token.lexemes d), []) := by
  have hall : Reads d (renderChars d ts) (ts.flatMap (Token.lexemes d)) [] :=
    reads_tokens d h fun c hc => by cases hc
  rw [Reads, List.append_nil, lexFrom_nil, List.append_nil] at hall
  rw [render, String.toList_ofList, hall]

theorem lex_render (d : Dialect) {ts : List Token} (h : Spaced ts) :
    lex d (render d ts) = some (ts.flatMap (Token.lexemes d)) := by
  rw [lex, lexFrom_render d h]

/-! ## Other names and strings in the same statement -/

/-- The token with another name or string in its place. -/
def Token.rename (names strings : String → String) : Token → Token
  | .identifier name => .identifier (names name)
  | .literal (.string s) => .literal (.string (strings s))
  | t => t

def Lexeme.rename (names strings : String → String) : Lexeme → Lexeme
  | .name n => .name (names n)
  | .string s => .string (strings s)
  | lexeme => lexeme

/-- The text is read as the tokens, and with any other names and strings in their places nothing
else of what is read changes. -/
def ReadsBack (d : Dialect) (text : String) (ts : List Token) : Prop :=
  lex d text = some (ts.flatMap (Token.lexemes d)) ∧
    ∀ names strings : String → String, lex d (render d (ts.map (Token.rename names strings))) =
      some ((ts.flatMap (Token.lexemes d)).map (Lexeme.rename names strings))

section Rename
variable (names strings : String → String)

theorem lexemes_rename (d : Dialect) (t : Token) :
    (t.rename names strings).lexemes d = (t.lexemes d).map (Lexeme.rename names strings) := by
  cases t with
  | keyword word => cases word <;> rfl
  | literal value =>
    cases value with
    | bool b => cases d <;> rfl
    | float f =>
      simp only [Token.rename, Token.lexemes, literalLexeme, List.map_singleton]
      split <;> rfl
    | _ => rfl
  | _ => rfl

theorem isFree_rename (t : Token) : (t.rename names strings).isFree = t.isFree := by
  cases t with
  | literal value => cases value <;> rfl
  | _ => rfl

theorem apart_rename (t u : Token) :
    (t.rename names strings).apart (u.rename names strings) = t.apart u := by
  have hfree : ((t.rename names strings).isFree || (u.rename names strings).isFree) =
      (t.isFree || u.isFree) := by
    rw [isFree_rename, isFree_rename]
  cases t with
  | mark m => rfl
  | identifier name =>
    cases u with
    | mark m => rfl
    | literal value => cases value <;> rfl
    | _ => exact hfree
  | literal value => cases value <;> exact hfree
  | _ => exact hfree

theorem Spaced.rename {ts : List Token} (h : Spaced ts) :
    Spaced (ts.map (Token.rename names strings)) := by
  refine ⟨?_, fun t ht => ?_⟩
  · rw [List.isChain_map]
    exact h.apart.imp fun t u htu => (apart_rename names strings t u).trans htu
  · obtain ⟨u, hu, rfl⟩ := List.mem_map.1 ht
    have hplain := h.plain u hu
    cases u with
    | literal value => cases value <;> rfl
    | raw sql => cases hplain
    | _ => rfl

end Rename

theorem Spaced.readsBack (d : Dialect) {ts : List Token} (h : Spaced ts) :
    ReadsBack d (render d ts) ts := by
  refine ⟨lex_render d h, fun names strings => ?_⟩
  rw [lex_render d (h.rename names strings), List.flatMap_map, List.map_flatMap]
  exact congrArg some (List.flatMap_congr fun t _ => lexemes_rename names strings d t)

end Sql
end SelectionSql
