import SelectionSql.Json.Written
import SelectionSql.Proofs.Reader

/-!
# The grammar of JSON strings

* `Json.IsCode`, `Escapes`: four digits of base sixteen; what stands behind a backslash for a
  character.
* `Json.Body`: what stands between two quotes, for a notion of what may stand behind a backslash.
* `Json.Quoted`, `Json.Raw`: a string and its value, resp. a string as written.
* `Json.stringText_eq_some_iff`, `writtenText_eq_some_iff`: both are read exactly by their grammar.
-/
set_option autoImplicit false

namespace SelectionSql
namespace Json
open Reader

/-! ## Escapes -/

/-- Four digits of base sixteen, and their number. -/
inductive IsCode : List Char → Nat → Prop
  | four {a b c d : Char} {p q r s : Nat} (ha : hexValue? a = some p) (hb : hexValue? b = some q)
      (hc : hexValue? c = some r) (hd : hexValue? d = some s) :
      IsCode [a, b, c, d] (((p * 16 + q) * 16 + r) * 16 + s)

/-- The letters that stand for a character behind a backslash. -/
def shortEscapes : List (Char × Char) :=
  [('\x22', '\x22'), ('\\', '\\'), ('/', '/'), ('b', '\x08'), ('f', '\x0c'), ('n', '\n'),
    ('r', '\r'), ('t', '\t')]

/-- What stands behind a backslash for a character. -/
inductive Escapes : List Char → Char → Prop
  | short {c d : Char} (h : (c, d) ∈ shortEscapes) : Escapes [c] d
  | code {digits : List Char} {n : Nat} (h : IsCode digits n) (hn : n < 0xD800 ∨ 0xDFFF < n) :
      Escapes ('u' :: digits) (Char.ofNat n)
  | pair {digits digits' : List Char} {high low : Nat} (hhigh : IsCode digits high)
      (hlow : IsCode digits' low) (hh : 0xD800 ≤ high ∧ high < 0xDC00)
      (hl : 0xDC00 ≤ low ∧ low ≤ 0xDFFF) :
      Escapes ('u' :: (digits ++ '\\' :: 'u' :: digits')) (joinSurrogates high low)

/-- What stands behind a backslash in a string whose value does not count. -/
inductive HasEscapeForm : List Char → Prop
  | short {c d : Char} (h : (c, d) ∈ shortEscapes) : HasEscapeForm [c]
  | code {digits : List Char} {n : Nat} (h : IsCode digits n) : HasEscapeForm ('u' :: digits)

theorem hexFour?_eq_some_iff {cs rest : List Char} {n : Nat} :
    hexFour? cs = some (n, rest) ↔ ∃ digits, IsCode digits n ∧ cs = digits ++ rest := by
  constructor
  · intro h
    unfold hexFour? at h
    split at h
    · next a b c d rest' =>
      simp only [Option.bind_eq_bind, Option.bind_eq_some_iff, Option.pure_def, Option.some_inj,
        Prod.mk.injEq] at h
      obtain ⟨p, ha, q, hb, r, hc, s, hd, rfl, rfl⟩ := h
      exact ⟨_, .four ha hb hc hd, rfl⟩
    · cases h
  · rintro ⟨digits, hdigits, rfl⟩
    cases hdigits with
    | four ha hb hc hd => simp [hexFour?, ha, hb, hc, hd]

theorem IsCode.length_eq {digits : List Char} {n : Nat} (h : IsCode digits n) :
    digits.length = 4 := by
  cases h
  rfl

theorem escape?_of_short {c d : Char} (h : (c, d) ∈ shortEscapes) (rest : List Char) :
    escape? (c :: rest) = some (d, rest) := by
  simp only [shortEscapes, List.mem_cons, Prod.mk.injEq, List.not_mem_nil, or_false] at h
  rcases h with ⟨rfl, rfl⟩ | ⟨rfl, rfl⟩ | ⟨rfl, rfl⟩ | ⟨rfl, rfl⟩ | ⟨rfl, rfl⟩ | ⟨rfl, rfl⟩ |
    ⟨rfl, rfl⟩ | ⟨rfl, rfl⟩ <;> rfl

theorem escape?_sound {cs rest : List Char} {d : Char} (h : escape? cs = some (d, rest)) :
    ∃ w, Escapes w d ∧ cs = w ++ rest := by
  have hshort : ∀ {c e : Char} {rest' : List Char}, (c, e) ∈ shortEscapes →
      some (e, rest') = some (d, rest) → ∃ w, Escapes w d ∧ c :: rest' = w ++ rest := by
    rintro c e rest' hmem heq
    cases heq
    exact ⟨[c], .short hmem, rfl⟩
  unfold escape? at h
  split at h
  iterate 8 exact hshort (by decide) h
  · next rest' =>
    simp only [Option.bind_eq_bind, Option.bind_eq_some_iff, Prod.exists,
      hexFour?_eq_some_iff] at h
    obtain ⟨n, mid, ⟨digits, hdigits, rfl⟩, h⟩ := h
    split at h
    · next hn =>
      cases h
      exact ⟨_, .code hdigits hn, rfl⟩
    · next hn =>
      split at h
      · cases h
      · next hhigh =>
        split at h
        · next rest'' =>
          simp only [Option.bind_eq_some_iff, Prod.exists, hexFour?_eq_some_iff] at h
          obtain ⟨low, mid', ⟨digits', hdigits', rfl⟩, h⟩ := h
          split at h
          · next hlow =>
            rw [Option.pure_def, Option.some_inj, Prod.mk.injEq] at h
            obtain ⟨rfl, rfl⟩ := h
            exact ⟨_, .pair hdigits hdigits' (by omega) hlow, by simp⟩
          · cases h
        · cases h
  · cases h

theorem Escapes.escape?_append {w : List Char} {d : Char} (h : Escapes w d) (rest : List Char) :
    escape? (w ++ rest) = some (d, rest) := by
  cases h with
  | short h => exact escape?_of_short h rest
  | @code digits n h hn =>
    have hfour : hexFour? (digits ++ rest) = some (n, rest) :=
      hexFour?_eq_some_iff.2 ⟨digits, h, rfl⟩
    simp [escape?, hfour, hn]
  | @pair digits digits' high low hhigh hlow hh hl =>
    have hfirst : hexFour? (digits ++ '\\' :: 'u' :: (digits' ++ rest)) =
        some (high, '\\' :: 'u' :: (digits' ++ rest)) :=
      hexFour?_eq_some_iff.2 ⟨digits, hhigh, rfl⟩
    have hsecond : hexFour? (digits' ++ rest) = some (low, rest) :=
      hexFour?_eq_some_iff.2 ⟨digits', hlow, rfl⟩
    have hn : ¬ (high < 0xD800 ∨ 0xDFFF < high) := by omega
    have hhalf : ¬ 0xDC00 ≤ high := by omega
    simp only [List.cons_append, List.append_assoc, escape?, hfirst, Option.bind_eq_bind,
      Option.bind_some, if_neg hn, if_neg hhalf, hsecond, if_pos hl, Option.pure_def]

theorem writtenEscape?_eq_some_iff {cs w rest : List Char} :
    writtenEscape? cs = some (w, rest) ↔ HasEscapeForm w ∧ cs = w ++ rest := by
  have hletter : ∀ c : Char, c ∈ ['\x22', '\\', '/', 'b', 'f', 'n', 'r', 't'] ↔
      ∃ d, (c, d) ∈ shortEscapes := by
    intro c
    simp [shortEscapes, exists_or]
  constructor
  · intro h
    cases cs with
    | nil => cases h
    | cons c cs =>
      rw [writtenEscape?] at h
      split at h
      · next hc =>
        subst hc
        obtain ⟨⟨n, after⟩, hfour, heq⟩ := Option.map_eq_some_iff.1 h
        obtain ⟨digits, hdigits, rfl⟩ := hexFour?_eq_some_iff.1 hfour
        cases heq
        rw [List.take_left' hdigits.length_eq]
        exact ⟨.code hdigits, rfl⟩
      · split at h
        · next hmem =>
          cases h
          obtain ⟨d, hd⟩ := (hletter c).1 hmem
          exact ⟨.short hd, rfl⟩
        · cases h
  · rintro ⟨hw, rfl⟩
    cases hw with
    | @short c d h =>
      have hmem := (hletter c).2 ⟨d, h⟩
      have hc : c ≠ 'u' := by
        rintro rfl
        exact absurd hmem (by decide)
      rw [List.singleton_append, writtenEscape?, if_neg hc, if_pos hmem]
    | @code digits n h =>
      have hfour : hexFour? (digits ++ rest) = some (n, rest) :=
        hexFour?_eq_some_iff.2 ⟨digits, h, rfl⟩
      rw [List.cons_append, writtenEscape?, if_pos rfl, hfour, Option.map_some,
        List.take_left' h.length_eq]

/-! ## Bodies -/

/-- What stands between two quotes, and what it is read as. `E w ds` says that `w` may stand behind
a backslash and that both together are read as `ds`. -/
inductive Body (E : List Char → List Char → Prop) : List Char → List Char → Prop
  | nil : Body E [] []
  | plain {c : Char} {w ds : List Char} (hquote : c ≠ '\x22') (hback : c ≠ '\\')
      (hcontrol : 32 ≤ c.toNat) (h : Body E w ds) : Body E (c :: w) (c :: ds)
  | escaped {e es w ds : List Char} (hescape : E e es) (h : Body E w ds) :
      Body E ('\\' :: (e ++ w)) (es ++ ds)

def StandsFor (e es : List Char) : Prop := ∃ d, Escapes e d ∧ es = [d]

def StandsWritten (e es : List Char) : Prop := HasEscapeForm e ∧ es = '\\' :: e

/-- A string and its value. -/
inductive Quoted : List Char → String → Prop
  | intro {w ds : List Char} (h : Body StandsFor w ds) :
      Quoted ('\x22' :: (w ++ ['\x22'])) (String.ofList ds)

/-- A string as written. -/
inductive Raw : List Char → String → Prop
  | intro {w ds : List Char} (h : Body StandsWritten w ds) :
      Raw ('\x22' :: (w ++ ['\x22'])) (String.ofList ds)

/-- Both readers of strings, with what they do behind a backslash as a parameter. -/
def bodyWith (escape : List Char → Option (List Char × List Char)) :
    Nat → List Char → Option (List Char × List Char)
  | _, [] => none
  | 0, _ => none
  | n + 1, c :: rest =>
    if c = '\x22' then some ([], rest)
    else if c = '\\' then
      (escape rest).bind fun (es, rest) => (bodyWith escape n rest).map fun (ds, rest) =>
        (es ++ ds, rest)
    else if c.toNat < 32 then none
    else (bodyWith escape n rest).map fun (ds, rest) => (c :: ds, rest)

theorem stringBody_eq (n : Nat) (cs : List Char) : stringBody n cs =
    bodyWith (fun cs => (escape? cs).map fun (d, rest) => ([d], rest)) n cs := by
  induction n generalizing cs with
  | zero => cases cs <;> rfl
  | succ n ih =>
    cases cs with
    | nil => rfl
    | cons c rest =>
      simp only [stringBody, bodyWith, ih]
      congr 2
      · cases escape? rest with
        | none => rfl
        | some x =>
          simp only [Option.bind_eq_bind, Option.bind_some, Option.map_some]
          cases bodyWith _ n x.2 <;> rfl
      · congr 1
        cases bodyWith _ n rest <;> rfl

theorem writtenBody_eq (n : Nat) (cs : List Char) : writtenBody n cs =
    bodyWith (fun cs => (writtenEscape? cs).map fun (w, rest) => ('\\' :: w, rest)) n cs := by
  induction n generalizing cs with
  | zero => cases cs <;> rfl
  | succ n ih =>
    cases cs with
    | nil => rfl
    | cons c rest =>
      simp only [writtenBody, bodyWith, ih]
      by_cases hquote : c = '\x22'
      · rw [if_pos hquote, if_pos hquote]
      rw [if_neg hquote, if_neg hquote]
      by_cases hback : c = '\\'
      · rw [if_pos hback, if_pos hback]
        -- The backslash itself is kept, as the character that was met.
        subst hback
        cases writtenEscape? rest with
        | none => rfl
        | some x =>
          simp only [Option.bind_eq_bind, Option.bind_some, Option.map_some]
          cases bodyWith _ n x.2 <;> rfl
      · rw [if_neg hback, if_neg hback]
        congr 1
        cases bodyWith _ n rest <;> rfl

section
variable {escape : List Char → Option (List Char × List Char)} {E : List Char → List Char → Prop}

theorem bodyWith_sound
    (hescape : ∀ {cs es rest}, escape cs = some (es, rest) → ∃ e, E e es ∧ cs = e ++ rest)
    {n : Nat} {cs ds rest : List Char} (h : bodyWith escape n cs = some (ds, rest)) :
    ∃ w, Body E w ds ∧ cs = w ++ '\x22' :: rest := by
  induction n generalizing cs ds with
  | zero => cases cs <;> cases h
  | succ n ih =>
    cases cs with
    | nil => cases h
    | cons c cs =>
      rw [bodyWith] at h
      split at h
      · next hquote =>
        cases h
        exact ⟨[], .nil, by rw [hquote]; rfl⟩
      next hquote =>
      split at h
      · next hback =>
        simp only [Option.bind_eq_some_iff, Option.map_eq_some_iff, Prod.exists] at h
        obtain ⟨es, mid, hes, ds', rest', hds, heq⟩ := h
        cases heq
        obtain ⟨e, he, rfl⟩ := hescape hes
        obtain ⟨w, hw, rfl⟩ := ih hds
        exact ⟨_, .escaped he hw, by simp [hback]⟩
      next hback =>
      split at h
      · cases h
      · next hcontrol =>
        obtain ⟨⟨ds', rest'⟩, hds, heq⟩ := Option.map_eq_some_iff.1 h
        cases heq
        obtain ⟨w, hw, rfl⟩ := ih hds
        exact ⟨_, .plain hquote hback (by omega) hw, rfl⟩

theorem Body.bodyWith_append {w ds : List Char} (h : Body E w ds)
    (hescape : ∀ {e es}, E e es → ∀ rest, escape (e ++ rest) = some (es, rest)) {n : Nat}
    (hn : w.length < n) (rest : List Char) :
    bodyWith escape n (w ++ '\x22' :: rest) = some (ds, rest) := by
  -- Every step takes a character or more, so that a bound above the length is enough.
  induction h generalizing n with
  | nil =>
    obtain ⟨n, rfl⟩ := Nat.exists_eq_add_one_of_ne_zero (by omega : n ≠ 0)
    rfl
  | plain hquote hback hcontrol _ ih =>
    obtain ⟨n, rfl⟩ := Nat.exists_eq_add_one_of_ne_zero (by omega : n ≠ 0)
    have hlength := List.length_cons ▸ hn
    rw [List.cons_append, bodyWith, if_neg hquote, if_neg hback, if_neg (by omega),
      ih (by omega)]
    rfl
  | escaped he _ ih =>
    obtain ⟨n, rfl⟩ := Nat.exists_eq_add_one_of_ne_zero (by omega : n ≠ 0)
    simp only [List.length_cons, List.length_append] at hn
    rw [List.cons_append, List.append_assoc, bodyWith, if_neg (by decide), if_pos rfl, hescape he,
      Option.bind_some]
    dsimp only
    rw [ih (by omega)]
    rfl

end

/-! ## Strings -/

theorem stringText_eq_some_iff {cs rest : List Char} {s : String} :
    stringText cs = some (s, rest) ↔ ∃ w, Quoted w s ∧ cs = w ++ rest := by
  simp only [stringText, bind_eq_some_iff, char_eq_some_iff, Option.map_eq_some_iff, Prod.exists,
    stringBody_eq]
  constructor
  · rintro ⟨-, mid, rfl, ds, rest', hbody, heq⟩
    cases heq
    obtain ⟨w, hw, rfl⟩ := bodyWith_sound (E := StandsFor) (fun h => by
      obtain ⟨⟨d, mid⟩, hd, heq⟩ := Option.map_eq_some_iff.1 h
      cases heq
      obtain ⟨e, he, rfl⟩ := escape?_sound hd
      exact ⟨e, ⟨d, he, rfl⟩, rfl⟩) hbody
    exact ⟨_, .intro hw, by simp⟩
  · rintro ⟨w, hw, rfl⟩
    cases hw with
    | @intro w ds h =>
      refine ⟨(), w ++ '\x22' :: rest, by simp, ds, rest, h.bodyWith_append ?_ ?_ rest, rfl⟩
      · rintro e es ⟨d, he, rfl⟩ rest
        rw [he.escape?_append, Option.map_some]
      · simp only [List.length_append]
        omega

theorem writtenText_eq_some_iff {cs rest : List Char} {s : String} :
    writtenText cs = some (s, rest) ↔ ∃ w, Raw w s ∧ cs = w ++ rest := by
  simp only [writtenText, bind_eq_some_iff, char_eq_some_iff, Option.map_eq_some_iff, Prod.exists,
    writtenBody_eq]
  constructor
  · rintro ⟨-, mid, rfl, ds, rest', hbody, heq⟩
    cases heq
    obtain ⟨w, hw, rfl⟩ := bodyWith_sound (E := StandsWritten) (fun h => by
      obtain ⟨⟨w, mid⟩, hw, heq⟩ := Option.map_eq_some_iff.1 h
      cases heq
      obtain ⟨hform, rfl⟩ := writtenEscape?_eq_some_iff.1 hw
      exact ⟨w, ⟨hform, rfl⟩, rfl⟩) hbody
    exact ⟨_, .intro hw, by simp⟩
  · rintro ⟨w, hw, rfl⟩
    cases hw with
    | @intro w ds h =>
      refine ⟨(), w ++ '\x22' :: rest, by simp, ds, rest, h.bodyWith_append ?_ ?_ rest, rfl⟩
      · rintro e es ⟨hform, rfl⟩ rest
        rw [writtenEscape?_eq_some_iff.2 ⟨hform, rfl⟩, Option.map_some]
      · simp only [List.length_append]
        omega

end Json
end SelectionSql
