import Mathlib.Data.List.TakeWhile
import SelectionSql.Text.Basic

/-!
# Texts that are trimmed and cut

* `IsTrimmed`, `Trims`: a text without blanks at its ends, and what is left of a text without them.
* `trimBlanks_eq_iff`: trimming leaves just that.
* `pieces_of_notMem`, `pieces_append`, `pieces_eq_three_iff`: pieces are what separators stand
  between.
-/
set_option autoImplicit false

namespace SelectionSql

/-- A run of characters ends where one follows that does not belong to it. -/
theorem takeWhile_append_of_head {p : Char → Bool} {run rest : List Char}
    (hrun : ∀ c ∈ run, p c = true) (hrest : ∀ c ∈ rest.head?, p c = false) :
    (run ++ rest).takeWhile p = run ∧ (run ++ rest).dropWhile p = rest := by
  rw [List.takeWhile_append_of_pos hrun, List.dropWhile_append_of_pos hrun]
  cases rest with
  | nil => simp
  | cons c rest =>
    have hc : p c = false := hrest c rfl
    simp [hc]

/-! ## Trimming -/

def AllBlank (cs : List Char) : Prop := ∀ c ∈ cs, isBlank c = true

/-- There is no blank at either end. -/
structure IsTrimmed (cs : List Char) : Prop where
  head : ∀ c ∈ cs.head?, isBlank c = false
  last : ∀ c ∈ cs.getLast?, isBlank c = false

/-- What is left of a text without the blanks at its ends. -/
structure Trims (cs t : List Char) : Prop where
  trimmed : IsTrimmed t
  blanks : ∃ front back, AllBlank front ∧ AllBlank back ∧ cs = front ++ t ++ back

theorem not_of_mem_head?_dropWhile {p : Char → Bool} {cs : List Char} {c : Char}
    (h : c ∈ (cs.dropWhile p).head?) : p c = false := by
  have hnot := List.head?_dropWhile_not p cs
  rw [Option.mem_def.1 h] at hnot
  simpa using hnot

theorem trims_trimBlanks (cs : List Char) : Trims cs (trimBlanks cs) := by
  have hfront := List.takeWhile_append_dropWhile (p := isBlank) (l := cs)
  have hback := List.takeWhile_append_dropWhile (p := isBlank) (l := (cs.dropWhile isBlank).reverse)
  have hcut : cs.dropWhile isBlank =
      trimBlanks cs ++ ((cs.dropWhile isBlank).reverse.takeWhile isBlank).reverse := by
    rw [trimBlanks, ← List.reverse_append, hback, List.reverse_reverse]
  refine ⟨⟨fun c hc => ?_, fun c hc => ?_⟩, cs.takeWhile isBlank,
    ((cs.dropWhile isBlank).reverse.takeWhile isBlank).reverse, ?_, ?_, ?_⟩
  · have hhead : c ∈ (cs.dropWhile isBlank).head? := by
      rw [hcut, List.head?_append, Option.mem_def.1 hc]
      rfl
    exact not_of_mem_head?_dropWhile hhead
  · rw [trimBlanks, List.getLast?_reverse] at hc
    exact not_of_mem_head?_dropWhile hc
  · exact fun c hc => List.mem_takeWhile_imp hc
  · exact fun c hc => List.mem_takeWhile_imp (List.mem_reverse.1 hc)
  · rw [List.append_assoc, ← hcut, hfront]

theorem Trims.eq_trimBlanks {cs t : List Char} (h : Trims cs t) : trimBlanks cs = t := by
  obtain ⟨⟨hhead, hlast⟩, front, back, hfront, hback, rfl⟩ := h
  by_cases ht : t = []
  · subst ht
    have hall : ∀ c ∈ front ++ [] ++ back, isBlank c = true := by
      simpa [or_imp, forall_and] using ⟨hfront, hback⟩
    rw [trimBlanks, List.dropWhile_eq_nil_iff.2 hall]
    rfl
  · have hrest : ∀ c ∈ (t ++ back).head?, isBlank c = false := by
      obtain ⟨d, t', rfl⟩ := List.exists_cons_of_ne_nil ht
      exact hhead
    have hreversed : ∀ c ∈ t.reverse.head?, isBlank c = false := by
      rw [List.head?_reverse]
      exact hlast
    have hback' : ∀ c ∈ back.reverse, isBlank c = true :=
      fun c hc => hback c (List.mem_reverse.1 hc)
    rw [trimBlanks, List.append_assoc, (takeWhile_append_of_head hfront hrest).2,
      List.reverse_append, (takeWhile_append_of_head hback' hreversed).2, List.reverse_reverse]

theorem trimBlanks_eq_iff {cs t : List Char} : trimBlanks cs = t ↔ Trims cs t :=
  ⟨fun h => h ▸ trims_trimBlanks cs, Trims.eq_trimBlanks⟩

theorem IsTrimmed.trims {t : List Char} (h : IsTrimmed t) : Trims t t :=
  ⟨h, [], [], by simp [AllBlank], by simp [AllBlank], by simp⟩

theorem IsTrimmed.of_solid {cs : List Char} (h : ∀ c ∈ cs, isBlank c = false) : IsTrimmed cs :=
  ⟨fun c hc => h c (List.mem_of_mem_head? hc), fun c hc => h c (List.mem_of_mem_getLast? hc)⟩

theorem IsTrimmed.append {a m b : List Char} (ha : IsTrimmed a) (hb : IsTrimmed b) (hane : a ≠ [])
    (hbne : b ≠ []) : IsTrimmed (a ++ m ++ b) := by
  obtain ⟨c, a, rfl⟩ := List.exists_cons_of_ne_nil hane
  refine ⟨fun d hd => ha.head d hd, fun d hd => hb.last d ?_⟩
  rw [List.getLast?_eq_some_getLast hbne]
  rwa [List.getLast?_append, List.getLast?_eq_some_getLast hbne, Option.some_or] at hd

/-! ## Pieces -/

theorem pieces_of_notMem {sep : Char} {cs : List Char} (h : sep ∉ cs) : pieces sep cs = [cs] := by
  induction cs with
  | nil => rfl
  | cons c rest ih =>
    obtain ⟨hc, hrest⟩ := not_or.1 (List.mem_cons.not.1 h)
    rw [pieces, if_neg (Ne.symm hc), ih hrest]

theorem pieces_append {sep : Char} {first : List Char} (h : sep ∉ first) (rest : List Char) :
    pieces sep (first ++ sep :: rest) = first :: pieces sep rest := by
  induction first with
  | nil => simp [pieces]
  | cons c first ih =>
    obtain ⟨hc, hfirst⟩ := not_or.1 (List.mem_cons.not.1 h)
    rw [List.cons_append, pieces, if_neg (Ne.symm hc), ih hfirst]

/-- A text without separators is one piece; else its first separator ends the first piece. -/
theorem notMem_or_exists_first (sep : Char) (cs : List Char) :
    sep ∉ cs ∨ ∃ first rest, sep ∉ first ∧ cs = first ++ sep :: rest := by
  by_cases h : sep ∈ cs
  · obtain ⟨first, rest, hcs, hfirst⟩ := List.eq_append_cons_of_mem h
    exact .inr ⟨first, rest, hfirst, hcs⟩
  · exact .inl h

theorem pieces_eq_three_iff {sep : Char} {cs a b c : List Char} :
    pieces sep cs = [a, b, c] ↔
      cs = a ++ sep :: (b ++ sep :: c) ∧ sep ∉ a ∧ sep ∉ b ∧ sep ∉ c := by
  constructor
  · intro h
    rcases notMem_or_exists_first sep cs with hcs | ⟨a', rest, ha, rfl⟩
    · simp [pieces_of_notMem hcs] at h
    · rw [pieces_append ha] at h
      rcases notMem_or_exists_first sep rest with hrest | ⟨b', rest', hb, rfl⟩
      · simp [pieces_of_notMem hrest] at h
      · rw [pieces_append hb] at h
        rcases notMem_or_exists_first sep rest' with hrest' | ⟨c', rest'', hc, rfl⟩
        · rw [pieces_of_notMem hrest'] at h
          simp only [List.cons.injEq, and_true] at h
          obtain ⟨rfl, rfl, rfl⟩ := h
          exact ⟨rfl, ha, hb, hrest'⟩
        · rw [pieces_append hc] at h
          have hlength := length_pieces sep rest''
          rw [(List.cons.inj (List.cons.inj (List.cons.inj h).2).2).2] at hlength
          simp at hlength
  · rintro ⟨rfl, ha, hb, hc⟩
    rw [pieces_append ha, pieces_append hb, pieces_of_notMem hc]

end SelectionSql
