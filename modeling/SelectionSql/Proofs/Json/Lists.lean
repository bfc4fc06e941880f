import SelectionSql.Proofs.Json.Numbers

/-!
# The grammar of JSON lists

* `Json.IsGap`, `Items`, `Listed`: blanks, and items between blanks and commas.
* `Json.ReadsItem`: a reader that reads an item wherever a mark follows.
* `Json.separated_sound`, `Listed.separated_append`: a list is read exactly by the grammar, if its
  items are.
-/
set_option autoImplicit false

namespace SelectionSql
namespace Json
open Reader

def IsGap (cs : List Char) : Prop := ∀ c ∈ cs, isJsonBlank c = true

/-- One item or more, with commas between them. -/
inductive Items {α : Type} (P : List Char → α → Prop) : List Char → List α → Prop
  | last {w back : List Char} {a : α} (h : P w a) (hback : IsGap back) : Items P (w ++ back) [a]
  | more {w back front others : List Char} {a : α} {as : List α} (h : P w a) (hback : IsGap back)
      (hfront : IsGap front) (hothers : Items P others as) :
      Items P (w ++ back ++ ',' :: (front ++ others)) (a :: as)

/-- Any number of items, with commas between them. -/
inductive Listed {α : Type} (P : List Char → α → Prop) : List Char → List α → Prop
  | empty {gap : List Char} (h : IsGap gap) : Listed P gap []
  | filled {front w : List Char} {as : List α} (hfront : IsGap front) (h : Items P w as) :
      Listed P (front ++ w) as

/-! ## Blanks -/

theorem blanks_eq_some_iff {cs rest : List Char} {u : Unit} : blanks cs = some (u, rest) ↔
    ∃ gap, IsGap gap ∧ cs = gap ++ rest ∧ ∀ c ∈ rest.head?, isJsonBlank c = false := by
  simp only [blanks, bind_eq_some_iff, takeWhile_eq_some_iff, pure_eq_some_iff]
  constructor
  · rintro ⟨gap, mid, ⟨rfl, hgap, hrest⟩, -, rfl⟩
    exact ⟨gap, hgap, rfl, hrest⟩
  · rintro ⟨gap, hgap, rfl, hrest⟩
    exact ⟨gap, rest, ⟨rfl, hgap, hrest⟩, trivial, rfl⟩

theorem blanks_append {gap rest : List Char} (hgap : IsGap gap)
    (hrest : ∀ c ∈ rest.head?, isJsonBlank c = false) : blanks (gap ++ rest) = some ((), rest) :=
  blanks_eq_some_iff.2 ⟨gap, hgap, rfl, hrest⟩

/-- A mark that closes a list or stands behind an item. -/
def IsMark (c : Char) : Prop := c = ',' ∨ c = ']' ∨ c = '\x7d'

theorem endsNumber_of_gap {gap rest : List Char} (hgap : IsGap gap) (hrest : EndsNumber rest) :
    EndsNumber (gap ++ rest) := by
  cases gap with
  | nil => exact hrest
  | cons d gap =>
    have hd : isJsonBlank d = true := hgap d List.mem_cons_self
    intro c hc
    cases hc
    simp only [isJsonBlank, Bool.or_eq_true, beq_iff_eq] at hd
    rcases hd with ((rfl | rfl) | rfl) | rfl <;> decide

theorem IsMark.endsNumber {c : Char} (h : IsMark c) (rest : List Char) :
    EndsNumber (c :: rest) := by
  intro d hd
  cases hd
  rcases h with rfl | rfl | rfl <;> decide

theorem IsMark.not_blank {c : Char} (h : IsMark c) : isJsonBlank c = false := by
  rcases h with rfl | rfl | rfl <;> decide

/-! ## Items -/

section
variable {α : Type} {item : Reader α} {P : List Char → α → Prop}

/-- An item with the blanks behind it. -/
def spaced (item : Reader α) : Reader α := do
  let a ← item
  blanks
  return a

/-- An item behind a comma. -/
def further (item : Reader α) : Reader α := do
  char ','
  blanks
  let b ← item
  blanks
  return b

theorem further_eq : further item = (do char ','; blanks; spaced item) := rfl

theorem separated_eq : separated item = (do
    blanks
    let first ← opt (spaced item)
    match first with
    | none => return []
    | some a => do
      let others ← many (further item)
      return a :: others) := rfl

theorem spaced_sound
    (hitem : ∀ {cs a rest}, item cs = some (a, rest) → ∃ w, P w a ∧ cs = w ++ rest)
    {cs rest : List Char} {a : α} (h : spaced item cs = some (a, rest)) :
    ∃ w back, P w a ∧ IsGap back ∧ cs = w ++ back ++ rest := by
  simp only [spaced, bind_eq_some_iff, pure_eq_some_iff, blanks_eq_some_iff] at h
  obtain ⟨b, mid, hb, -, mid', ⟨back, hback, rfl, -⟩, rfl, rfl⟩ := h
  obtain ⟨w, hw, rfl⟩ := hitem hb
  exact ⟨w, back, hw, hback, by simp⟩

theorem further_sound
    (hitem : ∀ {cs a rest}, item cs = some (a, rest) → ∃ w, P w a ∧ cs = w ++ rest)
    {cs rest : List Char} {a : α} (h : further item cs = some (a, rest)) :
    ∃ front w back, IsGap front ∧ P w a ∧ IsGap back ∧
      cs = ',' :: (front ++ (w ++ back ++ rest)) := by
  rw [further_eq] at h
  simp only [bind_eq_some_iff, char_eq_some_iff, blanks_eq_some_iff] at h
  obtain ⟨-, mid, rfl, -, mid', ⟨front, hfront, rfl, -⟩, h⟩ := h
  obtain ⟨w, back, hw, hback, rfl⟩ := spaced_sound hitem h
  exact ⟨front, w, back, hfront, hw, hback, rfl⟩

/-- What is read behind an item goes on with the list that starts with this item. -/
theorem manyFrom_further_sound
    (hitem : ∀ {cs a rest}, item cs = some (a, rest) → ∃ w, P w a ∧ cs = w ++ rest)
    (cs : List Char) {w back : List Char} {a : α} (hw : P w a) (hback : IsGap back) :
    ∃ w', Items P w' (a :: (manyFrom (further item) cs).1) ∧
      w ++ back ++ cs = w' ++ (manyFrom (further item) cs).2 := by
  -- The item in front of the comma is carried along: the list is put together from its end.
  fun_induction manyFrom (further item) cs generalizing w back a with
  | case1 cs hnone => exact ⟨w ++ back, .last hw hback, rfl⟩
  | case2 cs b rest hsome hlt as final heq ih =>
    obtain ⟨front, v, back', hfront, hv, hback', rfl⟩ := further_sound hitem hsome
    obtain ⟨w', hitems, htext⟩ := ih hv hback'
    simp only [heq] at hitems htext
    exact ⟨_, .more hw hback hfront hitems, by simp [htext]⟩
  | case3 cs b rest hsome hlt => exact ⟨w ++ back, .last hw hback, rfl⟩

theorem separated_sound
    (hitem : ∀ {cs a rest}, item cs = some (a, rest) → ∃ w, P w a ∧ cs = w ++ rest)
    {cs rest : List Char} {as : List α} (h : separated item cs = some (as, rest)) :
    ∃ w, Listed P w as ∧ cs = w ++ rest := by
  rw [separated_eq] at h
  simp only [bind_eq_some_iff, blanks_eq_some_iff, opt_eq_some_iff] at h
  obtain ⟨-, mid, ⟨front, hfront, rfl, -⟩, first, mid', hfirst, h⟩ := h
  rcases hfirst with ⟨a, rfl, ha⟩ | ⟨rfl, -, rfl⟩
  · obtain ⟨w, back, hw, hback, rfl⟩ := spaced_sound hitem ha
    simp only [bind_eq_some_iff, pure_eq_some_iff, many, Option.some_inj] at h
    obtain ⟨others, mid'', hothers, rfl, rfl⟩ := h
    obtain ⟨w', hitems, htext⟩ := manyFrom_further_sound hitem mid' hw hback
    rw [hothers] at hitems htext
    exact ⟨_, .filled hfront hitems, by simp [htext]⟩
  · rw [pure_eq_some_iff] at h
    obtain ⟨rfl, rfl⟩ := h
    exact ⟨front, .empty hfront, rfl⟩

/-- An item is read where a mark follows, and no blank starts it. -/
structure ReadsItem (item : Reader α) (P : List Char → α → Prop) : Prop where
  append : ∀ {w a rest}, P w a → EndsNumber rest → item (w ++ rest) = some (a, rest)
  head : ∀ {w a}, P w a → ∃ c w', w = c :: w' ∧ isJsonBlank c = false

theorem ReadsItem.spaced_append (hitem : ReadsItem item P) {w back rest : List Char} {a : α}
    {c : Char} (hw : P w a) (hback : IsGap back) (hc : IsMark c) :
    spaced item (w ++ back ++ c :: rest) = some (a, c :: rest) := by
  have hitem' : item (w ++ (back ++ c :: rest)) = some (a, back ++ c :: rest) :=
    hitem.append hw (endsNumber_of_gap hback (hc.endsNumber rest))
  have hblanks : blanks (back ++ c :: rest) = some ((), c :: rest) := by
    refine blanks_append hback fun d hd => ?_
    cases hd
    exact hc.not_blank
  rw [List.append_assoc, spaced, bind_of_some hitem', bind_of_some hblanks]
  rfl

theorem ReadsItem.blanks_append (hitem : ReadsItem item P) {front w : List Char} {a : α}
    (hw : P w a) (hfront : IsGap front) (rest : List Char) :
    blanks (front ++ (w ++ rest)) = some ((), w ++ rest) := by
  obtain ⟨c, w', rfl, hc⟩ := hitem.head hw
  refine Json.blanks_append hfront fun d hd => ?_
  cases hd
  exact hc

theorem ReadsItem.further_append (hitem : ReadsItem item P) {front w back rest : List Char} {a : α}
    {c : Char} (hfront : IsGap front) (hw : P w a) (hback : IsGap back) (hc : IsMark c) :
    further item (',' :: (front ++ (w ++ back ++ c :: rest))) = some (a, c :: rest) := by
  have hblanks : blanks (front ++ (w ++ back ++ c :: rest)) =
      some ((), w ++ back ++ c :: rest) := by
    rw [List.append_assoc w]
    exact hitem.blanks_append hw hfront _
  rw [further_eq, bind_of_some (char_cons _ _), bind_of_some hblanks,
    hitem.spaced_append hw hback hc]

/-- The first item, and what is read behind it. -/
theorem Items.exists_first (hitem : ReadsItem item P) {w : List Char} {as : List α}
    (h : Items P w as) {c : Char} (hc : IsMark c) (hcomma : c ≠ ',') (rest : List Char) :
    ∃ w' a back others tail, as = a :: others ∧ P w' a ∧ IsGap back ∧
      w ++ c :: rest = w' ++ back ++ tail ∧ (∃ d tail', tail = d :: tail' ∧ IsMark d) ∧
      manyFrom (further item) tail = (others, c :: rest) := by
  induction h with
  | @last w back a h hback =>
    refine ⟨w, a, back, [], c :: rest, rfl, h, hback, rfl, ⟨c, rest, rfl, hc⟩, ?_⟩
    have hnone : further item (c :: rest) = none :=
      bind_of_none (char_of_head fun d hd => by cases hd; exact hcomma)
    rw [manyFrom, hnone]
  | @more w back front others a as h hback hfront hothers ih =>
    obtain ⟨w', b, back', as', tail, rfl, hb, hback', htext, ⟨d, tail', rfl, hd⟩, hmany⟩ := ih
    refine ⟨w, a, back, b :: as', ',' :: (front ++ (w' ++ back' ++ d :: tail')), rfl, h, hback,
      by simp [← htext], ⟨',', _, rfl, .inl rfl⟩, ?_⟩
    have hfurther : further item (',' :: (front ++ (w' ++ back' ++ d :: tail'))) =
        some (b, d :: tail') := hitem.further_append hfront hb hback' hd
    rw [manyFrom, hfurther]
    simp only [hmany]
    rw [if_pos (by simp; omega)]

theorem Listed.separated_append (hitem : ReadsItem item P) {w : List Char} {as : List α}
    (h : Listed P w as) {c : Char} (hc : IsMark c) (hcomma : c ≠ ',') {rest : List Char}
    (hnone : item (c :: rest) = none) : separated item (w ++ c :: rest) = some (as, c :: rest) := by
  rw [separated_eq]
  cases h with
  | empty h =>
    have hblanks : blanks (w ++ c :: rest) = some ((), c :: rest) := by
      refine blanks_append h fun d hd => ?_
      cases hd
      exact hc.not_blank
    have hfirst : opt (spaced item) (c :: rest) = some (none, c :: rest) :=
      opt_eq_some_iff.2 (.inr ⟨rfl, bind_of_none hnone, rfl⟩)
    rw [bind_of_some hblanks, bind_of_some hfirst]
    rfl
  | @filled front w as hfront h =>
    obtain ⟨w', a, back, others, tail, rfl, ha, hback, htext, ⟨d, tail', rfl, hd⟩, hmany⟩ :=
      h.exists_first hitem hc hcomma rest
    have hblanks : blanks (front ++ (w' ++ back ++ d :: tail')) =
        some ((), w' ++ back ++ d :: tail') := by
      rw [List.append_assoc w']
      exact hitem.blanks_append ha hfront _
    have hfirst : opt (spaced item) (w' ++ back ++ d :: tail') = some (some a, d :: tail') :=
      opt_eq_some_iff.2 (.inl ⟨a, rfl, hitem.spaced_append ha hback hd⟩)
    have hothers : many (further item) (d :: tail') = some (others, c :: rest) := by
      rw [many, hmany]
    rw [List.append_assoc, htext, bind_of_some hblanks, bind_of_some hfirst]
    dsimp only
    rw [bind_of_some hothers]
    rfl

end

theorem Items.imp {α : Type} {P Q : List Char → α → Prop} {w : List Char} {as : List α}
    (h : Items P w as) (himp : ∀ {w a}, a ∈ as → P w a → Q w a) : Items Q w as := by
  induction h with
  | last h hback => exact .last (himp List.mem_cons_self h) hback
  | more h hback hfront _ ih =>
    exact .more (himp List.mem_cons_self h) hback hfront
      (ih fun hmem => himp (List.mem_cons_of_mem _ hmem))

theorem Listed.imp {α : Type} {P Q : List Char → α → Prop} {w : List Char} {as : List α}
    (h : Listed P w as) (himp : ∀ {w a}, a ∈ as → P w a → Q w a) : Listed Q w as := by
  cases h with
  | empty h => exact .empty h
  | filled hfront h => exact .filled hfront (h.imp himp)

theorem Items.exists_of_mem {α : Type} {P : List Char → α → Prop} {w : List Char} {as : List α}
    (h : Items P w as) : ∀ a ∈ as, ∃ w', P w' a ∧ w'.length ≤ w.length := by
  induction h with
  | @last w back a h hback =>
    intro b hb
    rw [List.mem_singleton.1 hb]
    exact ⟨w, h, by simp⟩
  | @more w back front others a as h hback hfront _ ih =>
    intro b hb
    rcases List.mem_cons.1 hb with rfl | hb
    · exact ⟨w, h, by simp⟩
    · obtain ⟨w', hw', hlength⟩ := ih b hb
      exact ⟨w', hw', by simp; omega⟩

theorem Listed.exists_of_mem {α : Type} {P : List Char → α → Prop} {w : List Char} {as : List α}
    (h : Listed P w as) : ∀ a ∈ as, ∃ w', P w' a ∧ w'.length ≤ w.length := by
  cases h with
  | empty h => simp
  | filled hfront h =>
    intro a ha
    obtain ⟨w', hw', hlength⟩ := h.exists_of_mem a ha
    exact ⟨w', hw', by simp; omega⟩

end Json
end SelectionSql
