import Mathlib.Data.List.Forall2
import SelectionSql.Modifiers.OrderBy
import SelectionSql.Proofs.Text.Cutting
import SelectionSql.Proofs.Text.Letters

/-!
# Which orderings are column lists

* `OrderBy.IsName`, `IsColumn`, `IsDirection`, `IsItem`, `IsColumnList`: the grammar of the texts
  that may stand behind `ORDER BY` where not every text may.
* `OrderBy.afterColumn?_append`, `afterColumn?_sound`: a column ends where no name goes on.
* `OrderBy.isColumnItem_iff`, `isColumnList_iff`: an item, resp. a list perhaps between blanks, is
  recognised exactly if it follows the grammar.
* `OrderBy.parse_columnList`: what is accepted, as which ordering, and what is refused.
-/
set_option autoImplicit false

namespace SelectionSql

namespace OrderBy

/-! ## The grammar -/

/-- A letter, case aside, or an underscore. The long s and the Kelvin sign are letters, because
they are an s and a k in another case. -/
def StartsName (c : Char) : Prop :=
  c.isAlpha = true ∨ c = '\u017F' ∨ c = '\u212A' ∨ c = '_'

def ContinuesName (c : Char) : Prop := StartsName c ∨ c.isDigit = true

def IsName (cs : List Char) : Prop :=
  ∃ c rest, cs = c :: rest ∧ StartsName c ∧ ∀ d ∈ rest, ContinuesName d

inductive IsColumn : List Char → Prop
  | plain {name : List Char} (h : IsName name) : IsColumn name
  | qualified {table name : List Char} (htable : IsName table) (hname : IsName name) :
      IsColumn (table ++ '.' :: name)

/-- A character is a small letter, case aside. -/
def Spells (letter c : Char) : Prop :=
  c.toLower = letter ∨ (letter = 's' ∧ c = '\u017F') ∨ (letter = 'k' ∧ c = '\u212A')

def IsDirection (cs : List Char) : Prop :=
  List.Forall₂ Spells ['a', 's', 'c'] cs ∨ List.Forall₂ Spells ['d', 'e', 's', 'c'] cs

inductive IsItem : List Char → Prop
  | column {column : List Char} (h : IsColumn column) : IsItem column
  | directed {column blanks direction : List Char} (h : IsColumn column) (hne : blanks ≠ [])
      (hblanks : AllBlank blanks) (hdirection : IsDirection direction) :
      IsItem (column ++ blanks ++ direction)

inductive IsColumnList : List Char → Prop
  | one {item : List Char} (h : IsItem item) : IsColumnList item
  | more {item before after rest : List Char} (h : IsItem item) (hbefore : AllBlank before)
      (hafter : AllBlank after) (hrest : IsColumnList rest) :
      IsColumnList (item ++ before ++ ',' :: (after ++ rest))

/-- The characters that a column list may hold. -/
def IsPlain (c : Char) : Prop := ContinuesName c ∨ c = '.' ∨ c = ',' ∨ isBlank c = true

/-! ## Characters -/

theorem startsColumn_iff (c : Char) : startsColumn c = true ↔ StartsName c := by
  unfold startsColumn foldedLetter StartsName
  by_cases hs : c = '\u017F'
  · subst hs
    decide
  by_cases hk : c = '\u212A'
  · subst hk
    decide
  rw [if_neg hs, if_neg hk]
  simp only [hs, hk, false_or, isAlpha_iff, Bool.or_eq_true, Bool.and_eq_true, decide_eq_true_eq,
    beq_iff_eq, eq_iff_toNat_eq _ '_', toNat_toLower, le_iff_toNat_le]
  show (97 ≤ _ ∧ _ ≤ 122) ∨ _ = 95 ↔ _ ∨ _ = 95
  split <;> omega

theorem continuesColumn_iff (c : Char) : continuesColumn c = true ↔ ContinuesName c := by
  rw [continuesColumn, Bool.or_eq_true, startsColumn_iff, ContinuesName]

theorem continuesColumn_eq_false_iff (c : Char) :
    continuesColumn c = false ↔ ¬ ContinuesName c := by
  rw [← continuesColumn_iff, Bool.not_eq_true]

theorem not_blank_of_continues {c : Char} (h : ContinuesName c) : isBlank c = false := by
  have hn : 65 ≤ c.toNat ∧ c.toNat ≤ 90 ∨ 97 ≤ c.toNat ∧ c.toNat ≤ 122 ∨ c.toNat = 0x17F ∨
      c.toNat = 0x212A ∨ c.toNat = 95 ∨ 48 ≤ c.toNat ∧ c.toNat ≤ 57 := by
    rcases h with (h | rfl | rfl | rfl) | h
    · have := (isAlpha_iff c).1 h
      omega
    · decide
    · decide
    · decide
    · have := (isDigit_iff c).1 h
      omega
  simp only [isBlank, Bool.or_eq_false_iff, Bool.and_eq_false_iff, decide_eq_false_iff_not,
    beq_eq_false_iff_ne, ne_eq]
  omega

theorem not_continues_of_blank {c : Char} (h : isBlank c = true) : ¬ ContinuesName c := by
  intro hc
  rw [not_blank_of_continues hc] at h
  cases h

theorem foldedLetter_eq_iff {letter : Char} (h : letter.toNat < 128) (c : Char) :
    foldedLetter c = letter ↔ Spells letter c := by
  have hlong : letter ≠ '\u017F' := by
    rintro rfl
    exact absurd h (by decide)
  have hkelvin : letter ≠ '\u212A' := by
    rintro rfl
    exact absurd h (by decide)
  unfold foldedLetter Spells
  by_cases hs : c = '\u017F'
  · subst hs
    simp [eq_comm, hlong]
  by_cases hk : c = '\u212A'
  · subst hk
    simp [eq_comm, hkelvin]
  simp [hs, hk]

/-- The letters of the two directions are small letters. -/
theorem small_asc_desc :
    (∀ letter ∈ ['a', 's', 'c'], 97 ≤ letter.toNat ∧ letter.toNat ≤ 122) ∧
      ∀ letter ∈ ['d', 'e', 's', 'c'], 97 ≤ letter.toNat ∧ letter.toNat ≤ 122 := by
  simp only [List.forall_mem_cons, List.not_mem_nil, false_imp_iff, implies_true, and_true]
  decide

theorem map_foldedLetter_eq_iff {word : List Char}
    (h : ∀ letter ∈ word, 97 ≤ letter.toNat ∧ letter.toNat ≤ 122) {cs : List Char} :
    cs.map foldedLetter = word ↔ List.Forall₂ Spells word cs := by
  induction word generalizing cs with
  | nil => simp
  | cons letter word ih =>
    obtain ⟨hletter, hword⟩ := List.forall_mem_cons.1 h
    cases cs with
    | nil => simp
    | cons c cs =>
      rw [List.map_cons, List.cons.injEq, List.forall₂_cons, foldedLetter_eq_iff (by omega),
        ih hword]

theorem isDirection_iff {cs : List Char} : isDirection cs = true ↔ IsDirection cs := by
  rw [isDirection, Bool.or_eq_true, beq_iff_eq, beq_iff_eq,
    map_foldedLetter_eq_iff small_asc_desc.1, map_foldedLetter_eq_iff small_asc_desc.2, IsDirection]

theorem Spells.startsName {letter c : Char} (h : Spells letter c)
    (hletter : 97 ≤ letter.toNat ∧ letter.toNat ≤ 122) : StartsName c := by
  rcases h with rfl | ⟨-, rfl⟩ | ⟨-, rfl⟩
  · rw [toNat_toLower] at hletter
    refine .inl ((isAlpha_iff c).2 ?_)
    split at hletter <;> omega
  · exact .inr (.inl rfl)
  · exact .inr (.inr (.inl rfl))

theorem IsDirection.startsName {cs : List Char} (h : IsDirection cs) :
    cs ≠ [] ∧ ∀ c ∈ cs, StartsName c := by
  have hword : ∀ {word cs : List Char}, List.Forall₂ Spells word cs →
      (∀ letter ∈ word, 97 ≤ letter.toNat ∧ letter.toNat ≤ 122) → ∀ c ∈ cs, StartsName c := by
    intro word cs hall hletters
    induction hall with
    | nil => simp
    | cons hc _ ih =>
      obtain ⟨hletter, hrest⟩ := List.forall_mem_cons.1 hletters
      exact List.forall_mem_cons.2 ⟨hc.startsName hletter, ih hrest⟩
  have hne : ∀ {letter : Char} {word cs : List Char}, List.Forall₂ Spells (letter :: word) cs →
      cs ≠ [] := by
    rintro letter word cs hall rfl
    cases hall
  rcases h with h | h
  · exact ⟨hne h, hword h small_asc_desc.1⟩
  · exact ⟨hne h, hword h small_asc_desc.2⟩

/-! ## Names and columns -/

theorem IsName.ne_nil {cs : List Char} (h : IsName cs) : cs ≠ [] := by
  obtain ⟨c, rest, rfl, -, -⟩ := h
  exact List.cons_ne_nil c rest

theorem IsName.continues {cs : List Char} (h : IsName cs) : ∀ c ∈ cs, ContinuesName c := by
  obtain ⟨c, rest, rfl, hc, hrest⟩ := h
  exact List.forall_mem_cons.2 ⟨.inl hc, hrest⟩

theorem afterName?_append {name rest : List Char} (h : IsName name)
    (hrest : ∀ c ∈ rest.head?, ¬ ContinuesName c) : afterName? (name ++ rest) = some rest := by
  obtain ⟨c, cs, rfl, hc, hcs⟩ := h
  have hdrop := (takeWhile_append_of_head (p := continuesColumn)
    (fun d hd => (continuesColumn_iff d).2 (hcs d hd))
    fun d hd => (continuesColumn_eq_false_iff d).2 (hrest d hd)).2
  rw [List.cons_append, afterName?, if_pos ((startsColumn_iff c).2 hc), hdrop]

theorem afterName?_sound {cs rest : List Char} (h : afterName? cs = some rest) :
    ∃ name, IsName name ∧ cs = name ++ rest := by
  cases cs with
  | nil => cases h
  | cons c cs =>
    rw [afterName?] at h
    split at h
    · next hc =>
      cases h
      refine ⟨c :: cs.takeWhile continuesColumn, ⟨c, _, rfl, (startsColumn_iff c).1 hc, ?_⟩, ?_⟩
      · exact fun d hd => (continuesColumn_iff d).1 (List.mem_takeWhile_imp hd)
      · rw [List.cons_append, List.takeWhile_append_dropWhile]
    · cases h

/-- A column ends where neither a name goes on nor a point follows. -/
theorem afterColumn?_append {column rest : List Char} (h : IsColumn column)
    (hrest : ∀ c ∈ rest.head?, ¬ ContinuesName c ∧ c ≠ '.') :
    afterColumn? (column ++ rest) = some rest := by
  have hname : ∀ c ∈ rest.head?, ¬ ContinuesName c := fun c hc => (hrest c hc).1
  unfold afterColumn?
  cases h with
  | plain h =>
    rw [afterName?_append h hname]
    split
    · next rest' heq =>
      cases heq
      exact absurd rfl (hrest '.' rfl).2
    · rfl
  | @qualified table name htable hname' =>
    have hpoint : ∀ c ∈ ('.' :: (name ++ rest)).head?, ¬ ContinuesName c := by
      intro c hc
      cases hc
      rw [← continuesColumn_iff]
      decide
    rw [List.append_assoc, List.cons_append, afterName?_append htable hpoint]
    exact afterName?_append hname' hname

theorem afterColumn?_sound {cs rest : List Char} (h : afterColumn? cs = some rest) :
    ∃ column, IsColumn column ∧ cs = column ++ rest := by
  unfold afterColumn? at h
  split at h
  · next rest' hfirst =>
    obtain ⟨table, htable, rfl⟩ := afterName?_sound hfirst
    obtain ⟨name, hname, rfl⟩ := afterName?_sound h
    exact ⟨table ++ '.' :: name, .qualified htable hname, by simp⟩
  · obtain ⟨name, hname, rfl⟩ := afterName?_sound h
    exact ⟨name, .plain hname, rfl⟩

theorem IsColumn.solid {column : List Char} (h : IsColumn column) :
    column ≠ [] ∧ ∀ c ∈ column, ContinuesName c ∨ c = '.' := by
  cases h with
  | plain h => exact ⟨h.ne_nil, fun c hc => .inl (h.continues c hc)⟩
  | qualified htable hname =>
    refine ⟨by simp, fun c hc => ?_⟩
    rcases List.mem_append.1 hc with hc | hc
    · exact .inl (htable.continues c hc)
    · rcases List.mem_cons.1 hc with rfl | hc
      · exact .inr rfl
      · exact .inl (hname.continues c hc)

/-! ## Items -/

theorem isColumnItem_iff {cs : List Char} : isColumnItem cs = true ↔ IsItem cs := by
  unfold isColumnItem
  constructor
  · intro h
    split at h
    · cases h
    · next hafter =>
      obtain ⟨column, hcolumn, rfl⟩ := afterColumn?_sound hafter
      rw [List.append_nil]
      exact .column hcolumn
    · next b rest hafter =>
      obtain ⟨column, hcolumn, rfl⟩ := afterColumn?_sound hafter
      obtain ⟨hb, hdirection⟩ := Bool.and_eq_true_iff.1 h
      have hblanks : AllBlank (b :: rest.takeWhile isBlank) :=
        List.forall_mem_cons.2 ⟨hb, fun c hc => List.mem_takeWhile_imp hc⟩
      have hitem := IsItem.directed hcolumn (List.cons_ne_nil b _) hblanks
        (isDirection_iff.1 hdirection)
      rwa [List.append_assoc, List.cons_append, List.takeWhile_append_dropWhile] at hitem
  · rintro (hcolumn | ⟨hcolumn, hne, hblanks, hdirection⟩)
    · next =>
      have hafter : afterColumn? (cs ++ []) = some [] := afterColumn?_append hcolumn (by simp)
      rw [List.append_nil] at hafter
      rw [hafter]
    · next column blanks direction =>
      obtain ⟨b, blanks, rfl⟩ := List.exists_cons_of_ne_nil hne
      obtain ⟨hb, hblanks⟩ := List.forall_mem_cons.1 hblanks
      have hafter : afterColumn? (column ++ (b :: (blanks ++ direction))) =
          some (b :: (blanks ++ direction)) := by
        refine afterColumn?_append hcolumn fun c hc => ?_
        cases hc
        refine ⟨not_continues_of_blank hb, ?_⟩
        rintro rfl
        exact absurd hb (by decide)
      have hhead : ∀ c ∈ direction.head?, isBlank c = false := fun c hc =>
        not_blank_of_continues (.inl (hdirection.startsName.2 c (List.mem_of_mem_head? hc)))
      rw [List.append_assoc, List.cons_append, hafter]
      show (isBlank b && isDirection ((blanks ++ direction).dropWhile isBlank)) = true
      rw [hb, Bool.true_and, (takeWhile_append_of_head hblanks hhead).2]
      exact isDirection_iff.2 hdirection

theorem IsItem.ne_nil {item : List Char} (h : IsItem item) : item ≠ [] := by
  cases h with
  | column h => exact h.solid.1
  | directed h => simp [h.solid.1]

theorem IsItem.plain {item : List Char} (h : IsItem item) : ∀ c ∈ item, c ≠ ',' ∧ IsPlain c := by
  have hcontinues : ∀ c, ContinuesName c → c ≠ ',' ∧ IsPlain c := by
    refine fun c hc => ⟨?_, .inl hc⟩
    rintro rfl
    rw [← continuesColumn_iff] at hc
    exact absurd hc (by decide)
  have hcolumn : ∀ {column : List Char}, IsColumn column → ∀ c ∈ column, c ≠ ',' ∧ IsPlain c := by
    intro column hcolumn c hc
    rcases hcolumn.solid.2 c hc with hc | rfl
    · exact hcontinues c hc
    · exact ⟨by decide, .inr (.inl rfl)⟩
  cases h with
  | column h => exact hcolumn h
  | directed h hne hblanks hdirection =>
    intro c hc
    rcases List.mem_append.1 hc with hc | hc
    · rcases List.mem_append.1 hc with hc | hc
      · exact hcolumn h c hc
      · refine ⟨?_, .inr (.inr (.inr (hblanks c hc)))⟩
        rintro rfl
        exact absurd (hblanks _ hc) (by decide)
    · exact hcontinues c (.inl (hdirection.startsName.2 c hc))

theorem IsItem.trimmed {item : List Char} (h : IsItem item) : IsTrimmed item := by
  have hcolumn : ∀ {column : List Char}, IsColumn column → IsTrimmed column := by
    refine fun hcolumn => .of_solid fun c hc => ?_
    rcases hcolumn.solid.2 c hc with hc | rfl
    · exact not_blank_of_continues hc
    · decide
  cases h with
  | column h => exact hcolumn h
  | directed h hne hblanks hdirection =>
    obtain ⟨hdirection_ne, hletters⟩ := hdirection.startsName
    exact (hcolumn h).append (.of_solid fun c hc => not_blank_of_continues (.inl (hletters c hc)))
      h.solid.1 hdirection_ne

/-! ## Lists -/

theorem IsColumnList.ne_nil {cs : List Char} (h : IsColumnList cs) : cs ≠ [] := by
  cases h with
  | one h => exact h.ne_nil
  | more h => simp

theorem IsColumnList.trimmed {cs : List Char} (h : IsColumnList cs) : IsTrimmed cs := by
  induction h with
  | one h => exact h.trimmed
  | @more item before after rest h _ _ hrest ih =>
    have hends := h.trimmed.append (m := before ++ ',' :: after) ih h.ne_nil hrest.ne_nil
    simpa using hends

theorem IsColumnList.plain {cs : List Char} (h : IsColumnList cs) : ∀ c ∈ cs, IsPlain c := by
  have hblank : ∀ {blanks : List Char}, AllBlank blanks → ∀ c ∈ blanks, IsPlain c :=
    fun hblanks c hc => .inr (.inr (.inr (hblanks c hc)))
  induction h with
  | one h => exact fun c hc => (h.plain c hc).2
  | more h hbefore hafter _ ih =>
    intro c hc
    simp only [List.mem_append, List.mem_cons] at hc
    rcases hc with (hc | hc) | rfl | hc | hc
    · exact (h.plain c hc).2
    · exact hblank hbefore c hc
    · exact .inr (.inr (.inl rfl))
    · exact hblank hafter c hc
    · exact ih c hc

theorem isColumnList_of_trims {cs t : List Char} (ht : IsColumnList t) (h : Trims cs t) :
    isColumnList cs = true := by
  have hcomma : ∀ {front item back : List Char}, AllBlank front → IsItem item → AllBlank back →
      ',' ∉ front ++ item ++ back := by
    intro front item back hfront hitem hback hmem
    simp only [List.mem_append] at hmem
    rcases hmem with (hmem | hmem) | hmem
    · exact absurd (hfront _ hmem) (by decide)
    · exact (hitem.plain _ hmem).1 rfl
    · exact absurd (hback _ hmem) (by decide)
  have hitem : ∀ {front item back : List Char}, AllBlank front → IsItem item → AllBlank back →
      isColumnItem (trimBlanks (front ++ item ++ back)) = true := by
    intro front item back hfront hitem hback
    have htrims : Trims (front ++ item ++ back) item :=
      ⟨hitem.trimmed, front, back, hfront, hback, rfl⟩
    rw [htrims.eq_trimBlanks]
    exact isColumnItem_iff.2 hitem
  obtain ⟨-, front, back, hfront, hback, rfl⟩ := h
  unfold isColumnList
  induction ht generalizing front with
  | one h =>
    rw [pieces_of_notMem (hcomma hfront h hback)]
    simpa using hitem hfront h hback
  | @more item before after rest h hbefore hafter hrest ih =>
    have hcs : front ++ (item ++ before ++ ',' :: (after ++ rest)) ++ back =
        (front ++ item ++ before) ++ ',' :: (after ++ rest ++ back) := by simp
    rw [hcs, pieces_append (hcomma hfront h hbefore), List.all_cons, hitem hfront h hbefore,
      Bool.true_and]
    exact ih after hafter

theorem exists_trims_of_isColumnList {cs : List Char} (h : isColumnList cs = true) :
    ∃ t, Trims cs t ∧ IsColumnList t := by
  unfold isColumnList at h
  -- On the length: what follows the first comma is shorter, and is a list again.
  induction hn : cs.length using Nat.strong_induction_on generalizing cs with
  | _ n ih =>
    rcases notMem_or_exists_first ',' cs with hcs | ⟨first, rest, hfirst, rfl⟩
    · rw [pieces_of_notMem hcs] at h
      have hitem : isColumnItem (trimBlanks cs) = true := by simpa using h
      exact ⟨_, trims_trimBlanks cs, .one (isColumnItem_iff.1 hitem)⟩
    · rw [pieces_append hfirst, List.all_cons, Bool.and_eq_true] at h
      obtain ⟨t, ht, hlist⟩ := ih rest.length (by simp [← hn]; omega) h.2 rfl
      have hitem := isColumnItem_iff.1 h.1
      obtain ⟨-, front, before, hfront, hbefore, hcut⟩ := trims_trimBlanks first
      obtain ⟨-, after, back, hafter, hback, hrest⟩ := ht
      have hmore := IsColumnList.more hitem hbefore hafter hlist
      refine ⟨_, ⟨hmore.trimmed, front, back, hfront, hback, ?_⟩, hmore⟩
      rw [hrest]
      conv_lhs => rw [hcut]
      simp

/-- A text is a column list between blanks exactly if it is recognised as one. -/
theorem isColumnList_iff {cs : List Char} :
    isColumnList cs = true ↔ ∃ t, Trims cs t ∧ IsColumnList t :=
  ⟨exists_trims_of_isColumnList, fun ⟨_, h, ht⟩ => isColumnList_of_trims ht h⟩

theorem isColumnList_iff_of_trimmed {t : List Char} (ht : IsTrimmed t) :
    isColumnList t = true ↔ IsColumnList t := by
  rw [isColumnList_iff]
  refine ⟨?_, fun h => ⟨t, ht.trims, h⟩⟩
  rintro ⟨t', htrims, hlist⟩
  rwa [← ht.trims.eq_trimBlanks, htrims.eq_trimBlanks]

/-! ## Orderings -/

/-- Where not every text is allowed, a text is an ordering exactly if it is a column list, blanks at
its ends aside. It is taken as it stands, also where every text is allowed, and holds nothing but
names, numbers, points, commas and blanks. -/
theorem parse_columnList (clause : String) :
    ∃ t : String, Trims clause.toList t.toList ∧
      (parse clause false = .ok none ↔ t = "") ∧
      (∀ o, parse clause false = .ok (some o) ↔ IsColumnList t.toList ∧ o = ⟨t⟩) ∧
      (∀ e, parse clause false = .error e ↔
        t ≠ "" ∧ ¬ IsColumnList t.toList ∧ e = .invalidArgument "orderBy" (.notColumnList t)) ∧
      (IsColumnList t.toList → parse t false = .ok (some ⟨t⟩) ∧ parse clause true = .ok (some ⟨t⟩) ∧
        ∀ c ∈ t.toList, IsPlain c) := by
  have htrims : Trims clause.toList (trimText clause).toList := by
    rw [trimText, String.toList_ofList]
    exact trims_trimBlanks _
  have hlist := isColumnList_iff_of_trimmed htrims.trimmed
  have hagain : trimText (trimText clause) = trimText clause := by
    rw [trimText, htrims.trimmed.trims.eq_trimBlanks, String.ofList_toList]
  have hne : IsColumnList (trimText clause).toList → trimText clause ≠ "" := by
    intro h hempty
    exact h.ne_nil (by rw [hempty]; rfl)
  refine ⟨trimText clause, htrims, ?_⟩
  by_cases hcolumns : IsColumnList (trimText clause).toList
  · have hparse : ∀ raw, parse clause raw = .ok (some ⟨trimText clause⟩) := by
      intro raw
      unfold parse
      rw [if_neg (hne hcolumns), hlist.2 hcolumns, Bool.not_true, Bool.and_false]
      rfl
    have hparse' : parse (trimText clause) false = .ok (some ⟨trimText clause⟩) := by
      unfold parse
      rw [hagain, if_neg (hne hcolumns), hlist.2 hcolumns]
      rfl
    refine ⟨?_, fun o => ?_, fun e => ?_, fun _ => ⟨hparse', hparse true, hcolumns.plain⟩⟩
    · simp [hparse, hne hcolumns]
    · simp [hparse, hcolumns, eq_comm]
    · simp [hparse, hcolumns]
  · have hlist' : isColumnList (trimText clause).toList = false := by
      rw [← Bool.not_eq_true, hlist]
      exact hcolumns
    by_cases hempty : trimText clause = ""
    · have hparse : parse clause false = .ok none := if_pos hempty
      have hnil : ¬ IsColumnList [] := fun h => h.ne_nil rfl
      simp [hparse, hempty, hnil]
    · have hparse : parse clause false =
          .error (.invalidArgument "orderBy" (.notColumnList (trimText clause))) := by
        unfold parse
        rw [if_neg hempty, hlist']
        rfl
      simp [hparse, hcolumns, hempty, eq_comm]

end OrderBy
end SelectionSql
