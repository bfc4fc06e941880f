import SelectionSql.Proofs.Json.Lists
import SelectionSql.Proofs.Json.Strings

/-!
# The grammar of JSON texts

* `Json.Member`, `Denotes`, `IsText`: members, values, and whole texts, for a notion `T` of strings.
* `Json.value_sound`, `value_append`: a value is read exactly if it follows the grammar and does not
  nest too deep.
* `Json.readWithin_eq_some_iff`, `parse?_eq_some_iff`, `readWritten_eq_some_iff`: the texts that are
  read, and as what.
-/
set_option autoImplicit false

namespace SelectionSql
namespace Json
open Reader

/-! ## The grammar -/

inductive Member (T : List Char → String → Prop) (P : List Char → Json → Prop) :
    List Char → String × Json → Prop
  | intro {name back front w : List Char} {s : String} {v : Json} (hname : T name s)
      (hback : IsGap back) (hfront : IsGap front) (h : P w v) :
      Member T P (name ++ back ++ ':' :: (front ++ w)) (s, v)

/-- A text denotes a value. -/
inductive Denotes (T : List Char → String → Prop) : List Char → Json → Prop
  | null : Denotes T "null".toList .null
  | true : Denotes T "true".toList (.bool true)
  | false : Denotes T "false".toList (.bool false)
  | number {w : List Char} (h : IsNumber w) : Denotes T w (.number (String.ofList w))
  | string {w : List Char} {s : String} (h : T w s) : Denotes T w (.string s)
  | array {w : List Char} {items : List Json} (h : Listed (Denotes T) w items) :
      Denotes T ('[' :: (w ++ [']'])) (.array items)
  | object {w : List Char} {members : List (String × Json)}
      (h : Listed (Member T (Denotes T)) w members) :
      Denotes T ('\x7b' :: (w ++ ['\x7d'])) (.object members)

/-- A whole text denotes a value, blanks around it aside. -/
inductive IsText (T : List Char → String → Prop) : List Char → Json → Prop
  | intro {front w back : List Char} {v : Json} (hfront : IsGap front) (h : Denotes T w v)
      (hback : IsGap back) : IsText T (front ++ w ++ back) v

/-! ## Depth -/

theorem nestingList_le_iff {items : List Json} {depth : Nat} :
    nestingList items ≤ depth ↔ ∀ v ∈ items, v.nesting ≤ depth := by
  induction items with
  | nil => simp [nestingList]
  | cons v items ih => rw [nestingList, Nat.max_le, ih, List.forall_mem_cons]

theorem nestingMembers_le_iff {members : List (String × Json)} {depth : Nat} :
    nestingMembers members ≤ depth ↔ ∀ m ∈ members, m.2.nesting ≤ depth := by
  induction members with
  | nil => simp [nestingMembers]
  | cons m members ih => rw [nestingMembers, Nat.max_le, ih, List.forall_mem_cons]

theorem nesting_array_le_iff {items : List Json} {depth : Nat} :
    (Json.array items).nesting ≤ depth + 1 ↔ ∀ v ∈ items, v.nesting ≤ depth := by
  rw [nesting, Nat.add_le_add_iff_right, nestingList_le_iff]

theorem nesting_object_le_iff {members : List (String × Json)} {depth : Nat} :
    (Json.object members).nesting ≤ depth + 1 ↔ ∀ m ∈ members, m.2.nesting ≤ depth := by
  rw [nesting, Nat.add_le_add_iff_right, nestingMembers_le_iff]

/-! ## Values -/

/-- A reader reads exactly the strings `T`, each of which starts with a quote. -/
structure ReadsStrings (text : Reader String) (T : List Char → String → Prop) : Prop where
  iff : ∀ {cs s rest}, text cs = some (s, rest) ↔ ∃ w, T w s ∧ cs = w ++ rest
  quoted : ∀ {w s}, T w s → ∃ w', w = '\x22' :: w'

theorem readsStrings_stringText : ReadsStrings stringText Quoted :=
  ⟨stringText_eq_some_iff, by rintro _ _ ⟨_⟩; exact ⟨_, rfl⟩⟩

theorem readsStrings_writtenText : ReadsStrings writtenText Raw :=
  ⟨writtenText_eq_some_iff, by rintro _ _ ⟨_⟩; exact ⟨_, rfl⟩⟩

/-- What starts a value without parts. -/
def StartsLeaf (c : Char) : Prop :=
  c = 'n' ∨ c = 't' ∨ c = 'f' ∨ c = '\x22' ∨ c = '-' ∨ c.isDigit = true

def StartsValue (c : Char) : Prop := StartsLeaf c ∨ c = '[' ∨ c = '\x7b'

instance : DecidablePred StartsLeaf := fun c =>
  inferInstanceAs <| Decidable <|
    c = 'n' ∨ c = 't' ∨ c = 'f' ∨ c = '\x22' ∨ c = '-' ∨ c.isDigit = true

instance : DecidablePred StartsValue := fun c =>
  inferInstanceAs (Decidable (StartsLeaf c ∨ c = '[' ∨ c = '\x7b'))

theorem StartsValue.not_blank {c : Char} (h : StartsValue c) : isJsonBlank c = false := by
  refine Bool.eq_false_iff.2 fun hblank => ?_
  simp only [isJsonBlank, Bool.or_eq_true, beq_iff_eq] at hblank
  rcases hblank with ((rfl | rfl) | rfl) | rfl <;> exact absurd h (by decide)

/-- The value of a member, behind its name. -/
def member (text : Reader String) (item : Reader Json) : Reader (String × Json) := do
  let name ← text
  blanks
  char ':'
  blanks
  let v ← item
  return (name, v)

theorem value_succ (text : Reader String) (depth : Nat) : value text (depth + 1) =
    (value.leaf text
      <|> (do
        char '['
        let items ← separated (value text depth)
        char ']'
        return .array items)
      <|> (do
        char '\x7b'
        let members ← separated (member text (value text depth))
        char '\x7d'
        return .object members)) := rfl

section
variable {text : Reader String} {T : List Char → String → Prop} (htext : ReadsStrings text T)
include htext

theorem ReadsStrings.eq_none {c : Char} (hc : c ≠ '\x22') (rest : List Char) :
    text (c :: rest) = none := by
  refine Option.eq_none_iff_forall_ne_some.2 fun x hx => ?_
  obtain ⟨w, hw, hcs⟩ := htext.iff.1 hx
  obtain ⟨w', rfl⟩ := htext.quoted hw
  exact hc (List.cons.inj hcs).1

theorem leaf_sound {cs rest : List Char} {v : Json} (h : value.leaf text cs = some (v, rest)) :
    ∃ c w, Denotes T (c :: w) v ∧ StartsLeaf c ∧ v.nesting = 0 ∧ cs = c :: (w ++ rest) := by
  simp only [value.leaf, orElse_eq_some_iff, bind_eq_some_iff, literal_eq_some_iff,
    pure_eq_some_iff, htext.iff] at h
  rcases h with ⟨-, mid, rfl, rfl, rfl⟩ | ⟨-, ⟨-, mid, rfl, rfl, rfl⟩ | ⟨-,
    ⟨-, mid, rfl, rfl, rfl⟩ | ⟨-, ⟨s, mid, ⟨w, hw, rfl⟩, rfl, rfl⟩ |
    ⟨-, w, mid, hnumber, rfl, rfl⟩⟩⟩⟩
  · exact ⟨'n', ['u', 'l', 'l'], .null, .inl rfl, rfl, rfl⟩
  · exact ⟨'t', ['r', 'u', 'e'], .true, .inr (.inl rfl), rfl, rfl⟩
  · exact ⟨'f', ['a', 'l', 's', 'e'], .false, .inr (.inr (.inl rfl)), rfl, rfl⟩
  · obtain ⟨w', rfl⟩ := htext.quoted hw
    exact ⟨_, w', .string hw, by simp [StartsLeaf], rfl, rfl⟩
  · obtain ⟨hw, rfl⟩ := numberLexeme_sound hnumber
    obtain ⟨c, w', rfl, hc⟩ := hw.head
    exact ⟨c, w', .number hw, .inr (.inr (.inr (.inr hc))), rfl, rfl⟩

theorem leaf_eq_none {c : Char} (hc : ¬ StartsLeaf c) (rest : List Char) :
    value.leaf text (c :: rest) = none := by
  refine Option.eq_none_iff_forall_ne_some.2 fun x hx => ?_
  obtain ⟨d, w, -, hd, -, hcs⟩ := leaf_sound htext hx
  rw [(List.cons.inj hcs).1] at hc
  exact hc hd

theorem leaf_append {w rest : List Char} {v : Json} (h : Denotes T w v) (hv : v.nesting = 0)
    (hrest : EndsNumber rest) : value.leaf text (w ++ rest) = some (v, rest) := by
  cases h with
  | null => rfl
  | true => rfl
  | false => rfl
  | @string w s h =>
    have hs : text (w ++ rest) = some (s, rest) := htext.iff.2 ⟨w, h, rfl⟩
    obtain ⟨w', rfl⟩ := htext.quoted h
    rw [value.leaf, orElse_of_none rfl, orElse_of_none rfl, orElse_of_none rfl,
      orElse_of_some (bind_of_some hs)]
  | @number w h =>
    have hnumber := h.numberLexeme_append hrest
    obtain ⟨c, w', rfl, hc⟩ := h.head
    have hhead : ∀ {d : Char}, d ≠ '-' → d.isDigit = false →
        ∀ e ∈ (c :: w' ++ rest).head?, e ≠ d := by
      intro d hminus hdigit e he
      cases he
      rintro rfl
      rcases hc with rfl | hc
      · exact hminus rfl
      · rw [hc] at hdigit
        cases hdigit
    have hstring : text (c :: w' ++ rest) = none :=
      htext.eq_none (hhead (by decide) (by decide) c rfl) _
    rw [value.leaf,
      orElse_of_none (bind_of_none (literal_of_head rfl (hhead (by decide) (by decide)))),
      orElse_of_none (bind_of_none (literal_of_head rfl (hhead (by decide) (by decide)))),
      orElse_of_none (bind_of_none (literal_of_head rfl (hhead (by decide) (by decide)))),
      orElse_of_none (bind_of_none hstring), bind_of_some hnumber]
    rfl
  | array h =>
    rw [nesting] at hv
    omega
  | object h =>
    rw [nesting] at hv
    omega

theorem member_sound {P : List Char → Json → Prop} {item : Reader Json}
    (hitem : ∀ {cs v rest}, item cs = some (v, rest) → ∃ w, P w v ∧ cs = w ++ rest)
    {cs rest : List Char} {m : String × Json} (h : member text item cs = some (m, rest)) :
    ∃ w, Member T P w m ∧ cs = w ++ rest := by
  simp only [member, bind_eq_some_iff, htext.iff, blanks_eq_some_iff, char_eq_some_iff,
    pure_eq_some_iff] at h
  obtain ⟨s, _, ⟨name, hname, rfl⟩, -, _, ⟨back, hback, rfl, -⟩, -, _, rfl, -, _,
    ⟨front, hfront, rfl, -⟩, v, _, hv, rfl, rfl⟩ := h
  obtain ⟨w, hw, rfl⟩ := hitem hv
  exact ⟨_, .intro hname hback hfront hw, by simp⟩

theorem readsItem_member {P : List Char → Json → Prop} {item : Reader Json}
    (hitem : ReadsItem item P) : ReadsItem (member text item) (Member T P) where
  append := by
    rintro w ⟨s, v⟩ rest ⟨hname, hback, hfront, hw⟩ hrest
    next name back front w =>
    have hs : text (name ++ (back ++ ':' :: (front ++ (w ++ rest)))) =
        some (s, back ++ ':' :: (front ++ (w ++ rest))) := htext.iff.2 ⟨name, hname, rfl⟩
    have hblanks : blanks (back ++ ':' :: (front ++ (w ++ rest))) =
        some ((), ':' :: (front ++ (w ++ rest))) := by
      refine blanks_append hback fun d hd => ?_
      cases hd
      decide
    have hcolon : char ':' (':' :: (front ++ (w ++ rest))) = some ((), front ++ (w ++ rest)) :=
      char_eq_some_iff.2 rfl
    have hcs : name ++ back ++ ':' :: (front ++ w) ++ rest =
        name ++ (back ++ ':' :: (front ++ (w ++ rest))) := by simp
    rw [hcs, member, bind_of_some hs, bind_of_some hblanks, bind_of_some hcolon,
      bind_of_some (hitem.blanks_append hw hfront rest), bind_of_some (hitem.append hw hrest)]
    rfl
  head := by
    rintro w ⟨s, v⟩ ⟨hname, -, -, -⟩
    obtain ⟨w', rfl⟩ := htext.quoted hname
    exact ⟨_, _, rfl, by decide⟩

theorem value_sound {depth : Nat} {cs rest : List Char} {v : Json}
    (h : value text depth cs = some (v, rest)) :
    ∃ w, (Denotes T w v ∧ v.nesting ≤ depth) ∧ cs = w ++ rest := by
  have hleaf : ∀ {depth cs rest v}, value.leaf text cs = some (v, rest) →
      ∃ w, (Denotes T w v ∧ v.nesting ≤ depth) ∧ cs = w ++ rest := by
    intro depth cs rest v h
    obtain ⟨c, w, hw, -, hv, rfl⟩ := leaf_sound htext h
    exact ⟨c :: w, ⟨hw, by omega⟩, rfl⟩
  -- On the depth: an array or an object leaves one level less to its parts.
  induction depth generalizing cs v rest with
  | zero => exact hleaf h
  | succ depth ih =>
    rw [value_succ, orElse_eq_some_iff, orElse_eq_some_iff] at h
    simp only [bind_eq_some_iff, char_eq_some_iff, pure_eq_some_iff] at h
    rcases h with h | ⟨-, ⟨_, _, rfl, items, _, hitems, _, _, rfl, rfl, rfl⟩ |
      ⟨-, _, _, rfl, members, _, hmembers, _, _, rfl, rfl, rfl⟩⟩
    · exact hleaf h
    · obtain ⟨w, hw, rfl⟩ := separated_sound ih hitems
      refine ⟨_, ⟨.array (hw.imp fun _ h => h.1), nesting_array_le_iff.2 fun v hv => ?_⟩, by simp⟩
      obtain ⟨-, ⟨-, hdepth⟩, -⟩ := hw.exists_of_mem v hv
      exact hdepth
    · obtain ⟨w, hw, rfl⟩ := separated_sound (member_sound htext ih) hmembers
      refine ⟨_, ⟨.object (hw.imp fun _ h => ?_), nesting_object_le_iff.2 fun m hm => ?_⟩, by simp⟩
      · obtain ⟨hname, hback, hfront, hv, -⟩ := h
        exact .intro hname hback hfront hv
      · obtain ⟨-, ⟨-, -, -, -, hdepth⟩, -⟩ := hw.exists_of_mem m hm
        exact hdepth

theorem Denotes.head {w : List Char} {v : Json} (h : Denotes T w v) :
    ∃ c w', w = c :: w' ∧ StartsValue c := by
  cases h with
  | null => exact ⟨'n', _, rfl, .inl (.inl rfl)⟩
  | true => exact ⟨'t', _, rfl, .inl (.inr (.inl rfl))⟩
  | false => exact ⟨'f', _, rfl, .inl (.inr (.inr (.inl rfl)))⟩
  | number h =>
    obtain ⟨c, w', rfl, hc⟩ := h.head
    exact ⟨c, w', rfl, .inl (.inr (.inr (.inr (.inr hc))))⟩
  | string h =>
    obtain ⟨w', rfl⟩ := htext.quoted h
    exact ⟨_, w', rfl, .inl (.inr (.inr (.inr (.inl rfl))))⟩
  | array h => exact ⟨_, _, rfl, .inr (.inl rfl)⟩
  | object h => exact ⟨_, _, rfl, .inr (.inr rfl)⟩

theorem value_eq_none {depth : Nat} {c : Char} (hc : ¬ StartsValue c) (rest : List Char) :
    value text depth (c :: rest) = none := by
  refine Option.eq_none_iff_forall_ne_some.2 fun x hx => ?_
  obtain ⟨w, ⟨hw, -⟩, hcs⟩ := value_sound htext hx
  obtain ⟨d, w', rfl, hd⟩ := hw.head htext
  rw [(List.cons.inj hcs).1] at hc
  exact hc hd

theorem value_append {depth : Nat} {w rest : List Char} {v : Json} (h : Denotes T w v)
    (hv : v.nesting ≤ depth) (hrest : EndsNumber rest) :
    value text depth (w ++ rest) = some (v, rest) := by
  induction depth generalizing w v rest with
  | zero => exact leaf_append htext h (Nat.le_zero.1 hv) hrest
  | succ depth ih =>
    have hitem : ReadsItem (value text depth) fun w v => Denotes T w v ∧ v.nesting ≤ depth := by
      refine ⟨fun hw hrest => ih hw.1 hw.2 hrest, fun hw => ?_⟩
      obtain ⟨c, w', hw', hc⟩ := hw.1.head htext
      exact ⟨c, w', hw', hc.not_blank⟩
    -- A value without parts is a leaf at every depth; else its bracket rules the leaf out.
    by_cases hleaf : v.nesting = 0
    · rw [value_succ, orElse_of_some (leaf_append htext h hleaf hrest)]
    cases h with
    | null => exact absurd rfl hleaf
    | true => exact absurd rfl hleaf
    | false => exact absurd rfl hleaf
    | number h => exact absurd rfl hleaf
    | string h => exact absurd rfl hleaf
    | @array w items h =>
      have hdepth := nesting_array_le_iff.1 hv
      have hitems : separated (value text depth) (w ++ ']' :: rest) = some (items, ']' :: rest) :=
        (h.imp fun hmem hw => ⟨hw, hdepth _ hmem⟩).separated_append hitem (.inr (.inl rfl))
          (by decide) (value_eq_none htext (by decide) rest)
      have hcs : '[' :: (w ++ [']']) ++ rest = '[' :: (w ++ ']' :: rest) := by simp
      rw [hcs, value_succ, orElse_of_none (leaf_eq_none htext (by decide) _)]
      refine orElse_of_some ?_
      rw [bind_of_some (char_cons _ _), bind_of_some hitems,
        bind_of_some (char_cons _ _)]
      rfl
    | @object w members h =>
      have hdepth := nesting_object_le_iff.1 hv
      have hlisted : Listed (Member T fun w v => Denotes T w v ∧ v.nesting ≤ depth) w members := by
        refine h.imp fun hmem hw => ?_
        obtain ⟨hname, hback, hfront, hw⟩ := hw
        exact .intro hname hback hfront ⟨hw, hdepth _ hmem⟩
      have hmembers : separated (member text (value text depth)) (w ++ '\x7d' :: rest) =
          some (members, '\x7d' :: rest) :=
        hlisted.separated_append (readsItem_member htext hitem) (.inr (.inr rfl)) (by decide)
          (bind_of_none (htext.eq_none (by decide) rest))
      have hcs : '\x7b' :: (w ++ ['\x7d']) ++ rest = '\x7b' :: (w ++ '\x7d' :: rest) := by simp
      have hbracket : char '[' ('\x7b' :: (w ++ '\x7d' :: rest)) = none :=
        char_of_head fun c hc => by cases hc; decide
      rw [hcs, value_succ, orElse_of_none (leaf_eq_none htext (by decide) _),
        orElse_of_none (bind_of_none hbracket), bind_of_some (char_cons _ _),
        bind_of_some hmembers, bind_of_some (char_cons _ _)]
      rfl

/-! ## Whole texts -/

theorem readWithin_eq_some_iff {depth : Nat} {cs : List Char} {v : Json} :
    readWithin text depth cs = some v ↔ IsText T cs v ∧ v.nesting ≤ depth := by
  have hrun : readWithin text depth cs = some v ↔
      (do blanks; let v ← value text depth; blanks; return v : Reader Json) cs = some (v, []) := by
    rw [readWithin, run]
    split
    · next a ha => rw [ha]; simp
    · next hne =>
      refine ⟨nofun, fun h => absurd h (hne v)⟩
  rw [hrun]
  constructor
  · intro h
    simp only [bind_eq_some_iff, blanks_eq_some_iff, pure_eq_some_iff] at h
    obtain ⟨-, _, ⟨front, hfront, rfl, -⟩, v', _, hv, -, _, ⟨back, hback, rfl, -⟩, rfl, rfl⟩ := h
    obtain ⟨w, ⟨hw, hdepth⟩, rfl⟩ := value_sound htext hv
    have htext := IsText.intro hfront hw hback
    exact ⟨by simpa using htext, hdepth⟩
  · rintro ⟨⟨hfront, hw, hback⟩, hdepth⟩
    next front w back =>
    have hends : EndsNumber (back ++ []) := endsNumber_of_gap hback nofun
    have hlast : blanks (back ++ []) = some ((), []) := blanks_append hback nofun
    rw [List.append_nil] at hends hlast
    have hfirst : blanks (front ++ (w ++ back)) = some ((), w ++ back) := by
      obtain ⟨c, w', rfl, hc⟩ := hw.head htext
      refine blanks_append hfront fun d hd => ?_
      cases hd
      exact hc.not_blank
    rw [List.append_assoc, bind_of_some hfirst, bind_of_some (value_append htext hw hdepth hends),
      bind_of_some hlast]
    rfl

end

/-- No text nests deeper than it is long. -/
theorem Denotes.nesting_le {T : List Char → String → Prop} {w : List Char} {v : Json}
    (h : Denotes T w v) : v.nesting ≤ w.length := by
  -- Not on the derivation, which holds others in its lists, but on the length: parts are shorter.
  induction hn : w.length using Nat.strong_induction_on generalizing w v with
  | _ n ih =>
    cases h with
    | null => exact Nat.zero_le _
    | true => exact Nat.zero_le _
    | false => exact Nat.zero_le _
    | number h => exact Nat.zero_le _
    | string h => exact Nat.zero_le _
    | @array w items h =>
      obtain ⟨n, rfl⟩ : ∃ k, n = k + 1 := ⟨_, hn.symm.trans List.length_cons⟩
      refine nesting_array_le_iff.2 fun v hv => ?_
      obtain ⟨w', hw', hlength⟩ := h.exists_of_mem v hv
      simp only [List.length_cons, List.length_append, List.length_nil] at hn
      have := ih w'.length (by omega) hw' rfl
      omega
    | @object w members h =>
      obtain ⟨n, rfl⟩ : ∃ k, n = k + 1 := ⟨_, hn.symm.trans List.length_cons⟩
      refine nesting_object_le_iff.2 fun m hm => ?_
      obtain ⟨w', hw', hlength⟩ := h.exists_of_mem m hm
      obtain ⟨-, -, -, hvalue⟩ := hw'
      next name back front w' s v =>
      simp only [List.length_cons, List.length_append, List.length_nil] at hn hlength
      have := ih w'.length (by omega) hvalue rfl
      dsimp only
      omega

theorem IsText.nesting_le {T : List Char → String → Prop} {cs : List Char} {v : Json}
    (h : IsText T cs v) : v.nesting ≤ cs.length := by
  cases h with
  | intro hfront hw hback =>
    have hdepth := hw.nesting_le
    simp only [List.length_append]
    omega

theorem parse?_eq_some_iff {text : String} {v : Json} : parse? text = some v ↔
    IsText Quoted text.toList v ∧ v.nesting ≤ maxDepth ∧ v.inRange = true := by
  simp only [parse?, Option.bind_eq_bind, Option.bind_eq_some_iff,
    readWithin_eq_some_iff readsStrings_stringText]
  constructor
  · rintro ⟨u, ⟨htext, hdepth⟩, h⟩
    split at h
    · next hrange =>
      cases h
      exact ⟨htext, hdepth, hrange⟩
    · cases h
  · rintro ⟨htext, hdepth, hrange⟩
    exact ⟨v, ⟨htext, hdepth⟩, if_pos hrange⟩

/-- Bytes as characters of the same number. -/
def byteChars (bytes : List UInt8) : List Char := bytes.map fun b => Char.ofNat b.toNat

theorem readWritten_eq_some_iff {bytes : List UInt8} {v : Json} :
    readWritten bytes = some v ↔ IsText Raw (byteChars bytes) v := by
  rw [readWritten, readWithin_eq_some_iff readsStrings_writtenText]
  refine and_iff_left_of_imp fun h => ?_
  have hlength : (byteChars bytes).length = bytes.length := List.length_map _
  rw [← hlength]
  exact IsText.nesting_le h

end Json
end SelectionSql
