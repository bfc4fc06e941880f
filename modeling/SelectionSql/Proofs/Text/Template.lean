import Mathlib.Data.List.Basic
import Mathlib.Data.List.Find
import SelectionSql.Proofs.Text.Cutting
import SelectionSql.Settings.Basic

/-!
# Texts with references, read once from the left

* `Template.Segment`, `Segment.Stands`: a character or a reference as it is written, and in front of
  which rests it may stand.
* `Template.Reading`: a text as its segments in order; `Reading.exists_reading`, `Reading.unique`:
  there is exactly one.
* `Template.Reading.ofChars_eq`: the pieces of a text are those of its reading.
* `Template.Joins`, `Reading.append`: two texts one behind the other.
* `Template.expand_of_reading`, `Settings.expand_one_pass`: a text with the values of its variables.
-/
set_option autoImplicit false

namespace SelectionSql
namespace Template

/-! ## The grammar -/

/-- A part of a text. A name stands in braces, of which the second one may be missing, or it is
bare. -/
inductive Segment where
  | plain (c : Char)
  | closed (name : List Char)
  | unclosed (name : List Char)
  | bare (name : List Char)
deriving DecidableEq

namespace Segment

def written : Segment → List Char
  | .plain c => [c]
  | .closed name => '$' :: '\x7b' :: (name ++ ['\x7d'])
  | .unclosed name => '$' :: '\x7b' :: name
  | .bare name => '$' :: name

/-- The name that is referred to. -/
def reference? : Segment → Option String
  | .plain _ => none
  | .closed name => some (String.ofList name)
  | .unclosed name => some (String.ofList name)
  | .bare name => some (String.ofList name)

/-- What the segment stands for; a variable without a value stands for nothing. -/
def value (env : Environment) : Segment → List Char
  | .plain c => [c]
  | .closed name => ((env (String.ofList name)).getD "").toList
  | .unclosed name => ((env (String.ofList name)).getD "").toList
  | .bare name => ((env (String.ofList name)).getD "").toList

end Segment

def StartsName (c : Char) : Prop := isAlphabetic c = true ∨ c = '_'

def ContinuesName (c : Char) : Prop := isAlphanumeric c = true ∨ c = '_'

instance (c : Char) : Decidable (StartsName c) := inferInstanceAs (Decidable (_ ∨ _))

instance (c : Char) : Decidable (ContinuesName c) := inferInstanceAs (Decidable (_ ∨ _))

/-- A segment may stand in front of a rest: a dollar sign by itself where no name follows, a name in
braces up to the first closing one, a bare name as long as it can be. -/
inductive Segment.Stands (rest : List Char) : Segment → Prop
  | plain {c : Char} (h : c ≠ '$') : Stands rest (.plain c)
  | dollar (h : ∀ c ∈ rest.head?, c ≠ '\x7b' ∧ ¬ StartsName c) : Stands rest (.plain '$')
  | closed {name : List Char} (h : '\x7d' ∉ name) : Stands rest (.closed name)
  | unclosed {name : List Char} (h : '\x7d' ∉ name) (hrest : rest = []) :
      Stands rest (.unclosed name)
  | bare {c : Char} {name : List Char} (hfirst : StartsName c) (hname : ∀ d ∈ name, ContinuesName d)
      (hrest : ∀ d ∈ rest.head?, ¬ ContinuesName d) : Stands rest (.bare (c :: name))

/-- A text read from the left. -/
inductive Reading : List Char → List Segment → Prop
  | nil : Reading [] []
  | cons {s : Segment} {rest : List Char} {segments : List Segment} (hs : s.Stands rest)
      (hrest : Reading rest segments) : Reading (s.written ++ rest) (s :: segments)

/-- The names that are referred to, in order. -/
def names (segments : List Segment) : List String := segments.filterMap Segment.reference?

/-! ## Names -/

theorem startsName_iff {c : Char} : startsName c = true ↔ StartsName c := by
  simp [startsName, StartsName]

theorem continuesName_iff {c : Char} : continuesName c = true ↔ ContinuesName c := by
  simp [continuesName, ContinuesName]

theorem not_startsName_brace : ¬ StartsName '\x7b' := by
  decide +kernel

theorem all_ne_of_notMem {name : List Char} (h : '\x7d' ∉ name) :
    ∀ c ∈ name, decide (c ≠ '\x7d') = true := fun _ hc =>
  decide_eq_true fun heq => h (heq ▸ hc)

/-- A name in braces ends at the first closing one. -/
theorem cut_closed {name : List Char} (h : '\x7d' ∉ name) (rest : List Char) :
    (name ++ '\x7d' :: rest).takeWhile (· ≠ '\x7d') = name ∧
      ((name ++ '\x7d' :: rest).dropWhile (· ≠ '\x7d')).drop 1 = rest := by
  have hbrace : ∀ c ∈ ('\x7d' :: rest).head?, decide (c ≠ '\x7d') = false := by simp
  obtain ⟨htake, hdrop⟩ := takeWhile_append_of_head (all_ne_of_notMem h) hbrace
  exact ⟨htake, by rw [hdrop]; rfl⟩

theorem cut_unclosed {name : List Char} (h : '\x7d' ∉ name) :
    name.takeWhile (· ≠ '\x7d') = name ∧ name.dropWhile (· ≠ '\x7d') = [] :=
  ⟨List.takeWhile_eq_self_iff.2 (all_ne_of_notMem h),
    List.dropWhile_eq_nil_iff.2 (all_ne_of_notMem h)⟩

theorem cut_bare {name rest : List Char} (hname : ∀ d ∈ name, ContinuesName d)
    (hrest : ∀ d ∈ rest.head?, ¬ ContinuesName d) :
    (name ++ rest).takeWhile continuesName = name ∧
      (name ++ rest).dropWhile continuesName = rest :=
  takeWhile_append_of_head (fun d hd => continuesName_iff.2 (hname d hd)) fun d hd =>
    Bool.eq_false_iff.2 fun h => hrest d hd (continuesName_iff.1 h)

/-! ## One reading -/

namespace Segment

/-- The segment that a text starts with. -/
def first : List Char → Segment
  | [] => .plain '$'
  | '$' :: '\x7b' :: rest =>
    if '\x7d' ∈ rest then .closed (rest.takeWhile (· ≠ '\x7d')) else .unclosed rest
  | '$' :: c :: rest =>
    if startsName c then .bare (c :: rest.takeWhile continuesName) else .plain '$'
  | c :: _ => .plain c

def piece : Segment → Piece
  | .plain c => .char c
  | .closed name => .reference (String.ofList name)
  | .unclosed name => .reference (String.ofList name)
  | .bare name => .reference (String.ofList name)

theorem written_closed (name rest : List Char) :
    written (.closed name) ++ rest = '$' :: '\x7b' :: (name ++ '\x7d' :: rest) := by
  simp [written]

theorem Stands.first_eq {s : Segment} {rest : List Char} (h : s.Stands rest) :
    first (s.written ++ rest) = s := by
  cases h with
  | @plain c h => exact first.eq_4 c rest (fun _ hc _ => h hc) fun _ _ hc _ => h hc
  | dollar h =>
    cases rest with
    | nil => rfl
    | cons c rest =>
      obtain ⟨hbrace, hname⟩ := h c rfl
      exact (first.eq_3 c rest hbrace).trans (if_neg fun hc => hname (startsName_iff.1 hc))
  | @closed name h =>
    have hmem : '\x7d' ∈ name ++ '\x7d' :: rest := List.mem_append_right name List.mem_cons_self
    rw [written_closed, first, if_pos hmem, (cut_closed h rest).1]
  | @unclosed name h hrest =>
    rw [hrest, List.append_nil, written, first, if_neg h]
  | @bare c name hfirst hname hrest =>
    have hc : c ≠ '\x7b' := fun heq => not_startsName_brace (heq ▸ hfirst)
    show first ('$' :: c :: (name ++ rest)) = _
    rw [first.eq_3 c _ hc, if_pos (startsName_iff.2 hfirst), (cut_bare hname hrest).1]

/-- What a text starts with, and so also what follows, is determined by the text. -/
theorem Stands.unique {s s' : Segment} {rest rest' : List Char} (h : s.Stands rest)
    (h' : s'.Stands rest') (heq : s.written ++ rest = s'.written ++ rest') :
    s = s' ∧ rest = rest' := by
  have hs : s = s' := by rw [← h.first_eq, heq, h'.first_eq]
  subst hs
  exact ⟨rfl, List.append_cancel_left heq⟩

theorem written_ne_nil (s : Segment) : s.written ≠ [] := by
  cases s <;> exact List.cons_ne_nil _ _

theorem Stands.ofChars_eq {s : Segment} {rest : List Char} (h : s.Stands rest) :
    ofChars (s.written ++ rest) = s.piece :: ofChars rest := by
  cases h with
  | @plain c h => exact ofChars.eq_4 c rest (fun _ hc _ => h hc) fun _ _ hc _ => h hc
  | dollar h =>
    cases rest with
    | nil => exact ofChars.eq_4 '$' [] (by simp) (by simp)
    | cons c rest =>
      obtain ⟨hbrace, hname⟩ := h c rfl
      exact (ofChars.eq_3 c rest hbrace).trans (if_neg fun hc => hname (startsName_iff.1 hc))
  | @closed name h =>
    obtain ⟨htake, hdrop⟩ := cut_closed h rest
    rw [written_closed, ofChars.eq_2, htake, hdrop]
    rfl
  | @unclosed name h hrest =>
    obtain ⟨htake, hdrop⟩ := cut_unclosed h
    rw [hrest, List.append_nil, written, ofChars.eq_2, htake, hdrop]
    rfl
  | @bare c name hfirst hname hrest =>
    have hc : c ≠ '\x7b' := fun heq => not_startsName_brace (heq ▸ hfirst)
    obtain ⟨htake, hdrop⟩ := cut_bare hname hrest
    show ofChars ('$' :: c :: (name ++ rest)) = _
    rw [ofChars.eq_3 c _ hc, if_pos (startsName_iff.2 hfirst), htake, hdrop]
    rfl

end Segment

namespace Reading

theorem unique {cs : List Char} {segments segments' : List Segment} (h : Reading cs segments)
    (h' : Reading cs segments') : segments' = segments := by
  induction h generalizing segments' with
  | nil =>
    generalize hcs : ([] : List Char) = cs at h'
    cases h' with
    | nil => rfl
    | @cons s rest _ _ _ =>
      exact absurd (List.append_eq_nil_iff.1 hcs.symm).1 s.written_ne_nil
  | @cons s rest segments hs hrest ih =>
    generalize hcs : s.written ++ rest = cs at h'
    cases h' with
    | nil => exact absurd (List.append_eq_nil_iff.1 hcs).1 s.written_ne_nil
    | cons hs' hrest' =>
      obtain ⟨rfl, rfl⟩ := hs.unique hs' hcs
      rw [ih hrest']

theorem ofChars_eq {cs : List Char} {segments : List Segment} (h : Reading cs segments) :
    ofChars cs = segments.map Segment.piece := by
  induction h with
  | nil => exact ofChars.eq_1
  | cons hs _ ih => rw [hs.ofChars_eq, ih, List.map_cons]

theorem flatMap_written {cs : List Char} {segments : List Segment} (h : Reading cs segments) :
    segments.flatMap Segment.written = cs := by
  induction h with
  | nil => rfl
  | cons _ _ ih => rw [List.flatMap_cons, ih]

theorem exists_reading (cs : List Char) : ∃ segments, Reading cs segments := by
  induction cs using ofChars.induct with
  | case1 => exact ⟨[], .nil⟩
  | case2 rest ih =>
    rcases notMem_or_exists_first '\x7d' rest with h | ⟨name, rest, h, rfl⟩
    · have hread := cons (.unclosed h rfl) nil
      rw [List.append_nil] at hread
      exact ⟨_, hread⟩
    · obtain ⟨segments, hrest⟩ := ih
      rw [(cut_closed h rest).2] at hrest
      have hread := cons (.closed h) hrest
      rw [Segment.written_closed] at hread
      exact ⟨_, hread⟩
  | case3 c rest hc h ih =>
    obtain ⟨segments, hrest⟩ := ih
    have hname : ∀ d ∈ rest.takeWhile continuesName, ContinuesName d := fun d hd =>
      continuesName_iff.1 (List.mem_takeWhile_imp hd)
    have hend : ∀ d ∈ (rest.dropWhile continuesName).head?, ¬ ContinuesName d := fun d hd hd' =>
      Bool.false_ne_true ((not_of_mem_head?_dropWhile hd).symm.trans (continuesName_iff.2 hd'))
    have hread := cons (.bare (startsName_iff.1 h) hname hend) hrest
    rw [Segment.written, List.cons_append, List.cons_append,
      List.takeWhile_append_dropWhile] at hread
    exact ⟨_, hread⟩
  | case4 c rest hc h ih =>
    obtain ⟨segments, hrest⟩ := ih
    have hdollar : ∀ d ∈ (c :: rest).head?, d ≠ '\x7b' ∧ ¬ StartsName d := by
      rintro d hd
      cases hd
      exact ⟨hc, fun hstart => h (startsName_iff.2 hstart)⟩
    exact ⟨_, cons (.dollar hdollar) hrest⟩
  | case5 c rest h h' ih =>
    obtain ⟨segments, hrest⟩ := ih
    by_cases hc : c = '$'
    · subst hc
      -- Nothing follows the dollar sign.
      have hnil : rest = [] := by
        cases rest with
        | nil => rfl
        | cons d rest => exact absurd rfl fun hrest => h' d rest rfl hrest
      subst hnil
      exact ⟨_, cons (.dollar (by simp)) hrest⟩
    · exact ⟨_, cons (.plain hc) hrest⟩

end Reading

/-! ## Texts one behind the other -/

/-- Between a text and one that follows it no reference stands, and none comes about: a dollar sign
at the end does not start one, a name in braces is closed, a bare name does not go on. -/
structure Joins (front : List Segment) (a b : List Char) : Prop where
  dollar : a.getLast? = some '$' → ∀ c ∈ b.head?, c ≠ '\x7b' ∧ ¬ StartsName c
  unclosed : ∀ name, front.getLast? = some (.unclosed name) → b = []
  bare : ∀ name, front.getLast? = some (.bare name) → ∀ c ∈ b.head?, ¬ ContinuesName c

theorem Segment.Stands.append {s : Segment} {rest b : List Char} (h : s.Stands rest)
    (hlast : rest = [] → Joins [s] s.written b) : s.Stands (rest ++ b) := by
  cases rest with
  | nil =>
    obtain ⟨hdollar, hunclosed, hbare⟩ := hlast rfl
    cases h with
    | plain h => exact .plain h
    | dollar h => exact .dollar (hdollar rfl)
    | closed h => exact .closed h
    | unclosed h hrest => exact .unclosed h (hunclosed _ rfl)
    | bare hfirst hname hrest => exact .bare hfirst hname (hbare _ rfl)
  | cons c rest =>
    cases h with
    | plain h => exact .plain h
    | dollar h => exact .dollar h
    | closed h => exact .closed h
    | unclosed h hrest => exact absurd hrest (List.cons_ne_nil c rest)
    | bare hfirst hname hrest => exact .bare hfirst hname hrest

theorem getLast?_append_of_eq_some {α : Type} {x : α} {l : List α} (h : l.getLast? = some x)
    (front : List α) : (front ++ l).getLast? = some x := by
  rw [List.getLast?_append, h, Option.some_or]

theorem Reading.append {a b : List Char} {front back : List Segment} (ha : Reading a front)
    (hb : Reading b back) (h : Joins front a b) : Reading (a ++ b) (front ++ back) := by
  induction ha with
  | nil => exact hb
  | @cons s rest segments hs hrest ih =>
    rw [List.append_assoc]
    refine .cons (hs.append fun hnil => ?_) (ih ⟨fun hlast => ?_, fun name hlast => ?_,
      fun name hlast => ?_⟩)
    · subst hnil
      rw [Reading.nil.unique hrest, List.append_nil] at h
      exact h
    · exact h.dollar (getLast?_append_of_eq_some hlast s.written)
    · exact h.unclosed name (getLast?_append_of_eq_some hlast [s])
    · exact h.bare name (getLast?_append_of_eq_some hlast [s])

/-! ## Values -/

/-- The first name that is referred to and has no value. -/
def firstMissing? (env : Environment) (segments : List Segment) : Option String :=
  (names segments).find? fun name => (env name).isNone

theorem firstMissing?_append (env : Environment) (front back : List Segment) :
    firstMissing? env (front ++ back) =
      (firstMissing? env front).or (firstMissing? env back) := by
  rw [firstMissing?, names, List.filterMap_append, List.find?_append]
  rfl

theorem firstMissing?_cons (env : Environment) (s : Segment) (rest : List Segment) :
    firstMissing? env (s :: rest) =
      (s.reference?.filter fun name => (env name).isNone).or (firstMissing? env rest) := by
  rw [firstMissing?, names, List.filterMap_cons]
  cases s.reference? with
  | none => rfl
  | some name =>
    show (name :: names rest).find? _ = _
    rw [List.find?_cons]
    cases h : (env name).isNone <;> simp [h, firstMissing?, Option.filter_some]

theorem Segment.piece_value (env : Environment) (s : Segment) :
    s.piece.value env = match s.reference?.filter fun name => (env name).isNone with
      | some name => .error name
      | none => .ok (s.value env) := by
  have hreference : ∀ name, Piece.value env (.reference name) =
      match (some name).filter fun name => (env name).isNone with
      | some name => .error name
      | none => .ok ((env name).getD "").toList := by
    intro name
    cases h : env name <;> simp [Piece.value, h, Option.filter_some]
  cases s with
  | plain c => rfl
  | closed name => exact hreference _
  | unclosed name => exact hreference _
  | bare name => exact hreference _

theorem fillPieces_map_piece (env : Environment) (segments : List Segment) :
    fillPieces env (segments.map Segment.piece) =
      match firstMissing? env segments with
      | some name => .error name
      | none => .ok (segments.flatMap (Segment.value env)) := by
  induction segments with
  | nil => rfl
  | cons s rest ih =>
    rw [List.map_cons, fillPieces, ih, s.piece_value, firstMissing?_cons, List.flatMap_cons]
    cases s.reference?.filter fun name => (env name).isNone with
    | some name => rfl
    | none => cases firstMissing? env rest <;> rfl

/-- As soon as a variable has no value there is no text; values are put in as they are. -/
theorem expand_of_reading (env : Environment) {text : String} {segments : List Segment}
    (h : Reading text.toList segments) :
    Settings.expand env text = match firstMissing? env segments with
      | some name => .error (.missingVariable name)
      | none => .ok (String.ofList (segments.flatMap (Segment.value env))) := by
  rw [Settings.expand, fill, ofText, h.ofChars_eq, fillPieces_map_piece]
  cases firstMissing? env segments <;> rfl

/-- Only the values of names that are referred to count. -/
theorem expand_congr {env env' : Environment} {text : String} {segments : List Segment}
    (h : Reading text.toList segments) (henv : ∀ name ∈ names segments, env' name = env name) :
    Settings.expand env' text = Settings.expand env text := by
  have hmissing : firstMissing? env' segments = firstMissing? env segments :=
    List.find?_congr fun name hname => by rw [henv name hname]
  have hvalues : segments.flatMap (Segment.value env') = segments.flatMap (Segment.value env) := by
    refine List.flatMap_congr fun s hs => ?_
    have hs' : ∀ name, s.reference? = some name → env' name = env name := fun name hname =>
      henv name (List.mem_filterMap.2 ⟨s, hs, hname⟩)
    cases s with
    | plain c => rfl
    | closed name => rw [Segment.value, Segment.value, hs' _ rfl]
    | unclosed name => rw [Segment.value, Segment.value, hs' _ rfl]
    | bare name => rw [Segment.value, Segment.value, hs' _ rfl]
  rw [expand_of_reading env' h, expand_of_reading env h, hmissing, hvalues]

theorem value_eq_written_of_names_eq_nil {segments : List Segment} (h : names segments = [])
    (env : Environment) : segments.flatMap (Segment.value env) =
      segments.flatMap Segment.written := by
  refine List.flatMap_congr fun s hs => ?_
  have hs' : s.reference? = none := List.filterMap_eq_nil_iff.1 h s hs
  cases s with
  | plain c => rfl
  | closed name => cases hs'
  | unclosed name => cases hs'
  | bare name => cases hs'

theorem expand_append {env : Environment} {a b : String} {front : List Segment}
    (ha : Reading a.toList front) (h : Joins front a.toList b.toList) :
    Settings.expand env (a ++ b) = do
      let front ← Settings.expand env a
      let back ← Settings.expand env b
      return front ++ back := by
  obtain ⟨back, hb⟩ := Reading.exists_reading b.toList
  have hab : Reading (a ++ b).toList (front ++ back) := by
    rw [String.toList_append]
    exact ha.append hb h
  rw [expand_of_reading env ha, expand_of_reading env hb, expand_of_reading env hab,
    firstMissing?_append, List.flatMap_append, String.ofList_append]
  cases firstMissing? env front with
  | some name => rfl
  | none => cases firstMissing? env back <;> rfl

end Template

open Template

/-- A text has one reading, and it is expanded as that says: to the values of its segments, or to
the first variable without a value. So a text without references stays as it is; only the names in
the text itself count, none in the values; and two texts are expanded one behind the other as they
are by themselves. -/
theorem Settings.expand_one_pass (env : Environment) (text : String) :
    ∃ segments, Reading text.toList segments ∧
      (∀ other, Reading text.toList other → other = segments) ∧
      Settings.expand env text = (match (names segments).find? fun name => (env name).isNone with
        | some name => .error (.missingVariable name)
        | none => .ok (String.ofList (segments.flatMap (Segment.value env)))) ∧
      (names segments = [] → Settings.expand env text = .ok text) ∧
      (∀ env' : Environment, (∀ name ∈ names segments, env' name = env name) →
        Settings.expand env' text = Settings.expand env text) ∧
      ∀ more : String, Joins segments text.toList more.toList →
        Settings.expand env (text ++ more) = do
          let front ← Settings.expand env text
          let back ← Settings.expand env more
          return front ++ back := by
  obtain ⟨segments, hread⟩ := Reading.exists_reading text.toList
  have hexpand := expand_of_reading env hread
  refine ⟨segments, hread, fun other hother => hread.unique hother, hexpand, fun hnames => ?_,
    fun env' henv => expand_congr hread henv, fun more hjoins => expand_append hread hjoins⟩
  rw [hexpand, value_eq_written_of_names_eq_nil hnames, hread.flatMap_written, firstMissing?,
    hnames, String.ofList_toList]
  rfl

/-- Two variables, of which one holds what looks like references. -/
def twoVariables : Environment := fun name =>
  if name = "X" then some "$Y$\x7bZ\x7d" else if name = "Y" then some "y" else none

theorem Settings.expand_one_pass_twoVariables :
    Settings.expand twoVariables "$5$\x7bX\x7d$Y" = .ok "$5$Y$\x7bZ\x7dy" ∧
      Settings.expand twoVariables ("$5$\x7bX\x7d$Y" ++ "-$Z") =
        .error (.missingVariable "Z") := by
  have htext : "$5$\x7bX\x7d$Y".toList = ['$', '5', '$', '\x7b', 'X', '\x7d', '$', 'Y'] := by
    decide +kernel
  have hbare : ∀ c, StartsName c → Segment.Stands [] (.bare [c]) := fun c hc =>
    .bare hc (by simp) (by simp)
  have hread : Reading "$5$\x7bX\x7d$Y".toList
      [.plain '$', .plain '5', .closed ['X'], .bare ['Y']] := by
    have hdollar : Segment.Stands ['5', '$', '\x7b', 'X', '\x7d', '$', 'Y'] (.plain '$') := by
      refine .dollar ?_
      rintro c ⟨rfl⟩
      decide +kernel
    have hfive : Segment.Stands ['$', '\x7b', 'X', '\x7d', '$', 'Y'] (.plain '5') :=
      .plain (by decide)
    have hclosed : Segment.Stands ['$', 'Y'] (.closed ['X']) := .closed (by decide)
    rw [htext]
    exact .cons hdollar (.cons hfive (.cons hclosed (.cons (hbare 'Y' (by decide +kernel)) .nil)))
  have hmore : Reading "-$Z".toList [.plain '-', .bare ['Z']] := by
    have hminus : Segment.Stands ['$', 'Z'] (.plain '-') := .plain (by decide)
    exact .cons hminus (.cons (hbare 'Z' (by decide +kernel)) .nil)
  have hjoins : Joins [.plain '$', .plain '5', .closed ['X'], .bare ['Y']]
      "$5$\x7bX\x7d$Y".toList "-$Z".toList := by
    refine ⟨fun h => ?_, nofun, fun name _ => ?_⟩
    · rw [htext] at h
      exact absurd h (by decide)
    · rintro c hc
      cases hc
      decide +kernel
  obtain ⟨segments, -, hunique, hexpand, -, -, happend⟩ :=
    Settings.expand_one_pass twoVariables "$5$\x7bX\x7d$Y"
  obtain rfl := hunique _ hread
  obtain ⟨segments, -, hunique', hexpand', -⟩ := Settings.expand_one_pass twoVariables "-$Z"
  obtain rfl := hunique' _ hmore
  refine ⟨hexpand, ?_⟩
  rw [happend "-$Z" hjoins, hexpand, hexpand']
  rfl

end SelectionSql
