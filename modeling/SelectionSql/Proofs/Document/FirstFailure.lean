import Mathlib.Data.List.Lex
import Mathlib.Logic.Relation
import SelectionSql.Proofs.Document.Walk

/-!
# Where collecting fields fails

* `Document.At`: the places that are met when included selections are walked, by their paths, with
  the fragments that are being expanded there. Paths in lexicographic order are in the order of
  the document.
* `Document.Fails`: what is wrong at a place.
* `Document.FirstFailure`, `Clean`: a place fails and none before it does; no place fails.
* `Document.FragmentSpreads`: a fragment spreads another, in a selection that is included.
* `Document.expansion_ends`: every walk ends; it fails as the first place that does, and a fragment
  that is found to spread itself is reached and does so.
-/
set_option autoImplicit false

namespace SelectionSql
namespace Document
open Grammar (Value Directive)
open SelectionSql.Selection (Node)

/-! ## Places -/

/-- An included selection leads to the selections below it, with one more fragment on the stack
if it is a spread. -/
inductive Opens (fragments : OrderedMap Fragment) (scope : Variables) (stack : List String) :
    Selection → List String → List Selection → Prop
  | field {name : String} {arguments : List (String × Value)} {directives : List Directive}
      {selections : List Selection} (h : Kept scope directives) :
      Opens fragments scope stack (.field name arguments directives selections) stack selections
  | inlineFragment {directives : List Directive} {selections : List Selection}
      (h : Kept scope directives) :
      Opens fragments scope stack (.inlineFragment directives selections) stack selections
  | spread {name : String} {directives : List Directive} {f : Fragment}
      (h : Kept scope directives) (hfind : fragments.find? name = some f) :
      Opens fragments scope stack (.spread name directives) (stack ++ [name]) f.selections

/-- Walking selections with a stack comes, on a path, to a selection with a stack. -/
inductive At (fragments : OrderedMap Fragment) (scope : Variables) :
    List String → List Selection → List Nat → List String → Selection → Prop
  | head {stack : List String} {s : Selection} {rest : List Selection} :
      At fragments scope stack (s :: rest) [0] stack s
  | later {stack stack' : List String} {s t : Selection} {rest : List Selection} {i : Nat}
      {path : List Nat} (h : At fragments scope stack rest (i :: path) stack' t) :
      At fragments scope stack (s :: rest) ((i + 1) :: path) stack' t
  | inside {stack stack₁ stack' : List String} {s t : Selection} {rest inner : List Selection}
      {path : List Nat} (hopens : Opens fragments scope stack s stack₁ inner)
      (h : At fragments scope stack₁ inner path stack' t) :
      At fragments scope stack (s :: rest) (0 :: path) stack' t

/-- Something is wrong with a selection that is met with a stack. -/
inductive Fails (fragments : OrderedMap Fragment) (scope : Variables) (stack : List String) :
    Selection → ResolveError → Prop
  | misread {s : Selection} {e : ResolveError} (h : Misread scope s.directives e) :
      Fails fragments scope stack s e
  | cycle {name : String} {directives : List Directive} (h : Kept scope directives)
      (hstack : name ∈ stack) :
      Fails fragments scope stack (.spread name directives)
        (.invalidDocument (.fragmentCycle name))
  | unknown {name : String} {directives : List Directive} (h : Kept scope directives)
      (hstack : name ∉ stack) (hfind : fragments.find? name = none) :
      Fails fragments scope stack (.spread name directives)
        (.invalidDocument (.unknownFragment name))

variable {fragments : OrderedMap Fragment} {scope : Variables}

def Clean (fragments : OrderedMap Fragment) (scope : Variables) (stack : List String)
    (sels : List Selection) : Prop :=
  ∀ path stack' t e, At fragments scope stack sels path stack' t →
    ¬ Fails fragments scope stack' t e

/-- No place before the path fails. -/
def CleanBefore (fragments : OrderedMap Fragment) (scope : Variables) (stack : List String)
    (sels : List Selection) (path : List Nat) : Prop :=
  ∀ path' stack' t e, path' < path → At fragments scope stack sels path' stack' t →
    ¬ Fails fragments scope stack' t e

def FirstFailure (fragments : OrderedMap Fragment) (scope : Variables) (stack : List String)
    (sels : List Selection) (e : ResolveError) : Prop :=
  ∃ path stack' t, At fragments scope stack sels path stack' t ∧
    Fails fragments scope stack' t e ∧ CleanBefore fragments scope stack sels path

/-! ## From selections to lists -/

section Lists
variable {stack stack₁ : List String} {s : Selection} {rest inner : List Selection}
  {e : ResolveError}

theorem Opens.kept (h : Opens fragments scope stack s stack₁ inner) :
    Kept scope s.directives := by
  cases h with
  | field h => exact h
  | inlineFragment h => exact h
  | spread h _ => exact h

theorem Opens.unique {stack₂ : List String} {inner' : List Selection}
    (h : Opens fragments scope stack s stack₁ inner)
    (h' : Opens fragments scope stack s stack₂ inner') : stack₁ = stack₂ ∧ inner = inner' := by
  cases h with
  | field =>
    cases h'
    exact ⟨rfl, rfl⟩
  | inlineFragment =>
    cases h'
    exact ⟨rfl, rfl⟩
  | spread _ hfind =>
    cases h' with
    | spread _ hfind' =>
      cases hfind.symm.trans hfind'
      exact ⟨rfl, rfl⟩

theorem At.ne_nil {stack' : List String} {path : List Nat} {t : Selection}
    (h : At fragments scope stack inner path stack' t) : path ≠ [] := by
  cases h with
  | head => exact List.cons_ne_nil _ _
  | later => exact List.cons_ne_nil _ _
  | inside => exact List.cons_ne_nil _ _

theorem clean_nil : Clean fragments scope stack [] := by
  intro path stack' t e hat
  cases hat

theorem clean_singleton (hself : ∀ e, ¬ Fails fragments scope stack s e)
    (hinside : ∀ stack₁ inner, Opens fragments scope stack s stack₁ inner →
      Clean fragments scope stack₁ inner) : Clean fragments scope stack [s] := by
  intro path stack' t e hat
  cases hat with
  | head => exact hself e
  | later h => cases h
  | inside hopens h => exact hinside _ _ hopens _ _ _ e h

theorem clean_of_excluded (h : Excluded scope s.directives) :
    Clean fragments scope stack [s] := by
  refine clean_singleton ?_ fun stack₁ inner hopens => ?_
  · intro e hfails
    cases hfails with
    | misread hmisread => exact not_misread_of_excluded h hmisread
    | cycle hkept => exact not_kept_of_excluded h hkept
    | unknown hkept => exact not_kept_of_excluded h hkept
  · exact absurd hopens.kept (not_kept_of_excluded h)

theorem Clean.cons (hs : Clean fragments scope stack [s]) (h : Clean fragments scope stack rest) :
    Clean fragments scope stack (s :: rest) := by
  intro path stack' t e hat
  cases hat with
  | head => exact hs _ _ _ e .head
  | later hat => exact h _ _ _ e hat
  | inside hopens hat => exact hs _ _ _ e (.inside hopens hat)

theorem FirstFailure.later (hs : Clean fragments scope stack [s])
    (h : FirstFailure fragments scope stack rest e) :
    FirstFailure fragments scope stack (s :: rest) e := by
  obtain ⟨path, stack', t, hat, hfails, hbefore⟩ := h
  obtain ⟨i, path, rfl⟩ := List.exists_cons_of_ne_nil hat.ne_nil
  refine ⟨(i + 1) :: path, stack', t, .later hat, hfails, ?_⟩
  intro path' stack'' t' e' hlt hat'
  cases hat' with
  | head => exact hs _ _ _ e' .head
  | inside hopens hat' => exact hs _ _ _ e' (.inside hopens hat')
  | later hat' =>
    -- Both paths are one place further on than in the rest.
    refine hbefore _ _ _ e' ?_ hat'
    rw [List.cons_lt_cons_iff] at hlt ⊢
    exact hlt.imp Nat.lt_of_succ_lt_succ fun ⟨heq, h⟩ => ⟨Nat.succ.inj heq, h⟩

theorem firstFailure_head (h : Fails fragments scope stack s e) :
    FirstFailure fragments scope stack (s :: rest) e := by
  refine ⟨[0], stack, s, .head, h, ?_⟩
  intro path' stack' t e' hlt hat
  cases hat with
  | head => exact absurd hlt (List.lt_irrefl _)
  | later hat =>
    rw [List.cons_lt_cons_iff] at hlt
    omega
  | inside hopens hat =>
    rw [List.cons_lt_cons_iff] at hlt
    exact absurd (hlt.resolve_left (Nat.lt_irrefl 0)).2 (List.not_lt_nil _)

theorem FirstFailure.inside (hself : ∀ e, ¬ Fails fragments scope stack s e)
    (hopens : Opens fragments scope stack s stack₁ inner)
    (h : FirstFailure fragments scope stack₁ inner e) :
    FirstFailure fragments scope stack (s :: rest) e := by
  obtain ⟨path, stack', t, hat, hfails, hbefore⟩ := h
  refine ⟨0 :: path, stack', t, .inside hopens hat, hfails, ?_⟩
  intro path' stack'' t' e' hlt hat'
  cases hat' with
  | head => exact hself e'
  | later hat' =>
    rw [List.cons_lt_cons_iff] at hlt
    omega
  | inside hopens' hat' =>
    obtain ⟨rfl, rfl⟩ := hopens.unique hopens'
    rw [List.cons_lt_cons_iff] at hlt
    exact hbefore _ _ _ e' (hlt.resolve_left (Nat.lt_irrefl 0)).2 hat'

end Lists

/-! ## Walks and places -/

section Kept
variable {stack : List String} {name : String} {arguments : List (String × Value)}
  {directives : List Directive} {selections : List Selection} {f : Fragment} {e : ResolveError}

theorem not_fails_field (h : Kept scope directives) :
    ¬ Fails fragments scope stack (.field name arguments directives selections) e := by
  intro hfails
  cases hfails with
  | misread hmisread => exact not_misread_of_kept h hmisread

theorem not_fails_inlineFragment (h : Kept scope directives) :
    ¬ Fails fragments scope stack (.inlineFragment directives selections) e := by
  intro hfails
  cases hfails with
  | misread hmisread => exact not_misread_of_kept h hmisread

theorem not_fails_spread (h : Kept scope directives) (hstack : name ∉ stack)
    (hfind : fragments.find? name = some f) :
    ¬ Fails fragments scope stack (.spread name directives) e := by
  intro hfails
  cases hfails with
  | misread hmisread => exact not_misread_of_kept h hmisread
  | cycle _ hstack' => exact hstack hstack'
  | unknown _ _ hfind' => cases hfind.symm.trans hfind'

end Kept

/-- Where the outcome comes from: the first place that fails, or that none does. -/
def Reports (fragments : OrderedMap Fragment) (scope : Variables) (stack : List String)
    (sels : List Selection) : Except ResolveError (List String × List Node) → Prop
  | .ok _ => Clean fragments scope stack sels
  | .error e => FirstFailure fragments scope stack sels e

theorem Reports.cons {stack : List String} {s : Selection} {rest : List Selection}
    {o : Except ResolveError (List String × List Node)} (hs : Clean fragments scope stack [s])
    (h : Reports fragments scope stack rest o) : Reports fragments scope stack (s :: rest) o := by
  cases o with
  | ok p => exact hs.cons h
  | error e => exact FirstFailure.later hs h

/-- A selection that does not fail by itself does not fail if what is below does not. -/
theorem clean_of_opens {stack stack₁ : List String} {s : Selection} {inner : List Selection}
    (hself : ∀ e, ¬ Fails fragments scope stack s e)
    (hopens : Opens fragments scope stack s stack₁ inner)
    (h : Clean fragments scope stack₁ inner) : Clean fragments scope stack [s] := by
  refine clean_singleton hself fun stack₂ inner' hopens' => ?_
  obtain ⟨rfl, rfl⟩ := hopens.unique hopens'
  exact h

theorem Walk.reports {visiting : List String} {out : List Node} {sels : List Selection}
    {o : Except ResolveError (List String × List Node)}
    (h : Walk fragments scope visiting out sels o) : Reports fragments scope visiting sels o := by
  induction h with
  | nil => exact clean_nil
  | misread h => exact firstFailure_head (.misread (isIncluded_eq_error_iff.1 h))
  | excluded h _ ih => exact .cons (clean_of_excluded (isIncluded_eq_false_iff.1 h)) ih
  | field h hbelow _ ihbelow ihrest =>
    have hkept := isIncluded_eq_true_iff.1 h
    obtain rfl := hbelow.visiting_eq
    exact .cons (clean_of_opens (fun _ => not_fails_field hkept) (.field hkept) ihbelow) ihrest
  | fieldFails h _ ih =>
    have hkept := isIncluded_eq_true_iff.1 h
    exact FirstFailure.inside (fun _ => not_fails_field hkept) (.field hkept) ih
  | inlineFragment h hbelow _ ihbelow ihrest =>
    have hkept := isIncluded_eq_true_iff.1 h
    obtain rfl := hbelow.visiting_eq
    exact .cons (clean_of_opens (fun _ => not_fails_inlineFragment hkept)
      (.inlineFragment hkept) ihbelow) ihrest
  | inlineFragmentFails h _ ih =>
    have hkept := isIncluded_eq_true_iff.1 h
    exact FirstFailure.inside (fun _ => not_fails_inlineFragment hkept) (.inlineFragment hkept) ih
  | cycle h hvisiting => exact firstFailure_head (.cycle (isIncluded_eq_true_iff.1 h) hvisiting)
  | unknown h hvisiting hfind =>
    exact firstFailure_head (.unknown (isIncluded_eq_true_iff.1 h) hvisiting hfind)
  | spread h hvisiting hfind hbelow _ ihbelow ihrest =>
    have hkept := isIncluded_eq_true_iff.1 h
    rw [hbelow.visiting_eq, List.dropLast_concat] at ihrest
    exact .cons (clean_of_opens (fun _ => not_fails_spread hkept hvisiting hfind)
      (.spread hkept hfind) ihbelow) ihrest
  | spreadFails h hvisiting hfind _ ih =>
    have hkept := isIncluded_eq_true_iff.1 h
    exact FirstFailure.inside (fun _ => not_fails_spread hkept hvisiting hfind)
      (.spread hkept hfind) ih

/-! ## The first failure is one -/

theorem At.unique {stack stack₁ stack₂ : List String} {sels : List Selection} {path : List Nat}
    {s t : Selection} (h : At fragments scope stack sels path stack₁ s)
    (h' : At fragments scope stack sels path stack₂ t) : stack₁ = stack₂ ∧ s = t := by
  induction h with
  | head =>
    cases h' with
    | head => exact ⟨rfl, rfl⟩
    | inside _ h' => exact absurd rfl h'.ne_nil
  | later h ih =>
    cases h' with
    | later h' => exact ih h'
  | inside hopens h ih =>
    cases h' with
    | head => exact absurd rfl h.ne_nil
    | inside hopens' h' =>
      obtain ⟨rfl, rfl⟩ := hopens.unique hopens'
      exact ih h'

theorem Fails.unique {stack : List String} {s : Selection} {e e' : ResolveError}
    (h : Fails fragments scope stack s e) (h' : Fails fragments scope stack s e') : e = e' := by
  cases h with
  | misread h =>
    cases h' with
    | misread h' =>
      exact Except.error.inj ((isIncluded_of_misread h).symm.trans (isIncluded_of_misread h'))
    | cycle hkept => exact absurd h (not_misread_of_kept hkept)
    | unknown hkept => exact absurd h (not_misread_of_kept hkept)
  | cycle hkept hstack =>
    cases h' with
    | misread h' => exact absurd h' (not_misread_of_kept hkept)
    | cycle => rfl
    | unknown _ hstack' => exact absurd hstack hstack'
  | unknown hkept hstack =>
    cases h' with
    | misread h' => exact absurd h' (not_misread_of_kept hkept)
    | cycle _ hstack' => exact absurd hstack' hstack
    | unknown => rfl

theorem FirstFailure.unique {stack : List String} {sels : List Selection} {e e' : ResolveError}
    (h : FirstFailure fragments scope stack sels e)
    (h' : FirstFailure fragments scope stack sels e') : e = e' := by
  obtain ⟨path, stack₁, s, hat, hfails, hbefore⟩ := h
  obtain ⟨path', stack₂, t, hat', hfails', hbefore'⟩ := h'
  rcases lt_trichotomy path path' with hlt | rfl | hlt
  · exact absurd hfails (hbefore' _ _ _ _ hlt hat)
  · obtain ⟨rfl, rfl⟩ := hat.unique hat'
    exact hfails.unique hfails'
  · exact absurd hfails' (hbefore _ _ _ _ hlt hat')

theorem walk_error_iff {visiting : List String} {out : List Node} {sels : List Selection}
    {e : ResolveError} :
    Walk fragments scope visiting out sels (.error e) ↔
      FirstFailure fragments scope visiting sels e := by
  refine ⟨Walk.reports, fun h => ?_⟩
  obtain ⟨o, ho⟩ := exists_walk fragments scope visiting out sels
  have hreports := ho.reports
  cases o with
  | error e' => rwa [h.unique hreports]
  | ok p =>
    obtain ⟨path, stack', t, hat, hfails, -⟩ := h
    exact absurd hfails (hreports _ _ _ e hat)

/-! ## Fragments that spread each other -/

/-- A fragment is spread in selections, at a place that is included. -/
inductive Spreads (scope : Variables) : List Selection → String → Prop
  | here {name : String} {directives : List Directive} {rest : List Selection}
      (h : Kept scope directives) : Spreads scope (.spread name directives :: rest) name
  | later {s : Selection} {rest : List Selection} {name : String}
      (h : Spreads scope rest name) : Spreads scope (s :: rest) name
  | field {n : String} {arguments : List (String × Value)} {directives : List Directive}
      {selections rest : List Selection} {name : String} (h : Kept scope directives)
      (hbelow : Spreads scope selections name) :
      Spreads scope (.field n arguments directives selections :: rest) name
  | inlineFragment {directives : List Directive} {selections rest : List Selection}
      {name : String} (h : Kept scope directives) (hbelow : Spreads scope selections name) :
      Spreads scope (.inlineFragment directives selections :: rest) name

/-- The fragment `outer` spreads the fragment `inner`. -/
def FragmentSpreads (fragments : OrderedMap Fragment) (scope : Variables) (outer inner : String) :
    Prop :=
  ∃ f, fragments.find? outer = some f ∧ Spreads scope f.selections inner

/-- A fragment is spread in selections or in a fragment that they reach. -/
def Reaches (fragments : OrderedMap Fragment) (scope : Variables) (sels : List Selection)
    (name : String) : Prop :=
  ∃ first, Spreads scope sels first ∧
    Relation.ReflTransGen (FragmentSpreads fragments scope) first name

section Graph
variable {stack stack' : List String} {s : Selection} {rest selections : List Selection}
  {name : String} {arguments : List (String × Value)} {directives : List Directive}

theorem Reaches.later (h : Reaches fragments scope rest name) :
    Reaches fragments scope (s :: rest) name := by
  obtain ⟨first, hfirst, hreach⟩ := h
  exact ⟨first, .later hfirst, hreach⟩

/-- What a selection opens reaches no more than the selection and, if it is a fragment, this
fragment does. -/
theorem Reaches.opens {inner : List Selection}
    (hopens : Opens fragments scope stack s stack' inner)
    (h : Reaches fragments scope inner name) :
    Reaches fragments scope (s :: rest) name ∧
      ∀ outer ∈ stack', outer ∉ stack →
        Relation.TransGen (FragmentSpreads fragments scope) outer name := by
  obtain ⟨first, hfirst, hreach⟩ := h
  cases hopens with
  | field hkept => exact ⟨⟨first, .field hkept hfirst, hreach⟩, fun outer h h' => absurd h h'⟩
  | inlineFragment hkept =>
    exact ⟨⟨first, .inlineFragment hkept hfirst, hreach⟩, fun outer h h' => absurd h h'⟩
  | @spread fragment _ f hkept hfind =>
    have hspreads : FragmentSpreads fragments scope fragment first := ⟨f, hfind, hfirst⟩
    refine ⟨⟨fragment, .here hkept, .head hspreads hreach⟩, fun outer h h' => ?_⟩
    obtain rfl := List.mem_singleton.1 ((List.mem_append.1 h).resolve_left h')
    exact .head' hspreads hreach

/-- A spread that is met is reached, and what is expanded there leads to it. -/
theorem At.reaches {sels : List Selection} {path : List Nat} {t : Selection}
    (h : At fragments scope stack sels path stack' t) (ht : t = .spread name directives)
    (hkept : Kept scope directives) :
    Reaches fragments scope sels name ∧
      ∀ outer ∈ stack', outer ∉ stack →
        Relation.TransGen (FragmentSpreads fragments scope) outer name := by
  induction h with
  | head =>
    subst ht
    exact ⟨⟨name, .here hkept, .refl⟩, fun outer h h' => absurd h h'⟩
  | later _ ih => exact ⟨(ih ht).1.later, (ih ht).2⟩
  | @inside _ stack₁ _ _ _ _ _ _ hopens _ ih =>
    obtain ⟨hinner, houters⟩ := ih ht
    obtain ⟨hreaches, hopened⟩ := hinner.opens hopens
    refine ⟨hreaches, fun outer hmem hfresh => ?_⟩
    by_cases hstack : outer ∈ stack₁
    · exact hopened outer hstack hfresh
    · exact houters outer hmem hstack

end Graph

/-! ## How walks end -/

theorem clean_of_forall {stack : List String} {sels : List Selection}
    (h : ∀ s ∈ sels, Clean fragments scope stack [s]) : Clean fragments scope stack sels := by
  induction sels with
  | nil => exact clean_nil
  | cons s rest ih =>
    exact (h s List.mem_cons_self).cons (ih fun t ht => h t (List.mem_cons_of_mem s ht))

theorem Clean.exists_walk {visiting : List String} {sels : List Selection}
    (h : Clean fragments scope visiting sels) (out : List Node) :
    ∃ p, Walk fragments scope visiting out sels (.ok p) := by
  obtain ⟨o, ho⟩ := Document.exists_walk fragments scope visiting out sels
  cases o with
  | ok p => exact ⟨p, ho⟩
  | error e =>
    obtain ⟨path, stack', t, hat, hfails, -⟩ := ho.reports
    exact absurd hfails (h _ _ _ e hat)

theorem walk_cycle_iff {visiting : List String} {out : List Node} {sels : List Selection}
    {name : String} :
    Walk fragments scope visiting out sels (.error (.invalidDocument (.fragmentCycle name))) ↔
      ∃ path stack directives, At fragments scope visiting sels path stack
        (.spread name directives) ∧ Kept scope directives ∧ name ∈ stack ∧
        CleanBefore fragments scope visiting sels path := by
  rw [walk_error_iff]
  constructor
  · rintro ⟨path, stack, t, hat, hfails, hbefore⟩
    cases hfails with
    | misread h =>
      obtain ⟨_, _, _, _, _, h⟩ := h
      cases h
    | cycle hkept hstack => exact ⟨path, stack, _, hat, hkept, hstack, hbefore⟩
  · rintro ⟨path, stack, directives, hat, hkept, hstack, hbefore⟩
    exact ⟨path, stack, _, hat, .cycle hkept hstack, hbefore⟩

/-- Every walk ends, in one way: with the stack that it began with and the requested fields added
to the list, or with the error of the first place, in the order of the document, that fails. A
fragment is said to spread itself exactly if the first such place is an included spread of it
within itself. Then it is reached from the operation and leads to itself, in included selections.
Selections that are walked without an error one by one are walked without an error together. -/
theorem expansion_ends (fragments : OrderedMap Fragment) (scope : Variables) :
    (∀ visiting out sels, ∃ o, Walk fragments scope visiting out sels o) ∧
    (∀ visiting out sels o, Walk fragments scope visiting out sels o →
      o = (nodesOfAll scope (spreadNodes fragments scope visiting.reverse) sels).map
        fun nodes => (visiting, out ++ nodes)) ∧
    (∀ visiting out sels e, Walk fragments scope visiting out sels (.error e) ↔
      FirstFailure fragments scope visiting sels e) ∧
    (∀ visiting out sels name,
      Walk fragments scope visiting out sels (.error (.invalidDocument (.fragmentCycle name))) ↔
        ∃ path stack directives, At fragments scope visiting sels path stack
          (.spread name directives) ∧ Kept scope directives ∧ name ∈ stack ∧
          CleanBefore fragments scope visiting sels path) ∧
    (∀ out sels name,
      Walk fragments scope [] out sels (.error (.invalidDocument (.fragmentCycle name))) →
        Reaches fragments scope sels name ∧
          Relation.TransGen (FragmentSpreads fragments scope) name name) ∧
    (∀ visiting out sels, (∀ s ∈ sels, ∃ p, Walk fragments scope visiting out [s] (.ok p)) →
      ∃ p, Walk fragments scope visiting out sels (.ok p)) := by
  refine ⟨exists_walk fragments scope, fun _ _ _ _ h => h.eq, fun _ _ _ _ => walk_error_iff,
    fun _ _ _ _ => walk_cycle_iff, ?_, ?_⟩
  · intro out sels name h
    obtain ⟨path, stack, directives, hat, hkept, hstack, -⟩ := walk_cycle_iff.1 h
    obtain ⟨hreaches, houters⟩ := hat.reaches rfl hkept
    exact ⟨hreaches, houters name hstack List.not_mem_nil⟩
  · intro visiting out sels h
    have hclean : ∀ s ∈ sels, Clean fragments scope visiting [s] := by
      intro s hs
      obtain ⟨p, hp⟩ := h s hs
      exact hp.reports
    exact (clean_of_forall hclean).exists_walk out

/-! ## Two fragments that spread each other -/

namespace PingPong

def definitions : OrderedMap Fragment := .ofList
  [("Ping", ⟨[], [.spread "Pong" []]⟩), ("Pong", ⟨[], [.spread "Ping" []]⟩),
    ("Leaf", ⟨[], [.field "id" [] [] []]⟩)]

/-- The spread of a fragment that is skipped. -/
def skipped : Selection := .spread "Ping" [⟨"skip", [("if", .boolean true)]⟩]

theorem walk_leaf (out : List Node) : Walk definitions .empty [] out [.spread "Leaf" []]
    (.ok ([], out ++ [.ofName "id"])) := by
  have hbelow : Walk definitions .empty ["Leaf"] out [.field "id" [] [] []]
      (.ok (["Leaf"], out ++ [.ofName "id"])) := .field rfl .nil .nil
  exact .spread rfl List.not_mem_nil rfl hbelow .nil

theorem walk_ping (out : List Node) : Walk definitions .empty [] out [.spread "Ping" []]
    (.error (.invalidDocument (.fragmentCycle "Ping"))) := by
  have hping : Walk definitions .empty ["Ping", "Pong"] out [.spread "Ping" []]
      (.error (.invalidDocument (.fragmentCycle "Ping"))) := .cycle rfl List.mem_cons_self
  have hpong : Walk definitions .empty ["Ping"] out [.spread "Pong" []]
      (.error (.invalidDocument (.fragmentCycle "Ping"))) :=
    .spreadFails rfl (by decide) rfl hping
  exact .spreadFails rfl List.not_mem_nil rfl hpong

end PingPong

/-- A fragment may be spread twice, and one that leads to itself may be skipped. -/
theorem expansion_ends_pingPong :
    (∃ p, Walk PingPong.definitions .empty [] []
      [.spread "Leaf" [], PingPong.skipped, .spread "Leaf" []] (.ok p)) ∧
    (∃ path stack directives, At PingPong.definitions .empty [] [.spread "Ping" []] path stack
      (.spread "Ping" directives) ∧ "Ping" ∈ stack) ∧
    Relation.TransGen (FragmentSpreads PingPong.definitions .empty) "Ping" "Ping" ∧
    (ResolveError.invalidDocument (.fragmentCycle "Ping")).message =
      "Invalid query document: fragment `Ping` spreads itself" := by
  obtain ⟨-, -, -, hcycle, hgraph, htogether⟩ := expansion_ends PingPong.definitions .empty
  refine ⟨?_, ?_, (hgraph [] _ _ (PingPong.walk_ping [])).2, rfl⟩
  · refine htogether [] [] _ fun s hs => ?_
    rcases List.mem_cons.1 hs with rfl | hs
    · exact ⟨_, PingPong.walk_leaf []⟩
    rcases List.mem_cons.1 hs with rfl | hs
    · exact ⟨_, .excluded rfl .nil⟩
    · obtain rfl := List.mem_singleton.1 hs
      exact ⟨_, PingPong.walk_leaf []⟩
  · obtain ⟨path, stack, directives, hat, -, hstack, -⟩ :=
      (hcycle [] [] _ _).1 (PingPong.walk_ping [])
    exact ⟨path, stack, directives, hat, hstack⟩

end Document
end SelectionSql
