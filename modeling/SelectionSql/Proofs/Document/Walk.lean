import SelectionSql.Proofs.Document.Condition

/-!
# Collecting fields step by step

Fields are collected into one list while a stack holds the fragments that are being expanded. Here
both are threaded through every step, as one that changes them in place does it.

* `Document.Walk`: what becomes of the stack and of the list when selections are walked in order.
* `Walk.eq`: the stack is left as it was found, and the list grows by the requested fields.
* `Document.exists_walk`: every walk ends. A spread takes one fragment from those that are not on
  the stack; other steps go down in the text.
-/
set_option autoImplicit false

namespace SelectionSql
namespace Document
open Grammar (Value Directive)
open SelectionSql.Selection (Node)

def Selection.directives : Selection → List Directive
  | .field _ _ directives _ => directives
  | .inlineFragment directives _ => directives
  | .spread _ directives => directives

/-- Walking a list of selections with the stack `visiting` and the fields `out` collected so far
ends in an error, or with a stack and a list of fields. -/
inductive Walk (fragments : OrderedMap Fragment) (scope : Variables) :
    List String → List Node → List Selection →
      Except ResolveError (List String × List Node) → Prop
  | nil {visiting : List String} {out : List Node} :
      Walk fragments scope visiting out [] (.ok (visiting, out))
  | misread {visiting : List String} {out : List Node} {s : Selection} {rest : List Selection}
      {e : ResolveError} (h : isIncluded scope s.directives = .error e) :
      Walk fragments scope visiting out (s :: rest) (.error e)
  | excluded {visiting : List String} {out : List Node} {s : Selection} {rest : List Selection}
      {o : Except ResolveError (List String × List Node)}
      (h : isIncluded scope s.directives = .ok false)
      (hrest : Walk fragments scope visiting out rest o) :
      Walk fragments scope visiting out (s :: rest) o
  | field {visiting visiting' : List String} {out children : List Node} {name : String}
      {arguments : List (String × Value)} {directives : List Directive}
      {selections rest : List Selection} {o : Except ResolveError (List String × List Node)}
      (h : isIncluded scope directives = .ok true)
      (hbelow : Walk fragments scope visiting [] selections (.ok (visiting', children)))
      (hrest : Walk fragments scope visiting'
        (out ++ [⟨name, .ofList (evaluateFields scope arguments), children⟩]) rest o) :
      Walk fragments scope visiting out (.field name arguments directives selections :: rest) o
  | fieldFails {visiting : List String} {out : List Node} {name : String}
      {arguments : List (String × Value)} {directives : List Directive}
      {selections rest : List Selection} {e : ResolveError}
      (h : isIncluded scope directives = .ok true)
      (hbelow : Walk fragments scope visiting [] selections (.error e)) :
      Walk fragments scope visiting out (.field name arguments directives selections :: rest)
        (.error e)
  | inlineFragment {visiting visiting' : List String} {out out' : List Node}
      {directives : List Directive} {selections rest : List Selection}
      {o : Except ResolveError (List String × List Node)}
      (h : isIncluded scope directives = .ok true)
      (hbelow : Walk fragments scope visiting out selections (.ok (visiting', out')))
      (hrest : Walk fragments scope visiting' out' rest o) :
      Walk fragments scope visiting out (.inlineFragment directives selections :: rest) o
  | inlineFragmentFails {visiting : List String} {out : List Node} {directives : List Directive}
      {selections rest : List Selection} {e : ResolveError}
      (h : isIncluded scope directives = .ok true)
      (hbelow : Walk fragments scope visiting out selections (.error e)) :
      Walk fragments scope visiting out (.inlineFragment directives selections :: rest) (.error e)
  | cycle {visiting : List String} {out : List Node} {name : String}
      {directives : List Directive} {rest : List Selection}
      (h : isIncluded scope directives = .ok true) (hvisiting : name ∈ visiting) :
      Walk fragments scope visiting out (.spread name directives :: rest)
        (.error (.invalidDocument (.fragmentCycle name)))
  | unknown {visiting : List String} {out : List Node} {name : String}
      {directives : List Directive} {rest : List Selection}
      (h : isIncluded scope directives = .ok true) (hvisiting : name ∉ visiting)
      (hfind : fragments.find? name = none) :
      Walk fragments scope visiting out (.spread name directives :: rest)
        (.error (.invalidDocument (.unknownFragment name)))
  /-- The fragment is pushed on the stack and popped when it is done. -/
  | spread {visiting visiting' : List String} {out out' : List Node} {name : String}
      {directives : List Directive} {f : Fragment} {rest : List Selection}
      {o : Except ResolveError (List String × List Node)}
      (h : isIncluded scope directives = .ok true) (hvisiting : name ∉ visiting)
      (hfind : fragments.find? name = some f)
      (hbelow : Walk fragments scope (visiting ++ [name]) out f.selections
        (.ok (visiting', out')))
      (hrest : Walk fragments scope visiting'.dropLast out' rest o) :
      Walk fragments scope visiting out (.spread name directives :: rest) o
  | spreadFails {visiting : List String} {out : List Node} {name : String}
      {directives : List Directive} {f : Fragment} {rest : List Selection} {e : ResolveError}
      (h : isIncluded scope directives = .ok true) (hvisiting : name ∉ visiting)
      (hfind : fragments.find? name = some f)
      (hbelow : Walk fragments scope (visiting ++ [name]) out f.selections (.error e)) :
      Walk fragments scope visiting out (.spread name directives :: rest) (.error e)

variable {fragments : OrderedMap Fragment} {scope : Variables}

/-! ## Requested fields, case by case -/

section Cases
variable {spread : String → Except ResolveError (List Node)} {name : String}
  {arguments : List (String × Value)} {directives : List Directive} {s : Selection}
  {selections rest : List Selection}

theorem nodesOf_misread {e : ResolveError} (h : isIncluded scope s.directives = .error e) :
    nodesOf scope spread s = .error e := by
  cases s <;>
  · simp only [Selection.directives] at h
    rw [nodesOf, h]
    rfl

theorem nodesOf_excluded (h : isIncluded scope s.directives = .ok false) :
    nodesOf scope spread s = .ok [] := by
  cases s <;>
  · simp only [Selection.directives] at h
    rw [nodesOf, h]
    rfl

theorem nodesOf_field_ok {children : List Node} (h : isIncluded scope directives = .ok true)
    (hbelow : nodesOfAll scope spread selections = .ok children) :
    nodesOf scope spread (.field name arguments directives selections) =
      .ok [⟨name, .ofList (evaluateFields scope arguments), children⟩] := by
  rw [nodesOf, h, hbelow]
  rfl

theorem nodesOf_field_error {e : ResolveError} (h : isIncluded scope directives = .ok true)
    (hbelow : nodesOfAll scope spread selections = .error e) :
    nodesOf scope spread (.field name arguments directives selections) = .error e := by
  rw [nodesOf, h, hbelow]
  rfl

theorem nodesOf_inlineFragment (h : isIncluded scope directives = .ok true) :
    nodesOf scope spread (.inlineFragment directives selections) =
      nodesOfAll scope spread selections := by
  rw [nodesOf, h]
  rfl

theorem nodesOf_spread (h : isIncluded scope directives = .ok true) :
    nodesOf scope spread (.spread name directives) = spread name := by
  rw [nodesOf, h]
  rfl

theorem nodesOfAll_cons_ok {first : List Node} (h : nodesOf scope spread s = .ok first) :
    nodesOfAll scope spread (s :: rest) =
      (nodesOfAll scope spread rest).map fun others => first ++ others := by
  rw [nodesOfAll, h]
  cases nodesOfAll scope spread rest <;> rfl

theorem nodesOfAll_cons_error {e : ResolveError} (h : nodesOf scope spread s = .error e) :
    nodesOfAll scope spread (s :: rest) = .error e := by
  rw [nodesOfAll, h]
  rfl

end Cases

section Spread
variable {visiting : List String} {name : String}

theorem spreadNodes_cycle (h : name ∈ visiting) :
    spreadNodes fragments scope visiting.reverse name =
      .error (.invalidDocument (.fragmentCycle name)) := by
  rw [spreadNodes, dif_pos (by simpa using h)]

theorem spreadNodes_unknown (h : name ∉ visiting) (hfind : fragments.find? name = none) :
    spreadNodes fragments scope visiting.reverse name =
      .error (.invalidDocument (.unknownFragment name)) := by
  rw [spreadNodes, dif_neg (by simpa using h)]
  split
  · rfl
  · next f hfound => cases hfind.symm.trans hfound

/-- The fields of a fragment are those of its selections, with the fragment on the stack. -/
theorem spreadNodes_fresh {f : Fragment} (h : name ∉ visiting)
    (hfind : fragments.find? name = some f) :
    spreadNodes fragments scope visiting.reverse name =
      nodesOfAll scope (spreadNodes fragments scope (visiting ++ [name]).reverse)
        f.selections := by
  rw [spreadNodes, dif_neg (by simpa using h), List.reverse_concat]
  split
  · next hfound => cases hfind.symm.trans hfound
  · next f' hfound =>
    cases hfind.symm.trans hfound
    rfl

end Spread

/-! ## What a walk comes to -/

/-- What is requested by `sels`, with the stack `visiting`. -/
def collected (fragments : OrderedMap Fragment) (scope : Variables) (visiting : List String)
    (sels : List Selection) : Except ResolveError (List Node) :=
  nodesOfAll scope (spreadNodes fragments scope visiting.reverse) sels

theorem ok_eq_map_iff {visiting visiting' : List String} {out out' : List Node}
    {m : Except ResolveError (List Node)} :
    (.ok (visiting', out') = m.map fun nodes => (visiting, out ++ nodes)) ↔
      visiting' = visiting ∧ ∃ nodes, m = .ok nodes ∧ out' = out ++ nodes := by
  cases m with
  | error e => exact ⟨fun h => (nomatch h), fun ⟨_, _, h, _⟩ => (nomatch h)⟩
  | ok nodes =>
    constructor
    · intro h
      cases h
      exact ⟨rfl, nodes, rfl, rfl⟩
    · rintro ⟨rfl, _, h, rfl⟩
      cases h
      rfl

theorem error_eq_map_iff {α : Type} {f : List Node → α} {e : ResolveError}
    {m : Except ResolveError (List Node)} : .error e = m.map f ↔ m = .error e := by
  cases m with
  | error e' =>
    constructor
    · intro h
      cases h
      rfl
    · intro h
      cases h
      rfl
  | ok nodes => exact ⟨fun h => (nomatch h), fun h => (nomatch h)⟩

/-- A list grows by the first fields and then by the others. -/
theorem map_first_append (first out : List Node) (visiting : List String)
    (m : Except ResolveError (List Node)) :
    (m.map fun others => first ++ others).map (fun nodes => (visiting, out ++ nodes)) =
      m.map fun nodes => (visiting, out ++ first ++ nodes) := by
  cases m with
  | error e => rfl
  | ok nodes => rw [Except.map, Except.map, Except.map, List.append_assoc]

/-- The stack is left as it was found, and the list grows by what is requested. -/
theorem Walk.eq {visiting : List String} {out : List Node} {sels : List Selection}
    {o : Except ResolveError (List String × List Node)}
    (h : Walk fragments scope visiting out sels o) :
    o = (collected fragments scope visiting sels).map fun nodes => (visiting, out ++ nodes) := by
  unfold collected
  induction h with
  | @nil visiting out => rw [nodesOfAll, Except.map, List.append_nil]
  | misread h =>
    rw [nodesOfAll_cons_error (nodesOf_misread h)]
    rfl
  | excluded h hrest ih =>
    rw [nodesOfAll_cons_ok (nodesOf_excluded h), map_first_append, List.append_nil]
    exact ih
  | field h hbelow hrest ihbelow ihrest =>
    obtain ⟨rfl, children, hchildren, rfl⟩ := ok_eq_map_iff.1 ihbelow
    rw [nodesOfAll_cons_ok (nodesOf_field_ok h hchildren), map_first_append]
    exact ihrest
  | fieldFails h hbelow ih =>
    rw [nodesOfAll_cons_error (nodesOf_field_error h (error_eq_map_iff.1 ih))]
    rfl
  | inlineFragment h hbelow hrest ihbelow ihrest =>
    obtain ⟨rfl, first, hfirst, rfl⟩ := ok_eq_map_iff.1 ihbelow
    rw [nodesOfAll_cons_ok ((nodesOf_inlineFragment h).trans hfirst), map_first_append]
    exact ihrest
  | inlineFragmentFails h hbelow ih =>
    rw [nodesOfAll_cons_error ((nodesOf_inlineFragment h).trans (error_eq_map_iff.1 ih))]
    rfl
  | cycle h hvisiting =>
    rw [nodesOfAll_cons_error ((nodesOf_spread h).trans (spreadNodes_cycle hvisiting))]
    rfl
  | unknown h hvisiting hfind =>
    rw [nodesOfAll_cons_error ((nodesOf_spread h).trans (spreadNodes_unknown hvisiting hfind))]
    rfl
  | spread h hvisiting hfind hbelow hrest ihbelow ihrest =>
    obtain ⟨rfl, first, hfirst, rfl⟩ := ok_eq_map_iff.1 ihbelow
    rw [List.dropLast_concat] at ihrest
    have hspread := ((nodesOf_spread h).trans (spreadNodes_fresh hvisiting hfind)).trans hfirst
    rw [nodesOfAll_cons_ok hspread, map_first_append]
    exact ihrest
  | spreadFails h hvisiting hfind hbelow ih =>
    have hspread := ((nodesOf_spread h).trans (spreadNodes_fresh hvisiting hfind)).trans
      (error_eq_map_iff.1 ih)
    rw [nodesOfAll_cons_error hspread]
    rfl

theorem Walk.visiting_eq {visiting visiting' : List String} {out out' : List Node}
    {sels : List Selection}
    (h : Walk fragments scope visiting out sels (.ok (visiting', out'))) : visiting' = visiting :=
  (ok_eq_map_iff.1 h.eq).1

/-- Every walk ends: entering a fragment leaves fewer that can be entered, and otherwise less text
remains. -/
theorem exists_walk (fragments : OrderedMap Fragment) (scope : Variables)
    (visiting : List String) (out : List Node) (sels : List Selection) :
    ∃ o, Walk fragments scope visiting out sels o := by
  cases sels with
  | nil => exact ⟨_, .nil⟩
  | cons s rest =>
    have hrest : ∀ out', ∃ o, Walk fragments scope visiting out' rest o :=
      fun out' => exists_walk fragments scope visiting out' rest
    cases hincluded : isIncluded scope s.directives with
    | error e => exact ⟨_, .misread hincluded⟩
    | ok included =>
      cases included with
      | false =>
        obtain ⟨o, ho⟩ := hrest out
        exact ⟨o, .excluded hincluded ho⟩
      | true =>
        cases s with
        | field name arguments directives selections =>
          obtain ⟨below, hbelow⟩ := exists_walk fragments scope visiting [] selections
          cases below with
          | error e => exact ⟨_, .fieldFails hincluded hbelow⟩
          | ok p =>
            obtain ⟨visiting', children⟩ := p
            obtain rfl := hbelow.visiting_eq
            obtain ⟨o, ho⟩ := hrest _
            exact ⟨o, .field hincluded hbelow ho⟩
        | inlineFragment directives selections =>
          obtain ⟨below, hbelow⟩ := exists_walk fragments scope visiting out selections
          cases below with
          | error e => exact ⟨_, .inlineFragmentFails hincluded hbelow⟩
          | ok p =>
            obtain ⟨visiting', out'⟩ := p
            obtain rfl := hbelow.visiting_eq
            obtain ⟨o, ho⟩ := hrest out'
            exact ⟨o, .inlineFragment hincluded hbelow ho⟩
        | spread name directives =>
          by_cases hvisiting : name ∈ visiting
          · exact ⟨_, .cycle hincluded hvisiting⟩
          cases hfind : fragments.find? name with
          | none => exact ⟨_, .unknown hincluded hvisiting hfind⟩
          | some f =>
            -- The text of the fragment may be longer than what remains here, so the fragments that
            -- can still be entered count first.
            have hfewer : (remaining fragments (name :: visiting.reverse)).length <
                (remaining fragments visiting.reverse).length :=
              remaining_cons_lt (by simpa using hvisiting) hfind
            obtain ⟨below, hbelow⟩ :=
              exists_walk fragments scope (visiting ++ [name]) out f.selections
            cases below with
            | error e => exact ⟨_, .spreadFails hincluded hvisiting hfind hbelow⟩
            | ok p =>
              obtain ⟨visiting', out'⟩ := p
              obtain ⟨o, ho⟩ := hrest out'
              refine ⟨o, .spread hincluded hvisiting hfind hbelow ?_⟩
              rw [hbelow.visiting_eq, List.dropLast_concat]
              exact ho
termination_by ((remaining fragments visiting.reverse).length, sizeOf sels)

/-- A walk has one outcome: what is requested is added to the list. -/
theorem walk_iff {visiting : List String} {out : List Node} {sels : List Selection}
    {o : Except ResolveError (List String × List Node)} :
    Walk fragments scope visiting out sels o ↔
      o = (collected fragments scope visiting sels).map fun nodes => (visiting, out ++ nodes) := by
  refine ⟨Walk.eq, ?_⟩
  rintro rfl
  obtain ⟨o, ho⟩ := exists_walk fragments scope visiting out sels
  rw [← ho.eq]
  exact ho

end Document
end SelectionSql
