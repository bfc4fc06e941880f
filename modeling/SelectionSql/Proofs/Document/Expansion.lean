import SelectionSql.Proofs.Document.FirstFailure
import SelectionSql.Proofs.Outcome

/-!
# Operations without fragments and directives

* `Document.PlainField`: a field of an expanded operation, and the node that it requests.
* `Document.Expands`: selections expand to plain fields: what is excluded is dropped, and fragments
  are replaced by their expanded items, in place.
* `Walk.expands`, `Expands.clean`: fields are collected exactly from what can be expanded. A
  fragment that spreads itself cannot, since its expansion would be part of itself.
* `Document.rootFields_eq_ok_iff`: the fields of an operation are those of its expansion.
-/
set_option autoImplicit false

namespace SelectionSql
namespace Document
open Grammar (Value Directive)
open SelectionSql.Selection (Node)

/-! ## Plain fields -/

/-- A field with neither directives nor fragments in it. -/
structure PlainField where
  name : String
  arguments : List (String × Value)
  fields : List PlainField

mutual

/-- The node of a field: its name, its evaluated arguments and the nodes of the fields below. -/
def PlainField.node (scope : Variables) : PlainField → Node
  | ⟨name, arguments, fields⟩ =>
    ⟨name, .ofList (arguments.map fun a => (a.1, evaluate scope a.2)), plainNodes scope fields⟩

def plainNodes (scope : Variables) : List PlainField → List Node
  | [] => []
  | field :: rest => field.node scope :: plainNodes scope rest

end

theorem plainNodes_eq_map (scope : Variables) (fields : List PlainField) :
    plainNodes scope fields = fields.map (PlainField.node scope) := by
  induction fields with
  | nil => rfl
  | cons field rest ih => rw [plainNodes, ih, List.map_cons]

theorem plainNodes_append (scope : Variables) (first others : List PlainField) :
    plainNodes scope (first ++ others) = plainNodes scope first ++ plainNodes scope others := by
  rw [plainNodes_eq_map, plainNodes_eq_map, plainNodes_eq_map, List.map_append]

theorem evaluateFields_eq_map (scope : Variables) (arguments : List (String × Value)) :
    evaluateFields scope arguments = arguments.map fun a => (a.1, evaluate scope a.2) := by
  induction arguments with
  | nil => rfl
  | cons argument rest ih => rw [evaluateFields, ih, List.map_cons]

/-! ## Expansion -/

/-- Selections expand to plain fields, in the order of the document. -/
inductive Expands (fragments : OrderedMap Fragment) (scope : Variables) :
    List Selection → List PlainField → Prop
  | nil : Expands fragments scope [] []
  | excluded {s : Selection} {rest : List Selection} {fields : List PlainField}
      (h : Excluded scope s.directives) (hrest : Expands fragments scope rest fields) :
      Expands fragments scope (s :: rest) fields
  | field {name : String} {arguments : List (String × Value)} {directives : List Directive}
      {selections rest : List Selection} {below fields : List PlainField}
      (h : Kept scope directives) (hbelow : Expands fragments scope selections below)
      (hrest : Expands fragments scope rest fields) :
      Expands fragments scope (.field name arguments directives selections :: rest)
        (⟨name, arguments, below⟩ :: fields)
  | inlineFragment {directives : List Directive} {selections rest : List Selection}
      {below fields : List PlainField} (h : Kept scope directives)
      (hbelow : Expands fragments scope selections below)
      (hrest : Expands fragments scope rest fields) :
      Expands fragments scope (.inlineFragment directives selections :: rest) (below ++ fields)
  | spread {name : String} {directives : List Directive} {f : Fragment} {rest : List Selection}
      {below fields : List PlainField} (h : Kept scope directives)
      (hfind : fragments.find? name = some f)
      (hbelow : Expands fragments scope f.selections below)
      (hrest : Expands fragments scope rest fields) :
      Expands fragments scope (.spread name directives :: rest) (below ++ fields)

variable {fragments : OrderedMap Fragment} {scope : Variables}

theorem Expands.unique {sels : List Selection} {fields fields' : List PlainField}
    (h : Expands fragments scope sels fields) (h' : Expands fragments scope sels fields') :
    fields = fields' := by
  induction h generalizing fields' with
  | nil =>
    cases h'
    rfl
  | excluded hout _ ih =>
    cases h' with
    | excluded _ hrest' => exact ih hrest'
    | field hkept => exact absurd hkept (not_kept_of_excluded hout)
    | inlineFragment hkept => exact absurd hkept (not_kept_of_excluded hout)
    | spread hkept => exact absurd hkept (not_kept_of_excluded hout)
  | field hkept _ _ ihbelow ihrest =>
    cases h' with
    | excluded hout => exact absurd hkept (not_kept_of_excluded hout)
    | field _ hbelow' hrest' => rw [ihbelow hbelow', ihrest hrest']
  | inlineFragment hkept _ _ ihbelow ihrest =>
    cases h' with
    | excluded hout => exact absurd hkept (not_kept_of_excluded hout)
    | inlineFragment _ hbelow' hrest' => rw [ihbelow hbelow', ihrest hrest']
  | spread hkept hfind _ _ ihbelow ihrest =>
    cases h' with
    | excluded hout => exact absurd hkept (not_kept_of_excluded hout)
    | spread _ hfind' hbelow' hrest' =>
      cases hfind.symm.trans hfind'
      rw [ihbelow hbelow', ihrest hrest']

/-! ## What is collected is expanded -/

theorem Walk.expands {visiting visiting' : List String} {out out' : List Node}
    {sels : List Selection} (h : Walk fragments scope visiting out sels (.ok (visiting', out'))) :
    ∃ fields, Expands fragments scope sels fields ∧ out' = out ++ plainNodes scope fields := by
  generalize ho : Except.ok (visiting', out') = o at h
  induction h generalizing visiting' out' with
  | nil =>
    cases ho
    exact ⟨[], .nil, (List.append_nil _).symm⟩
  | excluded h _ ih =>
    obtain ⟨fields, hrest, heq⟩ := ih ho
    exact ⟨fields, .excluded (isIncluded_eq_false_iff.1 h) hrest, heq⟩
  | field h _ _ ihbelow ihrest =>
    obtain ⟨below, hbelow, rfl⟩ := ihbelow rfl
    obtain ⟨fields, hrest, rfl⟩ := ihrest ho
    refine ⟨_, .field (isIncluded_eq_true_iff.1 h) hbelow hrest, ?_⟩
    rw [plainNodes, PlainField.node, evaluateFields_eq_map, List.append_assoc]
    rfl
  | inlineFragment h _ _ ihbelow ihrest =>
    obtain ⟨below, hbelow, rfl⟩ := ihbelow rfl
    obtain ⟨fields, hrest, rfl⟩ := ihrest ho
    refine ⟨_, .inlineFragment (isIncluded_eq_true_iff.1 h) hbelow hrest, ?_⟩
    rw [plainNodes_append, List.append_assoc]
  | spread h _ hfind _ _ ihbelow ihrest =>
    obtain ⟨below, hbelow, rfl⟩ := ihbelow rfl
    obtain ⟨fields, hrest, rfl⟩ := ihrest ho
    refine ⟨_, .spread (isIncluded_eq_true_iff.1 h) hfind hbelow hrest, ?_⟩
    rw [plainNodes_append, List.append_assoc]
  | _ => cases ho

/-! ## What is expanded is collected -/

/-- Every selection that is met is expanded, too. -/
theorem Expands.of_at {stack stack' : List String} {sels : List Selection} {path : List Nat}
    {t : Selection} {fields : List PlainField}
    (hat : At fragments scope stack sels path stack' t)
    (h : Expands fragments scope sels fields) :
    ∃ rest fields', Expands fragments scope (t :: rest) fields' := by
  induction hat generalizing fields with
  | head => exact ⟨_, _, h⟩
  | later _ ih =>
    cases h with
    | excluded _ hrest => exact ih hrest
    | field _ _ hrest => exact ih hrest
    | inlineFragment _ _ hrest => exact ih hrest
    | spread _ _ _ hrest => exact ih hrest
  | inside hopens _ ih =>
    cases h with
    | excluded hout => exact absurd hopens.kept (not_kept_of_excluded hout)
    | field hkept hbelow =>
      obtain ⟨rfl, rfl⟩ := hopens.unique (.field hkept)
      exact ih hbelow
    | inlineFragment hkept hbelow =>
      obtain ⟨rfl, rfl⟩ := hopens.unique (.inlineFragment hkept)
      exact ih hbelow
    | spread hkept hfind hbelow =>
      obtain ⟨rfl, rfl⟩ := hopens.unique (.spread hkept hfind)
      exact ih hbelow

/-- From a fragment that is expanded no endless chain of fragments starts. -/
theorem Expands.acc {sels : List Selection} {fields : List PlainField} {name : String}
    (h : Expands fragments scope sels fields) (hspreads : Spreads scope sels name) :
    Acc (Function.swap (FragmentSpreads fragments scope)) name := by
  induction h generalizing name with
  | nil => cases hspreads
  | excluded hout _ ih =>
    cases hspreads with
    | here hkept => exact absurd hkept (not_kept_of_excluded hout)
    | later hspreads => exact ih hspreads
    | field hkept => exact absurd hkept (not_kept_of_excluded hout)
    | inlineFragment hkept => exact absurd hkept (not_kept_of_excluded hout)
  | field _ _ _ ihbelow ihrest =>
    cases hspreads with
    | later hspreads => exact ihrest hspreads
    | field _ hbelow => exact ihbelow hbelow
  | inlineFragment _ _ _ ihbelow ihrest =>
    cases hspreads with
    | later hspreads => exact ihrest hspreads
    | inlineFragment _ hbelow => exact ihbelow hbelow
  | spread _ hfind _ _ ihbelow ihrest =>
    cases hspreads with
    | later hspreads => exact ihrest hspreads
    | here =>
      refine Acc.intro _ fun inner hinner => ?_
      obtain ⟨f', hfind', hspreads'⟩ := hinner
      cases hfind.symm.trans hfind'
      exact ihbelow hspreads'

theorem not_rel_self_of_acc {α : Type} {r : α → α → Prop} {a : α} (h : Acc r a) : ¬ r a a := by
  induction h with
  | intro a _ ih => exact fun hself => ih a hself hself

theorem Expands.clean {sels : List Selection} {fields : List PlainField}
    (h : Expands fragments scope sels fields) : Clean fragments scope [] sels := by
  intro path stack t e hat hfails
  obtain ⟨rest, fields', ht⟩ := h.of_at hat
  cases hfails with
  | misread hmisread =>
    cases ht with
    | excluded hout => exact not_misread_of_excluded hout hmisread
    | field hkept => exact not_misread_of_kept hkept hmisread
    | inlineFragment hkept => exact not_misread_of_kept hkept hmisread
    | spread hkept => exact not_misread_of_kept hkept hmisread
  | unknown hkept _ hfind =>
    cases ht with
    | excluded hout => exact not_kept_of_excluded hout hkept
    | spread _ hfind' => cases hfind.symm.trans hfind'
  | @cycle name directives hkept hstack =>
    -- A fragment within itself would go on for ever, but its expansion is finite.
    have hcycle := (hat.reaches rfl hkept).2 name hstack List.not_mem_nil
    exact not_rel_self_of_acc (ht.acc (.here hkept)).transGen (Relation.transGen_swap.2 hcycle)

/-- Fields are collected from selections exactly if these expand, and they are those of the
expansion. -/
theorem collected_eq_ok_iff {sels : List Selection} {nodes : List Node} :
    nodesOfAll scope (spreadNodes fragments scope []) sels = .ok nodes ↔
      ∃ fields, Expands fragments scope sels fields ∧
        nodes = fields.map (PlainField.node scope) := by
  have hwalk : nodesOfAll scope (spreadNodes fragments scope []) sels = .ok nodes ↔
      Walk fragments scope [] [] sels (.ok ([], nodes)) := by
    rw [walk_iff, ok_eq_map_iff]
    simp [collected]
  rw [hwalk]
  constructor
  · intro h
    obtain ⟨fields, hfields, rfl⟩ := h.expands
    exact ⟨fields, hfields, plainNodes_eq_map scope fields⟩
  · rintro ⟨fields, hfields, rfl⟩
    obtain ⟨⟨visiting, out⟩, hout⟩ := hfields.clean.exists_walk []
    obtain ⟨fields', hfields', rfl⟩ := hout.expands
    obtain rfl := hout.visiting_eq
    rw [hfields.unique hfields', ← plainNodes_eq_map]
    exact hout

theorem rootFields_eq_ok_iff {d : Document} {operationName : Option String} {given : Variables}
    {nodes : List Node} :
    d.rootFields operationName given = .ok nodes ↔
      ∃ o fields, d.pick operationName = .ok o ∧ o.kind = .query ∧
        Expands d.fragments (o.scope given) o.selections fields ∧
        nodes = fields.map (PlainField.node (o.scope given)) := by
  unfold rootFields
  rw [bind_eq_ok_iff]
  constructor
  · rintro ⟨o, hpick, h⟩
    rw [mapError_eq_ok_iff] at hpick
    by_cases hkind : o.kind = .query
    · rw [if_neg (not_not.2 hkind)] at h
      obtain ⟨fields, hfields, heq⟩ := collected_eq_ok_iff.1 h
      exact ⟨o, fields, hpick, hkind, hfields, heq⟩
    · rw [if_pos hkind] at h
      cases h
  · rintro ⟨o, fields, hpick, hkind, hfields, heq⟩
    refine ⟨o, mapError_eq_ok_iff.2 hpick, ?_⟩
    rw [if_neg (not_not.2 hkind)]
    exact collected_eq_ok_iff.2 ⟨fields, hfields, heq⟩

end Document
end SelectionSql
