import Mathlib.Data.List.Forall2
import SelectionSql.Proofs.Document.Expansion

/-!
# Spreads as inline fragments

* `Document.Inlines`: some spreads of a list of selections are replaced by inline fragments with
  the same directives and the fragment's selections, at any depth.
* `Document.Inlined`: the same of a document, in its operations and in its fragments.
* `Inlined.expands_iff`: both documents expand to the same.
* `Document.fragments_are_sugar`: the fields of an operation are those of its expansion, and
  replacing spreads any number of times does not change them.
-/
set_option autoImplicit false

namespace SelectionSql

/-! ## Entries in pairs -/

namespace Entries
variable {α : Type}

/-- The same names in the same order, with related values. -/
def Related (R : α → α → Prop) (m m' : Entries α) : Prop :=
  List.Forall₂ (fun e e' => e'.1 = e.1 ∧ R e.2 e'.2) m m'

theorem Related.refl {R : α → α → Prop} (hR : ∀ a, R a a) (m : Entries α) : Related R m m :=
  List.forall₂_same.2 fun e _ => ⟨rfl, hR e.2⟩

theorem Related.find? {R : α → α → Prop} {m m' : Entries α} (h : Related R m m')
    (name : String) : Option.Rel R (Entries.find? m name) (Entries.find? m' name) := by
  induction h with
  | nil => exact .none
  | @cons e e' rest rest' he _ ih =>
    obtain ⟨k, v⟩ := e
    obtain ⟨k', v'⟩ := e'
    obtain ⟨hk, hR⟩ := he
    cases hk
    rw [find?_cons, find?_cons]
    by_cases hname : k = name
    · rw [if_pos hname, if_pos hname]
      exact .some hR
    · rw [if_neg hname, if_neg hname]
      exact ih

theorem Related.values {R : α → α → Prop} {m m' : Entries α} (h : Related R m m') :
    List.Forall₂ R (m.map Prod.snd) (m'.map Prod.snd) := by
  induction h with
  | nil => exact .nil
  | cons he _ ih => exact .cons he.2 ih

end Entries

namespace Document
open Grammar (Value Directive)

/-! ## Documents with spreads replaced -/

/-- Some spreads are replaced. -/
inductive Inlines (fragments : OrderedMap Fragment) : List Selection → List Selection → Prop
  | nil : Inlines fragments [] []
  | field {name : String} {arguments : List (String × Value)} {directives : List Directive}
      {selections selections' rest rest' : List Selection}
      (hbelow : Inlines fragments selections selections') (hrest : Inlines fragments rest rest') :
      Inlines fragments (.field name arguments directives selections :: rest)
        (.field name arguments directives selections' :: rest')
  | inlineFragment {directives : List Directive}
      {selections selections' rest rest' : List Selection}
      (hbelow : Inlines fragments selections selections') (hrest : Inlines fragments rest rest') :
      Inlines fragments (.inlineFragment directives selections :: rest)
        (.inlineFragment directives selections' :: rest')
  | spread {name : String} {directives : List Directive} {rest rest' : List Selection}
      (hrest : Inlines fragments rest rest') :
      Inlines fragments (.spread name directives :: rest) (.spread name directives :: rest')
  | replaced {name : String} {directives : List Directive} {f : Fragment}
      {rest rest' : List Selection} (hfind : fragments.find? name = some f)
      (hrest : Inlines fragments rest rest') :
      Inlines fragments (.spread name directives :: rest)
        (.inlineFragment directives f.selections :: rest')

theorem Inlines.refl (fragments : OrderedMap Fragment) :
    ∀ sels : List Selection, Inlines fragments sels sels
  | [] => .nil
  | .field _ _ _ selections :: rest =>
    .field (Inlines.refl fragments selections) (Inlines.refl fragments rest)
  | .inlineFragment _ selections :: rest =>
    .inlineFragment (Inlines.refl fragments selections) (Inlines.refl fragments rest)
  | .spread _ _ :: rest => .spread (Inlines.refl fragments rest)

structure Operation.Inlined (fragments : OrderedMap Fragment) (o o' : Operation) : Prop where
  kind_eq : o'.kind = o.kind
  definitions_eq : o'.definitions = o.definitions
  directives_eq : o'.directives = o.directives
  selections : Inlines fragments o.selections o'.selections

structure Fragment.Inlined (fragments : OrderedMap Fragment) (f f' : Fragment) : Prop where
  directives_eq : f'.directives = f.directives
  selections : Inlines fragments f.selections f'.selections

inductive Operations.Inlined (fragments : OrderedMap Fragment) : Operations → Operations → Prop
  | anonymous {o o' : Operation} (h : o.Inlined fragments o') :
      Operations.Inlined fragments (.anonymous o) (.anonymous o')
  | named {os os' : OrderedMap Operation}
      (h : Entries.Related (Operation.Inlined fragments) os.entries os'.entries) :
      Operations.Inlined fragments (.named os) (.named os')

/-- Some spreads of a document are replaced, in its operations or in its fragments. -/
structure Inlined (d d' : Document) : Prop where
  operations : d.operations.Inlined d.fragments d'.operations
  fragments : Entries.Related (Fragment.Inlined d.fragments) d.fragments.entries
    d'.fragments.entries

namespace Inlined
variable {d d' : Document}

theorem fragment_of_some (h : Inlined d d') {name : String} {f : Fragment}
    (hfind : d.fragments.find? name = some f) :
    ∃ f', d'.fragments.find? name = some f' ∧
      Inlines d.fragments f.selections f'.selections := by
  have hrel := h.fragments.find? name
  rw [show Entries.find? d.fragments.entries name = some f from hfind] at hrel
  generalize hfind' : Entries.find? d'.fragments.entries name = found at hrel
  cases hrel with
  | some hf => exact ⟨_, hfind', hf.selections⟩

theorem some_of_fragment (h : Inlined d d') {name : String} {f' : Fragment}
    (hfind' : d'.fragments.find? name = some f') :
    ∃ f, d.fragments.find? name = some f ∧ Inlines d.fragments f.selections f'.selections := by
  have hrel := h.fragments.find? name
  rw [show Entries.find? d'.fragments.entries name = some f' from hfind'] at hrel
  generalize hfind : Entries.find? d.fragments.entries name = found at hrel
  cases hrel with
  | some hf => exact ⟨_, hfind, hf.selections⟩

/-! ## What they expand to -/

theorem expands (h : Inlined d d') {scope : Variables} {sels sels' : List Selection}
    {fields : List PlainField} (hexpands : Expands d.fragments scope sels fields)
    (hsels : Inlines d.fragments sels sels') : Expands d'.fragments scope sels' fields := by
  induction hexpands generalizing sels' with
  | nil =>
    cases hsels
    exact .nil
  | excluded hout _ ih =>
    cases hsels with
    | field _ hrest => exact .excluded hout (ih hrest)
    | inlineFragment _ hrest => exact .excluded hout (ih hrest)
    | spread hrest => exact .excluded hout (ih hrest)
    | replaced _ hrest => exact .excluded hout (ih hrest)
  | field hkept _ _ ihbelow ihrest =>
    cases hsels with
    | field hbelow hrest => exact .field hkept (ihbelow hbelow) (ihrest hrest)
  | inlineFragment hkept _ _ ihbelow ihrest =>
    cases hsels with
    | inlineFragment hbelow hrest => exact .inlineFragment hkept (ihbelow hbelow) (ihrest hrest)
  | spread hkept hfind _ _ ihbelow ihrest =>
    cases hsels with
    | spread hrest =>
      obtain ⟨f', hfind', hf⟩ := h.fragment_of_some hfind
      exact .spread hkept hfind' (ihbelow hf) (ihrest hrest)
    | replaced hfind' hrest =>
      -- The selections that are put in place are those of `d`, with nothing replaced in them.
      cases hfind.symm.trans hfind'
      exact .inlineFragment hkept (ihbelow (Inlines.refl _ _)) (ihrest hrest)

theorem of_expands (h : Inlined d d') {scope : Variables} {sels sels' : List Selection}
    {fields : List PlainField} (hexpands : Expands d'.fragments scope sels' fields)
    (hsels : Inlines d.fragments sels sels') : Expands d.fragments scope sels fields := by
  induction hexpands generalizing sels with
  | nil =>
    cases hsels
    exact .nil
  | excluded hout _ ih =>
    cases hsels with
    | field _ hrest => exact .excluded hout (ih hrest)
    | inlineFragment _ hrest => exact .excluded hout (ih hrest)
    | spread hrest => exact .excluded hout (ih hrest)
    | replaced _ hrest => exact .excluded hout (ih hrest)
  | field hkept _ _ ihbelow ihrest =>
    cases hsels with
    | field hbelow hrest => exact .field hkept (ihbelow hbelow) (ihrest hrest)
  | inlineFragment hkept _ _ ihbelow ihrest =>
    cases hsels with
    | inlineFragment hbelow hrest => exact .inlineFragment hkept (ihbelow hbelow) (ihrest hrest)
    | replaced hfind hrest =>
      exact .spread hkept hfind (ihbelow (Inlines.refl _ _)) (ihrest hrest)
  | spread hkept hfind' _ _ ihbelow ihrest =>
    cases hsels with
    | spread hrest =>
      obtain ⟨f, hfind, hf⟩ := h.some_of_fragment hfind'
      exact .spread hkept hfind (ihbelow hf) (ihrest hrest)

theorem pick (h : Inlined d d') (operationName : Option String) :
    (∃ o o', d.pick operationName = .ok o ∧ d'.pick operationName = .ok o' ∧
      o.Inlined d.fragments o') ∨
    ∃ e, d.pick operationName = .error e ∧ d'.pick operationName = .error e := by
  unfold Document.pick
  generalize hoperations : d.operations = operations
  generalize hoperations' : d'.operations = operations'
  have hrel := h.operations
  rw [hoperations, hoperations'] at hrel
  cases hrel with
  | anonymous ho => exact .inl ⟨_, _, rfl, rfl, ho⟩
  | @named os os' hos =>
    cases operationName with
    | some name =>
      have hfind := hos.find? name
      dsimp only [OrderedMap.find?]
      generalize Entries.find? os.entries name = found at hfind ⊢
      generalize Entries.find? os'.entries name = found' at hfind ⊢
      cases hfind with
      | some ho => exact .inl ⟨_, _, rfl, rfl, ho⟩
      | none => exact .inr ⟨_, rfl, rfl⟩
    | none =>
      have hvalues := hos.values
      dsimp only [OrderedMap.values]
      generalize os.entries.map Prod.snd = values at hvalues ⊢
      generalize os'.entries.map Prod.snd = values' at hvalues ⊢
      cases hvalues with
      | nil => exact .inr ⟨_, rfl, rfl⟩
      | cons ho hrest =>
        cases hrest with
        | nil => exact .inl ⟨_, _, rfl, rfl, ho⟩
        | cons => exact .inr ⟨_, rfl, rfl⟩

theorem rootFields_iff (h : Inlined d d') (operationName : Option String) (given : Variables)
    (nodes : List SelectionSql.Selection.Node) :
    d'.rootFields operationName given = .ok nodes ↔
      d.rootFields operationName given = .ok nodes := by
  rw [rootFields_eq_ok_iff, rootFields_eq_ok_iff]
  rcases h.pick operationName with ⟨o, o', hpick, hpick', ho⟩ | ⟨e, hpick, hpick'⟩
  · have hscope : o'.scope given = o.scope given := by
      rw [Operation.scope, Operation.scope, ho.definitions_eq]
    constructor
    · rintro ⟨o₁, fields, hpick₁, hkind, hfields, rfl⟩
      cases hpick'.symm.trans hpick₁
      rw [hscope] at hfields ⊢
      exact ⟨o, fields, hpick, ho.kind_eq ▸ hkind, h.of_expands hfields ho.selections, rfl⟩
    · rintro ⟨o₁, fields, hpick₁, hkind, hfields, rfl⟩
      cases hpick.symm.trans hpick₁
      refine ⟨o', fields, hpick', ho.kind_eq.trans hkind, ?_, ?_⟩
      · rw [hscope]
        exact h.expands hfields ho.selections
      · rw [hscope]
  · constructor
    · rintro ⟨o₁, _, hpick₁, _⟩
      cases hpick'.symm.trans hpick₁
    · rintro ⟨o₁, _, hpick₁, _⟩
      cases hpick.symm.trans hpick₁

end Inlined

/-- An operation has fields exactly if it is a query that expands to plain fields, and then they
are the nodes of these, one for each and in their order. Operations expand in one way at most.
Replacing spreads of defined fragments by inline fragments, at any depth and any number of times,
leaves the fields as they are, and a failure a failure. -/
theorem fragments_are_sugar (d : Document) (operationName : Option String) (given : Variables) :
    (∀ nodes, d.rootFields operationName given = .ok nodes ↔
      ∃ o fields, d.pick operationName = .ok o ∧ o.kind = .query ∧
        Expands d.fragments (o.scope given) o.selections fields ∧
        nodes = fields.map (PlainField.node (o.scope given))) ∧
    (∀ scope sels fields fields', Expands d.fragments scope sels fields →
      Expands d.fragments scope sels fields' → fields = fields') ∧
    (∀ d', Relation.ReflTransGen Inlined d d' → ∀ nodes,
      d'.rootFields operationName given = .ok nodes ↔
        d.rootFields operationName given = .ok nodes) := by
  refine ⟨fun nodes => rootFields_eq_ok_iff, fun _ _ _ _ h h' => h.unique h', ?_⟩
  intro d' h nodes
  induction h with
  | refl => exact Iff.rfl
  | tail _ hlast ih => exact (hlast.rootFields_iff operationName given nodes).trans ih

/-! ## A post with some of its fields in a fragment -/

namespace Titled

def title : Fragment := ⟨[], [.field "title" [] [] []]⟩

def fragments : OrderedMap Fragment := .ofList [("Title", title)]

/-- A fragment is spread if `$full` says so. -/
def ifFull : List Directive := [⟨"include", [("if", .variable "full")]⟩]

/-- As many posts as `$first` says, and no drafts. -/
def arguments : List (String × Value) :=
  [("limit", .variable "first"), ("where", .object [("draft", .boolean false)])]

def operation (selection : Selection) : Operation where
  kind := .query
  definitions := [⟨"full", [], some (.boolean true)⟩, ⟨"first", [], some (.number "10")⟩]
  directives := []
  selections := [.field "posts" arguments [] [.field "id" [] [] [], selection]]

def document (selection : Selection) : Document := ⟨.anonymous (operation selection), fragments⟩

def spread : Document := document (.spread "Title" ifFull)

def inlined : Document := document (.inlineFragment ifFull title.selections)

def given : Variables := .ofList [("first", .number "3")]

/-- What either document requests where `$first` is three. -/
def posts : SelectionSql.Selection.Node :=
  ⟨"posts", .ofList
    [("limit", .scalar (.int 3)), ("where", .object [("draft", .scalar (.bool false))])],
    [.ofName "id", .ofName "title"]⟩

theorem inlined_spread : Inlined spread inlined where
  operations := .anonymous
    ⟨rfl, rfl, rfl, .field (.field .nil (.replaced rfl .nil)) .nil⟩
  fragments := Entries.Related.refl (fun f => ⟨rfl, Inlines.refl fragments f.selections⟩) _

end Titled

theorem fragments_are_sugar_titled :
    Titled.spread.rootFields none Titled.given = .ok [Titled.posts] ∧
    Titled.inlined.rootFields none Titled.given = .ok [Titled.posts] := by
  obtain ⟨hexpands, -, hinlined⟩ := fragments_are_sugar Titled.spread none Titled.given
  have htitle : Expands Titled.fragments ((Titled.operation (.spread "Title" Titled.ifFull)).scope
      Titled.given) [.spread "Title" Titled.ifFull] ([⟨"title", [], []⟩] ++ []) := by
    have hbody : ∀ scope, Expands Titled.fragments scope Titled.title.selections
        [⟨"title", [], []⟩] := fun scope => .field (isIncluded_eq_true_iff.1 rfl) .nil .nil
    exact .spread (isIncluded_eq_true_iff.1 rfl) rfl (hbody _) .nil
  have hspread : Titled.spread.rootFields none Titled.given = .ok [Titled.posts] := by
    refine (hexpands _).2 ⟨_, [⟨"posts", Titled.arguments, [⟨"id", [], []⟩, ⟨"title", [], []⟩]⟩],
      rfl, rfl, ?_, rfl⟩
    exact .field (isIncluded_eq_true_iff.1 rfl)
      (.field (isIncluded_eq_true_iff.1 rfl) .nil htitle) .nil
  exact ⟨hspread, (hinlined _ (.single Titled.inlined_spread) _).2 hspread⟩

end Document
end SelectionSql
