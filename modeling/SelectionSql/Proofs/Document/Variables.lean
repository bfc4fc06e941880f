import SelectionSql.Proofs.Document.Expansion
import SelectionSql.Proofs.Document.Literal
import SelectionSql.Proofs.Json.Integer

/-!
# Variables are transparent

* `Document.substitute`: a document with its variables replaced, wherever they occur.
* `Operation.valueOf`: the value of a variable: the given one, else the declared default, else null.
* `evaluate_substitute`, `isIncluded_substitute`, `nodesOf_substitute`, `spreadNodes_substitute`: a
  replaced part says under any values what the part said.
* `Document.variables_transparent`: literals in place of the variables request the same fields.
-/
set_option autoImplicit false

namespace SelectionSql

/-! ## Replacing variables -/

namespace Grammar

mutual

/-- A value with its variables replaced, at any depth. -/
def Value.substitute (literal : String → Value) : Value → Value
  | .variable name => literal name
  | .list items => .list (Value.substituteList literal items)
  | .object fields => .object (Value.substituteFields literal fields)
  | v => v

def Value.substituteList (literal : String → Value) : List Value → List Value
  | [] => []
  | v :: rest => v.substitute literal :: Value.substituteList literal rest

def Value.substituteFields (literal : String → Value) :
    List (String × Value) → List (String × Value)
  | [] => []
  | (name, v) :: rest => (name, v.substitute literal) :: Value.substituteFields literal rest

end

def Directive.substitute (literal : String → Value) (d : Directive) : Directive :=
  { d with arguments := Value.substituteFields literal d.arguments }

theorem Directive.argument?_substitute (literal : String → Value) (d : Directive) (name : String) :
    (d.substitute literal).argument? name = (d.argument? name).map (Value.substitute literal) := by
  have hfind : ∀ arguments : List (String × Value),
      ((Value.substituteFields literal arguments).find? fun a => a.1 = name).map Prod.snd =
        ((arguments.find? fun a => a.1 = name).map Prod.snd).map (Value.substitute literal) := by
    intro arguments
    induction arguments with
    | nil => rfl
    | cons a rest ih =>
      obtain ⟨k, v⟩ := a
      rw [Value.substituteFields, List.find?_cons, List.find?_cons]
      by_cases hname : k = name
      · simp only [hname, decide_true, Option.map_some]
      · simp only [hname, decide_false]
        exact ih
  exact hfind d.arguments

end Grammar

namespace Document
open Grammar (Value Directive Literal)

mutual

def Selection.substitute (literal : String → Value) : Selection → Selection
  | .field name arguments directives selections =>
    .field name (Value.substituteFields literal arguments)
      (directives.map (Directive.substitute literal)) (Selection.substituteAll literal selections)
  | .inlineFragment directives selections =>
    .inlineFragment (directives.map (Directive.substitute literal))
      (Selection.substituteAll literal selections)
  | .spread fragment directives =>
    .spread fragment (directives.map (Directive.substitute literal))

def Selection.substituteAll (literal : String → Value) : List Selection → List Selection
  | [] => []
  | s :: rest => s.substitute literal :: Selection.substituteAll literal rest

end

/-- The declarations of variables stay as they are: they hold constants. -/
def Operation.substitute (literal : String → Value) (o : Operation) : Operation :=
  { o with
    directives := o.directives.map (Directive.substitute literal)
    selections := Selection.substituteAll literal o.selections }

def Fragment.substitute (literal : String → Value) (f : Fragment) : Fragment where
  directives := f.directives.map (Directive.substitute literal)
  selections := Selection.substituteAll literal f.selections

def Operations.substitute (literal : String → Value) : Operations → Operations
  | .anonymous o => .anonymous (o.substitute literal)
  | .named os => .named (os.map (Operation.substitute literal))

/-- A document with its variables replaced, in all operations and fragments. -/
def substitute (literal : String → Value) (d : Document) : Document where
  operations := d.operations.substitute literal
  fragments := d.fragments.map (Fragment.substitute literal)

theorem pick_substitute (literal : String → Value) (d : Document) (operationName : Option String) :
    (d.substitute literal).pick operationName =
      (d.pick operationName).map (Operation.substitute literal) := by
  unfold pick substitute
  cases d.operations with
  | anonymous o => rfl
  | named os =>
    cases operationName with
    | some name =>
      dsimp only [Operations.substitute]
      rw [OrderedMap.find?_map]
      cases os.find? name <;> rfl
    | none =>
      dsimp only [Operations.substitute]
      rw [OrderedMap.values_map]
      match os.values with
      | [] => rfl
      | [_] => rfl
      | _ :: _ :: _ => rfl

/-! ## The values of variables -/

/-- The default of a variable: that of the first declaration which has one. -/
def Operation.default? (o : Operation) (name : String) : Option Json :=
  o.definitions.findSome? fun v => if v.name = name then v.default.map Value.toJson else none

/-- The value of a variable: the given one, be it null, or else the declared default, or else
null. -/
def Operation.valueOf (o : Operation) (given : Variables) (name : String) : Json :=
  ((given.find? name).or (o.default? name)).getD .null

theorem find?_withDefault (scope : Variables) (v : VariableDefinition) (name : String) :
    (withDefault scope v).find? name =
      (scope.find? name).or (if v.name = name then v.default.map Value.toJson else none) := by
  unfold withDefault
  cases v.default with
  | none => rw [Option.map_none, ite_self, Option.or_none]
  | some value =>
    dsimp only
    by_cases hname : v.name = name
    · rw [if_pos hname, hname, OrderedMap.contains]
      cases hfind : scope.find? name with
      | none =>
        rw [Option.isSome_none, if_neg Bool.false_ne_true, OrderedMap.find?_insert, if_pos rfl]
        rfl
      | some given =>
        rw [Option.isSome_some, if_pos rfl, hfind]
        rfl
    · rw [if_neg hname, Option.or_none]
      split
      · rfl
      · rw [OrderedMap.find?_insert, if_neg hname]

theorem find?_scope (o : Operation) (given : Variables) (name : String) :
    (o.scope given).find? name = (given.find? name).or (o.default? name) := by
  unfold Operation.scope Operation.default?
  induction o.definitions generalizing given with
  | nil => exact Option.or_none.symm
  | cons v rest ih =>
    rw [List.foldl_cons, ih, find?_withDefault, Option.or_assoc, List.findSome?_cons]
    cases if v.name = name then v.default.map Value.toJson else none <;> rfl

theorem variableValue_scope (o : Operation) (given : Variables) (name : String) :
    variableValue (o.scope given) name = ArgumentValue.ofJson (o.valueOf given name).sorted := by
  unfold variableValue Operation.valueOf
  rw [find?_scope]
  cases (given.find? name).or (o.default? name) <;> rfl

/-! ## Values and conditions say the same -/

/-- Under `scope'` the literals stand for what the variables stand for under `scope`. -/
def Stands (literal : String → Value) (scope scope' : Variables) : Prop :=
  ∀ name, evaluate scope' (literal name) = variableValue scope name

variable {scope scope' : Variables} {literal : String → Value}

mutual

theorem evaluate_substitute (h : Stands literal scope scope') :
    ∀ v : Value, evaluate scope' (v.substitute literal) = evaluate scope v
  | .variable name => by rw [Value.substitute, evaluate, h name]
  | .null => rfl
  | .number _ => rfl
  | .string _ => rfl
  | .boolean _ => rfl
  | .enum _ => rfl
  | .list items => by rw [Value.substitute, evaluate, evaluate, evaluateList_substitute h items]
  | .object fields => by
    rw [Value.substitute, evaluate, evaluate, evaluateFields_substitute h fields]

theorem evaluateList_substitute (h : Stands literal scope scope') : ∀ items : List Value,
    evaluateList scope' (Value.substituteList literal items) = evaluateList scope items
  | [] => rfl
  | v :: rest => by
    rw [Value.substituteList, evaluateList, evaluateList, evaluate_substitute h v,
      evaluateList_substitute h rest]

theorem evaluateFields_substitute (h : Stands literal scope scope') :
    ∀ fields : List (String × Value),
      evaluateFields scope' (Value.substituteFields literal fields) = evaluateFields scope fields
  | [] => rfl
  | (_, v) :: rest => by
    rw [Value.substituteFields, evaluateFields, evaluateFields, evaluate_substitute h v,
      evaluateFields_substitute h rest]

end

theorem condition_substitute (h : Stands literal scope scope') (d : Directive) :
    condition scope' (d.substitute literal) = condition scope d := by
  have hargument : ((d.substitute literal).argument? "if").map (evaluate scope') =
      (d.argument? "if").map (evaluate scope) := by
    rw [Directive.argument?_substitute, Option.map_map]
    exact Option.map_congr fun v _ => evaluate_substitute h v
  unfold condition
  rw [hargument]

theorem isIncluded_substitute (h : Stands literal scope scope') (directives : List Directive) :
    isIncluded scope' (directives.map (Directive.substitute literal)) =
      isIncluded scope directives := by
  induction directives with
  | nil => rfl
  | cons d rest ih =>
    rw [List.map_cons, isIncluded, isIncluded, condition_substitute h d, ih]
    rfl

/-! ## Fields are the same -/

section Fields
variable {spread spread' : String → Except ResolveError (List SelectionSql.Selection.Node)}

mutual

theorem nodesOf_substitute (h : Stands literal scope scope')
    (hspread : ∀ name, spread' name = spread name) :
    ∀ s : Selection, nodesOf scope' spread' (s.substitute literal) = nodesOf scope spread s
  | .field _ _ _ selections => by
    rw [Selection.substitute, nodesOf, nodesOf, isIncluded_substitute h,
      evaluateFields_substitute h, nodesOfAll_substitute h hspread selections]
  | .inlineFragment _ selections => by
    rw [Selection.substitute, nodesOf, nodesOf, isIncluded_substitute h,
      nodesOfAll_substitute h hspread selections]
  | .spread _ _ => by
    rw [Selection.substitute, nodesOf, nodesOf, isIncluded_substitute h, hspread]

theorem nodesOfAll_substitute (h : Stands literal scope scope')
    (hspread : ∀ name, spread' name = spread name) :
    ∀ sels : List Selection, nodesOfAll scope' spread' (Selection.substituteAll literal sels) =
      nodesOfAll scope spread sels
  | [] => rfl
  | s :: rest => by
    rw [Selection.substituteAll, nodesOfAll, nodesOfAll, nodesOf_substitute h hspread s,
      nodesOfAll_substitute h hspread rest]

end

end Fields

theorem spreadNodes_eq (fragments : OrderedMap Fragment) (scope : Variables)
    (entered : List String) (name : String) :
    spreadNodes fragments scope entered name =
      if entered.contains name then .error (.invalidDocument (.fragmentCycle name))
      else match fragments.find? name with
        | none => .error (.invalidDocument (.unknownFragment name))
        | some f => nodesOfAll scope (spreadNodes fragments scope (name :: entered)) f.selections := by
  rw [spreadNodes]
  split
  · rfl
  · split
    · next hfind => rw [hfind]
    · next f hfind =>
      dsimp only
      rw [hfind]

/-- The same fragments are entered, and each of them requests the same fields. -/
theorem spreadNodes_substitute (h : Stands literal scope scope') (fragments : OrderedMap Fragment)
    (entered : List String) (name : String) :
    spreadNodes (fragments.map (Fragment.substitute literal)) scope' entered name =
      spreadNodes fragments scope entered name := by
  induction entered, name using spreadNodes.induct fragments with
  | case1 entered name hentered =>
    rw [spreadNodes_eq, spreadNodes_eq, if_pos hentered, if_pos hentered]
  | case2 entered name hfresh hfind =>
    rw [spreadNodes_eq, spreadNodes_eq, OrderedMap.find?_map, hfind]
    rfl
  | case3 entered name hfresh f hfind hlt ih =>
    have hselections : (f.substitute literal).selections =
        Selection.substituteAll literal f.selections := rfl
    rw [spreadNodes_eq, spreadNodes_eq, OrderedMap.find?_map, hfind]
    dsimp only [Option.map_some]
    rw [hselections, nodesOfAll_substitute h ih]

theorem fieldsOf_substitute (h : Stands literal scope scope') (fragments : OrderedMap Fragment)
    (o : Operation) :
    fieldsOf (fragments.map (Fragment.substitute literal)) scope' (o.substitute literal) =
      fieldsOf fragments scope o :=
  nodesOfAll_substitute h (spreadNodes_substitute h fragments []) o.selections

theorem rootFields_substitute {d : Document} {operationName : Option String}
    {given given' : Variables}
    (h : ∀ o, d.pick operationName = .ok o →
      Stands literal (o.scope given) ((o.substitute literal).scope given')) :
    (d.substitute literal).rootFields operationName given' = d.rootFields operationName given := by
  unfold rootFields
  rw [pick_substitute]
  cases hpick : d.pick operationName with
  | error e => rfl
  | ok o =>
    have hfields := fieldsOf_substitute (h o hpick) d.fragments o
    show (if o.kind ≠ .query then _ else fieldsOf _ _ _) = if o.kind ≠ .query then _ else _
    rw [← hfields]
    rfl

/-- Let every variable of the picked operation be replaced by the literal of its value, wherever it
occurs. Then the document requests, whatever values are given to it, what it requested before, or
fails with the same error. A value has one literal. An integer of 64 bits with a sign is the same
integer whether it is written in the document or given in a variable, and so is its text; every
other number is a double. -/
theorem variables_transparent (d : Document) (operationName : Option String) (given : Variables) :
    (∀ literal : String → Value,
      (∀ o, d.pick operationName = .ok o → ∀ name, Literal (o.valueOf given name) (literal name)) →
      ∀ given', (d.substitute literal).rootFields operationName given' =
        d.rootFields operationName given) ∧
    (∀ j : Json, ∃! v, Literal j v) ∧
    (∀ (scope : Variables) (text : String),
      evaluate scope (.number text) = ArgumentValue.ofJson (.number text) ∧
      ((∃ n : Int64, Number.ofText text = .int n.toInt ∧
          ArgumentValue.ofJson (.number text) = .scalar (.int n)) ∨
        (∀ n : Int64, Number.ofText text ≠ .int n.toInt) ∧
          ∃ f, ArgumentValue.ofJson (.number text) = .scalar (.float f))) ∧
    ∀ n : Int64, Number.ofText (intText n.toInt) = .int n.toInt := by
  refine ⟨fun literal hliteral given' => ?_, fun j => ?_, fun scope text => ⟨rfl, ?_⟩, fun n => ?_⟩
  · refine rootFields_substitute fun o ho name => ?_
    rw [evaluate_literal (hliteral o ho name), variableValue_scope]
  · exact ⟨_, (Grammar.literal_iff j _).2 rfl, fun v hv => (Grammar.literal_iff j v).1 hv⟩
  · by_cases hint : ∃ n : Int64, Number.ofText text = .int n.toInt
    · obtain ⟨n, hn⟩ := hint
      refine .inl ⟨n, hn, ?_⟩
      rw [ArgumentValue.ofJson, hn, Scalar.ofNumber_int]
    · have hne : ∀ n : Int64, Number.ofText text ≠ .int n.toInt := fun n hn => hint ⟨n, hn⟩
      obtain ⟨f, hf⟩ := Scalar.ofNumber_of_ne hne
      refine .inr ⟨hne, f, ?_⟩
      rw [ArgumentValue.ofJson, hf]
  · exact Number.ofText_intText n.le_toInt (Int.lt_trans n.toInt_lt (by decide))

/-! ## A filter in a variable -/

namespace Filtered

/-- Posts under a filter and a limit, each with its title if the last condition holds. -/
def operation (filter unset limit wanted : Value) : Operation where
  kind := .query
  definitions := [⟨"filter", [], some (.object [("b", .number "2"), ("a", .enum "X")])⟩,
    ⟨"limit", [], some (.number "5")⟩, ⟨"wanted", [], none⟩]
  directives := []
  selections := [.field "posts" [("where", .object [("any", .list [filter, unset])]),
    ("limit", limit)] [] [.spread "Title" [⟨"include", [("if", wanted)]⟩]]]

def document (filter unset limit wanted : Value) : Document where
  operations := .anonymous (operation filter unset limit wanted)
  fragments := .ofList [("Title", ⟨[], [.field "title" [] [] []]⟩)]

def withVariables : Document :=
  document (.variable "filter") (.variable "unset") (.variable "limit") (.variable "wanted")

/-- The declared filter in ascending order, and a limit that is null although a default is
declared. -/
def withLiterals : Document :=
  document (.object [("a", .string "X"), ("b", .number "2")]) .null .null (.boolean true)

def given : Variables := .ofList [("wanted", .bool true), ("limit", .null)]

def written (name : String) : Value :=
  if name = "filter" then .object [("a", .string "X"), ("b", .number "2")]
  else if name = "wanted" then .boolean true
  else .null

def node : SelectionSql.Selection.Node where
  name := "posts"
  arguments := .ofList [("where", .object [("any", .list
    [.object [("a", .scalar (.string "X")), ("b", .scalar (.int 2))], .scalar .null])]),
    ("limit", .scalar .null)]
  children := [.ofName "title"]

end Filtered

theorem Filtered.literal_written (o : Operation)
    (h : Filtered.withVariables.pick none = .ok o) (name : String) :
    Literal (o.valueOf Filtered.given name) (Filtered.written name) := by
  cases h
  by_cases hfilter : name = "filter"
  · subst hfilter
    exact (Grammar.literal_iff _ _).2 rfl
  by_cases hwanted : name = "wanted"
  · subst hwanted
    exact (Grammar.literal_iff _ _).2 rfl
  by_cases hlimit : name = "limit"
  · subst hlimit
    exact (Grammar.literal_iff _ _).2 rfl
  · have hnull : ∀ o, Filtered.withVariables.pick none = .ok o →
        o.valueOf Filtered.given name = .null := by
      rintro o ho
      cases ho
      simp [Operation.valueOf, Operation.default?, Filtered.operation, Filtered.given,
        OrderedMap.find?, OrderedMap.ofList, Entries.ofList, Entries.extend, Entries.insert,
        Entries.find?_cons, Ne.symm hfilter, Ne.symm hwanted, Ne.symm hlimit]
    rw [hnull _ rfl, Filtered.written, if_neg hfilter, if_neg hwanted]
    rfl

theorem variables_transparent_filtered :
    (∀ o, Filtered.withVariables.pick none = .ok o →
      ∀ name, Literal (o.valueOf Filtered.given name) (Filtered.written name)) ∧
    Filtered.withLiterals.rootFields none .empty = .ok [Filtered.node] ∧
    Filtered.withVariables.rootFields none Filtered.given = .ok [Filtered.node] := by
  have hsame := (variables_transparent Filtered.withVariables none Filtered.given).1
    Filtered.written Filtered.literal_written .empty
  have hfields : Filtered.withLiterals.rootFields none .empty = .ok [Filtered.node] := by
    refine rootFields_eq_ok_iff.2 ⟨_, [⟨"posts", [("where", .object [("any", .list
      [.object [("a", .string "X"), ("b", .number "2")], .null])]), ("limit", .null)],
      [⟨"title", [], []⟩]⟩], rfl, rfl, ?_, rfl⟩
    have htitle : ∀ scope, Expands Filtered.withLiterals.fragments scope
        [.spread "Title" [⟨"include", [("if", .boolean true)]⟩]] ([⟨"title", [], []⟩] ++ []) :=
      fun scope => .spread (isIncluded_eq_true_iff.1 rfl) rfl
        (.field (isIncluded_eq_true_iff.1 rfl) .nil .nil) .nil
    exact .field (isIncluded_eq_true_iff.1 rfl) (htitle _) .nil
  exact ⟨Filtered.literal_written, hfields, hsame.symm.trans hfields⟩

end Document
end SelectionSql
