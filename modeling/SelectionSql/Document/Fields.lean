import SelectionSql.Document.Reader
import SelectionSql.Selection.Node

/-!
# The fields that a document requests

* `Document.Variables`: values by name; `variableValue` is the argument that a variable stands for.
* `Document.evaluate`: a value of the document with its variables replaced.
* `Document.isIncluded`: what `@skip` and `@include` say.
* `Document.nodesOf`, `nodesOfAll`: the requested fields of a selection and of a list of them, given
  the fields that the spread of a fragment stands for.
* `Document.spreadNodes`: the fields of a fragment. A fragment that is spread within itself is an
  error, so the fragments that may still be entered get fewer.
* `Document.rootFields`, `Document.requestedFields`: the fields of the operation that is picked.
-/
set_option autoImplicit false

namespace SelectionSql
namespace Document
open Grammar (Value Directive)

/-! ## Values -/

/-- Values of variables, by name. -/
abbrev Variables : Type := OrderedMap Json

/-- The argument that a variable stands for; objects in it are sorted by name. A variable without a
value is null. -/
def variableValue (scope : Variables) (name : String) : ArgumentValue :=
  match scope.find? name with
  | some value => .ofJson value.sorted
  | none => .scalar .null

/-- A declared default counts where no value is given. -/
def withDefault (scope : Variables) (v : VariableDefinition) : Variables :=
  match v.default with
  | some value =>
    if scope.contains v.name then scope else scope.insert v.name value.toJson
  | none => scope

/-- The values of an operation's variables: the given ones and the declared defaults. -/
def Operation.scope (o : Operation) (given : Variables) : Variables :=
  o.definitions.foldl withDefault given

mutual

/-- A value with its variables replaced. Of a repeated name in an object the last value counts. -/
def evaluate (scope : Variables) : Value → ArgumentValue
  | .variable name => variableValue scope name
  | .null => .scalar .null
  | .number text => .scalar (.ofNumber (Number.ofText text))
  | .string text => .scalar (.string text)
  | .boolean value => .scalar (.bool value)
  | .enum name => .scalar (.string name)
  | .list items => .list (evaluateList scope items)
  | .object fields => .object (Entries.ofList (evaluateFields scope fields))

def evaluateList (scope : Variables) : List Value → List ArgumentValue
  | [] => []
  | v :: rest => evaluate scope v :: evaluateList scope rest

def evaluateFields (scope : Variables) :
    List (String × Value) → List (String × ArgumentValue)
  | [] => []
  | (name, v) :: rest => (name, evaluate scope v) :: evaluateFields scope rest

end

/-! ## Conditions -/

/-- What the argument `if` of a directive says; a missing one is false. -/
def condition (scope : Variables) (d : Directive) : Except ResolveError Bool :=
  match (d.argument? "if").map (evaluate scope) with
  | none => .ok false
  | some (.scalar (.bool value)) => .ok value
  | some other => .error (.invalidArgument "if" (.expected "boolean" other.kind))

/-- The value of `if` under which a directive leaves its selection out. -/
def leavesOutWhen? (d : Directive) : Option Bool :=
  if d.name = "skip" then some true else if d.name = "include" then some false else none

/-- No directive leaves the selection out. Directives are read in order up to the first that
does. -/
def isIncluded (scope : Variables) : List Directive → Except ResolveError Bool
  | [] => .ok true
  | d :: rest =>
    match leavesOutWhen? d with
    | none => isIncluded scope rest
    | some out => do
      if (← condition scope d) = out then return false else isIncluded scope rest

/-! ## Fields -/

mutual

/-- The fields that a selection requests, where `spread` gives those of a fragment. -/
def nodesOf (scope : Variables) (spread : String → Except ResolveError (List Selection.Node)) :
    Selection → Except ResolveError (List Selection.Node)
  | .field name arguments directives selections => do
    if ← isIncluded scope directives then
      let children ← nodesOfAll scope spread selections
      return [⟨name, .ofList (evaluateFields scope arguments), children⟩]
    else return []
  | .inlineFragment directives selections => do
    if ← isIncluded scope directives then nodesOfAll scope spread selections else return []
  | .spread fragment directives => do
    if ← isIncluded scope directives then spread fragment else return []

/-- The fields that a list of selections requests, in order. -/
def nodesOfAll (scope : Variables)
    (spread : String → Except ResolveError (List Selection.Node)) :
    List Selection → Except ResolveError (List Selection.Node)
  | [] => .ok []
  | s :: rest => do
    let first ← nodesOf scope spread s
    let others ← nodesOfAll scope spread rest
    return first ++ others

end

def remaining (fragments : OrderedMap Fragment) (entered : List String) : List String :=
  fragments.keys.filter fun name => !entered.contains name

theorem remaining_cons_lt {fragments : OrderedMap Fragment} {entered : List String}
    {name : String} {f : Fragment} (fresh : entered.contains name = false)
    (found : fragments.find? name = some f) :
    (remaining fragments (name :: entered)).length < (remaining fragments entered).length := by
  have known : name ∈ fragments.keys := by
    have h := Entries.find?_eq_none_iff fragments.entries name
    by_cases hm : name ∈ Entries.keys fragments.entries
    · exact hm
    · rw [← h] at hm
      rw [OrderedMap.find?, hm] at found
      cases found
  have split : remaining fragments (name :: entered) =
      (remaining fragments entered).filter fun n => !(n == name) := by
    unfold remaining
    rw [List.filter_filter]
    congr 1
    funext n
    rw [List.contains_cons, Bool.not_or]
  rw [split]
  refine List.length_filter_lt_length_iff_exists.2 ⟨name, ?_, by simp⟩
  exact List.mem_filter.2 ⟨known, by rw [fresh]; rfl⟩

/-- The fields of a fragment, entered from the fragments `entered`. -/
def spreadNodes (fragments : OrderedMap Fragment) (scope : Variables) (entered : List String)
    (name : String) : Except ResolveError (List Selection.Node) :=
  if fresh : entered.contains name then .error (.invalidDocument (.fragmentCycle name))
  else match found : fragments.find? name with
    | none => .error (.invalidDocument (.unknownFragment name))
    | some f =>
      have := remaining_cons_lt (by simpa using fresh) found
      nodesOfAll scope (fun inner => spreadNodes fragments scope (name :: entered) inner)
        f.selections
termination_by (remaining fragments entered).length

def fieldsOf (fragments : OrderedMap Fragment) (scope : Variables) (o : Operation) :
    Except ResolveError (List Selection.Node) :=
  nodesOfAll scope (spreadNodes fragments scope []) o.selections

def rootFields (d : Document) (operationName : Option String) (given : Variables) :
    Except ResolveError (List Selection.Node) := do
  let operation ← (d.pick operationName).mapError .invalidDocument
  if operation.kind ≠ .query then .error (.invalidDocument .notAQuery)
  else fieldsOf d.fragments (operation.scope given) operation

def requestedFields (source : String) (operationName : Option String) (given : Variables) :
    Except ResolveError (List Selection.Node) := do
  let document ← (parse source).mapError .invalidDocument
  document.rootFields operationName given

end Document
end SelectionSql
