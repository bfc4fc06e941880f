/-!
# Scanning arguments

* `Switch`: an option that takes a value.
* `Shape`: how one argument looks.
* `scan`: the options at the front of a list of arguments with their values, and what follows them.

A value stands behind its option, in the next argument or in the same one, there after an equals
sign for a long name and with or without one for a short name. An argument that looks like an
option is never a value. Only an option that repeats may be given twice.
-/
set_option autoImplicit false

namespace SelectionSql
namespace CommandLine

/-- An option that takes a value. -/
structure Switch where
  name : String
  short : Option Char
  accepts : String → Bool
  repeats : Bool

/-- Why a list of arguments is not carried out as a command. -/
inductive Stop where
  | misuse
  | help
  | version
deriving DecidableEq, Repr

/-- How an argument looks. -/
inductive Shape where
  /-- Neither of the others. -/
  | word
  /-- Two dashes, behind which nothing is an option. -/
  | separator
  | long (name : String) (value : Option String)
  /-- A dash, a letter and what follows it. -/
  | short (letter : Char) (attached : List Char)
deriving DecidableEq, Repr

def Shape.ofChars : List Char → Shape
  | ['-', '-'] => .separator
  | '-' :: '-' :: cs =>
    let name := String.ofList (cs.takeWhile (· ≠ '='))
    match cs.dropWhile (· ≠ '=') with
    | [] => .long name none
    | _ :: value => .long name (some (String.ofList value))
  | '-' :: letter :: attached => .short letter attached
  | _ => .word

def Shape.ofArgument (arg : String) : Shape := .ofChars arg.toList

/-- The value in the argument of a short name. -/
def attachedValue : List Char → Option String
  | [] => none
  | '=' :: cs => some (String.ofList cs)
  | cs => some (String.ofList cs)

/-- An option that has been given, by its long name, and its value. -/
abbrev Given : Type := String × String

/-- One more option; its value must be accepted, and a second one only if it repeats. -/
def give (s : Switch) (value : String) (given : List Given) : Except Stop (List Given) :=
  if s.accepts value = false then .error .misuse
  else if s.repeats = false ∧ (given.any fun g => g.1 == s.name) then .error .misuse
  else .ok (given ++ [(s.name, value)])

/-- The options at the front of the arguments, after those that have been given, and what follows
them. `flags` are the options without a value: each ends the scan. -/
def scan (switches : List Switch) (flags : List (Char × String × Stop)) :
    List Given → List String → Except Stop (List Given × List String)
  | given, [] => .ok (given, [])
  | given, arg :: rest =>
    let withValue (s : Switch) : Option String → Except Stop (List Given × List String)
      | some value => do scan switches flags (← give s value given) rest
      | none => match rest with
        | [] => .error .misuse
        | value :: rest =>
          if Shape.ofArgument value = .word then do
            scan switches flags (← give s value given) rest
          else .error .misuse
    match Shape.ofArgument arg with
    | .word => .ok (given, arg :: rest)
    | .separator => if rest.isEmpty then .ok (given, []) else .error .misuse
    | .long name value => match switches.find? fun s => s.name == name with
      | some s => withValue s value
      | none => match flags.find? fun f => f.2.1 == name with
        | some f => .error (if value.isNone then f.2.2 else .misuse)
        | none => .error .misuse
    | .short letter attached => match switches.find? fun s => s.short == some letter with
      | some s => withValue s (attachedValue attached)
      | none => match flags.find? fun f => f.1 == letter with
        | some f => .error f.2.2
        | none => .error .misuse

end CommandLine
end SelectionSql
