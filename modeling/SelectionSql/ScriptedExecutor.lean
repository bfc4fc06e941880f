import SelectionSql.Executor

/-!
# Scripted executors

An executor that answers from a list of rules, for trying things out without a database.

* `Script.Pattern`: which statements a rule is for.
* `Script.Rule`: what it answers, and how often.
* `Script.take`: the first rule that is for a statement and has uses left, with one use less.
* `Script.executor`: the executor whose state is the script.
-/
set_option autoImplicit false

namespace SelectionSql
namespace Script

/-- Which statements a rule is for. -/
inductive Pattern where
  | any
  | exactly (text : String)
  | containing (text : String)
deriving DecidableEq, Repr

/-- The second list stands somewhere in the first. -/
def hasInfix (cs word : List Char) : Bool :=
  word.isPrefixOf cs ||
    match cs with
    | [] => false
    | _ :: rest => hasInfix rest word

def Pattern.isFor : Pattern → String → Bool
  | .any, _ => true
  | .exactly text, sql => sql == text
  | .containing text, sql => hasInfix sql.toList text.toList

/-- What a rule answers to a statement that reads rows and to one that writes. -/
structure Reply where
  rows : Except StorageError (List Row)
  outcome : Except StorageError WriteOutcome

/-- No rows, and a write that changes nothing. -/
def Reply.nothing : Reply := ⟨.ok [], .ok ⟨0, none⟩⟩

/-- A reply, and how often it is given; without a number any number of times. -/
structure Rule where
  pattern : Pattern
  uses : Option Nat
  reply : Reply

namespace Rule

def hasUses (r : Rule) : Bool := r.uses != some 0

def used (r : Rule) : Rule := { r with uses := r.uses.map (· - 1) }

end Rule

/-- The reply to a statement, and what is left of the script. -/
def take (sql : String) : List Rule → Reply × List Rule
  | [] => (.nothing, [])
  | r :: rest =>
    if r.pattern.isFor sql && r.hasUses then (r.reply, r.used :: rest)
    else
      let (reply, rest') := take sql rest
      (reply, r :: rest')

/-- The executor that answers from a script. -/
def executor (dialect : Dialect) : Executor (List Rule) where
  dialect := dialect
  fetchAll := fun sql rules =>
    let (reply, rest) := take sql rules
    (reply.rows, rest)
  execute := fun sql rules =>
    let (reply, rest) := take sql rules
    (reply.outcome, rest)

end Script
end SelectionSql
