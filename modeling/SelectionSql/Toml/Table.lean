import SelectionSql.Binary64.Basic
import SelectionSql.Entries

/-!
# Values and tables of TOML

A TOML text is a sequence of statements: headings, which open tables, and entries for the table that
is open.

* `Toml.Value`: a value; of a table it is kept how it came about, of a list whether headings extend
  it.
* `Toml.Statement`: a heading or an entry.
* `Toml.within`: changes the table at the end of a path.
* `Toml.Table.openHeading`, `openItem`, `define`: what the three kinds of statements do.
* `Toml.ofStatements?`: the table that a text describes; nothing if two statements conflict.
-/
set_option autoImplicit false

namespace SelectionSql
namespace Toml

/-- How a table came about. -/
inductive Origin where
  /-- By a longer heading that passes through it. -/
  | passed
  /-- By a key with dots. -/
  | dotted
  /-- By its own heading. -/
  | heading
  /-- By a value between braces. -/
  | braces
deriving DecidableEq, Repr

inductive Value where
  | string (text : String)
  /-- A whole number, of any size. -/
  | integer (value : Int)
  /-- A number with a point or a power of ten; nothing if it is too large for a double. -/
  | float (value : Option Binary64)
  | boolean (value : Bool)
  /-- A date, a time, or both. -/
  | moment
  /-- A list; headings may extend it if they made it. -/
  | list (ofHeadings : Bool) (items : List Value)
  | table (origin : Origin) (entries : List (String × Value))

instance : Inhabited Value := ⟨.moment⟩

structure Table where
  origin : Origin
  entries : Entries Value

instance : Inhabited Table := ⟨⟨.heading, []⟩⟩

namespace Table

def toValue (t : Table) : Value := .table t.origin t.entries

def find? (t : Table) (key : String) : Option Value := Entries.find? t.entries key

def insert (t : Table) (key : String) (value : Value) : Table :=
  { t with entries := Entries.insert t.entries key value }

/-- A table that a path may enter: neither one between braces nor, for a key with dots, one that
has its own heading. -/
def isOpenFor (byDots : Bool) (t : Table) : Bool :=
  t.origin != .braces && !(byDots && t.origin == .heading)

end Table

/-! ## Paths -/

/-- The table that a value is for a path that goes through it, with the way to put a changed one in
its place: of a list made by headings that is its last table. -/
def Value.enter? (byDots : Bool) : Value → Option (Table × (Table → Value))
  | .table origin entries =>
    if Table.isOpenFor byDots ⟨origin, entries⟩ then some (⟨origin, entries⟩, Table.toValue)
    else none
  | .list true items => match items.getLast? with
    | some (.table origin entries) =>
      some (⟨origin, entries⟩, fun t => .list true (items.dropLast ++ [t.toValue]))
    | _ => none
  | _ => none

/-- Changes the table at the end of a path; tables that are missing on the way come about. -/
def within (byDots : Bool) (change : Table → Option Table) : List String → Table → Option Table
  | [], t => change t
  | key :: path, t => match t.find? key with
    | none => do
      let inner ← within byDots change path ⟨if byDots then .dotted else .passed, []⟩
      return t.insert key inner.toValue
    | some v => do
      let (inner, put) ← v.enter? byDots
      let inner ← within byDots change path inner
      return t.insert key (put inner)

namespace Table

/-- Opens the table of a heading: a new one, or one that only longer headings have passed. -/
def openHeading (key : String) (t : Table) : Option Table :=
  match t.find? key with
  | none => some (t.insert key (.table .heading []))
  | some (.table .passed entries) => some (t.insert key (.table .heading entries))
  | some _ => none

def openItem (key : String) (t : Table) : Option Table :=
  match t.find? key with
  | none => some (t.insert key (.list true [.table .heading []]))
  | some (.list true items) => some (t.insert key (.list true (items ++ [.table .heading []])))
  | some _ => none

/-- Gives a new key a value. Keys with dots end in a table that such keys made. -/
def define (path : List String) (key : String) (value : Value) : Table → Option Table :=
  within true (fun t =>
    if (t.origin == .dotted) == path.isEmpty then none
    else if (t.find? key).isSome then none
    else some (t.insert key value)) path

end Table

/-! ## Statements -/

/-- The parts of a key with dots: the way and the last part. -/
structure Key where
  path : List String
  last : String
deriving DecidableEq, Repr

def Key.parts (k : Key) : List String := k.path ++ [k.last]

inductive Statement where
  | heading (key : Key)
  | itemHeading (key : Key)
  | entry (key : Key) (value : Value)

/-- The whole table and the path of the table that is open. -/
structure State where
  root : Table
  opened : List String

def State.initial : State := ⟨⟨.heading, []⟩, []⟩

def State.next? (s : State) : Statement → Option State
  | .heading key => do
    let root ← within false (Table.openHeading key.last) key.path s.root
    return ⟨root, key.parts⟩
  | .itemHeading key => do
    let root ← within false (Table.openItem key.last) key.path s.root
    return ⟨root, key.parts⟩
  | .entry key value => do
    let root ← within false (Table.define key.path key.last value) s.opened s.root
    return { s with root := root }

def ofStatements? (statements : List Statement) : Option Table :=
  (statements.foldlM State.next? State.initial).map State.root

/-- The table between braces that entries describe. -/
def ofEntries? (entries : List (Key × Value)) : Option Table :=
  entries.foldlM (fun t e => Table.define e.1.path e.1.last e.2 t) ⟨.braces, []⟩

end Toml
end SelectionSql
