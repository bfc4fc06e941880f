import SelectionSql.Settings.Basic
import SelectionSql.Toml.Table

/-!
# Settings from a table

* `Settings.isReadable`: whether all numbers in a value can be read.
* `Settings.Section`: where the values of one part of the settings are looked up, by name or by
  place.
* `Settings.ofTable?`: the settings that a table gives. Names that mean nothing do not count, but
  their values must be readable; places that mean nothing are not looked at. What is missing keeps
  its default, and a value of another type than the one needed is refused.
-/
set_option autoImplicit false

namespace SelectionSql
namespace Settings

/-! ## Numbers that can be read -/

/-- A number that fits 128 bits, signed or unsigned. -/
def fitsLargest (n : Int) : Bool :=
  decide (-((Nat.pow 2 127 : Nat) : Int) ≤ n) && decide (n < ((Nat.pow 2 128 : Nat) : Int))

mutual

/-- A value in which no number is too large. -/
def isReadable : Toml.Value → Bool
  | .integer n => fitsLargest n
  | .float f => f.isSome
  | .list _ items => areReadable items
  | .table _ entries => entriesAreReadable entries
  | .string _ | .boolean _ | .moment => true

/-- Values in which no number is too large. -/
def areReadable : List Toml.Value → Bool
  | [] => true
  | v :: vs => isReadable v && areReadable vs

/-- Values under names in which no number is too large. -/
def entriesAreReadable : List (String × Toml.Value) → Bool
  | [] => true
  | (_, v) :: entries => isReadable v && entriesAreReadable entries

end

/-! ## Where values are looked up -/

/-- The values of one part: under names, or one after the other. -/
inductive Section where
  | named (entries : Entries Toml.Value)
  | listed (items : List Toml.Value)

namespace Section

/-- The part that a value describes. A date has no names that mean anything. -/
def ofValue? : Toml.Value → Option Section
  | .table _ entries => if entriesAreReadable entries then some (.named entries) else none
  | .list _ items => some (.listed items)
  | .moment => some (.named [])
  | _ => none

/-- The value of the setting that has the name and the place. -/
def find? (s : Section) (place : Nat) (name : String) : Option Toml.Value :=
  match s with
  | .named entries => Entries.find? entries name
  | .listed items => items[place]?

/-- What a setting is set to, or its default; nothing if its value is refused. -/
def read? {α : Type} (s : Section) (ofValue? : Toml.Value → Option α) (place : Nat)
    (name : String) (default : α) : Option α :=
  match s.find? place name with
  | none => some default
  | some v => ofValue? v

end Section

/-! ## Values -/

def text? : Toml.Value → Option String
  | .string t => some t
  | _ => none

def flag? : Toml.Value → Option Bool
  | .boolean b => some b
  | _ => none

/-- A number of 64 bits without a sign. -/
def size? : Toml.Value → Option Nat
  | .integer n => if 0 ≤ n ∧ n < ((Nat.pow 2 64 : Nat) : Int) then some n.toNat else none
  | _ => none

def texts? : Toml.Value → Option (List String)
  | .list _ items => items.mapM text?
  | _ => none

/-- A value that holds nothing. -/
def isHollow : Toml.Value → Bool
  | .list _ items => items.isEmpty
  | .table _ entries => entries.isEmpty
  | _ => false

/-- A dialect, by its name or as the only name of a table, with nothing in it. -/
def dialect? : Toml.Value → Option Dialect
  | .string name => Dialect.ofExactName? name
  | .table _ [(name, v)] => if isHollow v then Dialect.ofExactName? name else none
  | _ => none

/-! ## Parts -/

def partNames : List String := ["database", "resolver", "auth"]

/-- The part under a name; an empty one if there is none. -/
def part? (t : Toml.Table) (name : String) : Option Section :=
  match t.find? name with
  | none => some (.named [])
  | some v => Section.ofValue? v

def ofTable? (t : Toml.Table) : Option Settings := do
  guard (entriesAreReadable (t.entries.filter fun e => e.1 ∉ partNames))
  let database ← part? t "database"
  let resolver ← part? t "resolver"
  let auth ← part? t "auth"
  return {
    dialect := ← database.read? dialect? 0 "dialect" default.dialect
    url := ← database.read? (fun v => (text? v).map some) 1 "url" default.url
    poolSize := ← database.read? size? 2 "pool_size" default.poolSize
    maxConcurrency := ← resolver.read? size? 0 "max_concurrency" default.maxConcurrency
    strictFields := ← resolver.read? flag? 1 "strict_fields" default.strictFields
    allowRawOrderBy := ← resolver.read? flag? 2 "allow_raw_order_by" default.allowRawOrderBy
    secret := ← auth.read? (fun v => (text? v).map some) 0 "secret" default.secret
    guest := {
      name := ← auth.read? text? 1 "guest_name" default.guest.name
      rules := ← auth.read? texts? 2 "guest_rules" default.guest.rules } }

end Settings
end SelectionSql
