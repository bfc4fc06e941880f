import SelectionSql.Entries

/-!
# Ordered maps

Maps from names to values that keep the order in which names were first given. The type holds the
invariant that names are distinct; what an operation does is stated on its entries.

* `OrderedMap.find?`, `keys`, `values`: reading.
* `OrderedMap.insert`, `erase`, `extend`, `ofList`: the operations of `Entries`, on maps.
* `Row`-like maps of the other modules are instances of this type.
-/
set_option autoImplicit false

namespace SelectionSql

/-- Entries with distinct names. -/
structure OrderedMap (α : Type) where
  /-- The entries, in the order in which their names were first given. -/
  entries : Entries α
  nodup : (Entries.keys entries).Nodup

namespace OrderedMap
variable {α β : Type}

@[ext] theorem ext {m n : OrderedMap α} (h : m.entries = n.entries) : m = n := by
  cases m
  cases n
  cases h
  rfl

instance [DecidableEq α] : DecidableEq (OrderedMap α) := fun m n =>
  if h : m.entries = n.entries then isTrue (ext h) else isFalse fun e => h (e ▸ rfl)

def empty : OrderedMap α := ⟨[], by simp [Entries.keys]⟩

instance : Inhabited (OrderedMap α) := ⟨empty⟩

instance : EmptyCollection (OrderedMap α) := ⟨empty⟩

/-- The names, in order. -/
def keys (m : OrderedMap α) : List String := Entries.keys m.entries

def values (m : OrderedMap α) : List α := m.entries.map Prod.snd

def isEmpty (m : OrderedMap α) : Bool := m.entries.isEmpty

/-- The value under a name. -/
def find? (m : OrderedMap α) (name : String) : Option α := Entries.find? m.entries name

def contains (m : OrderedMap α) (name : String) : Bool := (m.find? name).isSome

/-- Replaces the value of a known name where it stands; a new name goes last. -/
def insert (m : OrderedMap α) (name : String) (value : α) : OrderedMap α :=
  ⟨Entries.insert m.entries name value, Entries.nodup_keys_insert m.nodup name value⟩

/-- Removes a name; the other entries keep their order. -/
def erase (m : OrderedMap α) (name : String) : OrderedMap α :=
  ⟨Entries.erase m.entries name, Entries.nodup_keys_erase m.nodup name⟩

/-- Inserts the entries of `more` in their order. -/
def extend (m more : OrderedMap α) : OrderedMap α :=
  ⟨Entries.extend m.entries more.entries, Entries.nodup_keys_extend m.nodup more.entries⟩

/-- The entries of a list, inserted in turn. -/
def ofList (l : List (String × α)) : OrderedMap α := ⟨Entries.ofList l, Entries.nodup_keys_ofList l⟩

/-- Applies `f` to every value. -/
def map (f : α → β) (m : OrderedMap α) : OrderedMap β where
  entries := m.entries.map fun e => (e.1, f e.2)
  nodup := by
    have h : Entries.keys (m.entries.map fun e => (e.1, f e.2)) = Entries.keys m.entries := by
      simp [Entries.keys]
    rw [h]
    exact m.nodup

@[simp] theorem entries_empty : (empty : OrderedMap α).entries = [] := rfl

@[simp] theorem entries_insert (m : OrderedMap α) (name : String) (value : α) :
    (m.insert name value).entries = Entries.insert m.entries name value := rfl

@[simp] theorem entries_erase (m : OrderedMap α) (name : String) :
    (m.erase name).entries = Entries.erase m.entries name := rfl

@[simp] theorem entries_extend (m more : OrderedMap α) :
    (m.extend more).entries = Entries.extend m.entries more.entries := rfl

@[simp] theorem entries_map (f : α → β) (m : OrderedMap α) :
    (m.map f).entries = m.entries.map fun e => (e.1, f e.2) := rfl

theorem find?_insert (m : OrderedMap α) (name : String) (value : α) (other : String) :
    (m.insert name value).find? other = if name = other then some value else m.find? other :=
  Entries.find?_insert m.entries name value other

theorem find?_eq_none_iff (m : OrderedMap α) (name : String) :
    m.find? name = none ↔ name ∉ m.keys := Entries.find?_eq_none_iff m.entries name

theorem contains_iff (m : OrderedMap α) (name : String) :
    m.contains name = true ↔ name ∈ m.keys := by
  rw [contains, Option.isSome_iff_ne_none, ne_eq, find?_eq_none_iff, Decidable.not_not]

theorem find?_erase (m : OrderedMap α) (name other : String) :
    (m.erase name).find? other = if name = other then none else m.find? other :=
  Entries.find?_erase m.entries name other

theorem find?_map (f : α → β) (m : OrderedMap α) (name : String) :
    (m.map f).find? name = (m.find? name).map f := Entries.find?_map f m.entries name

theorem values_map (f : α → β) (m : OrderedMap α) : (m.map f).values = m.values.map f := by
  rw [values, values, entries_map, List.map_map, List.map_map]
  rfl

end OrderedMap
end SelectionSql
