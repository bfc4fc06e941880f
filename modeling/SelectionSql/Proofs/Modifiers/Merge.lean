import SelectionSql.Modifiers.Basic
import SelectionSql.Proofs.Entries

/-!
# Modifiers that are merged

The filter of merged modifiers is that of the caller, overridden by what is forced. Limit and
ordering are those of the side that counts first, or else of the other.

* `Modifiers.find?_filter_merge`, `entries_filter_merge`: a merged filter, column by column and in
  order.
* `Precedence.favoured`, `other`: the side that counts first, and the one that counts where the
  first gives nothing.
* `Modifiers.merge_assoc`, `merge_empty`, `empty_merge`, `merge_self`: modifiers under a merge are
  an idempotent monoid, whichever side counts first.
* `Modifiers.merge_overrides`: what merged modifiers are made of, and these laws.
-/
set_option autoImplicit false

namespace SelectionSql

namespace Precedence
variable (p : Precedence) (caller forced : Modifiers)

def favoured : Modifiers :=
  match p with
  | .caller => caller
  | .forced => forced

def other : Modifiers :=
  match p with
  | .caller => forced
  | .forced => caller

end Precedence

namespace Modifiers

/-! ## Filters -/

theorem find?_filter_merge (caller forced : Modifiers) (precedence : Precedence)
    (column : String) :
    (caller.merge forced precedence).filter.find? column =
      (forced.filter.find? column).or (caller.filter.find? column) :=
  OrderedMap.find?_extend caller.filter forced.filter column

theorem entries_filter_merge (caller forced : Modifiers) (precedence : Precedence) :
    (caller.merge forced precedence).filter.entries =
      caller.filter.entries.map (fun e => (e.1, (forced.filter.find? e.1).getD e.2)) ++
        forced.filter.entries.filter fun e => e.1 ∉ caller.filter.keys :=
  OrderedMap.entries_extend_eq caller.filter forced.filter

section Sides
variable (caller forced : Modifiers) (p : Precedence)

/-- `unbounded` is a limit that is given. -/
theorem limit_merge : (caller.merge forced p).limit =
    (p.favoured caller forced).limit.or (p.other caller forced).limit := by
  cases p <;> rfl

theorem orderBy_merge : (caller.merge forced p).orderBy =
    (p.favoured caller forced).orderBy.or (p.other caller forced).orderBy := by
  cases p <;> rfl

end Sides

/-! ## Laws -/

theorem ext {m n : Modifiers} (hfilter : m.filter = n.filter) (hlimit : m.limit = n.limit)
    (horder : m.orderBy = n.orderBy) : m = n := by
  cases m
  cases n
  rw [mk.injEq]
  exact ⟨hfilter, hlimit, horder⟩

section Laws
variable (a b c : Modifiers) (p : Precedence)

theorem merge_assoc : (a.merge b p).merge c p = a.merge (b.merge c p) p := by
  refine ext (OrderedMap.extend_assoc a.filter b.filter c.filter) ?_ ?_
  · cases p with
    | caller => exact Option.or_assoc
    | forced => exact Option.or_assoc.symm
  · cases p with
    | caller => exact Option.or_assoc
    | forced => exact Option.or_assoc.symm

theorem merge_empty : a.merge .empty p = a := by
  refine ext (OrderedMap.extend_empty a.filter) ?_ ?_
  · cases p with
    | caller => exact Option.or_none
    | forced => rfl
  · cases p with
    | caller => exact Option.or_none
    | forced => rfl

theorem empty_merge : Modifiers.empty.merge a p = a := by
  refine ext (OrderedMap.empty_extend a.filter) ?_ ?_
  · cases p with
    | caller => rfl
    | forced => exact Option.or_none
  · cases p with
    | caller => rfl
    | forced => exact Option.or_none

theorem merge_self : a.merge a p = a := by
  refine ext (OrderedMap.extend_self a.filter) ?_ ?_
  · cases p <;> exact Option.or_self
  · cases p <;> exact Option.or_self

/-- A merge overrides the caller's filter by the forced one, in place; limit and ordering come whole
from one side. Merges may be grouped at will, and merging nothing or the same again changes
nothing. -/
theorem merge_overrides :
    ((a.merge b p).filter.entries =
        a.filter.entries.map (fun e => (e.1, (b.filter.find? e.1).getD e.2)) ++
          b.filter.entries.filter fun e => e.1 ∉ a.filter.keys) ∧
      (a.merge b p).filter.keys.Nodup ∧
      (∀ column, column ∈ (a.merge b p).filter.keys ↔
        column ∈ a.filter.keys ∨ column ∈ b.filter.keys) ∧
      (∀ column, (a.merge b p).filter.find? column =
        (b.filter.find? column).or (a.filter.find? column)) ∧
      (a.merge b p).limit = (p.favoured a b).limit.or (p.other a b).limit ∧
      (a.merge b p).orderBy = (p.favoured a b).orderBy.or (p.other a b).orderBy ∧
      (a.merge b p).merge c p = a.merge (b.merge c p) p ∧
      a.merge .empty p = a ∧ Modifiers.empty.merge a p = a ∧
      a.merge a p = a :=
  ⟨entries_filter_merge a b p, (a.merge b p).filter.nodup,
    OrderedMap.mem_keys_extend a.filter b.filter, find?_filter_merge a b p, limit_merge a b p,
    orderBy_merge a b p, merge_assoc a b c p, merge_empty a p, empty_merge a p, merge_self a p⟩

end Laws

end Modifiers
end SelectionSql
