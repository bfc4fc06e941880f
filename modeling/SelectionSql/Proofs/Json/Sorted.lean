import Mathlib.Data.List.Induction
import Mathlib.Data.List.Nodup
import SelectionSql.Entries
import SelectionSql.Json.Basic

/-!
# Members in ascending order

* `Entries.Ascending`: names that ascend; `Entries.last?`: the value that a name was given last.
* `Entries.Sorts`: the same values under ascending names; there is one way to sort
  (`Sorts.unique`).
* `Json.sorts_sortMembers`: inserting members in turn sorts them.
* `Json.perm_sortMembers`: where no name is repeated, nothing is lost.
-/
set_option autoImplicit false

namespace SelectionSql

namespace Entries
variable {α β : Type}

/-- Each name is smaller than those behind it. -/
def Ascending (m : Entries α) : Prop := m.Pairwise fun a b => a.1 < b.1

/-- The value that a name was given last. -/
def last? (m : Entries α) (name : String) : Option α := find? m.reverse name

/-- The entries of `m` with ascending names, of a repeated name the last value. -/
structure Sorts (m sorted : Entries α) : Prop where
  ascending : Ascending sorted
  find?_eq (name : String) : find? sorted name = last? m name

theorem last?_concat (m : Entries α) (name : String) (value : α) (other : String) :
    last? (m ++ [(name, value)]) other = if name = other then some value else last? m other := by
  rw [last?, List.reverse_append, List.reverse_singleton, List.singleton_append, find?_cons]
  rfl

theorem last?_map (f : α → β) (m : Entries α) (name : String) :
    last? (m.map fun e => (e.1, f e.2)) name = (last? m name).map f := by
  rw [last?, ← List.map_reverse, find?_map]
  rfl

namespace Ascending

theorem nodup_keys {m : Entries α} (h : Ascending m) : (keys m).Nodup := by
  refine List.pairwise_map.2 (List.Pairwise.imp ?_ h)
  intro a b hlt heq
  rw [heq] at hlt
  exact String.lt_irrefl b.1 hlt

theorem map {m : Entries α} (h : Ascending m) (f : α → β) :
    Ascending (m.map fun e => (e.1, f e.2)) := List.pairwise_map.2 h

/-- Ascending entries are determined by what is found under each name. -/
theorem ext {m m' : Entries α} (h : Ascending m) (h' : Ascending m')
    (hfind : ∀ name, find? m name = find? m' name) : m = m' := by
  have hmem : ∀ e : String × α, e ∈ m ↔ e ∈ m' := by
    intro e
    rw [mem_iff_find? h.nodup_keys e.1 e.2, mem_iff_find? h'.nodup_keys e.1 e.2, hfind]
  have hperm : m.Perm m' :=
    (List.perm_ext_iff_of_nodup h.nodup_keys.of_map h'.nodup_keys.of_map).2 hmem
  exact hperm.eq_of_pairwise (fun _ _ _ _ hab hba => absurd hba (String.lt_asymm hab)) h h'

end Ascending

namespace Sorts

theorem unique {m sorted sorted' : Entries α} (h : Sorts m sorted) (h' : Sorts m sorted') :
    sorted = sorted' :=
  h.ascending.ext h'.ascending fun name => (h.find?_eq name).trans (h'.find?_eq name).symm

theorem map {m sorted : Entries α} (h : Sorts m sorted) (f : α → β) :
    Sorts (m.map fun e => (e.1, f e.2)) (sorted.map fun e => (e.1, f e.2)) where
  ascending := h.ascending.map f
  find?_eq name := by rw [find?_map, last?_map, h.find?_eq]

end Sorts
end Entries

namespace Json
open Entries

theorem find?_insertSorted (name : String) (value : Json) (m : Entries Json) (other : String) :
    find? (insertSorted name value m) other =
      if name = other then some value else find? m other := by
  induction m with
  | nil => rfl
  | cons e rest ih =>
    obtain ⟨k, v⟩ := e
    rw [insertSorted]
    by_cases hk : name = k
    · subst hk
      rw [if_pos rfl, find?_cons, find?_cons]
      by_cases ho : name = other
      · rw [if_pos ho, if_pos ho]
      · rw [if_neg ho, if_neg ho, if_neg ho]
    · rw [if_neg hk]
      by_cases hlt : name < k
      · rw [if_pos hlt, find?_cons]
      · rw [if_neg hlt, find?_cons, find?_cons, ih]
        by_cases ho : k = other
        · have hname : name ≠ other := fun h => hk (h.trans ho.symm)
          rw [if_pos ho, if_neg hname, if_pos ho]
        · rw [if_neg ho, if_neg ho]

theorem keys_insertSorted_lt {m : Entries Json} {k name : String} {value : Json} (hk : k < name)
    (h : ∀ e ∈ m, k < e.1) : ∀ e ∈ insertSorted name value m, k < e.1 := by
  induction m with
  | nil =>
    intro e he
    rw [List.mem_singleton.1 he]
    exact hk
  | cons e rest ih =>
    have hrest : ∀ e' ∈ rest, k < e'.1 := fun e' he' => h e' (List.mem_cons_of_mem e he')
    intro e' he'
    rw [insertSorted] at he'
    split at he'
    · rcases List.mem_cons.1 he' with rfl | he'
      · exact hk
      · exact hrest e' he'
    · split at he'
      · rcases List.mem_cons.1 he' with rfl | he'
        · exact hk
        · exact h e' he'
      · rcases List.mem_cons.1 he' with rfl | he'
        · exact h _ List.mem_cons_self
        · exact ih hrest e' he'

theorem ascending_insertSorted {m : Entries Json} (h : Ascending m) (name : String)
    (value : Json) : Ascending (insertSorted name value m) := by
  induction m with
  | nil => exact List.pairwise_singleton _ _
  | cons e rest ih =>
    obtain ⟨k, v⟩ := e
    obtain ⟨hk, hrest⟩ := List.pairwise_cons.1 h
    rw [insertSorted]
    by_cases heq : name = k
    · rw [if_pos heq, heq]
      exact List.pairwise_cons.2 ⟨hk, hrest⟩
    · rw [if_neg heq]
      by_cases hlt : name < k
      · rw [if_pos hlt]
        refine List.pairwise_cons.2 ⟨fun e' he' => ?_, h⟩
        rcases List.mem_cons.1 he' with rfl | he'
        · exact hlt
        · exact String.lt_trans hlt (hk e' he')
      · rw [if_neg hlt]
        have hgt : k < name :=
          String.not_le.1 fun hle => heq (String.le_antisymm hle (String.not_lt.1 hlt))
        exact List.pairwise_cons.2 ⟨keys_insertSorted_lt hgt hk, ih hrest⟩

theorem sorts_sortMembers (members : Entries Json) : Sorts members (sortMembers members) := by
  induction members using List.reverseRecOn with
  | nil => exact ⟨List.Pairwise.nil, fun _ => rfl⟩
  | append_singleton before m ih =>
    have hlast : sortMembers (before ++ [m]) = insertSorted m.1 m.2 (sortMembers before) := by
      rw [sortMembers, List.foldl_append]
      rfl
    rw [hlast]
    refine ⟨ascending_insertSorted ih.ascending m.1 m.2, fun name => ?_⟩
    rw [find?_insertSorted, ih.find?_eq, last?_concat]

/-- Where no name is repeated, sorting keeps every member. -/
theorem perm_sortMembers {members : Entries Json} (h : (keys members).Nodup) :
    members.Perm (sortMembers members) := by
  have hsorts := sorts_sortMembers members
  have hreverse : (keys members.reverse).Nodup := by
    rw [keys, List.map_reverse]
    exact List.nodup_reverse.2 h
  refine (List.perm_ext_iff_of_nodup h.of_map hsorts.ascending.nodup_keys.of_map).2 fun e => ?_
  rw [mem_iff_find? hsorts.ascending.nodup_keys e.1 e.2, hsorts.find?_eq, last?,
    ← mem_iff_find? hreverse, List.mem_reverse]

end Json
end SelectionSql
