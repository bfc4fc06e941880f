import Mathlib.Data.List.Nodup
import SelectionSql.OrderedMap

/-!
# Entries that are inserted in turn

* `Entries.mem_insert`: no entry is there that was not there or inserted.
* `Entries.erase_of_notMem`: there is nothing to remove under a name that is not there.
* `Entries.extend_append`: names that are new are appended.
* `Entries.keys_extend`: names that are known stay where they are.
* `Entries.eq_of_keys`, `OrderedMap.eq_of_keys`: entries are their names, in order, and what stands
  under them.
* `OrderedMap.exists_split`, `nodup_of_split`: a map before and behind one of its entries.
* `OrderedMap.entries_extend_eq`: a map extended by another, entry by entry.
* `OrderedMap.extend_assoc`, `extend_self`, `empty_extend`: maps under `extend` are an idempotent
  monoid.
-/
set_option autoImplicit false

namespace SelectionSql

namespace Entries
variable {α : Type}

/-! ## One entry -/

theorem insert_of_notMem {m : Entries α} {name : String} (h : name ∉ keys m) (value : α) :
    insert m name value = m ++ [(name, value)] := by
  induction m with
  | nil => rfl
  | cons e rest ih =>
    obtain ⟨k, v⟩ := e
    have hk : k ≠ name := fun heq => h (by rw [← heq]; exact List.mem_cons_self)
    have hrest : name ∉ keys rest := fun hmem => h (List.mem_cons_of_mem k hmem)
    rw [insert, if_neg hk, ih hrest, List.cons_append]

theorem erase_of_notMem {m : Entries α} {name : String} (h : name ∉ keys m) : erase m name = m :=
  List.filter_eq_self.2 fun e he => decide_eq_true fun heq => h (List.mem_map.2 ⟨e, he, heq⟩)

/-- A value is put where its name stands, whatever it is. -/
theorem exists_insert_eq (m : Entries α) (name : String) :
    ∃ before after : Entries α,
      ∀ value, insert m name value = before ++ (name, value) :: after := by
  induction m with
  | nil => exact ⟨[], [], fun value => rfl⟩
  | cons e rest ih =>
    obtain ⟨k, v⟩ := e
    by_cases hk : k = name
    · subst hk
      exact ⟨[], rest, fun value => by rw [insert, if_pos rfl, List.nil_append]⟩
    · obtain ⟨before, after, h⟩ := ih
      exact ⟨(k, v) :: before, after, fun value => by
        rw [insert, if_neg hk, h, List.cons_append]⟩

theorem mem_insert {m : Entries α} {name : String} {value : α} {e : String × α}
    (h : e ∈ insert m name value) : e ∈ m ∨ e = (name, value) := by
  induction m with
  | nil => exact .inr (List.mem_singleton.1 h)
  | cons first rest ih =>
    obtain ⟨k, v⟩ := first
    rw [insert] at h
    split at h
    · next hk =>
      subst hk
      rcases List.mem_cons.1 h with rfl | h
      · exact .inr rfl
      · exact .inl (List.mem_cons_of_mem _ h)
    · rcases List.mem_cons.1 h with rfl | h
      · exact .inl List.mem_cons_self
      · exact (ih h).imp_left (List.mem_cons_of_mem _)

/-! ## Several entries -/

theorem extend_append {m more : Entries α} (h : (keys (m ++ more)).Nodup) :
    extend m more = m ++ more := by
  induction more generalizing m with
  | nil => exact (List.append_nil m).symm
  | cons e rest ih =>
    have hnew : e.1 ∉ keys m := by
      have hdisjoint := (List.nodup_append.1 (by rwa [keys, List.map_append] at h)).2.2
      exact fun hmem => hdisjoint e.1 hmem e.1 List.mem_cons_self rfl
    have hsplit : m ++ e :: rest = (m ++ [e]) ++ rest := by simp
    rw [hsplit] at h ⊢
    rw [← ih h, ← insert_of_notMem hnew]
    rfl

theorem ofList_of_nodup {l : Entries α} (h : (keys l).Nodup) : ofList l = l :=
  extend_append h

/-- Known names stay in their places; new ones follow in order. -/
theorem keys_extend {m more : Entries α} (h : (keys more).Nodup) :
    keys (extend m more) = keys m ++ (keys more).filter (· ∉ keys m) := by
  induction more generalizing m with
  | nil => exact (List.append_nil _).symm
  | cons e rest ih =>
    obtain ⟨k, v⟩ := e
    obtain ⟨hk, hrest⟩ := List.nodup_cons.1 h
    have hstep : keys (extend m ((k, v) :: rest)) =
        keys (insert m k v) ++ (keys rest).filter (· ∉ keys (insert m k v)) := ih hrest
    have hkeys : keys ((k, v) :: rest) = k :: keys rest := rfl
    rw [hstep, keys_insert, hkeys]
    by_cases hmem : k ∈ keys m
    · rw [if_pos hmem, List.filter_cons_of_neg (by simpa using hmem)]
    · have hothers : (keys rest).filter (· ∉ keys m ++ [k]) = (keys rest).filter (· ∉ keys m) := by
        refine List.filter_congr fun name hname => decide_eq_decide.2 ?_
        have hne : name ≠ k := fun heq => hk (heq ▸ hname)
        simp [hne]
      rw [if_neg hmem, List.filter_cons_of_pos (by simpa using hmem), hothers, List.append_assoc,
        List.singleton_append]

/-! ## Entries by their names -/

/-- Entries are what stands under their names. -/
theorem eq_map_keys {m : Entries α} (h : (keys m).Nodup) (d : α) :
    m = (keys m).map fun name => (name, (find? m name).getD d) := by
  induction m with
  | nil => rfl
  | cons e rest ih =>
    obtain ⟨k, v⟩ := e
    obtain ⟨hk, hrest⟩ := List.nodup_cons.1 h
    have htail : ∀ name ∈ keys rest, (find? ((k, v) :: rest) name).getD d =
        (find? rest name).getD d := by
      intro name hname
      have hne : k ≠ name := fun heq => hk (heq ▸ hname)
      rw [find?_cons, if_neg hne]
    show (k, v) :: rest = (k, (find? ((k, v) :: rest) k).getD d) ::
      (keys rest).map fun name => (name, (find? ((k, v) :: rest) name).getD d)
    rw [find?_cons, if_pos rfl, List.map_congr_left fun name hname => by rw [htail name hname],
      ← ih hrest]
    rfl

theorem eq_of_keys {m n : Entries α} (h : (keys m).Nodup) (hkeys : keys m = keys n)
    (hfind : ∀ name, find? m name = find? n name) : m = n := by
  cases m with
  | nil => exact (List.map_eq_nil_iff.1 hkeys.symm).symm
  | cons e rest =>
    refine (eq_map_keys h e.2).trans (.trans ?_ (eq_map_keys (hkeys ▸ h) e.2).symm)
    rw [← hkeys]
    exact List.map_congr_left fun name _ => by rw [hfind]

theorem find?_append (m n : Entries α) (name : String) :
    find? (m ++ n) name = (find? m name).or (find? n name) := by
  induction m with
  | nil => rfl
  | cons e rest ih =>
    rw [List.cons_append, find?_cons, find?_cons, ih]
    split <;> rfl

theorem find?_map_named {β : Type} (f : String → α → β) (m : Entries α) (name : String) :
    find? (m.map fun e => (e.1, f e.1 e.2)) name = (find? m name).map (f name) := by
  induction m with
  | nil => rfl
  | cons e rest ih =>
    rw [List.map_cons, find?_cons, find?_cons, ih]
    split
    · next h => rw [← h, Option.map_some]
    · rfl

theorem find?_filter (p : String → Bool) (m : Entries α) (name : String) :
    find? (m.filter fun e => p e.1) name = if p name then find? m name else none := by
  induction m with
  | nil => simp
  | cons e rest ih =>
    by_cases hname : e.1 = name
    · subst hname
      rw [List.filter_cons]
      by_cases hp : p e.1 = true
      · rw [if_pos hp, if_pos hp, find?_cons, find?_cons, if_pos rfl, if_pos rfl]
      · rw [if_neg hp, ih, if_neg hp, if_neg hp]
    · rw [find?_cons, if_neg hname, ← ih, List.filter_cons]
      split
      · rw [find?_cons, if_neg hname]
      · rfl

end Entries

/-! ## Maps -/

namespace OrderedMap
variable {α : Type}

theorem mem_keys_of_mem {m : OrderedMap α} {e : String × α} (h : e ∈ m.entries) : e.1 ∈ m.keys :=
  List.mem_map.2 ⟨e, h, rfl⟩

theorem exists_split {m : OrderedMap α} {name : String} (h : name ∈ m.keys) :
    ∃ before value after, m.entries = before ++ (name, value) :: after := by
  obtain ⟨⟨k, value⟩, he, rfl⟩ := List.mem_map.1 h
  obtain ⟨before, after, hentries⟩ := List.append_of_mem he
  exact ⟨before, value, after, hentries⟩

section Split
variable {m : OrderedMap α} {name : String} {value : α} {before after : Entries α}
  (h : m.entries = before ++ (name, value) :: after)
include h

theorem find?_of_split : m.find? name = some value :=
  (Entries.mem_iff_find? m.nodup name value).1 (by rw [h]; simp)

/-- The other entries have other names, all of them different. -/
theorem nodup_of_split : name ∉ Entries.keys before ∧ name ∉ Entries.keys after ∧
    (Entries.keys after).Nodup := by
  have hnodup := m.nodup
  rw [h, Entries.keys, List.map_append, List.map_cons] at hnodup
  obtain ⟨-, htail, hdisjoint⟩ := List.nodup_append.1 hnodup
  obtain ⟨hafter, hrest⟩ := List.nodup_cons.1 htail
  exact ⟨fun hmem => hdisjoint name hmem name List.mem_cons_self rfl, hafter, hrest⟩

end Split

theorem find?_eq_of_perm {m n : OrderedMap α} (h : m.entries.Perm n.entries) (name : String) :
    m.find? name = n.find? name := by
  refine Option.ext fun value => ?_
  show Entries.find? m.entries name = some value ↔ Entries.find? n.entries name = some value
  rw [← Entries.mem_iff_find? m.nodup, ← Entries.mem_iff_find? n.nodup, h.mem_iff]

theorem eq_of_keys {m n : OrderedMap α} (hkeys : m.keys = n.keys)
    (hfind : ∀ name, m.find? name = n.find? name) : m = n :=
  ext (Entries.eq_of_keys m.nodup hkeys hfind)

theorem keys_extend (m more : OrderedMap α) :
    (m.extend more).keys = m.keys ++ more.keys.filter (· ∉ m.keys) :=
  Entries.keys_extend more.nodup

theorem find?_extend (m more : OrderedMap α) (name : String) :
    (m.extend more).find? name = (more.find? name).or (m.find? name) :=
  Entries.find?_extend more.nodup name

theorem mem_keys_extend (m more : OrderedMap α) (name : String) :
    name ∈ (m.extend more).keys ↔ name ∈ m.keys ∨ name ∈ more.keys := by
  rw [keys_extend, List.mem_append, List.mem_filter, decide_eq_true_eq]
  tauto

/-- The entries of a map that is extended keep their places and take over new values; entries with
new names follow in order. -/
theorem entries_extend_eq (m more : OrderedMap α) :
    (m.extend more).entries =
      m.entries.map (fun e => (e.1, (more.find? e.1).getD e.2)) ++
        more.entries.filter fun e => e.1 ∉ m.keys := by
  refine Entries.eq_of_keys (m.extend more).nodup ?_ fun name => ?_
  · refine (keys_extend m more).trans ?_
    rw [Entries.keys, List.map_append, List.map_map]
    refine congrArg (m.keys ++ ·) ?_
    exact List.filter_map
  · rw [Entries.find?_append,
      Entries.find?_map_named (fun name value => (more.find? name).getD value),
      Entries.find?_filter fun name => decide (name ∉ m.keys)]
    refine (find?_extend m more name).trans ?_
    have hnone := find?_eq_none_iff m name
    unfold find? at hnone ⊢
    cases hm : Entries.find? m.entries name with
    | none => simp [hnone.1 hm]
    | some value => cases Entries.find? more.entries name <;> rfl

theorem extend_empty (m : OrderedMap α) : m.extend .empty = m := rfl

theorem empty_extend (m : OrderedMap α) : OrderedMap.empty.extend m = m :=
  ext (Entries.ofList_of_nodup m.nodup)

theorem extend_self (m : OrderedMap α) : m.extend m = m := by
  refine eq_of_keys ?_ fun name => ?_
  · have hnone : m.keys.filter (· ∉ m.keys) = [] :=
      List.filter_eq_nil_iff.2 fun name hname => by simpa using hname
    rw [keys_extend, hnone, List.append_nil]
  · rw [find?_extend, Option.or_self]

theorem extend_assoc (a b c : OrderedMap α) : (a.extend b).extend c = a.extend (b.extend c) := by
  refine eq_of_keys ?_ fun name => ?_
  · rw [keys_extend, keys_extend, keys_extend, keys_extend, List.filter_append, List.append_assoc,
      List.filter_filter]
    refine congrArg (fun rest => a.keys ++ (b.keys.filter (· ∉ a.keys) ++ rest)) ?_
    refine List.filter_congr fun name _ => ?_
    rw [Bool.eq_iff_iff, Bool.and_eq_true, decide_eq_true_eq, decide_eq_true_eq, decide_eq_true_eq,
      List.mem_append, List.mem_filter, decide_eq_true_eq]
    tauto
  · rw [find?_extend, find?_extend, find?_extend, find?_extend, Option.or_assoc]

end OrderedMap
end SelectionSql
