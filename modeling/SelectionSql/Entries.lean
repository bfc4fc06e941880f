/-!
# Entries under names

A list of named values, read from the left: the operations that ordered maps and the objects of
nested values share.

* `Entries.find?`, `Entries.keys`: the value under a name, the names in order.
* `Entries.insert`: replaces the value of a known name where it stands, else appends.
* `Entries.erase`: removes a name and keeps the order of the others.
* `Entries.ofList`: inserts in turn, so that of a repeated name the last value counts, at the
  first place.
* Each operation has its law for `find?` and for `keys`; all of them keep names distinct.
-/
set_option autoImplicit false

namespace SelectionSql

/-- Named values in order. -/
abbrev Entries (α : Type) : Type := List (String × α)

namespace Entries
variable {α : Type}

/-- The names, in order. -/
def keys (m : Entries α) : List String := m.map Prod.fst

/-- The value under `name`: that of the first entry that carries it. -/
def find? : Entries α → String → Option α
  | [], _ => none
  | (k, v) :: rest, name => if k = name then some v else find? rest name

/-- Gives `name` the value `value`: in its place if the name is known, else at the end. -/
def insert : Entries α → String → α → Entries α
  | [], name, value => [(name, value)]
  | (k, v) :: rest, name, value =>
    if k = name then (k, value) :: rest else (k, v) :: insert rest name value

/-- Removes `name`; the other entries keep their order. -/
def erase (m : Entries α) (name : String) : Entries α := m.filter fun e => e.1 ≠ name

/-- Inserts the entries of `more` in turn. -/
def extend (m more : Entries α) : Entries α := more.foldl (fun acc e => insert acc e.1 e.2) m

/-- The entries of a list, inserted in turn. -/
def ofList (l : List (String × α)) : Entries α := extend [] l

/-! ## Laws of `find?` -/

@[simp] theorem find?_nil (name : String) : find? ([] : Entries α) name = none := rfl

theorem find?_cons (k : String) (v : α) (rest : Entries α) (name : String) :
    find? ((k, v) :: rest) name = if k = name then some v else find? rest name := rfl

theorem find?_insert (m : Entries α) (name : String) (value : α) (other : String) :
    find? (insert m name value) other = if name = other then some value else find? m other := by
  induction m with
  | nil => rfl
  | cons e rest ih =>
    obtain ⟨k, v⟩ := e
    by_cases hk : k = name
    · subst hk
      by_cases ho : k = other <;> simp [insert, find?, ho]
    · by_cases ho : k = other
      · subst ho
        simp [insert, find?, hk, Ne.symm (a := k) hk]
      · simp [insert, find?, hk, ho, ih]

theorem find?_erase (m : Entries α) (name other : String) :
    find? (erase m name) other = if name = other then none else find? m other := by
  induction m with
  | nil => simp [erase]
  | cons e rest ih =>
    obtain ⟨k, v⟩ := e
    have ih' : find? (List.filter (fun e => decide (e.1 ≠ name)) rest) other =
        if name = other then none else find? rest other := ih
    by_cases hk : k = name
    · subst hk
      by_cases ho : k = other <;> simp_all [erase, find?]
    · by_cases ho : k = other
      · subst ho
        simp [erase, find?, hk, Ne.symm hk]
      · simp_all [erase, find?]

theorem find?_eq_none_iff (m : Entries α) (name : String) :
    find? m name = none ↔ name ∉ keys m := by
  induction m with
  | nil => simp [keys]
  | cons e rest ih =>
    obtain ⟨k, v⟩ := e
    by_cases hk : k = name
    · simp [find?, keys, hk]
    · have hk' : ¬ name = k := fun h => hk h.symm
      simpa [find?, keys, hk, hk'] using ih

theorem mem_of_find? {m : Entries α} {name : String} {value : α}
    (h : find? m name = some value) : (name, value) ∈ m := by
  induction m with
  | nil => simp at h
  | cons e rest ih =>
    obtain ⟨k, v⟩ := e
    by_cases hk : k = name
    · subst hk
      simp [find?] at h
      simp [h]
    · simp [find?, hk] at h
      exact List.mem_cons_of_mem _ (ih h)

theorem mem_iff_find? {m : Entries α} (h : (keys m).Nodup) (name : String) (value : α) :
    (name, value) ∈ m ↔ find? m name = some value := by
  refine ⟨fun hm => ?_, mem_of_find?⟩
  induction m with
  | nil => simp at hm
  | cons e rest ih =>
    obtain ⟨k, v⟩ := e
    obtain ⟨hk, hrest⟩ := List.nodup_cons.1 h
    rcases List.mem_cons.1 hm with heq | hm
    · cases heq
      simp [find?_cons]
    · have hne : k ≠ name := by
        rintro rfl
        exact hk (List.mem_map.2 ⟨(k, value), hm, rfl⟩)
      rw [find?_cons, if_neg hne]
      exact ih hrest hm

/-- Where names are distinct, the entries under a name are the one that is found. -/
theorem filter_eq_find? {m : Entries α} (h : (keys m).Nodup) (name : String) :
    m.filter (fun e => e.1 = name) = ((find? m name).map fun v => (name, v)).toList := by
  induction m with
  | nil => rfl
  | cons e rest ih =>
    obtain ⟨k, v⟩ := e
    obtain ⟨hk, hrest⟩ := List.nodup_cons.1 h
    by_cases hname : k = name
    · subst hname
      have hnone : find? rest k = none := (find?_eq_none_iff rest k).2 hk
      rw [List.filter_cons, ih hrest, hnone]
      simp [find?_cons]
    · rw [List.filter_cons, ih hrest]
      simp [find?_cons, hname]

theorem find?_extend {m more : Entries α} (h : (keys more).Nodup) (name : String) :
    find? (extend m more) name = (find? more name).or (find? m name) := by
  induction more generalizing m with
  | nil => rfl
  | cons e rest ih =>
    obtain ⟨k, v⟩ := e
    have hk : k ∉ keys rest := (List.nodup_cons.1 h).1
    have hstep : find? (extend m ((k, v) :: rest)) name =
        (find? rest name).or (find? (insert m k v) name) := ih (List.nodup_cons.1 h).2
    rw [hstep, find?_insert, find?_cons]
    by_cases hname : k = name
    · subst hname
      rw [(find?_eq_none_iff rest k).2 hk]
      simp
    · simp [hname]

/-! ## Values changed under their names -/

theorem find?_map {β : Type} (f : α → β) (m : Entries α) (name : String) :
    find? (m.map fun e => (e.1, f e.2)) name = (find? m name).map f := by
  induction m with
  | nil => rfl
  | cons e rest ih =>
    obtain ⟨k, v⟩ := e
    by_cases hname : k = name
    · simp [find?_cons, hname]
    · simp [find?_cons, hname, ih]

theorem insert_map {β : Type} (f : α → β) (m : Entries α) (name : String) (value : α) :
    insert (m.map fun e => (e.1, f e.2)) name (f value) =
      (insert m name value).map fun e => (e.1, f e.2) := by
  induction m with
  | nil => rfl
  | cons e rest ih =>
    obtain ⟨k, v⟩ := e
    by_cases hname : k = name
    · simp [insert, hname]
    · simp [insert, hname, ih]

theorem extend_map {β : Type} (f : α → β) (m more : Entries α) :
    extend (m.map fun e => (e.1, f e.2)) (more.map fun e => (e.1, f e.2)) =
      (extend m more).map fun e => (e.1, f e.2) := by
  induction more generalizing m with
  | nil => rfl
  | cons e rest ih =>
    have hstep := ih (insert m e.1 e.2)
    rw [← insert_map] at hstep
    exact hstep

/-! ## Laws of `keys` -/

theorem keys_insert (m : Entries α) (name : String) (value : α) :
    keys (insert m name value) = if name ∈ keys m then keys m else keys m ++ [name] := by
  induction m with
  | nil => simp [insert, keys]
  | cons e rest ih =>
    obtain ⟨k, v⟩ := e
    by_cases hk : k = name
    · subst hk
      simp [insert, keys]
    · have hk' : ¬ name = k := fun h => hk h.symm
      have ih' : List.map Prod.fst (insert rest name value) =
          if name ∈ List.map Prod.fst rest then List.map Prod.fst rest
          else List.map Prod.fst rest ++ [name] := ih
      by_cases hm : name ∈ List.map Prod.fst rest
      · simp only [insert, hk, if_false, keys, List.map_cons, ih', hm, if_true, List.mem_cons,
          or_true]
      · simp only [insert, hk, if_false, keys, List.map_cons, ih', hm, List.mem_cons, hk',
          or_self, List.cons_append]

theorem keys_erase (m : Entries α) (name : String) :
    keys (erase m name) = (keys m).filter (fun k => k ≠ name) := by
  simp only [keys, erase, List.filter_map]
  rfl

theorem nodup_keys_insert {m : Entries α} (h : (keys m).Nodup) (name : String) (value : α) :
    (keys (insert m name value)).Nodup := by
  rw [keys_insert]
  split
  · exact h
  · next hm =>
    exact List.nodup_append.2 ⟨h, by simp, fun a ha b hb hab => by
      rw [List.mem_singleton] at hb
      subst hb
      subst hab
      exact hm ha⟩

theorem nodup_keys_erase {m : Entries α} (h : (keys m).Nodup) (name : String) :
    (keys (erase m name)).Nodup := by
  rw [keys_erase]
  exact h.sublist List.filter_sublist

theorem nodup_keys_extend {m : Entries α} (h : (keys m).Nodup) (more : Entries α) :
    (keys (extend m more)).Nodup := by
  induction more generalizing m with
  | nil => exact h
  | cons e rest ih => exact ih (nodup_keys_insert h e.1 e.2)

theorem nodup_keys_ofList (l : List (String × α)) : (keys (ofList l)).Nodup :=
  nodup_keys_extend (by simp [keys]) l

end Entries
end SelectionSql
