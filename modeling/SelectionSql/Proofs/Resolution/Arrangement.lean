import SelectionSql.Proofs.Entries
import SelectionSql.Proofs.Resolution.Tasks

/-!
# Rows in the order of the selection

A row is arranged before it is handed out: the fields that the selection names go to the front. Only
their order changes, apart from an id that nobody asked for.

* `Selection.pairwise_firstOccurrences`: names that occur first stand in the order of their first
  places.
* `Resolution.mem_namedEntries`, `mem_otherEntries`: each field is in one of two parts.
* `Resolution.Arranged`: one row is another with the named fields in front; `Arranged.unique`: there
  is one such row.
* `Resolution.arranged_arrange`, `entries_arrange`: what `arrange` yields.
* `Resolution.Moving`: fields taken out of a row one by one; `Moving.Moved.step` for one name,
  `moved_moveAll` for all of them.
* `Resolution.arrange_reorders`: `arrange` is what `Arranged` says and what moving yields, loses
  nothing but the id, and has nothing to do the second time.
-/
set_option autoImplicit false

namespace SelectionSql

/-! ## Names that occur first -/

namespace Selection

theorem pairwise_firstOccurrences (seen l : List String) :
    (firstOccurrences id seen l).Pairwise fun a b => l.idxOf a < l.idxOf b := by
  induction l generalizing seen with
  | nil => exact .nil
  | cons a rest ih =>
    -- Behind the head every name stands one place further on.
    have hlater : ∀ seen' : List String, a ∈ seen' →
        (firstOccurrences id seen' rest).Pairwise fun b c =>
          (a :: rest).idxOf b < (a :: rest).idxOf c := by
      intro seen' ha
      refine (ih seen').imp_of_mem fun {b c} hb hc hlt => ?_
      have hne : ∀ {n : String}, n ∈ firstOccurrences id seen' rest → a ≠ n :=
        fun hn heq => (mem_firstOccurrences hn).2 (heq ▸ ha)
      rw [List.idxOf_cons_ne rest (hne hb), List.idxOf_cons_ne rest (hne hc)]
      exact Nat.succ_lt_succ hlt
    rw [firstOccurrences]
    split
    · next hseen => exact hlater seen (List.contains_iff_mem.1 hseen)
    · refine .cons (fun b hb => ?_) (hlater (a :: seen) List.mem_cons_self)
      have hne : a ≠ b := fun heq => (mem_firstOccurrences hb).2 (heq ▸ List.mem_cons_self)
      rw [List.idxOf_cons_self, List.idxOf_cons_ne rest hne]
      exact Nat.succ_pos _

theorem mem_firstOccurrences_nil {l : List String} {name : String} :
    name ∈ firstOccurrences id [] l ↔ name ∈ l := by
  refine ⟨fun h => (mem_firstOccurrences h).1, fun h => ?_⟩
  obtain ⟨b, hb, heq⟩ := exists_mem_firstOccurrences id h (List.not_mem_nil (a := id name))
  exact (show b = name from heq) ▸ hb

/-- One more name goes last, unless it is known. -/
theorem firstOccurrences_concat (seen l : List String) (name : String) :
    firstOccurrences id seen (l ++ [name]) =
      firstOccurrences id seen l ++ if name ∈ seen ∨ name ∈ l then [] else [name] := by
  induction l generalizing seen with
  | nil => simp [firstOccurrences]
  | cons a rest ih =>
    rw [List.cons_append, firstOccurrences, firstOccurrences]
    by_cases ha : a ∈ seen
    · have hhead : name = a → name ∈ seen := fun heq => heq ▸ ha
      have hiff : name ∈ seen ∨ name ∈ a :: rest ↔ name ∈ seen ∨ name ∈ rest := by
        rw [List.mem_cons]
        tauto
      rw [if_pos (by simpa using ha), if_pos (by simpa using ha), ih]
      simp only [hiff]
    · have hiff : name ∈ seen ∨ name ∈ a :: rest ↔ name ∈ id a :: seen ∨ name ∈ rest := by
        rw [List.mem_cons, List.mem_cons, id]
        tauto
      rw [if_neg (by simpa using ha), if_neg (by simpa using ha), ih]
      simp only [hiff, List.cons_append]

end Selection

namespace Resolution
open Selection (Node firstOccurrences)

/-- The entries of an object that are kept when it is arranged. -/
def kept (hiddenId : Bool) (row : ResultObject) : ResultObject :=
  if hiddenId then row.erase idColumn else row

theorem find?_kept (hiddenId : Bool) (row : ResultObject) (name : String) :
    (kept hiddenId row).find? name =
      if hiddenId = true ∧ name = idColumn then none else row.find? name := by
  unfold kept
  cases hiddenId with
  | false => simp
  | true =>
    rw [if_pos rfl, OrderedMap.find?_erase]
    by_cases hname : idColumn = name
    · rw [if_pos hname, if_pos ⟨rfl, hname.symm⟩]
    · rw [if_neg hname, if_neg fun h => hname h.2.symm]

theorem kept_eq_self {hiddenId : Bool} {row : ResultObject}
    (h : hiddenId = true → row.find? idColumn = none) : kept hiddenId row = row := by
  unfold kept
  cases hiddenId with
  | false => rfl
  | true =>
    have habsent := (OrderedMap.find?_eq_none_iff row idColumn).1 (h rfl)
    exact OrderedMap.ext (Entries.erase_of_notMem habsent)

/-! ## The two parts of a row -/

section Parts
variable (names : List String) (row : ResultObject)

theorem keys_namedEntries :
    Entries.keys (namedEntries names row) =
      (firstOccurrences id [] names).filter fun n => (row.find? n).isSome := by
  unfold namedEntries
  induction firstOccurrences id [] names with
  | nil => rfl
  | cons n rest ih =>
    rw [List.filterMap_cons, List.filter_cons]
    cases hn : row.find? n with
    | none => exact ih
    | some value => exact congrArg (n :: ·) ih

theorem pairwise_keys_namedEntries :
    (Entries.keys (namedEntries names row)).Pairwise fun a b =>
      names.idxOf a < names.idxOf b := by
  rw [keys_namedEntries]
  exact (Selection.pairwise_firstOccurrences [] names).sublist List.filter_sublist

theorem nodup_keys_namedEntries : (Entries.keys (namedEntries names row)).Nodup := by
  refine (pairwise_keys_namedEntries names row).imp fun {a b} hlt heq => ?_
  exact Nat.lt_irrefl _ (heq ▸ hlt)

theorem otherEntries_eq : otherEntries names row = row.entries.filter fun e => e.1 ∉ names :=
  List.filter_congr fun e _ => by simp

variable {names row}

theorem mem_namedEntries {e : String × ResultValue} :
    e ∈ namedEntries names row ↔ e.1 ∈ names ∧ e ∈ row.entries := by
  unfold namedEntries
  rw [List.mem_filterMap]
  constructor
  · rintro ⟨name, hname, hfind⟩
    obtain ⟨value, hvalue, rfl⟩ := Option.map_eq_some_iff.1 hfind
    exact ⟨Selection.mem_firstOccurrences_nil.1 hname, Entries.mem_of_find? hvalue⟩
  · rintro ⟨hname, he⟩
    have hfind : row.find? e.1 = some e.2 := (Entries.mem_iff_find? row.nodup e.1 e.2).1 he
    exact ⟨e.1, Selection.mem_firstOccurrences_nil.2 hname, by rw [hfind, Option.map_some]⟩

theorem mem_otherEntries {e : String × ResultValue} :
    e ∈ otherEntries names row ↔ e ∈ row.entries ∧ e.1 ∉ names := by
  rw [otherEntries_eq, List.mem_filter, decide_eq_true_eq]

theorem find?_otherEntries (name : String) :
    Entries.find? (otherEntries names row) name =
      if name ∈ names then none else row.find? name := by
  rw [otherEntries_eq, Entries.find?_filter fun n => decide (n ∉ names)]
  by_cases hname : name ∈ names
  · simp [hname]
  · simp [hname, OrderedMap.find?]

theorem nodup_keys_parts :
    (Entries.keys (namedEntries names row ++ otherEntries names row)).Nodup := by
  have hothers : (Entries.keys (otherEntries names row)).Nodup :=
    row.nodup.sublist (List.filter_sublist.map Prod.fst)
  rw [Entries.keys, List.map_append]
  refine List.nodup_append.2 ⟨nodup_keys_namedEntries names row, hothers, ?_⟩
  rintro a ha b hb rfl
  obtain ⟨e, he, rfl⟩ := List.mem_map.1 ha
  obtain ⟨e', he', heq⟩ := List.mem_map.1 hb
  exact (mem_otherEntries.1 he').2 (heq ▸ (mem_namedEntries.1 he).1)

theorem parts_perm : (namedEntries names row ++ otherEntries names row).Perm row.entries := by
  refine (List.perm_ext_iff_of_nodup (nodup_keys_parts.of_map Prod.fst)
    (row.nodup.of_map Prod.fst)).2 fun e => ?_
  rw [List.mem_append, mem_namedEntries, mem_otherEntries]
  tauto

end Parts

/-! ## Arranged rows -/

/-- One row is another with the fields that are named in front. -/
structure Arranged (names : List String) (row out : ResultObject) : Prop where
  /-- No entry is lost, none is new, and each keeps its value. -/
  perm : out.entries.Perm row.entries
  /-- What stands before a named field is named before it. -/
  order : out.entries.Pairwise fun a b =>
    b.1 ∈ names → a.1 ∈ names ∧ names.idxOf a.1 < names.idxOf b.1
  /-- The fields that are not named keep their order. -/
  others : out.entries.filter (fun e => e.1 ∉ names) = row.entries.filter fun e => e.1 ∉ names

theorem eq_filter_append_filter {α : Type} {p : α → Bool} {l : List α}
    (h : l.Pairwise fun a b => p b = true → p a = true) :
    l = l.filter p ++ l.filter fun a => !p a := by
  induction h with
  | nil => rfl
  | @cons a rest ha _ ih =>
    cases hp : p a with
    | true => rw [List.filter_cons_of_pos hp, List.filter_cons_of_neg (by simp [hp]),
        List.cons_append, ← ih]
    | false =>
      have hnone : ∀ b ∈ rest, p b = false := fun b hb =>
        Bool.eq_false_iff.2 fun hb' => by simp [ha b hb hb'] at hp
      rw [List.filter_eq_nil_iff.2 (by simpa [hp] using hnone), List.nil_append, eq_comm,
        List.filter_eq_self]
      simpa [hp] using hnone

theorem Arranged.unique {names : List String} {row out out' : ResultObject}
    (h : Arranged names row out) (h' : Arranged names row out') : out = out' := by
  have hsplit : ∀ {o : ResultObject}, Arranged names row o →
      o.entries = o.entries.filter (fun e => e.1 ∈ names) ++
        row.entries.filter fun e => e.1 ∉ names := by
    intro o ho
    rw [← ho.others]
    have hfront : o.entries.Pairwise fun a b =>
        decide (b.1 ∈ names) = true → decide (a.1 ∈ names) = true :=
      ho.order.imp fun hab hb => decide_eq_true (hab (of_decide_eq_true hb)).1
    refine (eq_filter_append_filter hfront).trans ?_
    simp only [decide_not]
  have hnamed : out.entries.filter (fun e => e.1 ∈ names) =
      out'.entries.filter fun e => e.1 ∈ names := by
    have hsorted : ∀ {o : ResultObject}, Arranged names row o →
        (o.entries.filter fun e => e.1 ∈ names).Pairwise fun a b =>
          names.idxOf a.1 < names.idxOf b.1 := by
      intro o ho
      refine (ho.order.sublist List.filter_sublist).imp_of_mem fun _ hb hab => ?_
      exact (hab (of_decide_eq_true (List.mem_filter.1 hb).2)).2
    refine List.Perm.eq_of_pairwise (fun a b _ _ hab hba => ?_) (hsorted h) (hsorted h')
      ((h.perm.trans h'.perm.symm).filter _)
    exact absurd hab (Nat.lt_asymm hba)
  refine OrderedMap.ext ?_
  rw [hsplit h, hsplit h', hnamed]

variable (node : Node) (hiddenId : Bool) (row : ResultObject)

theorem entries_arrange_eq :
    (arrange node hiddenId row).entries =
      namedEntries (node.children.map Node.name) (kept hiddenId row) ++
        otherEntries (node.children.map Node.name) (kept hiddenId row) :=
  Entries.ofList_of_nodup nodup_keys_parts

theorem arranged_arrange :
    Arranged (node.children.map Node.name) (kept hiddenId row) (arrange node hiddenId row) := by
  refine ⟨?_, ?_, ?_⟩
  · rw [entries_arrange_eq]
    exact parts_perm
  · rw [entries_arrange_eq, List.pairwise_append]
    refine ⟨?_, ?_, fun a _ b hb hname => absurd hname (mem_otherEntries.1 hb).2⟩
    · refine (List.pairwise_map.1 (pairwise_keys_namedEntries _ _)).imp_of_mem fun ha _ hlt _ => ?_
      exact ⟨(mem_namedEntries.1 ha).1, hlt⟩
    · exact List.pairwise_of_forall_mem_list fun a _ b hb hname =>
        absurd hname (mem_otherEntries.1 hb).2
  · have hnamed : (namedEntries (node.children.map Node.name) (kept hiddenId row)).filter
        (fun e => e.1 ∉ node.children.map Node.name) = [] :=
      List.filter_eq_nil_iff.2 fun e he => by simpa using (mem_namedEntries.1 he).1
    rw [entries_arrange_eq, List.filter_append, hnamed, List.nil_append, otherEntries_eq,
      List.filter_filter]
    simp only [Bool.and_self]

/-- No value changes, and nothing is lost but the hidden id. -/
theorem find?_arrange (name : String) :
    (arrange node hiddenId row).find? name =
      if hiddenId = true ∧ name = idColumn then none else row.find? name := by
  rw [← find?_kept]
  exact OrderedMap.find?_eq_of_perm (arranged_arrange node hiddenId row).perm name

theorem arrange_eq_iff (out : ResultObject) :
    arrange node hiddenId row = out ↔
      Arranged (node.children.map Node.name) (kept hiddenId row) out :=
  ⟨fun h => h ▸ arranged_arrange node hiddenId row, fun h =>
    (arranged_arrange node hiddenId row).unique h⟩

theorem arrange_arrange :
    arrange node hiddenId (arrange node hiddenId row) = arrange node hiddenId row := by
  have harranged := arranged_arrange node hiddenId row
  have hkept : kept hiddenId (arrange node hiddenId row) = arrange node hiddenId row :=
    kept_eq_self fun h => by rw [find?_arrange, if_pos ⟨h, rfl⟩]
  rw [arrange_eq_iff, hkept]
  exact ⟨.refl _, harranged.order, rfl⟩

/-! ## One field after the other -/

/-- A row and the fields that were taken out of it. -/
structure Moving where
  moved : ResultObject
  left : ResultObject

/-- Moves the field of a name behind those that were moved before, if it is still there. -/
def Moving.step (m : Moving) (name : String) : Moving :=
  match m.left.find? name with
  | some value => ⟨m.moved.insert name value, m.left.erase name⟩
  | none => m

def moveAll (names : List String) (row : ResultObject) : Moving :=
  names.foldl Moving.step ⟨.empty, row⟩

/-- The names that came up so far have moved their fields. -/
structure Moving.Moved (m : Moving) (names : List String) (row : ResultObject) : Prop where
  moved : m.moved.entries = namedEntries names row
  left : m.left.entries = otherEntries names row

variable {row}

theorem namedEntries_concat (names : List String) (name : String) :
    namedEntries (names ++ [name]) row =
      namedEntries names row ++
        if name ∈ names then [] else ((row.find? name).map fun value => (name, value)).toList := by
  rw [namedEntries, Selection.firstOccurrences_concat, List.filterMap_append]
  refine congrArg (namedEntries names row ++ ·) ?_
  by_cases hname : name ∈ names
  · simp [hname]
  · cases hfind : row.find? name <;> simp [hname, hfind]

theorem otherEntries_concat (names : List String) (name : String) :
    otherEntries (names ++ [name]) row = Entries.erase (otherEntries names row) name := by
  rw [otherEntries_eq, otherEntries_eq, Entries.erase, List.filter_filter]
  refine List.filter_congr fun e _ => ?_
  rw [Bool.eq_iff_iff, Bool.and_eq_true, decide_eq_true_eq, decide_eq_true_eq, decide_eq_true_eq,
    List.mem_append, List.mem_singleton, not_or, and_comm]

theorem Moving.Moved.step {m : Moving} {names : List String} (h : m.Moved names row)
    (name : String) : (m.step name).Moved (names ++ [name]) row := by
  have hfind : m.left.find? name = if name ∈ names then none else row.find? name := by
    rw [← find?_otherEntries, ← h.left]
    rfl
  unfold Moving.step
  cases hleft : m.left.find? name with
  | some value =>
    have hnew : name ∉ names := fun hname => by simp [hfind, hname] at hleft
    have hvalue : row.find? name = some value := by rw [← hleft, hfind, if_neg hnew]
    have hnotMoved : name ∉ Entries.keys (namedEntries names row) := by
      intro hmem
      obtain ⟨e, he, rfl⟩ := List.mem_map.1 hmem
      exact hnew (mem_namedEntries.1 he).1
    refine ⟨?_, ?_⟩
    · rw [OrderedMap.entries_insert, h.moved, Entries.insert_of_notMem hnotMoved,
        namedEntries_concat, if_neg hnew, hvalue]
      rfl
    · rw [OrderedMap.entries_erase, h.left, otherEntries_concat]
  | none =>
    -- The name has come up before, or the row never had a field for it.
    have hnone : (if name ∈ names then ([] : Entries ResultValue)
        else ((row.find? name).map fun value => (name, value)).toList) = [] := by
      by_cases hname : name ∈ names
      · exact if_pos hname
      · rw [hleft, if_neg hname] at hfind
        rw [if_neg hname, ← hfind]
        rfl
    refine ⟨?_, ?_⟩
    · rw [namedEntries_concat, hnone, List.append_nil, h.moved]
    · have habsent := (OrderedMap.find?_eq_none_iff m.left name).1 hleft
      rw [otherEntries_concat, ← h.left]
      exact (Entries.erase_of_notMem habsent).symm

theorem Moving.Moved.foldl {m : Moving} {names : List String} (h : m.Moved names row)
    (more : List String) : (more.foldl Moving.step m).Moved (names ++ more) row := by
  induction more generalizing m names with
  | nil => rwa [List.append_nil]
  | cons name rest ih =>
    rw [List.append_cons]
    exact ih (h.step name)

theorem moved_moveAll (names : List String) (row : ResultObject) :
    (moveAll names row).Moved names row := by
  have hstart : Moving.Moved ⟨.empty, row⟩ [] row :=
    ⟨rfl, (List.filter_eq_self.2 fun _ _ => rfl).symm⟩
  exact hstart.foldl names

variable (row)

/-- Arranging is moving the named fields out of the row one by one, and putting what is left behind
them. -/
theorem arrange_eq_moveAll :
    arrange node hiddenId row =
      (moveAll (node.children.map Node.name) (kept hiddenId row)).moved.extend
        (moveAll (node.children.map Node.name) (kept hiddenId row)).left := by
  have hmoved := moved_moveAll (node.children.map Node.name) (kept hiddenId row)
  refine OrderedMap.ext ?_
  rw [OrderedMap.entries_extend, hmoved.moved, hmoved.left, Entries.extend_append nodup_keys_parts,
    entries_arrange_eq]

/-- Arranging only reorders: the result is the row, without an id that is hidden, with the fields of
the selection in front in the order of their first occurrence and the others behind them in their
own order. It is what moving the fields one by one yields, every field that is kept has its value,
and a second time nothing changes. -/
theorem arrange_reorders (node : Node) (hiddenId : Bool) (row : ResultObject) :
    (∀ out, arrange node hiddenId row = out ↔
        Arranged (node.children.map Node.name) (kept hiddenId row) out) ∧
      arrange node hiddenId row =
        (moveAll (node.children.map Node.name) (kept hiddenId row)).moved.extend
          (moveAll (node.children.map Node.name) (kept hiddenId row)).left ∧
      (∀ name, (arrange node hiddenId row).find? name =
        if hiddenId = true ∧ name = idColumn then none else row.find? name) ∧
      arrange node hiddenId (arrange node hiddenId row) = arrange node hiddenId row :=
  ⟨arrange_eq_iff node hiddenId row, arrange_eq_moveAll node hiddenId row,
    find?_arrange node hiddenId row, arrange_arrange node hiddenId row⟩

end Resolution
end SelectionSql
