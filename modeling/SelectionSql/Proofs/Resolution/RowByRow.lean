import SelectionSql.Proofs.Resolution.Sequential
import SelectionSql.Proofs.Resolution.SharedKey

/-!
# Sharing is invisible

Rows that share an id share the sub-resolutions below them. Resolved row by row, each with
sub-resolutions of its own, a request has the same value.

* `Resolution.rowByRow`: the reference, which shares nothing. The arguments of relations are read
  for every row; `ahead` says whether they are read for the level, too, before its rows.
* `Resolution.rowByRow_eq_ok_iff`: when the reference succeeds, and with which value.
* `Resolution.rowByRow_congr`: it asks alike for ids with one key.
* `Resolution.rowByRow_iff_yields`: the reference finds what the request yields.
* `Resolution.resolve_eq_rowByRow`: sharing is invisible, if arguments are read ahead.
-/
set_option autoImplicit false

namespace SelectionSql
namespace Resolution
open Selection (Node Related Classified)

def callerOf (options : Options) {parent : Node} (related : Related parent) :
    Except ResolveError Modifiers :=
  Modifiers.ofArguments related.node.arguments options.allowRawOrderBy

/-- The modifiers of all relations of a level, if they are read ahead. -/
def callersAhead (options : Options) (ahead : Bool) {parent : Node}
    (relations : List (Related parent)) : Except ResolveError (List Modifiers) :=
  if ahead then relations.mapM (callerOf options) else .ok []

def withValues {parent : Node} (row : ResultObject)
    (values : List (Related parent × ResultValue)) : ResultObject :=
  values.foldl (fun acc e => acc.insert e.1.node.name e.2) row

/-- Resolves a request row by row: for every row and every relation on its own. With `ahead` the
arguments of all relations of a level are read before its rows are gone through. -/
def rowByRow (answers : String → Except StorageError (List Row)) (dialect : Dialect)
    (schema : Schema) (options : Options) (ahead : Bool) (r : Request) :
    Except ResolveError ResultValue := do
  let selected ← classified schema options r
  let rows ← (answers (sqlOf dialect r selected)).mapError .storage
  let parents := parentsOf r.cardinality rows
  if isMissing r.cardinality parents then return .null
  let _ ← callersAhead options ahead selected.relations
  let objects ← parents.mapM fun row => do
    let values ← selected.relations.mapM fun related => do
      let caller ← callerOf options related
      let parent ← parentId r.typeName related.node.name row
      let value ←
        rowByRow answers dialect schema options ahead (relationRequest r related parent.2 caller)
      return (related, value)
    return arrange r.node (levelOf r selected).statement.hiddenId (withValues row values)
  return resultOf r.cardinality objects
termination_by r.node
decreasing_by
  rw [relationRequest_node]
  exact Node.sizeOf_lt_of_mem_children related.node_mem

variable {answers : String → Except StorageError (List Row)} {dialect : Dialect} {schema : Schema}
  {options : Options}

/-! ## When the reference succeeds -/

/-- A relation of a row has a value of its own in the reference. -/
def Below (answers : String → Except StorageError (List Row)) (dialect : Dialect)
    (schema : Schema) (options : Options) (ahead : Bool) (r : Request) (row : ResultObject)
    (related : Related r.node) (v : ResultValue) : Prop :=
  ∃ caller id, callerOf options related = .ok caller ∧ rowId? row = some id ∧
    rowByRow answers dialect schema options ahead (relationRequest r related id caller) = .ok v

/-- The rows of a level with the values of their relations. -/
def valueWith (r : Request) (selected : Classified r.node) (rows : List ResultObject)
    (value : ResultObject → Related r.node → ResultValue) : ResultValue :=
  resultOf r.cardinality (rows.map fun row =>
    arrange r.node (levelOf r selected).statement.hiddenId
      (withValues row (selected.relations.map fun related => (related, value row related))))

theorem below_eq_ok_iff {ahead : Bool} {r : Request} {row : ResultObject}
    {related : Related r.node} {e : Related r.node × ResultValue} :
    (do
      let caller ← callerOf options related
      let parent ← parentId r.typeName related.node.name row
      let value ←
        rowByRow answers dialect schema options ahead (relationRequest r related parent.2 caller)
      return (related, value)) = Except.ok e ↔
      e.1 = related ∧ Below answers dialect schema options ahead r row related e.2 := by
  constructor
  · intro h
    obtain ⟨caller, hcaller, h⟩ := bind_eq_ok_iff.1 h
    obtain ⟨parent, hparent, h⟩ := bind_eq_ok_iff.1 h
    obtain ⟨value, hvalue, h⟩ := bind_eq_ok_iff.1 h
    cases h
    exact ⟨rfl, caller, parent.2, hcaller,
      (keyedId?_eq_some_iff.1 (parentId_eq_ok_iff.1 hparent)).1, hvalue⟩
  · obtain ⟨related', v⟩ := e
    rintro ⟨rfl, caller, id, hcaller, hid, hvalue⟩
    have hparent : parentId r.typeName related'.node.name row = .ok (id.idKey?.getD "", id) :=
      parentId_eq_ok_iff.2 (by rw [keyedId?, hid]; rfl)
    exact bind_eq_ok_iff.2 ⟨caller, hcaller, bind_eq_ok_iff.2 ⟨_, hparent,
      bind_eq_ok_iff.2 ⟨v, hvalue, rfl⟩⟩⟩

theorem row_eq_ok_iff {ahead : Bool} {r : Request} {selected : Classified r.node}
    {row object : ResultObject} :
    (do
      let values ← selected.relations.mapM fun related => do
        let caller ← callerOf options related
        let parent ← parentId r.typeName related.node.name row
        let value ←
          rowByRow answers dialect schema options ahead (relationRequest r related parent.2 caller)
        return (related, value)
      return arrange r.node (levelOf r selected).statement.hiddenId (withValues row values)) =
        Except.ok object ↔
      ∃ value : Related r.node → ResultValue,
        (∀ related ∈ selected.relations,
          Below answers dialect schema options ahead r row related (value related)) ∧
        object = arrange r.node (levelOf r selected).statement.hiddenId
          (withValues row (selected.relations.map fun related => (related, value related))) := by
  rw [bind_eq_ok_iff]
  constructor
  · rintro ⟨values, hvalues, hobject⟩
    cases hobject
    cases hrelations : selected.relations with
    | nil =>
      rw [hrelations] at hvalues
      cases hvalues
      exact ⟨fun _ => .null, by simp, rfl⟩
    | cons first rest =>
      have : Inhabited (Related r.node × ResultValue) := ⟨(first, .null)⟩
      rw [← hrelations]
      obtain ⟨g, hg, rfl⟩ := mapM_eq_ok_iff.1 hvalues
      refine ⟨fun related => (g related).2,
        fun related hr => (below_eq_ok_iff.1 (hg related hr)).2, ?_⟩
      refine congrArg (fun values => arrange r.node _ (withValues row values)) ?_
      exact List.map_congr_left fun related hr =>
        Prod.ext (below_eq_ok_iff.1 (hg related hr)).1 rfl
  · rintro ⟨value, hvalue, rfl⟩
    cases hrelations : selected.relations with
    | nil => exact ⟨[], rfl, rfl⟩
    | cons first rest =>
      have : Inhabited (Related r.node × ResultValue) := ⟨(first, .null)⟩
      rw [← hrelations]
      exact ⟨_, mapM_eq_ok_iff.2 ⟨fun related => (related, value related), fun related hr =>
        below_eq_ok_iff.2 ⟨rfl, hvalue related hr⟩, rfl⟩, rfl⟩

theorem callersAhead_iff {ahead : Bool} {parent : Node} {relations : List (Related parent)} :
    (∃ callers, callersAhead options ahead relations = .ok callers) ↔
      (ahead = true → ∀ related ∈ relations, ∃ caller, callerOf options related = .ok caller) := by
  cases ahead with
  | false => exact ⟨fun _ h => (nomatch h), fun _ => ⟨[], rfl⟩⟩
  | true =>
    rw [callersAhead, if_pos rfl]
    constructor
    · rintro ⟨callers, hcallers⟩ -
      obtain ⟨g, hg, -⟩ := mapM_eq_ok_iff.1 hcallers
      exact fun related hr => ⟨g related, hg related hr⟩
    · intro h
      choose! g hg using h rfl
      exact ⟨_, mapM_eq_ok_iff.2 ⟨g, hg, rfl⟩⟩

/-- The reference succeeds if the level is in order, its arguments are read as far as they are
read, and every relation of every row succeeds on its own. -/
theorem rowByRow_eq_ok_iff {ahead : Bool} {r : Request} {v : ResultValue} :
    rowByRow answers dialect schema options ahead r = .ok v ↔
      ∃ selected rows, classified schema options r = .ok selected ∧
        answers (sqlOf dialect r selected) = .ok rows ∧
        ((isMissing r.cardinality (parentsOf r.cardinality rows) = true ∧ v = .null) ∨
          (isMissing r.cardinality (parentsOf r.cardinality rows) = false ∧
            (ahead = true → ∀ related ∈ selected.relations,
              ∃ caller, callerOf options related = .ok caller) ∧
            ∃ value : ResultObject → Related r.node → ResultValue,
              (∀ row ∈ parentsOf r.cardinality rows, ∀ related ∈ selected.relations,
                Below answers dialect schema options ahead r row related (value row related)) ∧
              v = valueWith r selected (parentsOf r.cardinality rows) value)) := by
  rw [rowByRow, bind_eq_ok_iff]
  refine exists_congr fun selected => ?_
  rw [bind_eq_ok_iff, ← exists_and_left]
  refine exists_congr fun rows => ?_
  rw [mapError_eq_ok_iff]
  refine and_congr_right fun _ => and_congr_right fun _ => ?_
  dsimp only
  cases isMissing r.cardinality (parentsOf r.cardinality rows) with
  | true =>
    rw [if_pos rfl]
    constructor
    · intro h
      cases h
      exact .inl ⟨rfl, rfl⟩
    · rintro (⟨-, rfl⟩ | ⟨h, -⟩)
      · rfl
      · cases h
  | false =>
    rw [if_neg Bool.false_ne_true, bind_eq_ok_iff]
    constructor
    · rintro ⟨callers, hcallers, h⟩
      obtain ⟨objects, hobjects, hv⟩ := bind_eq_ok_iff.1 h
      cases hv
      obtain ⟨g, hg, rfl⟩ := mapM_eq_ok_iff.1 hobjects
      choose! value hvalue using fun row hrow => row_eq_ok_iff.1 (hg row hrow)
      refine .inr ⟨rfl, callersAhead_iff.1 ⟨callers, hcallers⟩, value,
        fun row hrow => (hvalue row hrow).1, ?_⟩
      exact congrArg (resultOf r.cardinality)
        (List.map_congr_left fun row hrow => (hvalue row hrow).2)
    · rintro (⟨h, -⟩ | ⟨-, hahead, value, hvalue, rfl⟩)
      · cases h
      obtain ⟨callers, hcallers⟩ := callersAhead_iff.2 hahead
      refine ⟨callers, hcallers, bind_eq_ok_iff.2 ⟨_, mapM_eq_ok_iff.2 ⟨_, fun row hrow =>
        row_eq_ok_iff.2 ⟨value row, hvalue row hrow, rfl⟩, rfl⟩, rfl⟩⟩

/-! ## Ids with one key -/

/-- What is below a request does not depend on its modifiers but through its statement. -/
theorem rowByRow_congr_modifiers {ahead : Bool} {r : Request} {m : Modifiers}
    (h : ∀ selected : Classified r.node,
      sqlOf dialect r selected = sqlOf dialect { r with modifiers := m } selected) :
    rowByRow answers dialect schema options ahead r =
      rowByRow answers dialect schema options ahead { r with modifiers := m } := by
  rw [rowByRow, rowByRow]
  refine congrArg (classified schema options r >>= ·) (funext fun selected => ?_)
  rw [h]
  rfl

theorem rowByRow_congr {ahead : Bool} {p : Request} {related : Related p.node} {a b : Scalar}
    {key : String} (ha : a.idKey? = some key) (hb : b.idKey? = some key) (caller : Modifiers) :
    rowByRow answers dialect schema options ahead (relationRequest p related a caller) =
      rowByRow answers dialect schema options ahead (relationRequest p related b caller) := by
  rw [relationRequest_eq p related a b caller]
  exact rowByRow_congr_modifiers fun selected =>
    sqlOf_relationRequest ha hb caller dialect selected

theorem idKey?_of_row {row : ResultObject} {id : Scalar} (h : rowId? row = some id) :
    id.idKey? = some (keyOf row) := by
  obtain ⟨key, hkey⟩ := Option.isSome_iff_exists.1 (idKey?_isSome (isNull_of_rowId? h))
  rw [keyOf, rowKey?_of_rowId? h, hkey]
  rfl

theorem idKey?_of_mem_distinctIds {rows : List ResultObject} {p : String × Scalar}
    (h : p ∈ distinctIds rows) : p.2.idKey? = some p.1 := by
  obtain ⟨row, -, hid, hkey⟩ := exists_row_of_mem_distinctIds h
  rw [rowKey?, hid, Option.bind_some] at hkey
  exact hkey

/-- The reference asks for a row as it asks for the distinct id with the key of that row, which
need not be the row's own id. -/
theorem exists_rowByRow_eq {ahead : Bool} {p : Request} {related : Related p.node}
    {rows : List ResultObject} {row : ResultObject} (hrow : row ∈ rows) {id : Scalar}
    (hid : rowId? row = some id) (caller : Modifiers) :
    ∃ d ∈ distinctIds rows, d.1 = keyOf row ∧
      rowByRow answers dialect schema options ahead (relationRequest p related id caller) =
        rowByRow answers dialect schema options ahead (relationRequest p related d.2 caller) := by
  obtain ⟨d, hd, hkey, -⟩ := exists_mem_distinctIds hrow hid
  have hd' := idKey?_of_mem_distinctIds hd
  rw [hkey] at hd'
  exact ⟨d, hd, hkey, rowByRow_congr (idKey?_of_row hid) hd' caller⟩

/-! ## The reference and what a request yields -/

/-- Fields and keys stand for relations and ids. -/
theorem taskIndex_inj {r : Request} {selected : Classified r.node} {rows : List ResultObject}
    (hclassified : classified schema options r = .ok selected) {related related' : Related r.node}
    (hr : related ∈ selected.relations) (hr' : related' ∈ selected.relations)
    {p p' : String × Scalar} (hp : p ∈ distinctIds rows) (hp' : p' ∈ distinctIds rows)
    (h : (related.node.name, p.1) = (related'.node.name, p'.1)) : related = related' ∧ p = p' := by
  obtain ⟨hname, hkey⟩ := Prod.mk.inj h
  exact ⟨List.inj_on_of_nodup_map (Classified.nodup_relations hclassified) hr hr' hname,
    List.inj_on_of_nodup_map (Selection.nodup_firstOccurrences _ _ _) hp hp' hkey⟩

theorem withValues_eq_fill {parent : Node} (relations : List (Related parent))
    (value : String × String → ResultValue) (row : ResultObject) :
    withValues row (relations.map fun related =>
        (related, value (related.node.name, keyOf row))) =
      fill (relations.map fun s => s.node.name) value row := by
  unfold withValues fill
  rw [List.foldl_map, List.foldl_map]

theorem valueWith_eq_valueOf {r : Request} {selected : Classified r.node}
    {rows : List ResultObject} {value : ResultObject → Related r.node → ResultValue}
    {shared : String × String → ResultValue}
    (h : ∀ row ∈ rows, ∀ related ∈ selected.relations,
      value row related = shared (related.node.name, keyOf row)) :
    valueWith r selected rows value = valueOf r selected rows shared := by
  unfold valueWith valueOf
  refine congrArg (resultOf r.cardinality) (List.map_congr_left fun row hrow => ?_)
  refine congrArg (arrange r.node _) ?_
  rw [← withValues_eq_fill]
  exact congrArg (withValues row) (List.map_congr_left fun related hr =>
    congrArg (Prod.mk related) (h row hrow related hr))

/-- Sub-requests that each yield something yield it by field and key. -/
theorem exists_parts {r : Request} {selected : Classified r.node} {rows : List ResultObject}
    (hclassified : classified schema options r = .ok selected)
    {caller : Related r.node → Modifiers}
    (h : ∀ related ∈ selected.relations, ∀ p ∈ distinctIds rows, ∃ cost v,
      Yields schema options dialect (relationRequest r related p.2 (caller related)) cost v ∧
        AnsweredBy answers cost) :
    ∃ (part : String × String → Multiset Exchange) (value : String × String → ResultValue),
      ∀ related ∈ selected.relations, ∀ p ∈ distinctIds rows,
        Yields schema options dialect (relationRequest r related p.2 (caller related))
          (part (related.node.name, p.1)) (value (related.node.name, p.1)) ∧
        AnsweredBy answers (part (related.node.name, p.1)) := by
  have hkey : ∀ k : String × String, ∃ (cost : Multiset Exchange) (v : ResultValue),
      ∀ related ∈ selected.relations, ∀ p ∈ distinctIds rows, k = (related.node.name, p.1) →
        Yields schema options dialect (relationRequest r related p.2 (caller related)) cost v ∧
          AnsweredBy answers cost := by
    intro k
    by_cases hk : ∃ related ∈ selected.relations, ∃ p ∈ distinctIds rows,
        k = (related.node.name, p.1)
    · obtain ⟨related, hr, p, hp, rfl⟩ := hk
      obtain ⟨cost, v, hyields⟩ := h related hr p hp
      refine ⟨cost, v, fun related' hr' p' hp' heq => ?_⟩
      obtain ⟨rfl, rfl⟩ := taskIndex_inj hclassified hr hr' hp hp' heq
      exact hyields
    · exact ⟨0, .null, fun related hr p hp heq => absurd ⟨related, hr, p, hp, heq⟩ hk⟩
  choose part value hparts using hkey
  exact ⟨part, value, fun related hr p hp => hparts _ related hr p hp rfl⟩

theorem AnsweredBy.add_bind {own : Exchange} {indexes : List (String × String)}
    {part : String × String → Multiset Exchange} (hown : own.2 = answers own.1)
    (hparts : ∀ k ∈ indexes, AnsweredBy answers (part k)) :
    AnsweredBy answers ({own} + Multiset.bind indexes part) := by
  intro e he
  rcases Multiset.mem_add.1 he with he | he
  · obtain rfl := Multiset.mem_singleton.1 he
    exact hown
  · obtain ⟨k, hk, he⟩ := Multiset.mem_bind.1 he
    exact hparts k (Multiset.mem_coe.1 hk) e he

/-- For what is related to the rows of a request, the reference finds what is yielded. -/
def FoundBelow (answers : String → Except StorageError (List Row)) (dialect : Dialect)
    (schema : Schema) (options : Options) (r : Request) : Prop :=
  ∀ (related : Related r.node) (id : Scalar) (caller : Modifiers) (v : ResultValue),
    rowByRow answers dialect schema options true (relationRequest r related id caller) = .ok v ↔
      ∃ cost, Yields schema options dialect (relationRequest r related id caller) cost v ∧
        AnsweredBy answers cost

/-- The values that the reference finds row by row can be shared between rows of one key. -/
theorem FoundBelow.exists_shared {r : Request}
    (hbelow : FoundBelow answers dialect schema options r) {selected : Classified r.node}
    {rows : List ResultObject} (hclassified : classified schema options r = .ok selected)
    {caller : Related r.node → Modifiers} {value : ResultObject → Related r.node → ResultValue}
    (hown : ∀ row ∈ rows, ∀ related ∈ selected.relations,
      ∃ id, rowId? row = some id ∧ rowByRow answers dialect schema options true
        (relationRequest r related id (caller related)) = .ok (value row related)) :
    ∃ (part : String × String → Multiset Exchange) (shared : String × String → ResultValue),
      (∀ related ∈ selected.relations, ∀ p ∈ distinctIds rows,
        Yields schema options dialect (relationRequest r related p.2 (caller related))
          (part (related.node.name, p.1)) (shared (related.node.name, p.1)) ∧
        AnsweredBy answers (part (related.node.name, p.1))) ∧
      ∀ row ∈ rows, ∀ related ∈ selected.relations,
        value row related = shared (related.node.name, keyOf row) := by
  have heach : ∀ related ∈ selected.relations, ∀ p ∈ distinctIds rows, ∃ cost v,
      Yields schema options dialect (relationRequest r related p.2 (caller related)) cost v ∧
        AnsweredBy answers cost := by
    intro related hr p hp
    obtain ⟨row, hrow, hid, -⟩ := exists_row_of_mem_distinctIds hp
    obtain ⟨id, hid', hrowByRow⟩ := hown row hrow related hr
    cases hid'.symm.trans hid
    obtain ⟨cost, hyields⟩ := (hbelow _ _ _ _).1 hrowByRow
    exact ⟨cost, _, hyields⟩
  obtain ⟨part, shared, hparts⟩ := exists_parts hclassified heach
  refine ⟨part, shared, hparts, fun row hrow related hr => ?_⟩
  obtain ⟨id, hid, hrowByRow⟩ := hown row hrow related hr
  obtain ⟨p, hp, hkey, hsame⟩ := exists_rowByRow_eq hrow hid (caller related)
  rw [hsame] at hrowByRow
  have hpart := (hbelow _ _ _ _).2 ⟨_, hparts related hr p hp⟩
  rw [hkey] at hpart
  exact Except.ok.inj (hrowByRow.symm.trans hpart)

theorem FoundBelow.yields {r : Request} (hbelow : FoundBelow answers dialect schema options r)
    {v : ResultValue} (h : rowByRow answers dialect schema options true r = .ok v) :
    ∃ cost, Yields schema options dialect r cost v ∧ AnsweredBy answers cost := by
  obtain ⟨selected, rows, hclassified, hrows, hcases⟩ := rowByRow_eq_ok_iff.1 h
  rcases hcases with ⟨hmissing, rfl⟩ | ⟨hpresent, hcallers, value, hvalue, rfl⟩
  · refine ⟨_, .missing hclassified hmissing, fun e he => ?_⟩
    obtain rfl := Multiset.mem_singleton.1 he
    exact hrows.symm
  choose! caller hcaller using hcallers rfl
  have hown : ∀ row ∈ parentsOf r.cardinality rows, ∀ related ∈ selected.relations,
      ∃ id, rowId? row = some id ∧ rowByRow answers dialect schema options true
        (relationRequest r related id (caller related)) = .ok (value row related) := by
    intro row hrow related hr
    obtain ⟨caller', id, hcaller', hid, hrowByRow⟩ := hvalue row hrow related hr
    cases hcaller'.symm.trans (hcaller related hr)
    exact ⟨id, hid, hrowByRow⟩
  obtain ⟨part, shared, hparts, hshared⟩ := hbelow.exists_shared hclassified hown
  rw [valueWith_eq_valueOf hshared]
  refine ⟨_, .level hclassified hpresent hcaller ?_ fun related hr p hp =>
    (hparts related hr p hp).1, .add_bind hrows.symm fun k hk => ?_⟩
  · intro hne row hrow
    obtain ⟨related, hr⟩ := List.exists_mem_of_ne_nil _ hne
    obtain ⟨id, hid, -⟩ := hown row hrow related hr
    rw [hid]
    rfl
  · obtain ⟨related, hr, p, hp, rfl⟩ := mem_taskIndexes.1 hk
    exact (hparts related hr p hp).2

theorem FoundBelow.rowByRow {r : Request} (hbelow : FoundBelow answers dialect schema options r)
    {cost : Multiset Exchange} {v : ResultValue} (h : Yields schema options dialect r cost v)
    (hcost : AnsweredBy answers cost) :
    Resolution.rowByRow answers dialect schema options true r = .ok v := by
  refine rowByRow_eq_ok_iff.2 ?_
  cases h with
  | @missing _ selected rows hclassified hmissing =>
    exact ⟨selected, rows, hclassified, (hcost _ (Multiset.mem_singleton_self _)).symm,
      .inl ⟨hmissing, rfl⟩⟩
  | @level _ selected rows caller part value hclassified hpresent hcaller hids hparts =>
    refine ⟨selected, rows, hclassified, hcost.own.symm, .inr ⟨hpresent,
      fun _ related hr => ⟨caller related, hcaller related hr⟩,
      fun row related => value (related.node.name, keyOf row), ?_,
      (valueWith_eq_valueOf fun row _ related _ => rfl).symm⟩⟩
    intro row hrow related hr
    obtain ⟨id, hid⟩ := Option.isSome_iff_exists.1 (hids (List.ne_nil_of_mem hr) row hrow)
    obtain ⟨p, hp, hkey, hsame⟩ := exists_rowByRow_eq hrow hid (caller related)
    refine ⟨caller related, id, hcaller related hr, hid, ?_⟩
    dsimp only
    rw [hsame, ← hkey]
    exact (hbelow _ _ _ _).2 ⟨_, hparts related hr p hp,
      hcost.part (mem_taskIndexes.2 ⟨related, hr, p, hp, rfl⟩)⟩

theorem rowByRow_iff_yields {r : Request} {v : ResultValue} :
    rowByRow answers dialect schema options true r = .ok v ↔
      ∃ cost, Yields schema options dialect r cost v ∧ AnsweredBy answers cost := by
  -- The requests below are for nodes below.
  induction hsize : sizeOf r.node using Nat.strong_induction_on generalizing r v with
  | _ n ih =>
    have hbelow : FoundBelow answers dialect schema options r := by
      intro related id caller w
      refine ih _ ?_ rfl
      rw [relationRequest_node, ← hsize]
      exact Node.sizeOf_lt_of_mem_children related.node_mem
    constructor
    · intro h
      exact hbelow.yields h
    · rintro ⟨cost, hyields, hcost⟩
      exact hbelow.rowByRow hyields hcost

/-! ## Sharing is invisible -/

/-- A resolution with answers that depend on the statement alone finds what the request yields. -/
theorem resolve_iff_yields {σ : Type} {x : Executor σ} (hx : x.AnswersBy answers) {r : Request}
    {s : σ} {v : ResultValue} :
    (resolve x schema options r s).1 = .ok v ↔
      ∃ cost, Yields schema options x.dialect r cost v ∧ AnsweredBy answers cost := by
  obtain ⟨log, hcourse⟩ := exists_course x schema options r s
  constructor
  · intro h
    rw [h] at hcourse
    exact ⟨log, hcourse.yields, hcourse.answered hx⟩
  · rintro ⟨cost, hyields, hcost⟩
    have hok := (hcourse.isOk_iff hx).2 ⟨cost, v, hyields, hcost⟩
    cases ho : (resolve x schema options r s).1 with
    | error e => rw [ho] at hok; cases hok
    | ok w =>
      rw [ho] at hcourse
      rw [(hcourse.yields.unique (hcourse.answered hx) hyields hcost).2]

/-- Sharing sub-resolutions is invisible: a resolution fails exactly where the reference, which
resolves every relation of every row on its own, fails, and else has the same value. -/
theorem resolve_eq_rowByRow (dialect : Dialect) (answers : String → Except StorageError (List Row))
    (write : String → Except StorageError WriteOutcome) (schema : Schema) (options : Options)
    (r : Request) :
    (resolve (Executor.ofAnswers dialect answers write) schema options r ()).1.toOption =
      (rowByRow answers dialect schema options true r).toOption := by
  have hx : (Executor.ofAnswers dialect answers write).AnswersBy answers := fun _ _ => rfl
  have hok : ∀ {o : Except ResolveError ResultValue} {v : ResultValue},
      o.toOption = some v ↔ o = .ok v := by
    intro o v
    cases o with
    | error e => exact ⟨fun h => (nomatch h), fun h => (nomatch h)⟩
    | ok w => exact ⟨fun h => congrArg _ (Option.some.inj h), fun h => by cases h; rfl⟩
  refine Option.ext fun v => ?_
  rw [hok, hok, resolve_iff_yields hx, rowByRow_iff_yields]
  rfl

def Blog.negativeLimit : OrderedMap ArgumentValue := .ofList [("limit", .scalar (.int (-5)))]

/-- Where there are no rows, only reading ahead finds arguments that cannot be read. -/
theorem resolve_ne_rowByRow_late :
    (resolve (Blog.executor []) Blog.schema .default (Blog.request Blog.negativeLimit) ()).1.isOk =
        false ∧
      rowByRow (fun _ => .ok []) .sqlite Blog.schema .default false
        (Blog.request Blog.negativeLimit) = .ok (.list []) := by
  constructor
  · rw [resolve_eq]
    rfl
  · refine rowByRow_eq_ok_iff.2 ⟨Blog.selected _, [], rfl, rfl, .inr ⟨rfl, ?_, ?_⟩⟩
    · exact fun h => (nomatch h)
    · exact ⟨fun _ _ => .null, by simp [parentsOf, Blog.request], rfl⟩

end Resolution
end SelectionSql
