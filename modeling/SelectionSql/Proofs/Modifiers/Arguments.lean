import SelectionSql.Modifiers.Basic
import SelectionSql.Proofs.Entries
import SelectionSql.Proofs.Outcome
import SelectionSql.Proofs.Text.Cutting

/-!
# What the arguments of a field ask for

* `Modifiers.GivesFilter`, `GivesLimit`, `GivesOrder`: what each of the arguments `where`, `limit`
  and `orderBy` says, where it can be read. One that is null says as much as one that is missing.
* `Modifiers.FilterFault`, `LimitFault`, `OrderFault`: why an argument cannot be read.
* `Modifiers.filterOf_eq_ok_iff`, `filterOf_eq_error_iff` and their likes: an argument is read as it
  says, or refused for its fault.
* `Modifiers.ArgumentsFault`: of several arguments at fault the first counts.
* `Modifiers.ofArguments_reads`: what the modifiers of a field are, and which arguments are refused.
-/
set_option autoImplicit false

namespace SelectionSql

theorem Limit.ofInt?_eq_some_iff {n : Int64} {limit : Limit} :
    Limit.ofInt? n = some limit ↔
      (n = -1 ∧ limit = .unbounded) ∨ ∃ count, limit = .rows count ∧ (count.toNat : Int) = n.toInt := by
  have hminus : (-1 : Int64).toInt = -1 := rfl
  unfold Limit.ofInt?
  split
  · next hn =>
    subst hn
    constructor
    · intro h
      cases h
      exact .inl ⟨rfl, rfl⟩
    · rintro (⟨-, rfl⟩ | ⟨count, rfl, hcount⟩)
      · rfl
      · rw [hminus] at hcount
        omega
  · next hn =>
    split
    · next hneg =>
      have hneg' : n.toInt < 0 := Int64.lt_iff_toInt_lt.1 hneg
      refine ⟨fun h => (nomatch h), ?_⟩
      rintro (⟨rfl, -⟩ | ⟨count, -, hcount⟩)
      · exact absurd rfl hn
      · omega
    · next hpos =>
      have hle : 0 ≤ n.toInt := Int.not_lt.1 fun h => hpos (Int64.lt_iff_toInt_lt.2 h)
      have hcount : (n.toUInt64.toNat : Int) = n.toInt := by
        rw [Int64.toNat_toUInt64_of_le (Int64.le_iff_toInt_le.2 hle)]
        exact Int.toNat_of_nonneg hle
      constructor
      · intro h
        cases h
        exact .inr ⟨_, rfl, hcount⟩
      · rintro (⟨rfl, -⟩ | ⟨count, rfl, h⟩)
        · exact absurd rfl hn
        · rw [UInt64.toNat_inj.1 (Int.ofNat_inj.1 (h.trans hcount.symm))]

theorem Limit.ofInt?_eq_none_iff {n : Int64} : Limit.ofInt? n = none ↔ n.toInt < -1 := by
  have hminus : (-1 : Int64).toInt = -1 := rfl
  unfold Limit.ofInt?
  split
  · next hn =>
    subst hn
    simp [hminus]
  · next hn =>
    have hne : n.toInt ≠ -1 := fun h => hn (Int64.toInt_inj.1 h)
    split
    · next hneg =>
      have hneg' : n.toInt < 0 := Int64.lt_iff_toInt_lt.1 hneg
      simp only [true_iff]
      omega
    · next hpos =>
      have hle : 0 ≤ n.toInt := Int.not_lt.1 fun h => hpos (Int64.lt_iff_toInt_lt.2 h)
      simp only [reduceCtorEq, false_iff]
      omega

theorem trimText_eq_empty_iff {s : String} : trimText s = "" ↔ AllBlank s.toList := by
  rw [← String.toList_inj, trimText, String.toList_ofList]
  show trimBlanks s.toList = [] ↔ _
  rw [trimBlanks_eq_iff]
  constructor
  · rintro ⟨-, front, back, hfront, hback, h⟩ c hc
    rw [h, List.append_nil] at hc
    exact (List.mem_append.1 hc).elim (hfront c) (hback c)
  · intro h
    exact ⟨⟨by simp, by simp⟩, s.toList, [], h, by simp [AllBlank], by simp⟩

namespace OrderBy
variable {clause : String} {allowRaw : Bool}

theorem parse_eq_none_iff : parse clause allowRaw = .ok none ↔ AllBlank clause.toList := by
  rw [← trimText_eq_empty_iff]
  unfold parse
  dsimp only
  split
  · next h => simp [h]
  · next h => split <;> simp [h]

theorem parse_eq_error_iff {e : ResolveError} :
    parse clause allowRaw = .error e ↔ (∀ ordering, parse clause allowRaw ≠ .ok ordering) ∧
      e = .invalidArgument "orderBy" (.notColumnList (trimText clause)) := by
  unfold parse
  dsimp only
  split
  · simp
  · split <;> simp [eq_comm]

end OrderBy

namespace Modifiers

/-! ## What an argument says -/

/-- The argument is not given; null counts as that. -/
def IsMissing (argument : Option ArgumentValue) : Prop :=
  argument = none ∨ argument = some (.scalar .null)

/-- The columns that a `where` argument compares, each with its value, in order. -/
inductive GivesFilter : Option ArgumentValue → Entries Scalar → Prop
  | missing {argument : Option ArgumentValue} (h : IsMissing argument) : GivesFilter argument []
  | columns (columns : Entries Scalar) :
      GivesFilter (some (.object (columns.map fun e => (e.1, .scalar e.2)))) columns

inductive GivesLimit : Option ArgumentValue → Option Limit → Prop
  | missing {argument : Option ArgumentValue} (h : IsMissing argument) : GivesLimit argument none
  | unbounded : GivesLimit (some (.scalar (.int (-1)))) (some .unbounded)
  | rows {n : Int64} {count : UInt64} (h : (count.toNat : Int) = n.toInt) :
      GivesLimit (some (.scalar (.int n))) (some (.rows count))

inductive GivesOrder (allowRaw : Bool) : Option ArgumentValue → Option OrderBy → Prop
  | missing {argument : Option ArgumentValue} (h : IsMissing argument) :
      GivesOrder allowRaw argument none
  | blank {clause : String} (h : AllBlank clause.toList) :
      GivesOrder allowRaw (some (.scalar (.string clause))) none
  | clause {clause : String} {ordering : OrderBy}
      (h : OrderBy.parse clause allowRaw = .ok (some ordering)) :
      GivesOrder allowRaw (some (.scalar (.string clause))) (some ordering)

/-! ## Why it cannot be read -/

/-- A column that is compared with a list or an object. -/
inductive ColumnFault : String × ArgumentValue → ResolveError → Prop
  | notScalar {column : String} {value : ArgumentValue} (h : ∀ s, value ≠ .scalar s) :
      ColumnFault (column, value) (.invalidArgument "where" (.notScalar column value.kind))

/-- The argument is given, and has another shape than the one it needs. -/
inductive ShapeFault (name shape : String) (Fits : ArgumentValue → Prop) :
    Option ArgumentValue → ResolveError → Prop
  | other {value : ArgumentValue} (hgiven : ¬ IsMissing (some value)) (h : ¬ Fits value) :
      ShapeFault name shape Fits (some value) (.invalidArgument name (.expected shape value.kind))

inductive FilterFault : Option ArgumentValue → ResolveError → Prop
  | shape {argument : Option ArgumentValue} {e : ResolveError}
      (h : ShapeFault "where" "object" (fun v => ∃ fields, v = .object fields) argument e) :
      FilterFault argument e
  | column {fields : List (String × ArgumentValue)} {e : ResolveError}
      (h : FirstFault ColumnFault fields e) : FilterFault (some (.object fields)) e

inductive LimitFault : Option ArgumentValue → ResolveError → Prop
  | shape {argument : Option ArgumentValue} {e : ResolveError}
      (h : ShapeFault "limit" "integer" (fun v => ∃ n, v = .scalar (.int n)) argument e) :
      LimitFault argument e
  | negative {n : Int64} (h : n.toInt < -1) :
      LimitFault (some (.scalar (.int n))) (.invalidArgument "limit" (.negativeLimit n))

inductive OrderFault (allowRaw : Bool) : Option ArgumentValue → ResolveError → Prop
  | shape {argument : Option ArgumentValue} {e : ResolveError}
      (h : ShapeFault "orderBy" "string" (fun v => ∃ s, v = .scalar (.string s)) argument e) :
      OrderFault allowRaw argument e
  | clause {clause : String} (h : ∀ ordering, OrderBy.parse clause allowRaw ≠ .ok ordering) :
      OrderFault allowRaw (some (.scalar (.string clause)))
        (.invalidArgument "orderBy" (.notColumnList (trimText clause)))

/-! ## Reading one argument -/

theorem columnFault_scalar {column : String} {s : Scalar} {e : ResolveError} :
    ¬ ColumnFault (column, .scalar s) e := by
  rintro ⟨h⟩
  exact h s rfl

theorem filterOfFields_eq_ok_iff {fields : List (String × ArgumentValue)}
    {acc filter : OrderedMap Scalar} :
    filterOfFields fields acc = .ok filter ↔
      ∃ columns : Entries Scalar, fields = columns.map (fun e => (e.1, .scalar e.2)) ∧
        filter.entries = Entries.extend acc.entries columns := by
  induction fields generalizing acc with
  | nil =>
    constructor
    · intro h
      cases h
      exact ⟨[], rfl, rfl⟩
    · rintro ⟨columns, hcolumns, hfilter⟩
      obtain rfl := List.map_eq_nil_iff.1 hcolumns.symm
      exact congrArg Except.ok (OrderedMap.ext hfilter.symm)
  | cons field rest ih =>
    obtain ⟨column, value⟩ := field
    constructor
    · intro h
      cases value with
      | scalar s =>
        obtain ⟨columns, hrest, hfilter⟩ := ih.1 h
        exact ⟨(column, s) :: columns, by rw [hrest]; rfl, hfilter⟩
      | list items => cases h
      | object members => cases h
    · rintro ⟨columns, hcolumns, hfilter⟩
      cases columns with
      | nil => cases hcolumns
      | cons c columns =>
        obtain ⟨hfield, hrest⟩ := List.cons.inj hcolumns
        cases hfield
        exact ih.2 ⟨columns, hrest, hfilter⟩

theorem filterOfFields_eq_error_iff {fields : List (String × ArgumentValue)}
    {acc : OrderedMap Scalar} {e : ResolveError} :
    filterOfFields fields acc = .error e ↔ FirstFault ColumnFault fields e := by
  induction fields generalizing acc with
  | nil => exact ⟨fun h => (nomatch h), by simp [FirstFault]⟩
  | cons field rest ih =>
    obtain ⟨column, value⟩ := field
    rw [firstFault_cons]
    have hfault : ∀ {value : ArgumentValue}, (∀ s, value ≠ .scalar s) →
        (.error (.invalidArgument "where" (.notScalar column value.kind)) =
            (.error e : Except ResolveError (OrderedMap Scalar)) ↔
          ColumnFault (column, value) e ∨
            (∀ e', ¬ ColumnFault (column, value) e') ∧ FirstFault ColumnFault rest e) := by
      intro value hvalue
      constructor
      · intro h
        cases h
        exact .inl (.notScalar hvalue)
      · rintro (hown | ⟨hnone, -⟩)
        · cases hown
          rfl
        · exact absurd (.notScalar hvalue) (hnone _)
    cases value with
    | scalar s =>
      have hstep : filterOfFields ((column, .scalar s) :: rest) acc =
          filterOfFields rest (acc.insert column s) := rfl
      rw [hstep, ih]
      simp [columnFault_scalar]
    | list items => exact hfault fun s => ArgumentValue.noConfusion
    | object members => exact hfault fun s => ArgumentValue.noConfusion

section Argument
variable {argument : Option ArgumentValue} {allowRaw : Bool} {e : ResolveError}

theorem filterOf_eq_ok_iff {filter : OrderedMap Scalar} :
    filterOf argument = .ok filter ↔
      ∃ columns, GivesFilter argument columns ∧ filter = .ofList columns := by
  constructor
  · intro h
    unfold filterOf at h
    split at h
    · cases h
      exact ⟨[], .missing (.inl rfl), rfl⟩
    · cases h
      exact ⟨[], .missing (.inr rfl), rfl⟩
    · obtain ⟨columns, rfl, hfilter⟩ := filterOfFields_eq_ok_iff.1 h
      exact ⟨columns, .columns columns, OrderedMap.ext hfilter⟩
    · cases h
  · rintro ⟨columns, hgives, rfl⟩
    cases hgives with
    | missing h => rcases h with rfl | rfl <;> rfl
    | columns => exact filterOfFields_eq_ok_iff.2 ⟨columns, rfl, rfl⟩

theorem filterOf_eq_error_iff : filterOf argument = .error e ↔ FilterFault argument e := by
  constructor
  · intro h
    unfold filterOf at h
    split at h
    · cases h
    · cases h
    · exact .column (filterOfFields_eq_error_iff.1 h)
    · next value hnull hobject =>
      cases h
      exact .shape (.other (by simpa [IsMissing] using hnull) fun ⟨fields, hv⟩ => hobject fields hv)
  · intro h
    cases h with
    | column h => exact filterOfFields_eq_error_iff.2 h
    | shape h =>
      obtain ⟨hgiven, hother⟩ := h
      unfold filterOf
      split
      · next h => cases h
      · next h => exact absurd (.inr h) hgiven
      · next fields h => exact absurd ⟨fields, Option.some.inj h⟩ hother
      · next h =>
        cases h
        rfl

theorem limitOf_eq_ok_iff {limit : Option Limit} :
    limitOf argument = .ok limit ↔ GivesLimit argument limit := by
  constructor
  · intro h
    unfold limitOf at h
    split at h
    · cases h
      exact .missing (.inl rfl)
    · cases h
      exact .missing (.inr rfl)
    · split at h
      · next n limit' hlimit =>
        cases h
        rcases Limit.ofInt?_eq_some_iff.1 hlimit with ⟨rfl, rfl⟩ | ⟨count, rfl, hcount⟩
        · exact .unbounded
        · exact .rows hcount
      · cases h
    · cases h
  · intro h
    cases h with
    | missing h => rcases h with rfl | rfl <;> rfl
    | unbounded => rfl
    | @rows n count h =>
      have hlimit := Limit.ofInt?_eq_some_iff.2 (.inr ⟨count, rfl, h⟩)
      simp only [limitOf, hlimit]

theorem limitOf_eq_error_iff : limitOf argument = .error e ↔ LimitFault argument e := by
  constructor
  · intro h
    unfold limitOf at h
    split at h
    · cases h
    · cases h
    · split at h
      · cases h
      · next n hnone =>
        cases h
        exact .negative (Limit.ofInt?_eq_none_iff.1 hnone)
    · next value hnull hint =>
      cases h
      exact .shape (.other (by simpa [IsMissing] using hnull) fun ⟨n, hv⟩ => hint n hv)
  · intro h
    cases h with
    | @negative n h =>
      simp only [limitOf, Limit.ofInt?_eq_none_iff.2 h]
    | shape h =>
      obtain ⟨hgiven, hother⟩ := h
      unfold limitOf
      split
      · next h => cases h
      · next h => exact absurd (.inr h) hgiven
      · next n h => exact absurd ⟨n, Option.some.inj h⟩ hother
      · next h =>
        cases h
        rfl

theorem orderOf_eq_ok_iff {ordering : Option OrderBy} :
    orderOf allowRaw argument = .ok ordering ↔ GivesOrder allowRaw argument ordering := by
  constructor
  · intro h
    unfold orderOf at h
    split at h
    · cases h
      exact .missing (.inl rfl)
    · cases h
      exact .missing (.inr rfl)
    · cases ordering with
      | none => exact .blank (OrderBy.parse_eq_none_iff.1 h)
      | some ordering => exact .clause h
    · cases h
  · intro h
    cases h with
    | missing h => rcases h with rfl | rfl <;> rfl
    | blank h => exact OrderBy.parse_eq_none_iff.2 h
    | clause h => exact h

theorem orderOf_eq_error_iff :
    orderOf allowRaw argument = .error e ↔ OrderFault allowRaw argument e := by
  constructor
  · intro h
    unfold orderOf at h
    split at h
    · cases h
    · cases h
    · obtain ⟨hrefused, rfl⟩ := OrderBy.parse_eq_error_iff.1 h
      exact .clause hrefused
    · next value hnull hstring =>
      cases h
      exact .shape (.other (by simpa [IsMissing] using hnull) fun ⟨clause, hv⟩ => hstring clause hv)
  · intro h
    cases h with
    | clause h => exact OrderBy.parse_eq_error_iff.2 ⟨h, rfl⟩
    | shape h =>
      obtain ⟨hgiven, hother⟩ := h
      unfold orderOf
      split
      · next h => cases h
      · next h => exact absurd (.inr h) hgiven
      · next clause h => exact absurd ⟨clause, Option.some.inj h⟩ hother
      · next h =>
        cases h
        rfl

end Argument

/-! ## The arguments of a field -/

section Arguments
variable (allowRaw : Bool) (arguments : OrderedMap ArgumentValue)

/-- What the three arguments say together. -/
structure Gives (m : Modifiers) : Prop where
  filter : ∃ columns, GivesFilter (arguments.find? "where") columns ∧ m.filter = .ofList columns
  limit : GivesLimit (arguments.find? "limit") m.limit
  orderBy : GivesOrder allowRaw (arguments.find? "orderBy") m.orderBy

/-- The first of the three arguments that cannot be read. -/
inductive ArgumentsFault : ResolveError → Prop
  | filter {e : ResolveError} (h : FilterFault (arguments.find? "where") e) : ArgumentsFault e
  | limit {e : ResolveError} (hfilter : ∀ e', ¬ FilterFault (arguments.find? "where") e')
      (h : LimitFault (arguments.find? "limit") e) : ArgumentsFault e
  | orderBy {e : ResolveError} (hfilter : ∀ e', ¬ FilterFault (arguments.find? "where") e')
      (hlimit : ∀ e', ¬ LimitFault (arguments.find? "limit") e')
      (h : OrderFault allowRaw (arguments.find? "orderBy") e) : ArgumentsFault e

variable {allowRaw arguments}

theorem ofArguments_eq_ok_iff {m : Modifiers} :
    ofArguments arguments allowRaw = .ok m ↔ Gives allowRaw arguments m := by
  unfold ofArguments
  simp only [bind_eq_ok_iff, filterOf_eq_ok_iff, limitOf_eq_ok_iff, orderOf_eq_ok_iff]
  constructor
  · rintro ⟨filter, hfilter, limit, hlimit, orderBy, horder, hm⟩
    cases hm
    exact ⟨hfilter, hlimit, horder⟩
  · rintro ⟨hfilter, hlimit, horder⟩
    exact ⟨_, hfilter, _, hlimit, _, horder, rfl⟩

theorem ofArguments_eq_error_iff {e : ResolveError} :
    ofArguments arguments allowRaw = .error e ↔ ArgumentsFault allowRaw arguments e := by
  have hfilter : (∃ filter, filterOf (arguments.find? "where") = .ok filter) ↔
      ∀ e', ¬ FilterFault (arguments.find? "where") e' := by
    simp only [exists_ok_iff, ne_eq, filterOf_eq_error_iff]
  have hlimit : (∃ limit, limitOf (arguments.find? "limit") = .ok limit) ↔
      ∀ e', ¬ LimitFault (arguments.find? "limit") e' := by
    simp only [exists_ok_iff, ne_eq, limitOf_eq_error_iff]
  unfold ofArguments
  simp only [bind_eq_error_iff]
  constructor
  · rintro (h | ⟨filter, hok, h | ⟨limit, hok', h | ⟨ordering, -, h⟩⟩⟩)
    · exact .filter (filterOf_eq_error_iff.1 h)
    · exact .limit (hfilter.1 ⟨filter, hok⟩) (limitOf_eq_error_iff.1 h)
    · exact .orderBy (hfilter.1 ⟨filter, hok⟩) (hlimit.1 ⟨limit, hok'⟩) (orderOf_eq_error_iff.1 h)
    · cases h
  · intro h
    cases h with
    | filter h => exact .inl (filterOf_eq_error_iff.2 h)
    | limit hfirst h =>
      obtain ⟨filter, hok⟩ := hfilter.2 hfirst
      exact .inr ⟨filter, hok, .inl (limitOf_eq_error_iff.2 h)⟩
    | orderBy hfirst hsecond h =>
      obtain ⟨filter, hok⟩ := hfilter.2 hfirst
      obtain ⟨limit, hok'⟩ := hlimit.2 hsecond
      exact .inr ⟨filter, hok, .inr ⟨limit, hok', .inl (orderOf_eq_error_iff.2 h)⟩⟩

theorem exists_ofArguments_iff :
    (∃ m, ofArguments arguments allowRaw = .ok m) ↔
      (∃ columns, GivesFilter (arguments.find? "where") columns) ∧
      (∃ limit, GivesLimit (arguments.find? "limit") limit) ∧
      ∃ ordering, GivesOrder allowRaw (arguments.find? "orderBy") ordering := by
  simp only [ofArguments_eq_ok_iff]
  constructor
  · rintro ⟨m, ⟨columns, hfilter, -⟩, hlimit, horder⟩
    exact ⟨⟨columns, hfilter⟩, ⟨_, hlimit⟩, ⟨_, horder⟩⟩
  · rintro ⟨⟨columns, hfilter⟩, ⟨limit, hlimit⟩, ordering, horder⟩
    exact ⟨⟨.ofList columns, limit, ordering⟩, ⟨columns, hfilter, rfl⟩, hlimit, horder⟩

end Arguments

/-! ## Which arguments can be read -/

section Readable
variable {argument : Option ArgumentValue}

theorem exists_givesFilter_iff :
    (∃ columns, GivesFilter argument columns) ↔
      IsMissing argument ∨
        ∃ fields, argument = some (.object fields) ∧ ∀ f ∈ fields, ∃ s, f.2 = .scalar s := by
  constructor
  · rintro ⟨columns, hmissing | _⟩
    · exact .inl hmissing
    · refine .inr ⟨_, rfl, fun f hf => ?_⟩
      obtain ⟨e, -, rfl⟩ := List.mem_map.1 hf
      exact ⟨e.2, rfl⟩
  · rintro (hmissing | ⟨fields, rfl, hscalar⟩)
    · exact ⟨[], .missing hmissing⟩
    · have hfields : ∃ columns : Entries Scalar,
          fields = columns.map fun e => (e.1, ArgumentValue.scalar e.2) := by
        induction fields with
        | nil => exact ⟨[], rfl⟩
        | cons f rest ih =>
          obtain ⟨⟨s, hs⟩, hrest⟩ := List.forall_mem_cons.1 hscalar
          obtain ⟨columns, rfl⟩ := ih hrest
          exact ⟨(f.1, s) :: columns, by rw [List.map_cons, ← hs]⟩
      obtain ⟨columns, rfl⟩ := hfields
      exact ⟨columns, .columns columns⟩

theorem exists_givesLimit_iff :
    (∃ limit, GivesLimit argument limit) ↔
      IsMissing argument ∨ ∃ n : Int64, argument = some (.scalar (.int n)) ∧ -1 ≤ n.toInt := by
  constructor
  · rintro ⟨limit, hmissing | _ | hcount⟩
    · exact .inl hmissing
    · exact .inr ⟨-1, rfl, by decide⟩
    · exact .inr ⟨_, rfl, by omega⟩
  · rintro (hmissing | ⟨n, rfl, hn⟩)
    · exact ⟨none, .missing hmissing⟩
    · cases hlimit : Limit.ofInt? n with
      | none =>
        have := Limit.ofInt?_eq_none_iff.1 hlimit
        omega
      | some limit =>
        rcases Limit.ofInt?_eq_some_iff.1 hlimit with ⟨rfl, -⟩ | ⟨count, -, hcount⟩
        · exact ⟨_, .unbounded⟩
        · exact ⟨_, .rows hcount⟩

theorem exists_givesOrder_iff {allowRaw : Bool} :
    (∃ ordering, GivesOrder allowRaw argument ordering) ↔
      IsMissing argument ∨ ∃ clause ordering, argument = some (.scalar (.string clause)) ∧
        OrderBy.parse clause allowRaw = .ok ordering := by
  constructor
  · rintro ⟨ordering, hmissing | hblank | hclause⟩
    · exact .inl hmissing
    · exact .inr ⟨_, _, rfl, OrderBy.parse_eq_none_iff.2 hblank⟩
    · exact .inr ⟨_, _, rfl, hclause⟩
  · rintro (hmissing | ⟨clause, ordering, rfl, hparse⟩)
    · exact ⟨none, .missing hmissing⟩
    · cases ordering with
      | none => exact ⟨none, .blank (OrderBy.parse_eq_none_iff.1 hparse)⟩
      | some ordering => exact ⟨some ordering, .clause hparse⟩

end Readable

/-- The modifiers of a field are what its arguments `where`, `limit` and `orderBy` say, and nothing
else is looked at; they are refused for the first of the three that cannot be read. -/
theorem ofArguments_reads (arguments : OrderedMap ArgumentValue) (allowRaw : Bool) :
    ((∃ m, ofArguments arguments allowRaw = .ok m) ↔
      (IsMissing (arguments.find? "where") ∨ ∃ fields,
        arguments.find? "where" = some (.object fields) ∧ ∀ f ∈ fields, ∃ s, f.2 = .scalar s) ∧
      (IsMissing (arguments.find? "limit") ∨ ∃ n : Int64,
        arguments.find? "limit" = some (.scalar (.int n)) ∧ -1 ≤ n.toInt) ∧
      (IsMissing (arguments.find? "orderBy") ∨ ∃ clause ordering,
        arguments.find? "orderBy" = some (.scalar (.string clause)) ∧
          OrderBy.parse clause allowRaw = .ok ordering)) ∧
    (∀ m, ofArguments arguments allowRaw = .ok m ↔ Gives allowRaw arguments m) ∧
    (∀ m fields, ofArguments arguments allowRaw = .ok m →
      arguments.find? "where" = some (.object fields) → (Entries.keys fields).Nodup →
        m.filter.entries.map (fun e => (e.1, .scalar e.2)) = fields) ∧
    (∀ e, ofArguments arguments allowRaw = .error e ↔ ArgumentsFault allowRaw arguments e) ∧
    ∀ arguments' : OrderedMap ArgumentValue,
      (∀ name ∈ ["where", "limit", "orderBy"], arguments'.find? name = arguments.find? name) →
        ofArguments arguments' allowRaw = ofArguments arguments allowRaw := by
  refine ⟨?_, fun m => ofArguments_eq_ok_iff, fun m fields hm hwhere hnodup => ?_,
    fun e => ofArguments_eq_error_iff, fun arguments' hsame => ?_⟩
  · rw [exists_ofArguments_iff, exists_givesFilter_iff, exists_givesLimit_iff,
      exists_givesOrder_iff]
  · obtain ⟨columns, hgives, hfilter⟩ := (ofArguments_eq_ok_iff.1 hm).filter
    rw [hwhere] at hgives
    cases hgives with
    | missing h => simp [IsMissing] at h
    | columns =>
      have hcolumns : (Entries.keys columns).Nodup := by
        rwa [Entries.keys, List.map_map] at hnodup
      have hentries : m.filter.entries = columns := by
        rw [hfilter]
        exact Entries.ofList_of_nodup hcolumns
      rw [hentries]
  · simp only [List.forall_mem_cons, List.not_mem_nil, false_imp_iff, implies_true, and_true] at hsame
    obtain ⟨hfilter, hlimit, horder⟩ := hsame
    unfold ofArguments
    rw [hfilter, hlimit, horder]

end Modifiers
end SelectionSql
