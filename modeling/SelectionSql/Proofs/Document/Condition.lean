import SelectionSql.Document.Fields

/-!
# What directives say of a selection

* `Document.Passes`, `LeavesOut`, `Unreadable`: what one directive says.
* `Document.Kept`, `Excluded`, `Misread`: what a list of directives says. The first that does not
  pass decides.
* `Document.isIncluded_eq_true_iff`, `isIncluded_eq_false_iff`, `isIncluded_eq_error_iff`:
  directives that are read in turn say the same.
-/
set_option autoImplicit false

namespace SelectionSql
namespace Document
open Grammar (Value Directive)
variable {scope : Variables} {d : Directive} {directives : List Directive}

/-! ## One directive -/

/-- The value of the argument `if`; a missing one counts as false. -/
def ifValue (scope : Variables) (d : Directive) : ArgumentValue :=
  ((d.argument? "if").map (evaluate scope)).getD (.scalar (.bool false))

/-- The selection is not left out by this directive. -/
inductive Passes (scope : Variables) (d : Directive) : Prop
  | other (hskip : d.name ≠ "skip") (hinclude : d.name ≠ "include")
  | skipFalse (hname : d.name = "skip") (hif : ifValue scope d = .scalar (.bool false))
  | includeTrue (hname : d.name = "include") (hif : ifValue scope d = .scalar (.bool true))

inductive LeavesOut (scope : Variables) (d : Directive) : Prop
  | skipTrue (hname : d.name = "skip") (hif : ifValue scope d = .scalar (.bool true))
  | includeFalse (hname : d.name = "include") (hif : ifValue scope d = .scalar (.bool false))

/-- The value of `if` is not a truth value. -/
inductive Unreadable (scope : Variables) (d : Directive) : ResolveError → Prop
  | intro (hname : d.name = "skip" ∨ d.name = "include")
      (hif : ∀ value, ifValue scope d ≠ .scalar (.bool value)) :
      Unreadable scope d (.invalidArgument "if" (.expected "boolean" (ifValue scope d).kind))

theorem passes_or (scope : Variables) (d : Directive) :
    Passes scope d ∨ LeavesOut scope d ∨ ∃ e, Unreadable scope d e := by
  by_cases hif : ∃ value, ifValue scope d = .scalar (.bool value)
  · obtain ⟨value, hif⟩ := hif
    by_cases hskip : d.name = "skip"
    · cases value with
      | false => exact .inl (.skipFalse hskip hif)
      | true => exact .inr (.inl (.skipTrue hskip hif))
    by_cases hinclude : d.name = "include"
    · cases value with
      | false => exact .inr (.inl (.includeFalse hinclude hif))
      | true => exact .inl (.includeTrue hinclude hif)
    · exact .inl (.other hskip hinclude)
  · have hif' : ∀ value, ifValue scope d ≠ .scalar (.bool value) := fun v h => hif ⟨v, h⟩
    by_cases hname : d.name = "skip" ∨ d.name = "include"
    · exact .inr (.inr ⟨_, .intro hname hif'⟩)
    · obtain ⟨hskip, hinclude⟩ := not_or.1 hname
      exact .inl (.other hskip hinclude)

theorem condition_of_bool {value : Bool} (h : ifValue scope d = .scalar (.bool value)) :
    condition scope d = .ok value := by
  unfold condition
  unfold ifValue at h
  cases hargument : (d.argument? "if").map (evaluate scope) with
  | none =>
    rw [hargument] at h
    cases h
    rfl
  | some other =>
    rw [hargument] at h
    cases h
    rfl

theorem condition_of_not_bool (h : ∀ value, ifValue scope d ≠ .scalar (.bool value)) :
    condition scope d =
      .error (.invalidArgument "if" (.expected "boolean" (ifValue scope d).kind)) := by
  unfold condition
  unfold ifValue at h ⊢
  cases hargument : (d.argument? "if").map (evaluate scope) with
  | none =>
    rw [hargument] at h
    exact absurd rfl (h false)
  | some other =>
    rw [hargument] at h
    split
    · next heq => cases heq
    · next value heq =>
      cases heq
      exact absurd rfl (h value)
    · next heq =>
      cases heq
      rfl

theorem leavesOutWhen?_skip (h : d.name = "skip") : leavesOutWhen? d = some true := by
  rw [leavesOutWhen?, if_pos h]

theorem leavesOutWhen?_include (h : d.name = "include") : leavesOutWhen? d = some false := by
  rw [leavesOutWhen?, h]
  rfl

theorem isIncluded_of_passes (h : Passes scope d) :
    isIncluded scope (d :: directives) = isIncluded scope directives := by
  rw [isIncluded]
  cases h with
  | other hskip hinclude => rw [leavesOutWhen?, if_neg hskip, if_neg hinclude]
  | skipFalse hname hif =>
    rw [leavesOutWhen?_skip hname, condition_of_bool hif]
    rfl
  | includeTrue hname hif =>
    rw [leavesOutWhen?_include hname, condition_of_bool hif]
    rfl

theorem isIncluded_of_leavesOut (h : LeavesOut scope d) :
    isIncluded scope (d :: directives) = .ok false := by
  rw [isIncluded]
  cases h with
  | skipTrue hname hif =>
    rw [leavesOutWhen?_skip hname, condition_of_bool hif]
    rfl
  | includeFalse hname hif =>
    rw [leavesOutWhen?_include hname, condition_of_bool hif]
    rfl

theorem isIncluded_of_unreadable {e : ResolveError} (h : Unreadable scope d e) :
    isIncluded scope (d :: directives) = .error e := by
  rw [isIncluded]
  obtain ⟨hname | hname, hif⟩ := h
  · rw [leavesOutWhen?_skip hname, condition_of_not_bool hif]
    rfl
  · rw [leavesOutWhen?_include hname, condition_of_not_bool hif]
    rfl

/-! ## Directives in turn -/

def Kept (scope : Variables) (directives : List Directive) : Prop :=
  ∀ d ∈ directives, Passes scope d

/-- The first directive that does not pass leaves the selection out. -/
def Excluded (scope : Variables) (directives : List Directive) : Prop :=
  ∃ before d after, directives = before ++ d :: after ∧ Kept scope before ∧ LeavesOut scope d

/-- The first directive that does not pass cannot be read. -/
def Misread (scope : Variables) (directives : List Directive) (e : ResolveError) : Prop :=
  ∃ before d after, directives = before ++ d :: after ∧ Kept scope before ∧ Unreadable scope d e

theorem isIncluded_append {before after : List Directive} (h : Kept scope before) :
    isIncluded scope (before ++ after) = isIncluded scope after := by
  induction before with
  | nil => rfl
  | cons d rest ih =>
    rw [List.cons_append, isIncluded_of_passes (h d List.mem_cons_self)]
    exact ih fun d' hd' => h d' (List.mem_cons_of_mem d hd')

theorem isIncluded_of_kept (h : Kept scope directives) : isIncluded scope directives = .ok true := by
  have happend : isIncluded scope (directives ++ []) = .ok true := isIncluded_append h
  rwa [List.append_nil] at happend

theorem isIncluded_of_excluded (h : Excluded scope directives) :
    isIncluded scope directives = .ok false := by
  obtain ⟨before, d, after, rfl, hkept, hout⟩ := h
  rw [isIncluded_append hkept, isIncluded_of_leavesOut hout]

theorem isIncluded_of_misread {e : ResolveError} (h : Misread scope directives e) :
    isIncluded scope directives = .error e := by
  obtain ⟨before, d, after, rfl, hkept, hunreadable⟩ := h
  rw [isIncluded_append hkept, isIncluded_of_unreadable hunreadable]

theorem not_kept_of_excluded (h : Excluded scope directives) : ¬ Kept scope directives := by
  intro hkept
  cases (isIncluded_of_excluded h).symm.trans (isIncluded_of_kept hkept)

theorem not_misread_of_kept {e : ResolveError} (h : Kept scope directives) :
    ¬ Misread scope directives e := by
  intro hmisread
  cases (isIncluded_of_kept h).symm.trans (isIncluded_of_misread hmisread)

theorem not_misread_of_excluded {e : ResolveError} (h : Excluded scope directives) :
    ¬ Misread scope directives e := by
  intro hmisread
  cases (isIncluded_of_excluded h).symm.trans (isIncluded_of_misread hmisread)

theorem kept_or (scope : Variables) (directives : List Directive) :
    Kept scope directives ∨ Excluded scope directives ∨ ∃ e, Misread scope directives e := by
  induction directives with
  | nil => exact .inl fun d hd => absurd hd List.not_mem_nil
  | cons d rest ih =>
    have hnil : Kept scope [] := fun d hd => absurd hd List.not_mem_nil
    rcases passes_or scope d with hd | hd | ⟨e, hd⟩
    · have hcons : ∀ {before}, Kept scope before → Kept scope (d :: before) := by
        intro before hbefore d' hd'
        rcases List.mem_cons.1 hd' with rfl | hd'
        · exact hd
        · exact hbefore d' hd'
      rcases ih with h | ⟨before, d', after, rfl, h, h'⟩ | ⟨e, before, d', after, rfl, h, h'⟩
      · exact .inl (hcons h)
      · exact .inr (.inl ⟨d :: before, d', after, rfl, hcons h, h'⟩)
      · exact .inr (.inr ⟨e, d :: before, d', after, rfl, hcons h, h'⟩)
    · exact .inr (.inl ⟨[], d, rest, rfl, hnil, hd⟩)
    · exact .inr (.inr ⟨e, [], d, rest, rfl, hnil, hd⟩)

theorem isIncluded_eq_true_iff : isIncluded scope directives = .ok true ↔ Kept scope directives := by
  refine ⟨fun h => ?_, isIncluded_of_kept⟩
  rcases kept_or scope directives with hkept | hout | ⟨e, hmisread⟩
  · exact hkept
  · cases h.symm.trans (isIncluded_of_excluded hout)
  · cases h.symm.trans (isIncluded_of_misread hmisread)

theorem isIncluded_eq_false_iff :
    isIncluded scope directives = .ok false ↔ Excluded scope directives := by
  refine ⟨fun h => ?_, isIncluded_of_excluded⟩
  rcases kept_or scope directives with hkept | hout | ⟨e, hmisread⟩
  · cases h.symm.trans (isIncluded_of_kept hkept)
  · exact hout
  · cases h.symm.trans (isIncluded_of_misread hmisread)

theorem isIncluded_eq_error_iff {e : ResolveError} :
    isIncluded scope directives = .error e ↔ Misread scope directives e := by
  refine ⟨fun h => ?_, isIncluded_of_misread⟩
  rcases kept_or scope directives with hkept | hout | ⟨e', hmisread⟩
  · cases h.symm.trans (isIncluded_of_kept hkept)
  · cases h.symm.trans (isIncluded_of_excluded hout)
  · cases h.symm.trans (isIncluded_of_misread hmisread)
    exact hmisread

end Document
end SelectionSql
