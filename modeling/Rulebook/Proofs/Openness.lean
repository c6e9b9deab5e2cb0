import Rulebook.Operation.Calculation

/-!
# Open operations

An operation is indeterminate just if an operand is that it could not do
without: neither the units nor a failure on the way leave an outcome open, and
nothing closes one.

* `outcome_calculate_eq_indeterminate_iff`: a calculation is open just if an operand is.
* `ne_indeterminate_of_decidedByLeft?`, `ne_indeterminate_of_decidedByRight?`: an operand that
  decides is not open, nor is what it decides.
-/

namespace Rulebook.Operator

/-! ## Operands that decide -/

/-- A left operand that decides is not open, nor is what it decides. -/
theorem ne_indeterminate_of_decidedByLeft? {op : Operator} {left o : Outcome}
    (h : op.decidedByLeft? left = some o) : left ≠ .indeterminate ∧ o ≠ .indeterminate := by
  have hleft : left ≠ .indeterminate := by
    rintro rfl
    rw [decidedByLeft?_indeterminate] at h
    cases h
  refine ⟨hleft, ?_⟩
  unfold decidedByLeft? at h
  split at h <;> simp only [Option.ite_none_right_eq_some, Option.some.injEq, reduceCtorEq] at h
  all_goals obtain ⟨-, rfl⟩ := h
  all_goals first | exact hleft | nofun

/-- An operand that decides an operation from the right decides it from the left as well. -/
theorem decidedByLeft?_of_decidedByRight? {op : Operator} {operand o : Outcome}
    (h : op.decidedByRight? operand = some o) : op.decidedByLeft? operand = some o := by
  unfold decidedByRight? at h
  split at h
  · exact h
  · -- A dividend decides by being zero as well.
    rw [Option.ite_none_right_eq_some, Outcome.isInapplicable, beq_iff_eq] at h
    obtain ⟨rfl, ho⟩ := h
    exact ho
  · exact h
  · exact h
  · exact h
  · exact h
  · cases h

/-- A right operand that decides is not open, nor is what it decides. -/
theorem ne_indeterminate_of_decidedByRight? {op : Operator} {right o : Outcome}
    (h : op.decidedByRight? right = some o) : right ≠ .indeterminate ∧ o ≠ .indeterminate :=
  ne_indeterminate_of_decidedByLeft? (decidedByLeft?_of_decidedByRight? h)

/-! ## Combined outcomes -/

theorem applyOrWarn_ne_indeterminate {op : Operator} {left right : Outcome}
    (hleft : left ≠ .indeterminate) (hright : right ≠ .indeterminate) :
    (op.applyOrWarn left right).result ≠ .indeterminate := by
  cases h : op.apply left right with
  | ok o =>
    rw [applyOrWarn_of_ok h]
    rintro rfl
    exact ((apply_eq_indeterminate_iff op left right).1 h).2.elim hleft hright
  | error e =>
    rw [applyOrWarn_of_error h]
    nofun

theorem combine_ne_indeterminate {op : Operator} {left right : Outcome}
    (hleft : left ≠ .indeterminate) (hright : right ≠ .indeterminate) :
    (op.combine left right).result ≠ .indeterminate := by
  unfold combine
  split
  · nofun
  · split
    · split
      · exact applyOrWarn_ne_indeterminate nofun nofun
      · exact applyOrWarn_ne_indeterminate hleft hright
    · exact applyOrWarn_ne_indeterminate hleft hright

/-- Operands come to an open outcome together just if one of them is open. -/
theorem combineKnown_eq_indeterminate_iff (op : Operator) {left right : Outcome} :
    (op.combineKnown left right).result = .indeterminate ↔
      left = .indeterminate ∨ right = .indeterminate := by
  by_cases h : left = .indeterminate ∨ right = .indeterminate
  · rw [combineKnown, if_pos (by simpa [Outcome.isIndeterminate] using h)]
    exact iff_of_true rfl h
  · have hne := not_or.1 h
    rw [combineKnown_of_ne hne.1 hne.2]
    exact iff_of_false (combine_ne_indeterminate hne.1 hne.2) h

/-! ## Units -/

theorem eq_indeterminate_iff_of_sameButAmount {o o' : Outcome} (h : o.SameButAmount o') :
    o' = .indeterminate ↔ o = .indeterminate := by
  cases h with
  | refl o => rfl
  | amounts m n => simp [Outcome.number]

/-- Reconciliation neither opens nor closes an operand. -/
theorem outcome_reconcile_eq_indeterminate_iff (op : Operator) (left right : Quantity) :
    ((op.reconcile left right).result.1.outcome = .indeterminate ↔
        left.outcome = .indeterminate) ∧
      ((op.reconcile left right).result.2.outcome = .indeterminate ↔
        right.outcome = .indeterminate) :=
  (op.sameButAmount_reconcile left right).imp eq_indeterminate_iff_of_sameButAmount
    eq_indeterminate_iff_of_sameButAmount

theorem share_eq_indeterminate_iff {o : Outcome} :
    o.share = .indeterminate ↔ o = .indeterminate := by
  unfold Outcome.share
  split
  · exact iff_of_false nofun nofun
  · rfl

/-- The unit of a result leaves its outcome as open as it is. -/
theorem outcome_withUnit_eq_indeterminate_iff {op : Operator} {o : Outcome}
    {left right : Option Measure} :
    (op.withUnit o left right).outcome = .indeterminate ↔ o = .indeterminate := by
  unfold withUnit
  split
  · split
    · exact share_eq_indeterminate_iff
    · rfl
  · rfl

/-! ## Calculations -/

/-- An adjustment is open just if an operand is. -/
theorem outcome_adjust_eq_indeterminate_iff {op : Operator} {adjustment : Decimal.Adjustment}
    {left right : Quantity} :
    (op.adjust adjustment left right).result.outcome = .indeterminate ↔
      left.outcome = .indeterminate ∨ right.outcome = .indeterminate := by
  rw [← combineKnown_eq_indeterminate_iff op]
  simp only [adjust, Logged.result_bind]
  split
  · rename_i hplain _ _
    rw [hplain]
    split <;> refine iff_of_false ?_ ?_ <;> intro h <;> cases h
  · rfl

/-- A calculation is open just if an operand is. -/
theorem outcome_calculate_eq_indeterminate_iff (op : Operator) (left right : Quantity) :
    (op.calculate left right).result.outcome = .indeterminate ↔
      left.outcome = .indeterminate ∨ right.outcome = .indeterminate := by
  cases h : op.adjustment? left right with
  | some adjustment =>
    rw [calculate, h]
    exact outcome_adjust_eq_indeterminate_iff
  | none =>
    have hunits := outcome_reconcile_eq_indeterminate_iff op left right
    rw [calculate_of_adjustment?_eq_none h, ← hunits.1, ← hunits.2,
      ← combineKnown_eq_indeterminate_iff op]
    exact outcome_withUnit_eq_indeterminate_iff

end Rulebook.Operator
