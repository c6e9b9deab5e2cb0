import Rulebook.Logged

/-!
# Reconciling units

Terms and the two sides of a comparison are brought to one unit before they
meet: that of the left operand or, if it has none, that of the right one. If
that fails, both operands stay as they are, with a warning.

* `reconcile?_of_unit`: in the same unit they are as they stand, and without one.
* `exists_unit_of_reconcile?_eq_error`: only a unit on the left stands in the way.
* `Reconciled.unit_eq`: quantities that are reconciled share their unit.
* `reconcile_of_error`: operands that are not stay as they are, with one warning.
* `sameButAmount_reconcile`: reconciling changes amounts only.
-/

namespace Rulebook

namespace Quantity

/-- Both quantities in one unit. -/
def reconcile? (left right : Quantity) : Except Measure.Error (Quantity × Quantity) :=
  match left.unit, right.unit with
  | some target, _ =>
    match right.convert target with
    | .ok converted => .ok (left, converted)
    | .error e => .error e
  | none, some target =>
    match left.convert target with
    | .ok converted => .ok (converted, right)
    | .error e => .error e
  | none, none => .ok (left, right)

theorem unit_of_convert {q converted : Quantity} {target : Measure}
    (h : q.convert target = .ok converted) : converted.unit = some target := by
  unfold convert at h
  split at h <;> cases h
  rfl

/-- Quantities in the same unit are in one unit as they are, and so are two if one has no unit. -/
theorem reconcile?_of_unit {u w : Option Measure} (h : u = none ∨ w = none ∨ u = w)
    (o o' : Outcome) : reconcile? ⟨o, u⟩ ⟨o', w⟩ = .ok (⟨o, u.or w⟩, ⟨o', u.or w⟩) := by
  cases u with
  | none => cases w <;> rfl
  | some target =>
    have hconvert : o'.convert w target = .ok o' := by
      rcases h with h | rfl | rfl
      · cases h
      · exact Outcome.convert_of_normal_eq_none rfl target
      · exact o'.convert_self target
    simp only [reconcile?, convert, hconvert, Option.some_or]

/-- How two quantities come to be in one unit: the right one is converted to the unit of the left
one, or else the left one to that of the right one. -/
inductive Reconciled (left right : Quantity) : Quantity → Quantity → Prop
  | toLeft {target : Measure} {converted : Quantity} : left.unit = some target →
    right.convert target = .ok converted → Reconciled left right left converted
  | toRight {target : Measure} {converted : Quantity} : left.unit = none →
    right.unit = some target → left.convert target = .ok converted →
    Reconciled left right converted right
  | unitless : left.unit = none → right.unit = none → Reconciled left right left right

variable {left right l r : Quantity}

theorem reconciled_of_reconcile? (h : left.reconcile? right = .ok (l, r)) :
    Reconciled left right l r := by
  unfold reconcile? at h
  split at h
  · split at h <;> cases h
    exact .toLeft ‹_› ‹_›
  · split at h <;> cases h
    exact .toRight ‹_› ‹_› ‹_›
  · cases h
    exact .unitless ‹_› ‹_›

/-- Only a unit on the left stands in the way: an operand without unit takes any other one. -/
theorem exists_unit_of_reconcile?_eq_error {e : Measure.Error}
    (h : left.reconcile? right = .error e) : ∃ target, left.unit = some target := by
  unfold reconcile? at h
  split at h
  · exact ⟨_, ‹_›⟩
  · rename_i target hleft _
    have hconvert : left.convert target = .ok ⟨left.outcome, some target⟩ := by
      rw [convert, hleft, Outcome.convert_of_normal_eq_none rfl]
    rw [hconvert] at h
    cases h
  · cases h

/-- Quantities that are reconciled share their unit. -/
theorem Reconciled.unit_eq (h : Reconciled left right l r) : l.unit = r.unit := by
  cases h with
  | toLeft hleft hconvert => rw [hleft, unit_of_convert hconvert]
  | toRight _ hright hconvert => rw [hright, unit_of_convert hconvert]
  | unitless hleft hright => rw [hleft, hright]

/-- The first unit of two quantities is that of the left one, if it has one, and stays so. -/
theorem Reconciled.or_unit (h : Reconciled left right l r) :
    l.unit.or r.unit = left.unit.or right.unit := by
  cases h with
  | toLeft hleft _ => rw [hleft, Option.some_or, Option.some_or]
  | toRight hleft hright hconvert =>
    rw [unit_of_convert hconvert, hleft, hright, Option.some_or, Option.none_or]
  | unitless _ _ => rfl

/-- Reconciling changes amounts only. -/
theorem Reconciled.sameButAmount (h : Reconciled left right l r) :
    left.outcome.SameButAmount l.outcome ∧ right.outcome.SameButAmount r.outcome := by
  cases h with
  | toLeft _ hconvert => exact ⟨.refl _, sameButAmount_of_convert hconvert⟩
  | toRight _ _ hconvert => exact ⟨sameButAmount_of_convert hconvert, .refl _⟩
  | unitless _ _ => exact ⟨.refl _, .refl _⟩

end Quantity

namespace Operator

/-- Both operands in one unit, or as they are if there is none. Factors and divisors keep their
units. -/
def reconcile (op : Operator) (left right : Quantity) : Logged (Quantity × Quantity) :=
  if op.isMultiplicative then pure (left, right)
  else
    match left.reconcile? right with
    | .ok operands => pure operands
    | .error e => do
      Logged.warn (.unreconciled op left.unit right.unit e)
      pure (left, right)

theorem reconcile_of_ok {op : Operator} {left right l r : Quantity}
    (hop : op.isMultiplicative = false) (h : left.reconcile? right = .ok (l, r)) :
    op.reconcile left right = pure (l, r) := by
  rw [reconcile, hop, h]
  rfl

/-- Operands that are not reconciled stay as they are, with one warning. -/
theorem reconcile_of_error {op : Operator} {left right : Quantity} {e : Measure.Error}
    (hop : op.isMultiplicative = false) (h : left.reconcile? right = .error e) :
    op.reconcile left right =
      ⟨(left, right), [.warned (.unreconciled op left.unit right.unit e)]⟩ := by
  rw [reconcile, hop, h]
  rfl

/-- Reconciling changes amounts only, whether or not it succeeds. -/
theorem sameButAmount_reconcile (op : Operator) (left right : Quantity) :
    left.outcome.SameButAmount (op.reconcile left right).result.1.outcome ∧
      right.outcome.SameButAmount (op.reconcile left right).result.2.outcome := by
  unfold reconcile
  split
  · exact ⟨.refl _, .refl _⟩
  · split
    · exact (Quantity.reconciled_of_reconcile? ‹_›).sameButAmount
    · exact ⟨.refl _, .refl _⟩

end Operator

end Rulebook
