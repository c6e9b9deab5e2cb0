import Rulebook.Node
import Rulebook.Operation.Combination
import Rulebook.Operation.Reconciliation
import Rulebook.Operation.Shortcut

/-!
# Calculations

An operation that no operand decides alone is calculated: the units are
reconciled, the outcomes combined, and the result gets its unit. Percentages are
relative. A percentage added to anything else raises it by that share, and a
percentage times an amount is that share of it.

* `ofOperands_of_decidedByRight?`, `ofOperands_of_undecided`: the right operand
  decides, or the operation is calculated.
* `adjustment?_eq_some_iff`: only sums and differences adjust an operand.
* `calculate_of_adjustment?_eq_none`: what is not an adjustment is reconciled
  and combined.
* `calculate_of_reconcile?`, `calculate_of_reconcile?_eq_error`: it is combined in
  one unit, or as it is.
* `outcome_calculate_of_isArithmetic_eq_false`: only arithmetic looks at units
  after that.
* `outcome_calculate_of_number?_eq_none`: units do not matter to what is no number.
* `unit_adjust`: an adjusted operand keeps its unit.
-/

namespace Rulebook

/-! ## Shares -/

/-- An operand of an adjustment as a number, zero standing for one that does not apply. -/
def Outcome.amount? : Outcome → Option Decimal
  | .inapplicable => some .zero
  | o => o.number?

/-- A number of percent as a ratio; other outcomes have none. -/
def Outcome.share : Outcome → Outcome
  | .value (.number n) => .number n.percent
  | o => o

namespace Decimal.Adjustment

/-- What a number and its share are joined by. -/
def arithmetic : Adjustment → Arithmetic
  | raise => .add
  | lower => .sub

/-- The operator that adjusts its left operand by a percentage on the right. -/
def operator (adjustment : Adjustment) : Operator :=
  .arithmetic adjustment.arithmetic

end Decimal.Adjustment

namespace Operator

/-- How the left operand is adjusted by a right one that is a percentage, if it is not one too. -/
def adjustment? (op : Operator) (left right : Quantity) : Option Decimal.Adjustment :=
  if right.isPercent && !left.isPercent then
    match op with
    | add => some .raise
    | sub => some .lower
    | _ => none
  else none

/-- The left operand, adjusted by the percentage on the right. An operator that does not apply to
the operands as they are does not adjust them. -/
def adjust (op : Operator) (adjustment : Decimal.Adjustment) (left right : Quantity) :
    Logged Quantity := do
  let plain ← op.combineKnown left.outcome right.outcome
  match plain, left.outcome.amount?, right.outcome.amount? with
  | .value _, some base, some rate =>
    match base.adjust? adjustment rate with
    | some adjusted => pure ⟨.number adjusted, left.unit⟩
    | none => do
      Logged.warn (.notApplicable op (.overflow op))
      pure ⟨.inapplicable, left.unit⟩
  | o, _, _ => pure ⟨o, left.unit⟩

/-- The outcome with the unit that the operator gives it. A product with a percentage is a share,
and one `%` is gone from its unit. -/
def withUnit (op : Operator) (o : Outcome) (left right : Option Measure) : Quantity :=
  match op, op.unit? left right with
  | mul, some u =>
    if u.hasPercent then ⟨o.share, (u.multiply Measure.percent.inverse).nonEmpty?⟩
    else ⟨o, some u⟩
  | _, u => ⟨o, u⟩

/-! ## Operations -/

/-- The result of an operator on two quantities that do not decide it alone. -/
def calculate (op : Operator) (left right : Quantity) : Logged Quantity :=
  match op.adjustment? left right with
  | some adjustment => op.adjust adjustment left right
  | none => do
    let (l, r) ← op.reconcile left right
    let o ← op.combineKnown l.outcome r.outcome
    pure (op.withUnit o l.unit r.unit)

end Operator

/-- The result of an operation that one operand decides: it waits only for what that operand waits
for. -/
def Result.decided (o : Outcome) (operand : Node) : Result :=
  ⟨⟨o, none⟩, operand.missing⟩

/-- The result of an operation on two operands, from its quantity: it waits for what either operand
waits for. -/
def Result.calculated (q : Quantity) (left right : Node) : Result :=
  ⟨q.normal, .mergeAll [left.missing, right.missing]⟩

namespace Operator

/-- The node of an operation whose left operand does not decide it. -/
def ofOperands (op : Operator) (symbol : String) (left right : Node) : Logged Node :=
  match op.decidedByRight? right.outcome with
  | some o => pure (.operation op symbol (.decided o right) left right)
  | none => do
    let q ← op.calculate left.quantity right.quantity
    pure (.operation op symbol (.calculated q left right) left right)

/-- The right operand decides the operation. -/
theorem ofOperands_of_decidedByRight? {op : Operator} {right : Node} {o : Outcome}
    (h : op.decidedByRight? right.outcome = some o) (symbol : String) (left : Node) :
    op.ofOperands symbol left right =
      pure (.operation op symbol (.decided o right) left right) := by
  rw [ofOperands, h]

/-- No operand decides the operation. -/
theorem ofOperands_of_undecided {op : Operator} {right : Node}
    (h : op.decidedByRight? right.outcome = none) (symbol : String) (left : Node) :
    op.ofOperands symbol left right =
      (do
        let q ← op.calculate left.quantity right.quantity
        pure (.operation op symbol (.calculated q left right) left right)) := by
  rw [ofOperands, h]

/-- Only a sum and a difference adjust, by a percentage on the right, an operand that is none. -/
theorem adjustment?_eq_some_iff {op : Operator} {left right : Quantity}
    {adjustment : Decimal.Adjustment} :
    op.adjustment? left right = some adjustment ↔
      op = adjustment.operator ∧ left.isPercent = false ∧ right.isPercent = true := by
  constructor
  · intro h
    obtain ⟨hpercents, h⟩ := Option.ite_none_right_eq_some.1 h
    obtain ⟨hright, hleft⟩ := Bool.and_eq_true_iff.1 hpercents
    refine ⟨?_, Bool.not_eq_true' _ ▸ hleft, hright⟩
    split at h <;> cases h <;> rfl
  · rintro ⟨rfl, hleft, hright⟩
    unfold adjustment?
    rw [hleft, hright]
    cases adjustment <;> rfl

theorem adjustment?_of_isAdditive_eq_false {op : Operator} (hop : op.isAdditive = false)
    (left right : Quantity) : op.adjustment? left right = none := by
  refine Option.eq_none_iff_forall_ne_some.2 fun adjustment h => ?_
  obtain ⟨rfl, -⟩ := adjustment?_eq_some_iff.1 h
  cases adjustment <;> cases hop

/-- What is not an adjustment is reconciled and combined. -/
theorem calculate_of_adjustment?_eq_none {op : Operator} {left right : Quantity}
    (h : op.adjustment? left right = none) :
    op.calculate left right =
      (do
        let (l, r) ← op.reconcile left right
        let o ← op.combineKnown l.outcome r.outcome
        pure (op.withUnit o l.unit r.unit)) := by
  rw [calculate, h]

theorem withUnit_of_isMultiplicative_eq_false {op : Operator} (hop : op.isMultiplicative = false)
    (o : Outcome) (left right : Option Measure) :
    op.withUnit o left right = ⟨o, op.unit? left right⟩ := by
  rcases op with a | c | e | c
  · cases a with
    | mul => cases hop
    | div => cases hop
    | add => rfl
    | sub => rfl
  · rfl
  · rfl
  · rfl

section Reconciling

variable {op : Operator} {left right l r : Quantity} (hop : op.isMultiplicative = false)
  (hadjustment : op.adjustment? left right = none)

include hop hadjustment

/-- Operands that are in one unit now are combined. -/
theorem calculate_of_reconcile? (h : left.reconcile? right = .ok (l, r)) :
    op.calculate left right =
      (do
        let o ← op.combineKnown l.outcome r.outcome
        pure ⟨o, op.unit? l.unit r.unit⟩) := by
  rw [calculate_of_adjustment?_eq_none hadjustment, reconcile_of_ok hop h, pure_bind]
  simp only [withUnit_of_isMultiplicative_eq_false hop]

/-- Operands that are not are combined as they are, after a warning. -/
theorem calculate_of_reconcile?_eq_error {e : Measure.Error}
    (h : left.reconcile? right = .error e) :
    op.calculate left right =
      (do
        let o ← Logged.warn (.unreconciled op left.unit right.unit e) >>= fun _ =>
          op.combineKnown left.outcome right.outcome
        pure ⟨o, op.unit? left.unit right.unit⟩) := by
  rw [calculate_of_adjustment?_eq_none hadjustment, reconcile_of_error hop h]
  simp only [withUnit_of_isMultiplicative_eq_false hop, bind_assoc]
  rfl

end Reconciling

/-- Only arithmetic looks at units after the operands are reconciled. -/
theorem outcome_calculate_of_isArithmetic_eq_false {op : Operator} (hop : op.isArithmetic = false)
    (left right : Quantity) :
    (op.calculate left right).result.outcome =
      (op.combineKnown (op.reconcile left right).result.1.outcome
        (op.reconcile left right).result.2.outcome).result := by
  have hadjustment :=
    adjustment?_of_isAdditive_eq_false (isAdditive_of_isArithmetic_eq_false hop) left right
  have hwithUnit (o : Outcome) (u v : Option Measure) : (op.withUnit o u v).outcome = o := by
    cases op with
    | arithmetic a => cases hop
    | comparison c => rfl
    | equality e => rfl
    | connective c => rfl
  rw [calculate_of_adjustment?_eq_none hadjustment]
  simp only [Logged.result_bind, Logged.result_pure, hwithUnit]

/-- Outcomes that are no numbers are combined as they are, whatever units they have. -/
theorem outcome_calculate_of_number?_eq_none {op : Operator} (hop : op.isArithmetic = false)
    {left right : Quantity} (hleft : left.outcome.number? = none)
    (hright : right.outcome.number? = none) :
    (op.calculate left right).result.outcome =
      (op.combineKnown left.outcome right.outcome).result := by
  have hsame := op.sameButAmount_reconcile left right
  rw [outcome_calculate_of_isArithmetic_eq_false hop, hsame.1.eq_of_number?_eq_none hleft,
    hsame.2.eq_of_number?_eq_none hright]

/-- A product in a unit with `%` is read as a share. -/
theorem withUnit_mul (o : Outcome) (left right : Option Measure) :
    mul.withUnit o left right =
      match mul.unit? left right with
      | some u =>
        if u.hasPercent then ⟨o.share, (u.multiply Measure.percent.inverse).nonEmpty?⟩
        else ⟨o, some u⟩
      | none => ⟨o, none⟩ := by
  unfold withUnit
  cases mul.unit? left right <;> rfl

/-- An adjusted operand keeps its unit. -/
theorem unit_adjust (op : Operator) (adjustment : Decimal.Adjustment) (left right : Quantity) :
    (op.adjust adjustment left right).result.unit = left.unit := by
  simp only [adjust, Logged.result_bind]
  split
  · split <;> rfl
  · rfl

end Operator

end Rulebook
