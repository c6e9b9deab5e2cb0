import Rulebook.Outcome
import Rulebook.Operator.Basic

/-!
# Operations decided by one operand

Some operands settle an operation whatever the other operand is: zero times
anything is zero, what does not apply is no factor, and a false operand settles
a conjunction. The left operand is looked at before the right one is evaluated.

* `decidedByLeft?_indeterminate`: an indeterminate left operand settles nothing.
* `decidedByLeft?_of_isMultiplicative`, `decidedByRight?_mul`: what settles
  products and quotients.
-/

namespace Rulebook.Operator

/-- The outcome that the left operand alone decides. -/
def decidedByLeft? (op : Operator) (left : Outcome) : Option Outcome :=
  match op with
  | mul => if left.isInapplicable || left.isZero then some left else none
  | div => if left.isInapplicable || left.isZero then some left else none
  | sub => if left.isInapplicable then some .inapplicable else none
  | lte => if left.isInapplicable then some .inapplicable else none
  | gte => if left.isInapplicable then some .inapplicable else none
  | and =>
    if left.isInapplicable || left.boolean? == some false then some (.boolean false) else none
  | or => if left.boolean? == some true then some (.boolean true) else none
  | _ => none

/-- The outcome that the right operand alone decides. A zero divisor is left to the division, and
what does not apply is taken away as zero. -/
def decidedByRight? (op : Operator) (right : Outcome) : Option Outcome :=
  match op with
  | mul => if right.isInapplicable || right.isZero then some right else none
  | div => if right.isInapplicable then some .inapplicable else none
  | lte => if right.isInapplicable then some .inapplicable else none
  | gte => if right.isInapplicable then some .inapplicable else none
  | and =>
    if right.isInapplicable || right.boolean? == some false then some (.boolean false) else none
  | or => if right.boolean? == some true then some (.boolean true) else none
  | _ => none

/-- An indeterminate left operand settles nothing. -/
theorem decidedByLeft?_indeterminate (op : Operator) :
    op.decidedByLeft? .indeterminate = none := by
  unfold decidedByLeft?
  split <;> rfl

theorem isInapplicable_or_isZero_iff (o : Outcome) :
    (o.isInapplicable || o.isZero) = true ↔ o = .inapplicable ∨ o = .number .zero := by
  rw [Bool.or_eq_true, Outcome.isInapplicable, beq_iff_eq, Outcome.isZero_iff]

/-- Factors and dividends decide by being zero and by not applying. -/
theorem decidedByLeft?_of_isMultiplicative {op : Operator} (hop : op.isMultiplicative = true)
    (left : Outcome) :
    op.decidedByLeft? left =
      if left = .inapplicable ∨ left = .number .zero then some left else none := by
  unfold isMultiplicative at hop
  split at hop
  · simp only [decidedByLeft?, isInapplicable_or_isZero_iff]
  · simp only [decidedByLeft?, isInapplicable_or_isZero_iff]
  · cases hop

/-- So do factors on the right. -/
theorem decidedByRight?_mul (right : Outcome) :
    mul.decidedByRight? right =
      if right = .inapplicable ∨ right = .number .zero then some right else none := by
  simp only [decidedByRight?, isInapplicable_or_isZero_iff]

end Rulebook.Operator
