import Rulebook.Proofs.Openness
import Rulebook.Proofs.Relevance

/-!
# Operands that come to be known

While the left operand of an operation is open, only the right one can decide
it. Once the left operand is known it is looked at first. It decides the same,
or nothing, except in products and quotients: zero and what does not apply
settle these from the left whatever stands on the right.

* `decidedByRight?_of_open`: what is known while the left operand is open is decided by the right one.
* `outcome_once_known`: what the operation comes to once the left operand is known.
* `not_outcome_once_known`: a product that comes to something else then.
-/

namespace Rulebook

namespace Expr

variable {resolve resolve' : String → Logged Node} {op : Operator} {symbol : String}
  {left right right' : Expr}

/-- What an operation comes to while its left operand is open is what the right one decides. -/
theorem decidedByRight?_of_open
    (hopen : (left.evaluate resolve).result.outcome = .indeterminate)
    (hknown : ((operation op symbol left right).evaluate resolve).result.outcome ≠
      .indeterminate) :
    op.decidedByRight? (right.evaluate resolve).result.outcome =
      some ((operation op symbol left right).evaluate resolve).result.outcome := by
  have hcalculate : (op.calculate (left.evaluate resolve).result.quantity
      (right.evaluate resolve).result.quantity).result.outcome = .indeterminate :=
    (op.outcome_calculate_eq_indeterminate_iff _ _).2 (.inl hopen)
  rw [outcome_evaluate_operation, hopen, Operator.decidedByLeft?_indeterminate, Option.none_or,
    hcalculate] at hknown ⊢
  cases hright : op.decidedByRight? (right.evaluate resolve).result.outcome with
  | some o => rfl
  | none =>
    rw [hright] at hknown
    exact absurd rfl hknown

/-- An operation that is known while its left operand is open comes to the same once that operand is
known, with the same outcome on the right. Only products and quotients come to their left operand
then, if it is zero or does not apply. -/
theorem outcome_once_known
    (hopen : (left.evaluate resolve).result.outcome = .indeterminate)
    (hknown : ((operation op symbol left right).evaluate resolve).result.outcome ≠ .indeterminate)
    (hright : (right'.evaluate resolve').result.outcome = (right.evaluate resolve).result.outcome)
    (symbol' : String) (left' : Expr) :
    let l := (left'.evaluate resolve').result.outcome
    ((operation op symbol' left' right').evaluate resolve').result.outcome =
      if op.isMultiplicative ∧ (l = .inapplicable ∨ l = .number .zero) then l
      else ((operation op symbol left right).evaluate resolve).result.outcome := by
  intro l
  have hdecided := decidedByRight?_of_open hopen hknown
  rw [outcome_evaluate_operation, hright, hdecided]
  cases hop : op.isMultiplicative with
  | true =>
    rw [Operator.decidedByLeft?_of_isMultiplicative hop]
    by_cases hl : l = .inapplicable ∨ l = .number .zero
    · rw [if_pos hl, if_pos ⟨rfl, hl⟩]
      rfl
    · rw [if_neg hl, if_neg (hl ·.2)]
      rfl
  | false =>
    rw [if_neg (by simp)]
    rcases Operator.eq_none_or_eq_of_decidedByRight? hop hdecided l with hl | hl
    · rw [hl]
      rfl
    · rw [hl]
      rfl

/-- No bonus for each child is no bonus, however many children there turn out to be. -/
theorem outcome_once_known_no_bonus :
    let q : Questionnaire := { rules := Rules.ofList [("children", .question)] }
    let before := q.resolve 1
    let after := (q.withAnswer "children" (.number (.ofParts 3 0))).resolve 1
    let bonus : Expr := operation .mul "×" (reference "children") (number .zero)
    ((reference "children").evaluate before).result.outcome = .indeterminate ∧
      (bonus.evaluate before).result.outcome = .number .zero ∧
      (bonus.evaluate after).result.outcome = .number .zero := by
  intro q before after bonus
  have hopen : ((reference "children").evaluate before).result.outcome = .indeterminate := by
    decide +kernel
  have hzero : (bonus.evaluate before).result.outcome = .number .zero := by decide +kernel
  have hknown : (bonus.evaluate before).result.outcome ≠ .indeterminate := by
    rw [hzero]
    nofun
  have hleft : ¬ (((reference "children").evaluate after).result.outcome = .inapplicable ∨
      ((reference "children").evaluate after).result.outcome = .number .zero) := by decide +kernel
  have hright : ((number .zero).evaluate after).result.outcome =
      ((number .zero).evaluate before).result.outcome := rfl
  have hsame := outcome_once_known hopen hknown hright "×" (reference "children")
  refine ⟨hopen, hzero, hsame.trans ?_⟩
  rw [if_neg fun h => hleft h.2]
  exact hzero

/-- A bonus that does not apply is overruled if there turn out to be no children: the product with an
open number of children does not apply, and that with none is zero. -/
theorem not_outcome_once_known :
    let q : Questionnaire := { rules := Rules.ofList [("children", .question)] }
    let q' := q.withAnswer "children" (.number .zero)
    let bonus : Expr := binary .mul (reference "children") inapplicable
    (q.evaluate (reference "children")).result.outcome = .indeterminate ∧
      (q.evaluate bonus).result.outcome = .inapplicable ∧
      (q'.evaluate bonus).result.outcome = .number .zero ∧
      (q'.evaluate bonus).result.outcome ≠ (q.evaluate bonus).result.outcome := by
  decide +kernel

end Expr

end Rulebook
