import Rulebook.Proofs.Adjustments
import Rulebook.Proofs.Reports

/-!
# Operands without a common unit

Terms and values that cannot be brought to one unit are combined as if they had
none, after one warning: all else is as it would be without units, also where it
is still open, impossible dates are compared or the operator does not apply.
Only the result of a sum or a difference is still in the unit on the left.

* `Operator.calculate_unitless`: quantities without units are combined.
* `calculatedAs_unitless`, `calculatedAs_unreconciled`: the two operations.
* `calculatedAs_reconciled`: operands that are brought to one unit give no such
  warning.
* `unreconciled_as_unitless`: what the two operations have in common.
-/

namespace Rulebook

/-- The result without its unit. -/
def Result.unitless (r : Result) : Result :=
  ⟨⟨r.outcome, none⟩, r.missing⟩

namespace Operator

variable {op : Operator}

/-- Only the reconciling of operands reports that they have no common unit. -/
theorem unreconciled_notMem_combineKnown (left right : Outcome) (op' : Operator)
    (u v : Option Measure) (cause : Measure.Error) :
    .warned (.unreconciled op' u v cause) ∉ (op.combineKnown left right).events := by
  intro h
  rcases cases_of_mem_events_combineKnown h with ⟨_, h⟩ | ⟨_, h⟩ <;> cases h

/-- Quantities without units are combined as they are. -/
theorem calculate_unitless (hop : op.isMultiplicative = false) (o o' : Outcome) :
    op.calculate ⟨o, none⟩ ⟨o', none⟩ =
      (do
        let result ← op.combineKnown o o'
        pure ⟨result, none⟩) := by
  have hunit : op.unit? none none = none := by
    rw [unit?_of_isMultiplicative_eq_false hop]
    exact ite_self none
  rw [calculate_of_reconcile? hop rfl rfl]
  simp only [hunit]

end Operator

namespace Expr

variable {op : Operator} {resolve resolve' : String → Logged Node}
  {left right left' right' : Expr} {l r : Result}

section

variable (hop : op.isMultiplicative = false) (hl : op.decidedByLeft? l.outcome = none)
  (hr : op.decidedByRight? r.outcome = none)

include hop hl hr

theorem calculatedAs_unitless (hleft : (left.evaluate resolve).result.result = l.unitless)
    (hright : (right.evaluate resolve).result.result = r.unitless) (symbol : String) :
    CalculatedAs resolve op symbol left right (op.combineKnown l.outcome r.outcome) :=
  (calculatedAs_of_calculate (congrArg Result.toQuantity hleft) (congrArg Result.toQuantity hright)
    hl hr (Operator.calculate_unitless hop l.outcome r.outcome) symbol).2

variable (hleft : (left.evaluate resolve).result.result = l)
  (hright : (right.evaluate resolve).result.result = r)
  (hadjustment : op.adjustment? l.toQuantity r.toQuantity = none)

include hleft hright hadjustment

/-- Operands without a common unit are combined as they are, after a warning. -/
theorem calculatedAs_unreconciled {e : Measure.Error}
    (h : l.toQuantity.reconcile? r.toQuantity = .error e) (symbol : String) :
    ((operation op symbol left right).evaluate resolve).result.quantity.unit =
        (if op.isAdditive then Measure.normal l.unit else none) ∧
      CalculatedAs resolve op symbol left right
        ⟨(op.combineKnown l.outcome r.outcome).result,
          .warned (.unreconciled op l.unit r.unit e) ::
            (op.combineKnown l.outcome r.outcome).events⟩ := by
  obtain ⟨hunit, hcalculated⟩ := calculatedAs_of_calculate (congrArg Result.toQuantity hleft)
    (congrArg Result.toQuantity hright) hl hr
    (Operator.calculate_of_reconcile?_eq_error hop hadjustment h) symbol
  refine ⟨?_, hcalculated⟩
  obtain ⟨target, htarget⟩ := Quantity.exists_unit_of_reconcile?_eq_error h
  rw [hunit, Operator.unit?_of_isMultiplicative_eq_false hop, htarget, Option.some_or]
  cases op.isAdditive with
  | true => exact Measure.normal_normal _
  | false => rfl

/-- Operands in one unit now are combined, and nothing else is reported. -/
theorem calculatedAs_reconciled {c c' : Quantity}
    (h : l.toQuantity.reconcile? r.toQuantity = .ok (c, c')) (symbol : String) :
    CalculatedAs resolve op symbol left right (op.combineKnown c.outcome c'.outcome) :=
  (calculatedAs_of_calculate (congrArg Result.toQuantity hleft) (congrArg Result.toQuantity hright)
    hl hr (Operator.calculate_of_reconcile? hop hadjustment h) symbol).2

end

/-- An operation that is no product or quotient, that no operand decides and that adjusts by no
percentage. If its operands cannot be brought to one unit, it comes to the outcome of the same
operation on the operands without units and waits for the same answers. It is in the unit of its
left operand if it is a sum or a difference, and in none otherwise, and it reports that its operands
have no common unit and then what the other operation reports. If its operands can be brought to one
unit, they share it, and it reports nothing of the kind. -/
theorem unreconciled_as_unitless (hop : op.isMultiplicative = false)
    (hleft : (left.evaluate resolve).result.result = l)
    (hright : (right.evaluate resolve).result.result = r)
    (hleft' : (left'.evaluate resolve').result.result = l.unitless)
    (hright' : (right'.evaluate resolve').result.result = r.unitless)
    (hl : op.decidedByLeft? l.outcome = none) (hr : op.decidedByRight? r.outcome = none)
    (hadjustment : op.adjustment? l.toQuantity r.toQuantity = none) (symbol symbol' : String) :
    let n := ((operation op symbol left right).evaluate resolve).result
    let n' := ((operation op symbol' left' right').evaluate resolve').result
    (∀ e, l.toQuantity.reconcile? r.toQuantity = .error e →
        n.outcome = n'.outcome ∧ n.missing = n'.missing ∧
          n.quantity.unit = (if op.isAdditive then Measure.normal l.unit else none) ∧
          ∃ o, CalculatedAs resolve' op symbol' left' right' o ∧
            CalculatedAs resolve op symbol left right
              ⟨o.result, .warned (.unreconciled op l.unit r.unit e) :: o.events⟩) ∧
      ∀ c c', l.toQuantity.reconcile? r.toQuantity = .ok (c, c') →
        c.unit = c'.unit ∧
          CalculatedAs resolve op symbol left right (op.combineKnown c.outcome c'.outcome) ∧
          ∀ op' u v e,
            .warned (.unreconciled op' u v e) ∉ (op.combineKnown c.outcome c'.outcome).events := by
  intro n n'
  have hunitless := calculatedAs_unitless hop hl hr hleft' hright' symbol'
  refine ⟨fun e he => ?_, fun c c' hc => ?_⟩
  · obtain ⟨hunit, hcalculated⟩ :=
      calculatedAs_unreconciled hop hl hr hleft hright hadjustment he symbol
    have hmissing : n.missing = .mergeAll [l.missing, r.missing] :=
      missing_evaluate_operation hleft hright hl hr symbol
    have hmissing' : n'.missing = .mergeAll [l.missing, r.missing] :=
      missing_evaluate_operation hleft' hright' hl hr symbol'
    refine ⟨?_, hmissing.trans hmissing'.symm, hunit, _, hunitless, hcalculated⟩
    exact hcalculated.outcome.trans hunitless.outcome.symm
  · refine ⟨(Quantity.reconciled_of_reconcile? hc).unit_eq, ?_,
      Operator.unreconciled_notMem_combineKnown _ _⟩
    exact calculatedAs_reconciled hop hl hr hleft hright hadjustment hc symbol

/-- A word in kilograms is not added to three metres, in metres: that the units differ comes before
what is reported of a word that is added to three. -/
theorem unreconciled_as_unitless_word :
    let resolve (name : String) : Logged Node := pure (.leaf (.unknown name) (.waiting name none))
    let three : Outcome := .number (.ofParts 3 0)
    let word : Outcome := .value (.text "four")
    let l : Result := .complete ⟨three, some (.atom "m")⟩
    let r : Result := .complete ⟨word, some (.atom "kg")⟩
    let e : Expr := .binary .add (constant l.toQuantity) (constant r.toQuantity)
    let e' : Expr := .binary .add (constant ⟨three, none⟩) (constant ⟨word, none⟩)
    Operator.add.isMultiplicative = false ∧
      (((constant l.toQuantity).evaluate resolve).result.result = l ∧
        ((constant r.toQuantity).evaluate resolve).result.result = r) ∧
      (((constant ⟨three, none⟩).evaluate resolve).result.result = l.unitless ∧
        ((constant ⟨word, none⟩).evaluate resolve).result.result = r.unitless) ∧
      (Operator.add.decidedByLeft? l.outcome = none ∧
        Operator.add.decidedByRight? r.outcome = none) ∧
      Operator.add.adjustment? l.toQuantity r.toQuantity = none ∧
      (e'.evaluate resolve).warnings = [.notApplicable .add (.mismatch .add .number .text)] ∧
      (e.evaluate resolve).result.outcome = (e'.evaluate resolve).result.outcome ∧
      (e.evaluate resolve).result.quantity.unit = some (.atom "m") ∧
      (e.evaluate resolve).warnings =
        [.unreconciled .add (some (.atom "m")) (some (.atom "kg"))
          (.incompatible (.atom "kg") (.atom "m")),
         .notApplicable .add (.mismatch .add .number .text)] := by
  intro resolve three word l r e e'
  have herror : l.toQuantity.reconcile? r.toQuantity =
    .error (.incompatible (.atom "kg") (.atom "m")) := rfl
  have hleft : ((constant l.toQuantity).evaluate resolve).result.result = l := rfl
  have hright : ((constant r.toQuantity).evaluate resolve).result.result = r := rfl
  have hleft' : ((constant ⟨three, none⟩).evaluate resolve).result.result = l.unitless := rfl
  have hright' : ((constant ⟨word, none⟩).evaluate resolve).result.result = r.unitless := rfl
  have hwarnings : (e'.evaluate resolve).warnings =
    [.notApplicable .add (.mismatch .add .number .text)] := by decide +kernel
  obtain ⟨hunreconciled, -⟩ :=
    unreconciled_as_unitless (rfl : Operator.add.isMultiplicative = false) hleft hright hleft'
      hright' rfl rfl rfl "+" "+"
  obtain ⟨houtcome, -, hunit, o, hunitless, hcalculated⟩ := hunreconciled _ herror
  have hlog : (e.evaluate resolve).events =
      .warned (.unreconciled .add l.unit r.unit (.incompatible (.atom "kg") (.atom "m"))) ::
        (e'.evaluate resolve).events :=
    hcalculated.events.trans (congrArg (_ :: ·) hunitless.events.symm)
  refine ⟨rfl, ⟨hleft, hright⟩, ⟨hleft', hright'⟩, ⟨rfl, rfl⟩, rfl, hwarnings, houtcome, hunit, ?_⟩
  rw [Logged.warnings, hlog]
  exact congrArg (_ :: ·) hwarnings

end Expr

end Rulebook
