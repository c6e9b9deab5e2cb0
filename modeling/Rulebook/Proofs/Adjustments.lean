import Rulebook.Expr.Evaluate

/-!
# Adjustments by a percentage

A number is raised or lowered by a percentage of itself, in its own unit. The
operator is applied to the two numbers as they stand first, and percentages get
their relative meaning after that. What does not apply then is never made a
number: where the plain sum is out of range, the operator does not apply, even if
the raised number is in range.

* `Operator.adjust_numbers`: the plain sum comes first, and then the adjusted number.
* `calculatedAs_of_calculate`: what an operation is calculated as.
* `calculatedAs_adjusted_iff`: when a number is adjusted, and when the operator does not apply.
* `not_calculatedAs_adjusted_fifty`: a number that is not adjusted, for its plain sum.
-/

namespace Rulebook

variable {adjustment : Decimal.Adjustment} {x p : Decimal}

/-- An operator that does not apply as its result is too large, with one warning. -/
def Operator.overflowed (op : Operator) : Logged Outcome :=
  ⟨.inapplicable, [.warned (.notApplicable op (.overflow op))]⟩

/-- The adjusted number without a warning or, if it is too large, nothing that applies, with one
warning. -/
def Decimal.adjusted (x : Decimal) (adjustment : Adjustment) (rate : Decimal) : Logged Outcome :=
  match x.adjust? adjustment rate with
  | some y => pure (.number y)
  | none => adjustment.operator.overflowed

/-- The same, where the two numbers as they stand have to be in range first. -/
def Decimal.adjustedAfterPlain (x : Decimal) (adjustment : Adjustment) (rate : Decimal) :
    Logged Outcome :=
  if (adjustment.arithmetic.result? x rate).isSome then x.adjusted adjustment rate
  else adjustment.operator.overflowed

/-- The plain sum makes a difference just if it is out of range and the adjusted number is not. -/
theorem Decimal.adjusted_eq_adjustedAfterPlain_iff :
    x.adjusted adjustment p = x.adjustedAfterPlain adjustment p ↔
      (adjustment.arithmetic.result? x p).isSome ∨ x.adjust? adjustment p = none := by
  rw [adjustedAfterPlain, adjusted]
  cases hplain : (adjustment.arithmetic.result? x p).isSome with
  | true => exact iff_of_true rfl (.inl rfl)
  | false =>
    cases x.adjust? adjustment p with
    | none => exact iff_of_true rfl (.inr rfl)
    | some y =>
      refine iff_of_false (fun h => ?_) (by simp)
      cases congrArg Logged.result h

/-- A sum or a difference of two numbers is a number or overflows. -/
theorem Arithmetic.result?_adjustment (adjustment : Decimal.Adjustment) (x p : Decimal) :
    adjustment.arithmetic.result? x p = none ∨
      ∃ y, adjustment.arithmetic.result? x p = some (.number y) := by
  cases adjustment with
  | raise => cases h : x.add? p <;> simp [Decimal.Adjustment.arithmetic, result?, h, Outcome.number]
  | lower => cases h : x.sub? p <;> simp [Decimal.Adjustment.arithmetic, result?, h, Outcome.number]

namespace Operator

/-- No number decides a sum or a difference. -/
theorem undecided_numbers (adjustment : Decimal.Adjustment) (x p : Decimal) :
    adjustment.operator.decidedByLeft? (.number x) = none ∧
      adjustment.operator.decidedByRight? (.number p) = none := by
  cases adjustment <;> exact ⟨rfl, rfl⟩

/-- Two numbers are joined as they stand first. If that does not overflow, the left one is
adjusted. -/
theorem adjust_numbers (adjustment : Decimal.Adjustment) (x p : Decimal) (u v : Option Measure) :
    adjustment.operator.adjust adjustment ⟨.number x, u⟩ ⟨.number p, v⟩ =
      (do
        let o ← x.adjustedAfterPlain adjustment p
        pure ⟨o, u⟩) := by
  rcases Arithmetic.result?_adjustment adjustment x p with hplain | ⟨plain, hplain⟩
  · rw [adjust, Decimal.Adjustment.operator, combineKnown_of_result?_eq_none hplain,
      Decimal.adjustedAfterPlain, hplain]
    rfl
  · have hadjust : adjustment.operator.adjust adjustment ⟨.number x, u⟩ ⟨.number p, v⟩ =
        match x.adjust? adjustment p with
        | some y => pure ⟨.number y, u⟩
        | none => adjustment.operator.overflowed >>= fun o => pure ⟨o, u⟩ := by
      rw [adjust, Decimal.Adjustment.operator, combineKnown_of_result? hplain]
      rfl
    rw [hadjust, Decimal.adjustedAfterPlain, hplain, Decimal.adjusted]
    cases x.adjust? adjustment p <;> rfl

/-- So they are if the right one is a percentage, and the left one is not. -/
theorem calculate_percentage {u : Option Measure} (hu : u ≠ some .percent)
    (adjustment : Decimal.Adjustment) (x p : Decimal) :
    adjustment.operator.calculate ⟨.number x, u⟩ ⟨.number p, some .percent⟩ =
      (do
        let o ← x.adjustedAfterPlain adjustment p
        pure ⟨o, u⟩) := by
  have hleft : Quantity.isPercent ⟨.number x, u⟩ = false := by
    rwa [← Bool.not_eq_true, Quantity.isPercent_iff]
  have hright : Quantity.isPercent ⟨.number p, some .percent⟩ = true :=
    Quantity.isPercent_iff.2 rfl
  rw [calculate, adjustment?_eq_some_iff.2 ⟨rfl, hleft, hright⟩, ← adjust_numbers]

end Operator

namespace Expr

variable {resolve : String → Logged Node} {left right : Expr} {symbol : String} {u : Option Measure}

/-- Whether an operation has the outcome `o`, and adds the warnings of `o` to the log of its
operands. -/
structure CalculatedAs (resolve : String → Logged Node) (op : Operator) (symbol : String)
    (left right : Expr) (o : Logged Outcome) : Prop where
  outcome : ((operation op symbol left right).evaluate resolve).result.outcome = o.result
  events : ((operation op symbol left right).evaluate resolve).events =
    (left.evaluate resolve).events ++ ((right.evaluate resolve).events ++ o.events)

theorem CalculatedAs.eq {op : Operator} {o o' : Logged Outcome}
    (h : CalculatedAs resolve op symbol left right o)
    (h' : CalculatedAs resolve op symbol left right o') : o = o' := by
  have hevents := h.events.symm.trans h'.events
  rw [List.append_cancel_left_eq, List.append_cancel_left_eq] at hevents
  exact Logged.eq_of_result_eq (h.outcome.symm.trans h'.outcome) hevents

/-- An operation that no operand decides has the outcome and the log of its calculation. -/
theorem calculatedAs_of_calculate {op : Operator} {l r : Quantity} {o : Logged Outcome}
    (hleft : (left.evaluate resolve).result.quantity = l)
    (hright : (right.evaluate resolve).result.quantity = r)
    (hl : op.decidedByLeft? l.outcome = none) (hr : op.decidedByRight? r.outcome = none)
    (hcalculate : op.calculate l r = o >>= fun result => pure ⟨result, u⟩) (symbol : String) :
    ((operation op symbol left right).evaluate resolve).result.quantity.unit = Measure.normal u ∧
      CalculatedAs resolve op symbol left right o := by
  have hquantity := quantity_evaluate_operation hleft hright op symbol
  rw [hl, hr, Option.none_or, hcalculate] at hquantity
  refine ⟨congrArg Quantity.unit hquantity, congrArg Quantity.outcome hquantity, ?_⟩
  rw [events_evaluate_operation hleft hright hl hr, hcalculate, Logged.events_bind,
    Logged.events_pure, List.append_nil]

/-- A number is adjusted by a percentage in its own unit, if the plain sum is in range. -/
theorem calculatedAs_adjusted
    (hleft : (left.evaluate resolve).result.quantity = ⟨.number x, u⟩)
    (hright : (right.evaluate resolve).result.quantity = ⟨.number p, some .percent⟩)
    (hu : u ≠ some .percent) (adjustment : Decimal.Adjustment) (symbol : String) :
    ((operation adjustment.operator symbol left right).evaluate resolve).result.quantity.unit =
        Measure.normal u ∧
      CalculatedAs resolve adjustment.operator symbol left right
        (x.adjustedAfterPlain adjustment p) := by
  obtain ⟨hl, hr⟩ := Operator.undecided_numbers adjustment x p
  exact calculatedAs_of_calculate hleft hright hl hr
    (Operator.calculate_percentage hu adjustment x p) symbol

/-- A percentage on the right adjusts a number that is no percentage, in the unit of the number. The
operation comes to the adjusted number or, if that is out of range, to nothing that applies, with one
warning, just if the plain sum of the two numbers is in range or the adjusted number is not. If the
plain sum is out of range, the operator does not apply, with one warning. -/
theorem calculatedAs_adjusted_iff
    (hleft : (left.evaluate resolve).result.quantity = ⟨.number x, u⟩)
    (hright : (right.evaluate resolve).result.quantity = ⟨.number p, some .percent⟩)
    (hu : u ≠ some .percent) (adjustment : Decimal.Adjustment) (symbol : String) :
    ((operation adjustment.operator symbol left right).evaluate resolve).result.quantity.unit =
        Measure.normal u ∧
      (CalculatedAs resolve adjustment.operator symbol left right (x.adjusted adjustment p) ↔
        (adjustment.arithmetic.result? x p).isSome ∨ x.adjust? adjustment p = none) ∧
      (adjustment.arithmetic.result? x p = none →
        CalculatedAs resolve adjustment.operator symbol left right
          adjustment.operator.overflowed) := by
  obtain ⟨hunit, hcalculated⟩ := calculatedAs_adjusted hleft hright hu adjustment symbol
  refine ⟨hunit, ?_, fun hplain => ?_⟩
  · rw [← Decimal.adjusted_eq_adjustedAfterPlain_iff]
    refine ⟨fun h => h.eq hcalculated, fun h => ?_⟩
    rw [h]
    exact hcalculated
  · rw [Decimal.adjustedAfterPlain, hplain] at hcalculated
    exact hcalculated

/-- Two hundred euros, lowered by 12.5 percent, are 175 euros. -/
theorem calculatedAs_adjusted_iff_euros :
    let resolve (name : String) : Logged Node := pure (.leaf (.unknown name) (.waiting name none))
    let euro : Measure := .atom "€"
    let price : Expr := constant ⟨.number (.ofParts 200 0), some euro⟩
    let rate : Expr := constant ⟨.number (.ofParts 125 1), some .percent⟩
    (price.evaluate resolve).result.quantity = ⟨.number (.ofParts 200 0), some euro⟩ ∧
      (rate.evaluate resolve).result.quantity = ⟨.number (.ofParts 125 1), some .percent⟩ ∧
      some euro ≠ some .percent ∧
      ((binary .sub price rate).evaluate resolve).result.quantity.unit = some euro ∧
      CalculatedAs resolve .sub "−" price rate (pure (.number (.ofParts 175 0))) := by
  intro resolve euro price rate
  have hprice : (price.evaluate resolve).result.quantity =
    ⟨.number (.ofParts 200 0), some euro⟩ := rfl
  have hrate : (rate.evaluate resolve).result.quantity =
    ⟨.number (.ofParts 125 1), some .percent⟩ := rfl
  have heuro : some euro ≠ some .percent := by decide
  have hadjusted : (Decimal.ofParts 200 0).adjusted .lower (.ofParts 125 1) =
    pure (.number (.ofParts 175 0)) := by decide +kernel
  obtain ⟨hunit, hiff, -⟩ := calculatedAs_adjusted_iff hprice hrate heuro .lower "−"
  have hcalculated := hiff.2 (.inl (by decide +kernel))
  rw [hadjusted] at hcalculated
  exact ⟨hprice, hrate, heuro, hunit, hcalculated⟩

/-- Fifty raised by this percentage is in range, but the sum of fifty and its 29 digits is not, so that
the operator does not apply. -/
theorem not_calculatedAs_adjusted_fifty :
    let resolve (name : String) : Logged Node := pure (.leaf (.unknown name) (.waiting name none))
    let fifty : Decimal := .ofParts 50 0
    let percentage : Decimal := .ofParts 79228162514264337593543950300 0
    let left : Expr := number fifty
    let right : Expr := constant ⟨.number percentage, some .percent⟩
    fifty.adjust? .raise percentage = some (.ofParts 39614081257132168796771975200 0) ∧
      ((binary .add left right).evaluate resolve).result.quantity = ⟨.inapplicable, none⟩ ∧
      ((binary .add left right).evaluate resolve).warnings =
        [.notApplicable .add (.overflow .add)] ∧
      ¬ CalculatedAs resolve .add "+" left right (fifty.adjusted .raise percentage) := by
  intro resolve fifty percentage left right
  have hadjusted : fifty.adjust? .raise percentage =
    some (.ofParts 39614081257132168796771975200 0) := by decide +kernel
  have hquantity : ((binary .add left right).evaluate resolve).result.quantity =
    ⟨.inapplicable, none⟩ := by decide +kernel
  refine ⟨hadjusted, hquantity, by decide +kernel, fun h => ?_⟩
  have houtcome := h.outcome.symm.trans (congrArg Quantity.outcome hquantity)
  rw [Decimal.adjusted, hadjusted] at houtcome
  cases houtcome

end Expr

end Rulebook
