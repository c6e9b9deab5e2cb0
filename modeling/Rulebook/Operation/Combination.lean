import Rulebook.Logged

/-!
# Combining outcomes

An operator is applied to outcomes that are in one unit. Two texts that are both
shaped as dates are combined as dates if both are on the calendar. An operator
that has no outcome for its operands does not apply, with a warning.

* `applyOrWarn_of_ok`, `applyOrWarn_of_error`: an operator that has an outcome
  gives it without a warning, and another one gives one warning.
* `combineKnown_of_ne`: only an indeterminate operand leaves the outcome open.
* `combineKnown_value`, `combineKnown_number`: values are combined as dates or
  as they are.
-/

namespace Rulebook

/-- The text of an outcome, if it has the shape of a date. -/
def Outcome.dateText? (o : Outcome) : Option String :=
  o.text?.filter Date.isLiteral

/-- The dates of two texts; if one is not on the calendar, the error of the first that is not. -/
def Date.parseBoth (left right : String) : Except Date.Error (Date × Date) :=
  match Date.parse left, Date.parse right with
  | .ok a, .ok b => .ok (a, b)
  | .error e, _ => .error e
  | _, .error e => .error e

namespace Operator

/-- The outcome of an operator; one that has none does not apply, with a warning. -/
def applyOrWarn (op : Operator) (left right : Outcome) : Logged Outcome :=
  match op.apply left right with
  | .ok o => pure o
  | .error e => do
    Logged.warn (.notApplicable op e)
    pure .inapplicable

/-- The outcome of an operator on operands in one unit. -/
def combine (op : Operator) (left right : Outcome) : Logged Outcome :=
  if (op.isComparison || op.isMultiplicative) && right.isInapplicable then pure .inapplicable
  else
    match left.dateText?, right.dateText? with
    | some a, some b =>
      match Date.parseBoth a b with
      | .ok (a, b) => op.applyOrWarn (.value (.date a)) (.value (.date b))
      | .error e => do
        Logged.warn (.datesAsText op e)
        op.applyOrWarn left right
    | _, _ => op.applyOrWarn left right

/-- The outcome of an operator, which is open as long as an operand is. -/
def combineKnown (op : Operator) (left right : Outcome) : Logged Outcome :=
  if left.isIndeterminate || right.isIndeterminate then pure .indeterminate
  else op.combine left right

/-- An operator that has an outcome gives it without a warning. -/
theorem applyOrWarn_of_ok {op : Operator} {left right o : Outcome}
    (h : op.apply left right = .ok o) : op.applyOrWarn left right = pure o := by
  rw [applyOrWarn, h]

/-- An operator that has none does not apply, with one warning. -/
theorem applyOrWarn_of_error {op : Operator} {left right : Outcome} {e : Error}
    (h : op.apply left right = .error e) :
    op.applyOrWarn left right = ⟨.inapplicable, [.warned (.notApplicable op e)]⟩ := by
  rw [applyOrWarn, h]
  rfl

theorem combineKnown_of_ne {op : Operator} {left right : Outcome} (hleft : left ≠ .indeterminate)
    (hright : right ≠ .indeterminate) : op.combineKnown left right = op.combine left right := by
  rw [combineKnown, if_neg]
  simp [Outcome.isIndeterminate, hleft, hright]

/-- Values are neither open nor inapplicable, so that the operator is applied to them or to their
dates. -/
theorem combineKnown_value (op : Operator) (v w : Value) :
    op.combineKnown (.value v) (.value w) =
      match (Outcome.value v).dateText?, (Outcome.value w).dateText? with
      | some a, some b =>
        match Date.parseBoth a b with
        | .ok (a, b) => op.applyOrWarn (.value (.date a)) (.value (.date b))
        | .error e => do
          Logged.warn (.datesAsText op e)
          op.applyOrWarn (.value v) (.value w)
      | _, _ => op.applyOrWarn (.value v) (.value w) := by
  have hknown (v : Value) : Outcome.value v ≠ .indeterminate := nofun
  have happlies : ((op.isComparison || op.isMultiplicative) && (Outcome.value w).isInapplicable) =
      false := Bool.and_false _
  rw [combineKnown_of_ne (hknown v) (hknown w), combine, happlies]
  rfl

/-- Numbers have no dates. -/
theorem combineKnown_number (op : Operator) (m n : Decimal) :
    op.combineKnown (.number m) (.number n) = op.applyOrWarn (.number m) (.number n) :=
  op.combineKnown_value (.number m) (.number n)

/-- Arithmetic that does not overflow gives its result without a warning. -/
theorem combineKnown_of_result? {a : Arithmetic} {m n : Decimal} {o : Outcome}
    (h : a.result? m n = some o) :
    (arithmetic a).combineKnown (.number m) (.number n) = pure o := by
  rw [combineKnown_number]
  refine applyOrWarn_of_ok ?_
  simp only [apply, Outcome.number, Outcome.orZero?, h]

/-- Arithmetic that overflows does not apply, with one warning. -/
theorem combineKnown_of_result?_eq_none {a : Arithmetic} {m n : Decimal}
    (h : a.result? m n = none) :
    (arithmetic a).combineKnown (.number m) (.number n) =
      ⟨.inapplicable, [.warned (.notApplicable (arithmetic a) (.overflow (arithmetic a)))]⟩ := by
  rw [combineKnown_number]
  refine applyOrWarn_of_error ?_
  simp only [apply, Outcome.number, Outcome.orZero?, h]

end Operator

end Rulebook
