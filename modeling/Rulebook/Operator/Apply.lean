import Rulebook.Decimal.Division
import Rulebook.Operator.Basic
import Rulebook.Outcome

/-!
# Operators on outcomes

Arithmetic and comparisons read an outcome that does not apply as zero, and are
indeterminate if either side is. Equality and the connectives read an absent
value as false, so that they always have an answer for truth values.

* `apply_eq_indeterminate_iff`: only arithmetic and comparisons are left open,
  by an operand that is.
-/

namespace Rulebook

namespace Operator

/-- Why an operator has no outcome for its operands. -/
inductive Error
  | mismatch (op : Operator) (left right : ValueType)
  | overflow (op : Operator)
deriving DecidableEq

def Error.message : Error → String
  | .mismatch op left right =>
    "operation error: '" ++ op.token ++ "' cannot combine " ++ left.name ++ " and " ++ right.name
  | .overflow op => "operation error: '" ++ op.token ++ "' overflowed"

end Operator

/-- The result on two numbers, unless it overflows. There is no quotient by zero, which is no
error. -/
def Arithmetic.result? (op : Arithmetic) (a b : Decimal) : Option Outcome :=
  match op with
  | .mul => (a.mul? b).map .number
  | .div => if b = .zero then some .inapplicable else (a.div? b).map .number
  | .add => (a.add? b).map .number
  | .sub => (a.sub? b).map .number

theorem Arithmetic.result?_ne_indeterminate (op : Arithmetic) (a b : Decimal) :
    op.result? a b ≠ some .indeterminate := by
  cases op <;> simp only [result?]
  case div => split <;> simp [Outcome.number]
  all_goals simp [Outcome.number]

/-- A product that is a decimal is the result. -/
theorem Arithmetic.result?_mul_of_value {a b c : Decimal} (h : a.value * b.value = c.value) :
    Arithmetic.mul.result? a b = some (.number c) :=
  congrArg (Option.map Outcome.number) (Decimal.mul?_of_value h)

/-- The answer for two values in a given order. -/
def Comparison.holds (op : Comparison) (order : Ordering) : Bool :=
  match op with
  | .lt => order == .lt
  | .lte => order != .gt
  | .gt => order == .gt
  | .gte => order != .lt

def Equality.holds (op : Equality) (a b : Value) : Bool :=
  match op with
  | .eq => a == b
  | .neq => a != b

def Connective.holds (op : Connective) (a b : Bool) : Bool :=
  match op with
  | .and => a && b
  | .or => a || b

namespace Operator

def mismatch (op : Operator) (a b : Value) : Error :=
  .mismatch op a.type b.type

/-- The outcome for two outcomes. -/
def apply (op : Operator) (left right : Outcome) : Except Error Outcome :=
  match op with
  | arithmetic a =>
    match left.orZero?, right.orZero? with
    | some (.number m), some (.number n) =>
      match a.result? m n with
      | some o => .ok o
      | none => .error (.overflow op)
    | some v, some w => .error (op.mismatch v w)
    | _, _ => .ok .indeterminate
  | comparison c =>
    match left.orZero?, right.orZero? with
    | some v, some w =>
      match v.compare? w with
      | some order => .ok (.boolean (c.holds order))
      | none => .error (op.mismatch v w)
    | _, _ => .ok .indeterminate
  | equality e => .ok (.boolean (e.holds left.orFalse right.orFalse))
  | connective c =>
    match left.orFalse, right.orFalse with
    | .boolean a, .boolean b => .ok (.boolean (c.holds a b))
    | v, w => .error (op.mismatch v w)

/-- Only arithmetic and comparisons are left open, by an operand that is. -/
theorem apply_eq_indeterminate_iff (op : Operator) (left right : Outcome) :
    op.apply left right = .ok .indeterminate ↔
      (op.isArithmetic ∨ op.isComparison) ∧
        (left = .indeterminate ∨ right = .indeterminate) := by
  rw [← Outcome.orZero?_eq_none_iff, ← Outcome.orZero?_eq_none_iff]
  rcases op with a | c | e | c
  · simp only [apply, isArithmetic, true_or, true_and]
    split
    · rename_i m n hl hr
      rw [hl, hr]
      split
      · rename_i o ho
        have := a.result?_ne_indeterminate m n
        simp_all
      · simp
    · rename_i hl hr
      simp [hl, hr]
    · rename_i h
      cases hl : left.orZero? with
      | none => simp
      | some v => cases hr : right.orZero? with
        | none => simp
        | some w => exact absurd hr (h v w hl)
  · simp only [apply, isComparison, or_true, true_and]
    split
    · rename_i hl hr
      rw [hl, hr]
      split <;> simp [Outcome.boolean]
    · rename_i h
      cases hl : left.orZero? with
      | none => simp
      | some v => cases hr : right.orZero? with
        | none => simp
        | some w => exact absurd hr (h v w hl)
  · simp [apply, isArithmetic, isComparison, Outcome.boolean]
  · simp only [apply, isArithmetic, isComparison]
    split <;> simp [Outcome.boolean]

end Operator

end Rulebook
