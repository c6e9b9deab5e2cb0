import Rulebook.Decimal.Basic

/-!
# Quotients

A quotient is found by long division in groups of up to nine digits, and gets as
many decimals as fit. A half goes to the even neighbour, except that it goes away
from zero if the divisor is long and the mantissa gets too large inside a group.

* `div?_eq_some_iff`: when there is a quotient.
* `div?_of_value`: an exact quotient that is a decimal is the result.
-/

namespace Rulebook.Decimal

/-- The greatest number of digits that are found at a time. -/
def groupLength : Nat := 9

/-- The least whole number of more than 64 bits. -/
def longLimit : Nat := 18446744073709551616

/-- Whether the digits of a number write one of more than 64 bits. -/
def isLong (d : Decimal) : Bool :=
  longLimit ≤ d.coefficient

/-- The digits of a quotient as far as `scale` decimals. -/
def quotientDigits (a b : Decimal) (scale : Nat) : Nat :=
  a.coefficient * Nat.pow 10 (scale + b.scale) / (b.coefficient * Nat.pow 10 a.scale)

/-- The number of digits that a quotient with `scale` decimals has in its last group. The first group
begins after the decimals that the dividend has more than the divisor. -/
def lastGroup (a b : Decimal) (scale : Nat) : Nat :=
  (scale + b.scale - a.scale - 1) % groupLength + 1

/-- Whether a quotient with `scale` decimals is too large only by the digits of its last group. -/
def outgrows (a b : Decimal) (scale : Nat) : Bool :=
  let digits := quotientDigits a b scale
  let unit := Nat.pow 10 (lastGroup a b scale)
  maxMantissa < digits && digits / unit * unit ≤ maxMantissa

/-- Where a half goes in a quotient. -/
def quotientTie (a b : Decimal) : Tie :=
  if b.isLong && scales.any (outgrows a b) then .awayFromZero else .toEven

/-- The quotient; there is none by zero. -/
def div? (a b : Decimal) : Option Decimal :=
  if b = zero then none else nearest? (quotientTie a b) (a.value / b.value)

/-- A quotient is rounded once, and there is one just if the divisor is not zero and the result fits. -/
theorem div?_eq_some_iff {a b q : Decimal} :
    a.div? b = some q ↔ b ≠ zero ∧ nearest? (quotientTie a b) (a.value / b.value) = some q :=
  Option.ite_none_left_eq_some

/-- An exact quotient that is a decimal is the result. -/
theorem div?_of_value {a b c : Decimal} (hb : b ≠ zero) (h : a.value / b.value = c.value) :
    a.div? b = some c := by
  rw [div?_eq_some_iff, h, nearest?_value]
  exact ⟨hb, rfl⟩

end Rulebook.Decimal
