import Rulebook.Value

/-!
# Outcomes

What a rule comes to in a situation: a value, nothing because the rule does not
apply, or nothing yet because answers are missing. Some operators go on without
a value: amounts read what does not apply as zero, and truth values read
whatever is absent as false.
-/

namespace Rulebook

inductive Outcome
  | value (v : Value)
  | inapplicable
  | indeterminate
deriving DecidableEq

namespace Outcome

def number (n : Decimal) : Outcome :=
  value (.number n)

def boolean (b : Bool) : Outcome :=
  value (.boolean b)

def value? : Outcome → Option Value
  | value v => some v
  | _ => none

def number? (o : Outcome) : Option Decimal :=
  o.value?.bind Value.number?

def text? (o : Outcome) : Option String :=
  o.value?.bind Value.text?

def boolean? (o : Outcome) : Option Bool :=
  o.value?.bind Value.boolean?

def isInapplicable (o : Outcome) : Bool :=
  o == inapplicable

def isIndeterminate (o : Outcome) : Bool :=
  o == indeterminate

/-- Whether the outcome is the number zero. -/
def isZero (o : Outcome) : Bool :=
  o.number? == some .zero

/-- The value, where an absent one is false. -/
def orFalse : Outcome → Value
  | value v => v
  | inapplicable => .boolean false
  | indeterminate => .boolean false

/-- The value, where zero stands for one that does not apply. -/
def orZero? : Outcome → Option Value
  | value v => some v
  | inapplicable => some (.number .zero)
  | indeterminate => none

theorem number?_eq_some_iff {o : Outcome} {n : Decimal} :
    o.number? = some n ↔ o = value (.number n) := by
  cases o with
  | value v => cases v <;> simp [number?, value?, Value.number?]
  | inapplicable => simp [number?, value?]
  | indeterminate => simp [number?, value?]

theorem isZero_iff {o : Outcome} : o.isZero = true ↔ o = number .zero := by
  rw [isZero, beq_iff_eq, number?_eq_some_iff, number]

theorem orZero?_eq_none_iff {o : Outcome} : o.orZero? = none ↔ o = indeterminate := by
  cases o <;> simp [orZero?]

end Outcome

end Rulebook
