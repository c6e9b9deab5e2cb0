import Rulebook.Measure.Conversion
import Rulebook.Operator.Basic
import Rulebook.Outcome

/-!
# Quantities

A quantity is an outcome with the unit it is in. Amounts are converted by the
factor between two units; what is not a number is left as it is, and an outcome
without unit takes any unit. The arithmetic operators give their result a unit.

* `convert_of_normal_eq_none`: an outcome without unit takes any unit.
* `convert_number_eq_ok_iff`: a number in a unit is multiplied by the factor.
* `convert_self`: an outcome that is in a unit already stays as it is.
* `sameButAmount_of_convert`: conversion changes amounts only.
* `unit?_of_isMultiplicative_eq_false`: terms share the unit of the first that has one.
-/

namespace Rulebook

structure Quantity where
  outcome : Outcome
  unit : Option Measure
deriving DecidableEq

/-- An outcome in the unit `source`, if any, in terms of the unit `target`. -/
def Outcome.convert (o : Outcome) (source : Option Measure) (target : Measure) :
    Except Measure.Error Outcome :=
  match Measure.normal source with
  | none => .ok o
  | some u =>
    match u.factor target with
    | .error e => .error e
    | .ok factor =>
      match o with
      | .value (.number n) =>
        match n.mul? factor with
        | some converted => .ok (.number converted)
        | none => .error (.overflow u target)
      | o => .ok o

/-- The unit of a result, from the units of the operands. Terms of a sum share their unit, so the
first one that has a unit gives it. -/
def Operator.unit? (op : Operator) (left right : Option Measure) : Option Measure :=
  match op with
  | mul => ((Measure.orEmpty left).multiply (Measure.orEmpty right)).nonEmpty?
  | div => ((Measure.orEmpty left).multiply (Measure.orEmpty right).inverse).nonEmpty?
  | add => Measure.normal (left.or right)
  | sub => Measure.normal (left.or right)
  | _ => none

namespace Quantity

/-- The quantity in the unit `target`. -/
def convert (q : Quantity) (target : Measure) : Except Measure.Error Quantity :=
  match q.outcome.convert q.unit target with
  | .ok o => .ok ⟨o, some target⟩
  | .error e => .error e

/-- Whether the unit is `%` and nothing else. -/
def isPercent (q : Quantity) : Bool :=
  q.unit.any Measure.isPercent

/-- The quantity, where the empty unit is no unit. -/
def normal (q : Quantity) : Quantity :=
  ⟨q.outcome, Measure.normal q.unit⟩

end Quantity

theorem Quantity.isPercent_iff {q : Quantity} : q.isPercent = true ↔ q.unit = some .percent := by
  simp [isPercent, Measure.isPercent, Option.any_eq_true]

/-- An outcome without unit takes any unit. -/
theorem Outcome.convert_of_normal_eq_none {o : Outcome} {source : Option Measure}
    (h : Measure.normal source = none) (target : Measure) : o.convert source target = .ok o := by
  rw [Outcome.convert, h]

/-- A number in a unit is converted by its product with the factor. -/
theorem Outcome.convert_number_eq_ok_iff {u v : Measure} {f : Decimal} (hne : u ≠ .empty)
    (hf : u.factor v = .ok f) (n x : Decimal) :
    (number n).convert (some u) v = .ok (number x) ↔ n.mul? f = some x := by
  have hnormal : Measure.normal (some u) = some u := Measure.normal_eq_some_iff.2 ⟨rfl, hne⟩
  simp only [convert, hnormal, hf, number]
  cases n.mul? f <;> simp

/-- An outcome that is in a unit already stays as it is. -/
theorem Outcome.convert_self (o : Outcome) (u : Measure) : o.convert (some u) u = .ok o := by
  cases hnormal : Measure.normal (some u) with
  | none => exact convert_of_normal_eq_none hnormal u
  | some v =>
    cases (Measure.normal_eq_some_iff.1 hnormal).1
    simp only [convert, hnormal, Measure.factor_self]
    split
    · simp only [Decimal.mul?_one, number]
    · rfl

/-- Whether two outcomes are the same, or both numbers. -/
inductive Outcome.SameButAmount : Outcome → Outcome → Prop
  | refl (o : Outcome) : SameButAmount o o
  | amounts (m n : Decimal) : SameButAmount (.number m) (.number n)

theorem Outcome.SameButAmount.eq_of_number?_eq_none {o o' : Outcome} (h : o.SameButAmount o')
    (hnumber : o.number? = none) : o' = o := by
  cases h with
  | refl o => rfl
  | amounts m n => cases hnumber

/-- Conversion changes amounts only. -/
theorem Quantity.sameButAmount_of_convert {q converted : Quantity} {target : Measure}
    (h : q.convert target = .ok converted) : q.outcome.SameButAmount converted.outcome := by
  unfold convert at h
  split at h <;> cases h
  rename_i o ho
  unfold Outcome.convert at ho
  split at ho
  · cases ho
    exact .refl _
  · split at ho
    · cases ho
    · split at ho
      · rename_i hn
        rw [hn]
        split at ho <;> cases ho
        exact .amounts _ _
      · cases ho
        exact .refl _

/-- Apart from products and quotients, only terms have a unit, the first that one of them has. -/
theorem Operator.unit?_of_isMultiplicative_eq_false {op : Operator}
    (hop : op.isMultiplicative = false) (left right : Option Measure) :
    op.unit? left right = if op.isAdditive then Measure.normal (left.or right) else none := by
  rcases op with a | c | e | c
  · cases a with
    | mul => cases hop
    | div => cases hop
    | add => rfl
    | sub => rfl
  · rfl
  · rfl
  · rfl

end Rulebook
