import Mathlib.Algebra.BigOperators.Group.List.Basic
import Mathlib.Algebra.Order.BigOperators.GroupWithZero.List
import Mathlib.Algebra.Order.Field.Rat
import Mathlib.Tactic.Ring
import Rulebook.Expr.Evaluate

/-!
# Magnitudes

How much a number in a unit is depends on how large the atoms of its unit are.
Whatever their sizes, products and quotients are as much as their operands say.
Cancelling atoms changes no size, a percentage that is read as a share loses one
`%` along with its hundred, and zero is nothing in any unit.

* `Gauge.size_cancel`, `Gauge.size_multiply`: sizes are multiplied along with units.
* `exists_withUnit_mul`: a product with a percentage is as much as before it is read as a share.
* `amountsTo_operation`: the magnitudes of products and quotients.
-/

namespace Rulebook

/-- Sizes of atoms. A percent is a hundredth, and the others may have any size. -/
structure Gauge where
  atom : String → Rat
  atom_pos (name : String) : 0 < atom name
  atom_percent : atom Measure.percentAtom = 1 / 100

namespace Gauge

variable (g : Gauge)

/-! ## Sizes of units -/

/-- The size of a unit. -/
def size (u : Measure) : Rat :=
  (u.numerators.map g.atom).prod / (u.denominators.map g.atom).prod

/-- Cancelling atoms keeps the size. -/
theorem size_cancel (above below : List String) :
    g.size (.cancel above below) = (above.map g.atom).prod / (below.map g.atom).prod := by
  induction above generalizing below with
  | nil => rfl
  | cons a above ih =>
    rw [Measure.cancel, List.map_cons, List.prod_cons]
    split
    · rename_i ha
      rw [ih, ← List.prod_map_erase g.atom ha, mul_div_mul_left _ _ (g.atom_pos a).ne']
    · rw [mul_div_assoc, ← ih below, size, List.map_cons, List.prod_cons, mul_div_assoc, size]

theorem size_multiply (u v : Measure) : g.size (u.multiply v) = g.size u * g.size v := by
  rw [Measure.multiply, size_cancel, List.map_append, List.map_append, List.prod_append,
    List.prod_append, size, size, div_mul_div_comm]

theorem size_inverse (u : Measure) : g.size u.inverse = (g.size u)⁻¹ :=
  (inv_div _ _).symm

theorem size_percent : g.size .percent = 1 / 100 := by
  simp [size, Measure.percent, Measure.atom, g.atom_percent]

/-! ## Magnitudes -/

/-- How much a number in a unit is. -/
def magnitude (n : Decimal) (u : Option Measure) : Rat :=
  n.value * g.size (Measure.orEmpty u)

theorem magnitude_normal (n : Decimal) (u : Option Measure) :
    g.magnitude n (Measure.normal u) = g.magnitude n u := by
  rw [magnitude, Measure.orEmpty_normal, magnitude]

/-- Zero is nothing in any unit. -/
theorem magnitude_zero (u : Option Measure) : g.magnitude .zero u = 0 := by
  rw [magnitude, Decimal.value_zero, zero_mul]

/-- A number of percent is as much as its share in the unit that is left without one `%`. -/
theorem magnitude_percent {n : Decimal} (h : Decimal.Fits (n.value / 100)) (u : Measure) :
    g.magnitude n.percent (u.multiply Measure.percent.inverse).nonEmpty? = n.value * g.size u := by
  rw [magnitude, Measure.orEmpty_nonEmpty?, size_multiply, size_inverse, size_percent,
    Decimal.value_percent h]
  ring

end Gauge

namespace Operator

variable {a b n : Decimal} {u v : Option Measure}

/-- A product is as much in the unit that it gets as in the product of the units. -/
theorem exists_withUnit_mul (g : Gauge)
    (hshare : (mul.unit? u v).any Measure.hasPercent → Decimal.Fits (n.value / 100)) :
    ∃ m w, mul.withUnit (.number n) u v = ⟨.number m, w⟩ ∧
      g.magnitude m w = n.value * g.size ((Measure.orEmpty u).multiply (Measure.orEmpty v)) := by
  have horEmpty : Measure.orEmpty (mul.unit? u v) =
      (Measure.orEmpty u).multiply (Measure.orEmpty v) := Measure.orEmpty_nonEmpty? _
  rw [← horEmpty, withUnit_mul]
  cases hunit : mul.unit? u v with
  | none => exact ⟨n, none, rfl, rfl⟩
  | some w =>
    rw [hunit] at hshare
    by_cases hpercent : w.hasPercent = true
    · exact ⟨n.percent, _, if_pos hpercent, g.magnitude_percent (hshare hpercent) w⟩
    · exact ⟨n, some w, if_neg hpercent, rfl⟩

/-- Factors and divisors are calculated as they are, and the result gets the unit. -/
theorem result_calculate_of_isMultiplicative {op : Operator} (hop : op.isMultiplicative = true)
    (left right : Quantity) :
    (op.calculate left right).result =
      op.withUnit (op.combineKnown left.outcome right.outcome).result left.unit right.unit := by
  have hadditive : op.isAdditive = false := by
    unfold isMultiplicative at hop
    split at hop
    · rfl
    · rfl
    · cases hop
  rw [calculate_of_adjustment?_eq_none (adjustment?_of_isAdditive_eq_false hadditive left right),
    reconcile, hop]
  rfl

theorem number_eq_inapplicable_or_zero_iff {n : Decimal} :
    Outcome.number n = .inapplicable ∨ Outcome.number n = .number .zero ↔ n = .zero := by
  simp [Outcome.number]

/-- Zero decides a product from both sides. -/
theorem decided_mul (a b : Decimal) :
    (mul.decidedByLeft? (.number a)).or (mul.decidedByRight? (.number b)) =
      if a = .zero ∨ b = .zero then some (.number .zero) else none := by
  rw [decidedByLeft?_of_isMultiplicative rfl, decidedByRight?_mul]
  simp only [number_eq_inapplicable_or_zero_iff]
  by_cases ha : a = .zero
  · simp [ha]
  · by_cases hb : b = .zero <;> simp [ha, hb]

/-- Zero decides a quotient from the left. -/
theorem decided_div (a b : Decimal) :
    (div.decidedByLeft? (.number a)).or (div.decidedByRight? (.number b)) =
      if a = .zero then some (.number .zero) else none := by
  have hright : div.decidedByRight? (.number b) = none := rfl
  rw [decidedByLeft?_of_isMultiplicative rfl, hright, Option.or_none]
  simp only [number_eq_inapplicable_or_zero_iff]
  by_cases ha : a = .zero <;> simp [ha]

/-- A product of numbers that are not rounded is as much as its factors. -/
theorem exists_calculate_mul (g : Gauge) (hproduct : Decimal.Fits (a.value * b.value))
    (hshare : (mul.unit? u v).any Measure.hasPercent → Decimal.Fits (a.value * b.value / 100)) :
    ∃ n w, (mul.calculate ⟨.number a, u⟩ ⟨.number b, v⟩).result = ⟨.number n, w⟩ ∧
      g.magnitude n w = g.magnitude a u * g.magnitude b v := by
  have hresult : Arithmetic.mul.result? a b = some (.number ⟨_, hproduct⟩) :=
    Arithmetic.result?_mul_of_value rfl
  obtain ⟨n, w, hunit, hmagnitude⟩ := exists_withUnit_mul g (n := ⟨_, hproduct⟩) hshare
  refine ⟨n, w, ?_, ?_⟩
  · rw [result_calculate_of_isMultiplicative rfl, combineKnown_of_result? hresult]
    exact hunit
  · rw [hmagnitude, Gauge.size_multiply, Gauge.magnitude, Gauge.magnitude]
    ring

/-- A quotient of numbers that is not rounded is as much as that of their magnitudes. -/
theorem exists_calculate_div (g : Gauge) (hb : b ≠ .zero)
    (hquotient : Decimal.Fits (a.value / b.value)) :
    ∃ n w, (div.calculate ⟨.number a, u⟩ ⟨.number b, v⟩).result = ⟨.number n, w⟩ ∧
      g.magnitude n w = g.magnitude a u / g.magnitude b v := by
  have hresult : Arithmetic.div.result? a b = some (.number ⟨_, hquotient⟩) := by
    rw [Arithmetic.result?, if_neg hb, Decimal.div?_of_value (c := ⟨_, hquotient⟩) hb rfl,
      Option.map_some]
  refine ⟨⟨_, hquotient⟩, div.unit? u v, ?_, ?_⟩
  · rw [result_calculate_of_isMultiplicative rfl, combineKnown_of_result? hresult]
    rfl
  · have horEmpty : Measure.orEmpty (div.unit? u v) =
        (Measure.orEmpty u).multiply (Measure.orEmpty v).inverse := Measure.orEmpty_nonEmpty? _
    rw [Gauge.magnitude, horEmpty, Gauge.size_multiply, Gauge.size_inverse, Gauge.magnitude,
      Gauge.magnitude]
    ring

end Operator

namespace Expr

/-- Whether an expression comes to a number that is as much as `x`. -/
def AmountsTo (g : Gauge) (resolve : String → Logged Node) (e : Expr) (x : Rat) : Prop :=
  ∃ n w, (e.evaluate resolve).result.quantity = ⟨.number n, w⟩ ∧ g.magnitude n w = x

variable {g : Gauge} {resolve : String → Logged Node} {symbol : String} {left right : Expr}
  {a b : Decimal} {u v : Option Measure}

/-- A product is as much as its factors multiplied, also if one of them is zero. -/
theorem amountsTo_mul (hleft : (left.evaluate resolve).result.quantity = ⟨.number a, u⟩)
    (hright : (right.evaluate resolve).result.quantity = ⟨.number b, v⟩)
    (hproduct : Decimal.Fits (a.value * b.value))
    (hshare : (Operator.mul.unit? u v).any Measure.hasPercent →
      Decimal.Fits (a.value * b.value / 100)) :
    (operation .mul symbol left right).AmountsTo g resolve
      (g.magnitude a u * g.magnitude b v) := by
  have hquantity := quantity_evaluate_operation hleft hright .mul symbol
  rw [Operator.decided_mul] at hquantity
  by_cases hzero : a = .zero ∨ b = .zero
  · rw [if_pos hzero] at hquantity
    refine ⟨.zero, none, hquantity, ?_⟩
    rcases hzero with rfl | rfl
    · rw [g.magnitude_zero, g.magnitude_zero, zero_mul]
    · rw [g.magnitude_zero, g.magnitude_zero, mul_zero]
  · obtain ⟨n, w, hresult, hmagnitude⟩ := Operator.exists_calculate_mul g hproduct hshare
    rw [if_neg hzero, hresult] at hquantity
    exact ⟨n, Measure.normal w, hquantity, by rw [g.magnitude_normal, hmagnitude]⟩

/-- A quotient is as much as the dividend divided, also if that is zero. -/
theorem amountsTo_div (hleft : (left.evaluate resolve).result.quantity = ⟨.number a, u⟩)
    (hright : (right.evaluate resolve).result.quantity = ⟨.number b, v⟩) (hb : b ≠ .zero)
    (hquotient : Decimal.Fits (a.value / b.value)) :
    (operation .div symbol left right).AmountsTo g resolve
      (g.magnitude a u / g.magnitude b v) := by
  have hquantity := quantity_evaluate_operation hleft hright .div symbol
  rw [Operator.decided_div] at hquantity
  by_cases hzero : a = .zero
  · rw [if_pos hzero] at hquantity
    refine ⟨.zero, none, hquantity, ?_⟩
    rw [hzero, g.magnitude_zero, g.magnitude_zero, zero_div]
  · obtain ⟨n, w, hresult, hmagnitude⟩ := Operator.exists_calculate_div g hb hquotient
    rw [if_neg hzero, hresult] at hquantity
    exact ⟨n, Measure.normal w, hquantity, by rw [g.magnitude_normal, hmagnitude]⟩

/-- Whatever the sizes of atoms, a product of two numbers in units is as much as the two multiplied,
and a quotient as much as one divided by the other, unless the number is rounded. Percents may stand
on any side of the units. -/
theorem amountsTo_operation (g : Gauge)
    (hleft : (left.evaluate resolve).result.quantity = ⟨.number a, u⟩)
    (hright : (right.evaluate resolve).result.quantity = ⟨.number b, v⟩) (symbol : String) :
    (Decimal.Fits (a.value * b.value) →
        ((Operator.mul.unit? u v).any Measure.hasPercent →
          Decimal.Fits (a.value * b.value / 100)) →
        (operation .mul symbol left right).AmountsTo g resolve
          (g.magnitude a u * g.magnitude b v)) ∧
      (b ≠ .zero → Decimal.Fits (a.value / b.value) →
        (operation .div symbol left right).AmountsTo g resolve
          (g.magnitude a u / g.magnitude b v)) :=
  ⟨amountsTo_mul hleft hright, amountsTo_div hleft hright⟩

/-- 25 of `€·%·%/month` times 40 of `month·%/(€·%·%)` are 1000 percent, which are read as ten. Their
quotient keeps its unit, and both are as much as they should be, here with 7 for a euro and for a
month. -/
theorem amountsTo_operation_percents :
    let g : Gauge := {
      atom := fun name => if name = Measure.percentAtom then 1 / 100 else 7
      atom_pos := fun name => by split <;> decide +kernel
      atom_percent := if_pos rfl }
    let u : Measure := ⟨["€", "%", "%"], ["month"]⟩
    let v : Measure := ⟨["month", "%"], ["€", "%", "%"]⟩
    let left : Expr := constant ⟨.number (.ofParts 25 0), some u⟩
    let right : Expr := constant ⟨.number (.ofParts 40 0), some v⟩
    let resolve (name : String) : Logged Node := pure (.leaf (.unknown name) (.waiting name none))
    ((binary .mul left right).evaluate resolve).result.quantity = ⟨.number (.ofParts 10 0), none⟩ ∧
      g.magnitude (.ofParts 25 0) u = 1 / 400 ∧ g.magnitude (.ofParts 40 0) v = 4000 ∧
      (binary .mul left right).AmountsTo g resolve
        (g.magnitude (.ofParts 25 0) u * g.magnitude (.ofParts 40 0) v) ∧
      (binary .div left right).AmountsTo g resolve
        (g.magnitude (.ofParts 25 0) u / g.magnitude (.ofParts 40 0) v) := by
  intro g u v left right resolve
  have hleft : (left.evaluate resolve).result.quantity = ⟨.number (.ofParts 25 0), some u⟩ := rfl
  have hright : (right.evaluate resolve).result.quantity = ⟨.number (.ofParts 40 0), some v⟩ := rfl
  have hmul := (amountsTo_operation g hleft hright (Operator.symbol .mul)).1
  have hdiv := (amountsTo_operation g hleft hright (Operator.symbol .div)).2
  have hproduct : (Decimal.ofParts 25 0).value * (Decimal.ofParts 40 0).value =
    (Decimal.ofParts 1000 0).value := by decide +kernel
  have hshare : (Decimal.ofParts 25 0).value * (Decimal.ofParts 40 0).value / 100 =
    (Decimal.ofParts 10 0).value := by decide +kernel
  have hquotient : (Decimal.ofParts 25 0).value / (Decimal.ofParts 40 0).value =
    (Decimal.ofParts 625 3).value := by decide +kernel
  refine ⟨by decide +kernel, by decide +kernel, by decide +kernel, ?_, ?_⟩
  · exact hmul (hproduct ▸ Decimal.fits _) fun _ => hshare ▸ Decimal.fits _
  · exact hdiv (by decide +kernel) (hquotient ▸ Decimal.fits _)

end Expr

end Rulebook
