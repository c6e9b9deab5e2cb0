import Rulebook.Proofs.Adjustments
import Rulebook.Proofs.Magnitudes

/-!
# Shares

Raising a number by a percentage is adding that share of it, and lowering it is
taking the share away. On one side the units are not looked at. On the other
side the share is a product whose `%` cancels, so that it is in the unit of the
number or, if it is zero, in none. Both come to the same as long as nothing is
rounded on the way.

* `multiply_percent_multiply_inverse`: a percentage leaves the unit of a number as it was.
* `exists_quantity_share`: a share is in the unit of the number, or in none.
* `quantity_adjusted`, `quantity_joined`: the two sides.
* `quantity_adjusted_eq_share`: they are the same.
-/

namespace Rulebook

/-! ## Units -/

namespace Measure

/-- Whether no atom stands on both sides of the bar, and none is `%`. -/
structure IsPlain (u : Measure) : Prop where
  reduced : ∀ name ∈ u.numerators, name ∉ u.denominators
  percent_notMem_numerators : percentAtom ∉ u.numerators
  percent_notMem_denominators : percentAtom ∉ u.denominators

variable {u : Measure}

theorem IsPlain.ne_percent {u : Option Measure} (h : (orEmpty u).IsPlain) : u ≠ some percent := by
  rintro rfl
  exact h.percent_notMem_numerators (List.mem_singleton_self _)

theorem IsPlain.multiply_percent (h : u.IsPlain) :
    u.multiply percent = ⟨u.numerators ++ [percentAtom], u.denominators⟩ := by
  have hpercent : cancel [percentAtom] u.denominators = ⟨[percentAtom], u.denominators⟩ :=
    if_neg h.percent_notMem_denominators
  rw [multiply, percent, atom, List.append_nil, cancel_append_of_notMem h.reduced, hpercent]

/-- A percentage leaves the unit of a number as it was. -/
theorem IsPlain.multiply_percent_multiply_inverse (h : u.IsPlain) :
    (u.multiply percent).multiply percent.inverse = u := by
  have hkept : ∀ name ∈ u.numerators, name ∉ u.denominators ++ [percentAtom] := by
    intro name hname hmem
    rcases List.mem_append.1 hmem with hmem | hmem
    · exact h.reduced name hname hmem
    · rw [List.mem_singleton.1 hmem] at hname
      exact h.percent_notMem_numerators hname
  have hpercent : cancel [percentAtom] (u.denominators ++ [percentAtom]) =
      ⟨[], u.denominators⟩ := by
    rw [cancel, if_pos (List.mem_append_right _ (List.mem_singleton_self _)), cancel,
      List.erase_append_right _ h.percent_notMem_denominators, List.erase_cons_head,
      List.append_nil]
  rw [h.multiply_percent, multiply, percent, atom, inverse, List.append_nil,
    cancel_append_of_notMem hkept, hpercent, List.append_nil]

end Measure

/-! ## Numbers that are not rounded -/

namespace Decimal

/-- The sum or the difference of two numbers. -/
def Adjustment.join : Adjustment → Rat → Rat → Rat
  | raise, a, b => a + b
  | lower, a, b => a - b

/-- Whether no number is rounded or out of range when `x` is adjusted by `p` percent, nor when its
share is taken first. -/
structure AdjustsExactly (adjustment : Adjustment) (x p : Decimal) : Prop where
  plain : (adjustment.arithmetic.result? x p).isSome
  ratio : Fits (p.value / 100)
  factor : Fits (adjustment.join 1 (p.value / 100))
  adjusted : Fits (x.value * adjustment.join 1 (p.value / 100))
  product : Fits (x.value * p.value)
  share : Fits (x.value * p.value / 100)

variable {adjustment : Adjustment} {x p y : Decimal}

theorem result?_of_join {s : Decimal} (h : adjustment.join x.value s.value = y.value) :
    adjustment.arithmetic.result? x s = some (.number y) := by
  cases adjustment with
  | raise => exact congrArg (Option.map Outcome.number) (add?_of_value h)
  | lower => exact congrArg (Option.map Outcome.number) (sub?_of_value h)

theorem AdjustsExactly.adjust? (h : AdjustsExactly adjustment x p) :
    x.adjust? adjustment p = some ⟨_, h.adjusted⟩ := by
  have hfactor : adjustment.join one.value p.percent.value =
      (⟨_, h.factor⟩ : Decimal).value := by rw [value_one, value_percent h.ratio]
  cases adjustment with
  | raise =>
    rw [Decimal.adjust?, add?_of_value hfactor]
    exact mul?_of_value rfl
  | lower =>
    rw [Decimal.adjust?, sub?_of_value hfactor]
    exact mul?_of_value rfl

/-- Taking the share first comes to the same number. -/
theorem AdjustsExactly.join_share (h : AdjustsExactly adjustment x p) :
    adjustment.join x.value (⟨_, h.share⟩ : Decimal).value = (⟨_, h.adjusted⟩ : Decimal).value := by
  cases adjustment with
  | raise => simp only [Adjustment.join]; ring
  | lower => simp only [Adjustment.join]; ring

end Decimal

/-! ## Calculations -/

variable {adjustment : Decimal.Adjustment} {x p s y : Decimal} {u w : Option Measure}

namespace Operator

/-- A share is in the unit of the number. -/
theorem calculate_share (hu : (Measure.orEmpty u).IsPlain)
    (hproduct : Decimal.Fits (x.value * p.value))
    (hshare : Decimal.Fits (x.value * p.value / 100)) :
    (mul.calculate ⟨.number x, u⟩ ⟨.number p, some .percent⟩).result =
      ⟨.number ⟨_, hshare⟩, Measure.normal u⟩ := by
  have hresult : Arithmetic.mul.result? x p = some (.number ⟨_, hproduct⟩) :=
    Arithmetic.result?_mul_of_value rfl
  have hunit : mul.unit? u (some .percent) = some ((Measure.orEmpty u).multiply .percent) := by
    refine Measure.nonEmpty?_eq_some_iff.2 ⟨rfl, fun hempty => ?_⟩
    rw [hu.multiply_percent] at hempty
    exact List.append_ne_nil_of_right_ne_nil _ (List.cons_ne_nil _ _)
      (congrArg Measure.numerators hempty)
  have hpercent : ((Measure.orEmpty u).multiply .percent).hasPercent = true := by
    rw [hu.multiply_percent, Measure.hasPercent, List.contains_iff_mem]
    exact List.mem_append_right _ (List.mem_singleton_self _)
  have hratio : (Outcome.number ⟨_, hproduct⟩).share = .number ⟨_, hshare⟩ :=
    congrArg Outcome.number (Decimal.percent_of_value rfl)
  rw [result_calculate_of_isMultiplicative rfl, combineKnown_of_result? hresult, withUnit_mul,
    hunit]
  simp only [hpercent, if_true, Logged.result_pure, hratio, hu.multiply_percent_multiply_inverse,
    Measure.nonEmpty?_orEmpty]

/-- Numbers that are in one unit, or get there without a conversion, are joined as they are. -/
theorem calculate_joined (hw : w = none ∨ w = Measure.normal u) (hpercent : w ≠ some .percent)
    (hy : adjustment.join x.value s.value = y.value) :
    adjustment.operator.calculate ⟨.number x, u⟩ ⟨.number s, w⟩ =
      pure ⟨.number y, Measure.normal u⟩ := by
  have hright : Quantity.isPercent ⟨.number s, w⟩ = false := by
    rwa [← Bool.not_eq_true, Quantity.isPercent_iff]
  have hadjustment : adjustment.operator.adjustment? ⟨.number x, u⟩ ⟨.number s, w⟩ = none := by
    unfold adjustment?
    rw [hright]
    rfl
  have hterms : adjustment.operator.isMultiplicative = false := by cases adjustment <;> rfl
  have hunits : w = none ∨ u = w := by
    rcases hw with hw | hw
    · exact .inl hw
    · cases hnormal : Measure.normal u with
      | none => exact .inl (hw.trans hnormal)
      | some v =>
        exact .inr ((Measure.normal_eq_some_iff.1 hnormal).1.trans (hw.trans hnormal).symm)
  have hunit : adjustment.operator.unit? (u.or w) (u.or w) = Measure.normal u := by
    have hfirst : u.or w = u := by rcases hunits with rfl | rfl <;> simp
    rw [hfirst]
    cases adjustment <;> exact congrArg Measure.normal (Option.or_self ..)
  have hcombined : adjustment.operator.combineKnown (.number x) (.number s) = pure (.number y) :=
    combineKnown_of_result? (Decimal.result?_of_join hy)
  rw [calculate_of_reconcile? hterms hadjustment (Quantity.reconcile?_of_unit (.inr hunits) _ _)]
  simp only [hcombined, pure_bind, hunit]

end Operator

/-! ## The two sides -/

namespace Expr

variable {resolve : String → Logged Node} {e rate : Expr}

/-- A number is adjusted in its own unit. -/
theorem quantity_adjusted (he : (e.evaluate resolve).result.quantity = ⟨.number x, u⟩)
    (hrate : (rate.evaluate resolve).result.quantity = ⟨.number p, some .percent⟩)
    (hu : u ≠ some .percent) (hexact : Decimal.AdjustsExactly adjustment x p) (symbol : String) :
    ((operation adjustment.operator symbol e rate).evaluate resolve).result.quantity =
      ⟨.number ⟨_, hexact.adjusted⟩, Measure.normal u⟩ := by
  obtain ⟨hunit, houtcome, -⟩ := calculatedAs_adjusted he hrate hu adjustment symbol
  rw [Decimal.adjustedAfterPlain, if_pos hexact.plain, Decimal.adjusted, hexact.adjust?] at houtcome
  exact congrArg₂ Quantity.mk houtcome hunit

/-- A share is in the unit of its number, or in none if it is zero. -/
theorem exists_quantity_share (he : (e.evaluate resolve).result.quantity = ⟨.number x, u⟩)
    (hrate : (rate.evaluate resolve).result.quantity = ⟨.number p, some .percent⟩)
    (hu : (Measure.orEmpty u).IsPlain) (hproduct : Decimal.Fits (x.value * p.value))
    (hshare : Decimal.Fits (x.value * p.value / 100)) (symbol : String) :
    ∃ w, (w = none ∨ w = Measure.normal u) ∧
      ((operation .mul symbol e rate).evaluate resolve).result.quantity =
        ⟨.number ⟨_, hshare⟩, w⟩ := by
  have hquantity := quantity_evaluate_operation he hrate .mul symbol
  rw [Operator.decided_mul] at hquantity
  by_cases hzero : x = .zero ∨ p = .zero
  · have hnothing : Decimal.zero = ⟨_, hshare⟩ := by
      refine Decimal.eq_of_value_eq ?_
      rcases hzero with rfl | rfl <;> simp [Decimal.value_zero]
    rw [if_pos hzero, hnothing] at hquantity
    exact ⟨none, .inl rfl, hquantity⟩
  · rw [if_neg hzero, Operator.calculate_share hu hproduct hshare] at hquantity
    exact ⟨_, .inr (Measure.normal_normal u), hquantity⟩

/-- A share is joined to its number in the unit of the number. -/
theorem quantity_joined {share : Expr}
    (he : (e.evaluate resolve).result.quantity = ⟨.number x, u⟩)
    (hshare : (share.evaluate resolve).result.quantity = ⟨.number s, w⟩)
    (hw : w = none ∨ w = Measure.normal u) (hpercent : w ≠ some .percent)
    (hy : adjustment.join x.value s.value = y.value) (symbol : String) :
    ((operation adjustment.operator symbol e share).evaluate resolve).result.quantity =
      ⟨.number y, Measure.normal u⟩ := by
  obtain ⟨hl, hr⟩ := Operator.undecided_numbers adjustment x s
  rw [quantity_evaluate_operation he hshare, hl, hr, Option.none_or,
    Operator.calculate_joined hw hpercent hy]
  exact congrArg (Quantity.mk _) (Measure.normal_normal u)

/-- Raising a number by a percentage comes to the same as adding that share of it, and lowering it
to the same as taking the share away, in the unit of the number, which may be none. Neither the
number nor the percentage needs to be other than zero. -/
theorem quantity_adjusted_eq_share
    (he : (e.evaluate resolve).result.quantity = ⟨.number x, u⟩)
    (hrate : (rate.evaluate resolve).result.quantity = ⟨.number p, some .percent⟩)
    (hu : (Measure.orEmpty u).IsPlain) (hexact : Decimal.AdjustsExactly adjustment x p)
    (symbol symbol' symbol'' : String) :
    let share : Expr := operation .mul symbol'' e rate
    ((operation adjustment.operator symbol e rate).evaluate resolve).result.quantity =
        ⟨.number ⟨_, hexact.adjusted⟩, Measure.normal u⟩ ∧
      ((operation adjustment.operator symbol' e share).evaluate resolve).result.quantity =
        ((operation adjustment.operator symbol e rate).evaluate resolve).result.quantity := by
  intro share
  have hadjusted := quantity_adjusted he hrate hu.ne_percent hexact symbol
  obtain ⟨w, hw, hshare⟩ :=
    exists_quantity_share he hrate hu hexact.product hexact.share symbol''
  have hpercent : w ≠ some .percent := by
    rintro rfl
    rcases hw with hw | hw
    · cases hw
    · exact hu.ne_percent (Measure.normal_eq_some_iff.1 hw.symm).1
  have hjoined := quantity_joined he hshare hw hpercent hexact.join_share symbol'
  exact ⟨hadjusted, hjoined.trans hadjusted.symm⟩

/-- Eighty euros a month, lowered by 12.5 percent, are seventy, and so is the difference from their
share. -/
theorem quantity_adjusted_eq_share_discount :
    let resolve (name : String) : Logged Node := pure (.leaf (.unknown name) (.waiting name none))
    let monthly : Measure := ⟨["€"], ["month"]⟩
    let price : Expr := constant ⟨.number (.ofParts 80 0), some monthly⟩
    let rate : Expr := constant ⟨.number (.ofParts 125 1), some .percent⟩
    monthly.IsPlain ∧ Decimal.AdjustsExactly .lower (.ofParts 80 0) (.ofParts 125 1) ∧
      ((binary .sub price (binary .mul price rate)).evaluate resolve).result.quantity =
        ⟨.number (.ofParts 70 0), some monthly⟩ := by
  intro resolve monthly price rate
  have hplain : monthly.IsPlain := ⟨by decide, by decide, by decide⟩
  have hvalue : (Decimal.ofParts 80 0).value *
      Decimal.Adjustment.lower.join 1 ((Decimal.ofParts 125 1).value / 100) =
    (Decimal.ofParts 70 0).value := by decide +kernel
  have hexact : Decimal.AdjustsExactly .lower (.ofParts 80 0) (.ofParts 125 1) := {
    plain := by decide +kernel
    ratio := ⟨125, 3, by decide +kernel⟩
    factor := ⟨875, 3, by decide +kernel⟩
    adjusted := hvalue ▸ Decimal.fits _
    product := ⟨1000, 0, by decide +kernel⟩
    share := ⟨10, 0, by decide +kernel⟩ }
  have hprice : (price.evaluate resolve).result.quantity =
    ⟨.number (.ofParts 80 0), some monthly⟩ := rfl
  have hrate : (rate.evaluate resolve).result.quantity =
    ⟨.number (.ofParts 125 1), some .percent⟩ := rfl
  obtain ⟨hadjusted, hshare⟩ :=
    quantity_adjusted_eq_share hprice hrate hplain hexact "−" "−" "×"
  have hseventy : (⟨_, hexact.adjusted⟩ : Decimal) = .ofParts 70 0 := Decimal.eq_of_value_eq hvalue
  rw [hadjusted, hseventy] at hshare
  exact ⟨hplain, hexact, hshare⟩

end Expr

end Rulebook
