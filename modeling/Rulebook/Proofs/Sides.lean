import Rulebook.Proofs.Derivation

/-!
# The sides of a comparison

Two amounts are compared in the unit of the left one, so that exchanging the
sides exchanges one conversion for the other. Both find the same order if they
are exact. If one is rounded they need not: twelve months are a year, but a year
is not twelve months, since the size of a month in years is rounded.

* `ordered_amounts`: amounts are compared in the unit of the left one.
* `sidesAgree_iff_of_ordered`: the sides agree just if the same order is found from both.
* `sidesAgree_amounts_iff`: what that means for the two conversions.
-/

namespace Rulebook

namespace Decimal

/-- The order of two decimals. -/
def compare (a b : Decimal) : Ordering :=
  compareOfLessAndEq a.value b.value

theorem swap_compare (a b : Decimal) : (a.compare b).swap = b.compare a :=
  (compareOfLessAndEq_eq_swap Rat.le_antisymm (fun _ _ => Rat.le_total) Rat.not_le).symm

/-- Numbers that are scaled by the same ratio stay in order. -/
theorem compare_eq_of_mul {a b c d : Decimal} {ratio : Rat} (hratio : 0 < ratio)
    (hac : a.value = c.value * ratio) (hbd : b.value = d.value * ratio) :
    a.compare b = c.compare d := by
  have hlt : c.value * ratio < d.value * ratio ↔ c.value < d.value :=
    Rat.mul_lt_mul_right hratio
  have heq : c.value * ratio = d.value * ratio ↔ c.value = d.value := by
    have hne := Rat.ne_of_gt hratio
    grind
  simp only [compare, compareOfLessAndEq, hac, hbd, hlt, heq]

end Decimal

namespace Operator

/-- What an operator that compares numbers asks of their order. -/
def orderTest? : Operator → Option (Ordering → Bool)
  | comparison c => some c.holds
  | equality .eq => some (· == .eq)
  | equality .neq => some (· != .eq)
  | _ => none

variable {op : Operator} {test : Ordering → Bool}

/-- Values are compared by their order. -/
theorem apply_of_compare? (h : op.orderTest? = some test) {v w : Value} {o : Ordering}
    (hcompare : v.compare? w = some o) :
    op.apply (.value v) (.value w) = .ok (.boolean (test o)) := by
  have heq : (v == w) = (o == .eq) := by
    rw [Bool.eq_iff_iff, beq_iff_eq, beq_iff_eq, ← Value.compare?_eq_some_eq_iff, hcompare,
      Option.some_inj]
  unfold orderTest? at h
  split at h <;> cases h
  · simp only [apply, Outcome.orZero?, hcompare]
  · exact congrArg (Except.ok ∘ Outcome.boolean) heq
  · exact congrArg (Except.ok ∘ Outcome.boolean ∘ Bool.not) heq

theorem combineKnown_numbers (h : op.orderTest? = some test) (m n : Decimal) :
    op.combineKnown (.number m) (.number n) = pure (.boolean (test (m.compare n))) := by
  rw [combineKnown_number]
  exact applyOrWarn_of_ok (apply_of_compare? h rfl)

theorem isArithmetic_of_orderTest? (h : op.orderTest? = some test) : op.isArithmetic = false := by
  unfold orderTest? at h
  split at h <;> cases h <;> rfl

/-- Numbers in one unit are compared as they are. -/
theorem outcome_calculate_numbers (h : op.orderTest? = some test) {left right : Quantity}
    {m n : Decimal} {unit unit' : Option Measure}
    (hunits : left.reconcile? right = .ok (⟨.number m, unit⟩, ⟨.number n, unit'⟩)) :
    (op.calculate left right).result.outcome = .boolean (test (m.compare n)) := by
  have hop := isArithmetic_of_orderTest? h
  rw [outcome_calculate_of_isArithmetic_eq_false hop,
    reconcile_of_ok (isMultiplicative_of_isArithmetic_eq_false hop) hunits, Logged.result_pure,
    combineKnown_numbers h, Logged.result_pure]

/-- No value decides alone how it compares. -/
theorem undecided_of_orderTest? (h : op.orderTest? = some test) (v : Value) :
    op.decidedByLeft? (.value v) = none ∧ op.decidedByRight? (.value v) = none := by
  unfold orderTest? at h
  split at h <;> cases h
  · rename_i c
    cases c <;> exact ⟨rfl, rfl⟩
  · exact ⟨rfl, rfl⟩
  · exact ⟨rfl, rfl⟩

end Operator

/-! ## Amounts -/

/-- A number in a unit. -/
def Expr.amount (n : Decimal) (u : Measure) : Expr :=
  .constant ⟨.number n, some u⟩

namespace Quantity

theorem reconcile?_amounts {u v : Measure} (hu : u ≠ .empty) (hv : v ≠ .empty) {b f inU : Decimal}
    (hfactor : v.factor u = .ok f) (hb : b.mul? f = some inU) (a : Decimal) :
    (normal ⟨.number a, some u⟩).reconcile? (normal ⟨.number b, some v⟩) =
      .ok (⟨.number a, some u⟩, ⟨.number inU, some u⟩) := by
  have hnormal {w : Measure} (h : w ≠ .empty) : Measure.normal (some w) = some w :=
    Measure.normal_eq_some_iff.2 ⟨rfl, h⟩
  have hconvert : convert ⟨.number b, some v⟩ u = .ok ⟨.number inU, some u⟩ := by
    simp only [convert, Outcome.convert, hnormal hv, hfactor, Outcome.number, hb]
  simp only [normal, hnormal hu, hnormal hv, reconcile?, hconvert]

/-- A number without unit takes the unit of the other one as it is. -/
theorem reconcile?_amounts_of_empty {u v : Measure} (h : u = .empty ∨ v = .empty) (a b : Decimal) :
    ∃ unit, (normal ⟨.number a, some u⟩).reconcile? (normal ⟨.number b, some v⟩) =
      .ok (⟨.number a, unit⟩, ⟨.number b, unit⟩) := by
  have hunits : Measure.normal (some u) = none ∨ Measure.normal (some v) = none := by
    rcases h with rfl | rfl
    · exact .inl rfl
    · exact .inr rfl
  exact ⟨_, reconcile?_of_unit (hunits.imp_right .inl) _ _⟩

end Quantity

namespace Questionnaire

variable {q : Questionnaire} {left right : Expr} {o o' : Ordering}

/-- The outcome of an operator between two expressions. -/
def outcomeOf (q : Questionnaire) (op : Operator) (left right : Expr) : Outcome :=
  (q.evaluate (.binary op left right)).result.outcome

/-- Whether the expressions are compared as numbers in that order. -/
def Ordered (q : Questionnaire) (left right : Expr) (o : Ordering) : Prop :=
  ∀ op test, Operator.orderTest? op = some test → q.outcomeOf op left right = .boolean (test o)

/-- Whether comparing the expressions does not depend on the side on which they stand. -/
structure SidesAgree (q : Questionnaire) (left right : Expr) : Prop where
  eq : q.outcomeOf .eq left right = q.outcomeOf .eq right left
  lt : q.outcomeOf .lt left right = q.outcomeOf .gt right left
  lte : q.outcomeOf .lte left right = q.outcomeOf .gte right left

theorem ordered_amounts {a b m n : Decimal} {u v : Measure} {unit unit' : Option Measure}
    (hunits : (Quantity.normal ⟨.number a, some u⟩).reconcile? (.normal ⟨.number b, some v⟩) =
      .ok (⟨.number m, unit⟩, ⟨.number n, unit'⟩)) :
    q.Ordered (.amount a u) (.amount b v) (m.compare n) := by
  intro op test h
  have hl := (Operator.undecided_of_orderTest? h (.number a)).1
  have hr := (Operator.undecided_of_orderTest? h (.number b)).2
  have hderived : q.Evaluates q.settings.maxDepth (.binary op (.amount a u) (.amount b v)) _ _ :=
    .calculated (.constant _) hl (.constant _) hr rfl
  rw [outcomeOf, evaluate, hderived.evaluate_eq]
  exact Operator.outcome_calculate_numbers h hunits

/-- Sides agree just if the order on one side is the order on the other side, turned around. -/
theorem sidesAgree_iff_of_ordered (hl : q.Ordered left right o) (hr : q.Ordered right left o') :
    q.SidesAgree left right ↔ o = o'.swap := by
  have hboolean (b b' : Bool) : Outcome.boolean b = .boolean b' ↔ b = b' := by
    rw [Outcome.boolean, Outcome.boolean, Outcome.value.injEq, Value.boolean.injEq]
  have hiff : q.SidesAgree left right ↔
      (o == .eq) = (o' == .eq) ∧ Comparison.lt.holds o = Comparison.gt.holds o' ∧
        Comparison.lte.holds o = Comparison.gte.holds o' := by
    rw [← hboolean, ← hboolean, ← hboolean, ← hl .eq _ rfl, ← hr .eq _ rfl, ← hl .lt _ rfl,
      ← hr .gt _ rfl, ← hl .lte _ rfl, ← hr .gte _ rfl]
    exact ⟨fun h => ⟨h.eq, h.lt, h.lte⟩, fun h => ⟨h.1, h.2.1, h.2.2⟩⟩
  rw [hiff]
  cases o <;> cases o' <;> decide

/-- Amounts are compared alike from both sides just if both conversions leave them in the same
order, as they do if both are exact. A number without unit is compared with the other one as it
is. -/
theorem sidesAgree_amounts_iff {q : Questionnaire} {a b f g inU inV : Decimal} {u v : Measure}
    (hf : v.factor u = .ok f) (hg : u.factor v = .ok g) (hb : b.mul? f = some inU)
    (ha : a.mul? g = some inV) :
    (q.SidesAgree (.amount a u) (.amount b v) ↔
        u = .empty ∨ v = .empty ∨ a.compare inU = inV.compare b) ∧
      ∀ ratio : Rat, 0 < ratio → inU.value = b.value * ratio → a.value = inV.value * ratio →
        q.SidesAgree (.amount a u) (.amount b v) := by
  have hiff : q.SidesAgree (.amount a u) (.amount b v) ↔
      u = .empty ∨ v = .empty ∨ a.compare inU = inV.compare b := by
    by_cases hempty : u = .empty ∨ v = .empty
    · obtain ⟨unit, hleft⟩ := Quantity.reconcile?_amounts_of_empty hempty a b
      obtain ⟨unit', hright⟩ := Quantity.reconcile?_amounts_of_empty hempty.symm b a
      rw [sidesAgree_iff_of_ordered (ordered_amounts hleft) (ordered_amounts hright),
        Decimal.swap_compare, ← or_assoc]
      exact iff_of_true rfl (.inl hempty)
    · obtain ⟨hu, hv⟩ := not_or.1 hempty
      have hleft := Quantity.reconcile?_amounts hu hv hf hb a
      have hright := Quantity.reconcile?_amounts hv hu hg ha b
      rw [sidesAgree_iff_of_ordered (ordered_amounts hleft) (ordered_amounts hright),
        Decimal.swap_compare, ← or_assoc, or_iff_right hempty]
  refine ⟨hiff, fun ratio hratio hinU hinV => hiff.2 (.inr (.inr ?_))⟩
  exact Decimal.compare_eq_of_mul hratio hinV hinU

/-- Four quarters are a year, and a year is four quarters. -/
theorem sidesAgree_quarters_year :
    let q : Questionnaire := { rules := ∅ }
    let quarter : Measure := .atom "quarter"
    let year : Measure := .atom "year"
    year.factor quarter = .ok (.ofParts 4 0) ∧ quarter.factor year = .ok (.ofParts 25 2) ∧
      q.SidesAgree (.amount (.ofParts 4 0) quarter) (.amount .one year) := by
  intro q quarter year
  have hf : year.factor quarter = .ok (.ofParts 4 0) := Measure.factor_eq_ok (by decide +kernel)
  have hg : quarter.factor year = .ok (.ofParts 25 2) := Measure.factor_eq_ok (by decide +kernel)
  have hb : Decimal.one.mul? (.ofParts 4 0) = some (.ofParts 4 0) := by decide +kernel
  have ha : (Decimal.ofParts 4 0).mul? (.ofParts 25 2) = some .one := by decide +kernel
  refine ⟨hf, hg, (sidesAgree_amounts_iff hf hg hb ha).1.2 (.inr (.inr ?_))⟩
  decide +kernel

/-- Twelve months are a year, but a year is not twelve months: the size of a month in years is
rounded to a little less than a twelfth. -/
theorem not_sidesAgree_months_year :
    let q : Questionnaire := { rules := ∅ }
    let months : Expr := .amount (.ofParts 12 0) (.atom "month")
    let year : Expr := .amount .one (.atom "year")
    q.outcomeOf .eq months year = .boolean true ∧ q.outcomeOf .eq year months = .boolean false ∧
      ¬ q.SidesAgree months year := by
  intro q months year
  have hmonths : q.outcomeOf .eq months year = .boolean true := by decide +kernel
  have hyear : q.outcomeOf .eq year months = .boolean false := by decide +kernel
  refine ⟨hmonths, hyear, fun h => ?_⟩
  have heq := h.eq
  rw [hmonths, hyear] at heq
  cases heq

end Questionnaire

end Rulebook
