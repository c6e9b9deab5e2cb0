import Rulebook.Proofs.Sides

/-!
# Comparisons

All comparisons of two values ask for the same order: that of the values in one
unit or, if there is none, as they are, where two texts on the calendar are
compared as dates. Values of different types have no order, and are not the
same.

* `Value.isSome_order?_iff`: values of one type are ordered.
* `exists_outcome_calculate`: all comparisons are of the same two values.
* `result_combineKnown_of_order?`: the order of these answers every comparison.
* `result_combineKnown_comparison`, `result_combineKnown_equality`: what is not ordered.
* `comparisons_agree`: the six comparisons of two operands.
-/

namespace Rulebook

/-! ## The order of two values -/

namespace Value

/-- Two values as they are compared: two texts on the calendar are dates. -/
def asCompared (v w : Value) : Value × Value :=
  match (Outcome.value v).dateText?, (Outcome.value w).dateText? with
  | some a, some b =>
    match Date.parseBoth a b with
    | .ok (a, b) => (date a, date b)
    | .error _ => (v, w)
  | _, _ => (v, w)

/-- The order in which two values are compared. -/
def order? (v w : Value) : Option Ordering :=
  (v.asCompared w).1.compare? (v.asCompared w).2

theorem type_of_dateText? {v : Value} {t : String} (h : (Outcome.value v).dateText? = some t) :
    v.type = .text := by
  cases v with
  | text t => rfl
  | number n => cases h
  | boolean b => cases h
  | date d => cases h

/-- Reading texts as dates makes no types the same, and none different. -/
theorem type_asCompared (v w : Value) :
    (v.asCompared w).1.type = (v.asCompared w).2.type ↔ v.type = w.type := by
  unfold asCompared
  split
  · rename_i hv hw
    have htexts : v.type = w.type := (type_of_dateText? hv).trans (type_of_dateText? hw).symm
    split
    · exact iff_of_true rfl htexts
    · exact Iff.rfl
  · exact Iff.rfl

/-- Just the values of one type are ordered. -/
theorem isSome_order?_iff (v w : Value) : (v.order? w).isSome ↔ v.type = w.type := by
  rw [order?, isSome_compare?_iff, type_asCompared]

end Value

/-! ## Values in one unit -/

/-- Two quantities in one unit, or as they are if there is none. -/
def Quantity.inOneUnit (left right : Quantity) : Quantity × Quantity :=
  match left.reconcile? right with
  | .ok operands => operands
  | .error _ => (left, right)

/-- The order in which two quantities are compared. -/
def Quantity.order? (left right : Quantity) : Option Ordering := do
  let v ← (left.inOneUnit right).1.outcome.value?
  let w ← (left.inOneUnit right).2.outcome.value?
  v.order? w

theorem Outcome.SameButAmount.exists_value {v : Value} {o : Outcome}
    (h : (Outcome.value v).SameButAmount o) : ∃ v', o = .value v' ∧ v'.type = v.type := by
  cases h with
  | refl => exact ⟨v, rfl, rfl⟩
  | amounts m n => exact ⟨.number n, rfl, rfl⟩

namespace Operator

variable {op : Operator} {test : Ordering → Bool} {v w : Value} {left right : Quantity}

theorem result_reconcile (h : op.isMultiplicative = false) (left right : Quantity) :
    (op.reconcile left right).result = left.inOneUnit right := by
  rw [reconcile, h, Quantity.inOneUnit]
  cases left.reconcile? right <;> rfl

/-- An operator is applied to two values as they are compared. -/
theorem result_combineKnown_value (op : Operator) (v w : Value) :
    (op.combineKnown (.value v) (.value w)).result =
      (op.applyOrWarn (.value (v.asCompared w).1) (.value (v.asCompared w).2)).result := by
  rw [combineKnown_value, Value.asCompared]
  cases (Outcome.value v).dateText? with
  | none => rfl
  | some a =>
    cases (Outcome.value w).dateText? with
    | none => rfl
    | some b =>
      simp only
      cases Date.parseBoth a b <;> rfl

/-- All operators that compare two values combine the same two, of the types that they had. -/
theorem exists_outcome_calculate (hleft : left.outcome = .value v)
    (hright : right.outcome = .value w) :
    ∃ v' w' : Value, (v'.type = w'.type ↔ v.type = w.type) ∧
      left.order? right = v'.order? w' ∧
      ∀ op test, orderTest? op = some test →
        (op.calculate left right).result.outcome =
          (op.combineKnown (.value v') (.value w')).result := by
  have hsame := sameButAmount_reconcile .eq left right
  rw [result_reconcile rfl, hleft, hright] at hsame
  obtain ⟨v', hv', htypev⟩ := hsame.1.exists_value
  obtain ⟨w', hw', htypew⟩ := hsame.2.exists_value
  refine ⟨v', w', by rw [htypev, htypew], ?_, fun op test h => ?_⟩
  · rw [Quantity.order?, hv', hw']
    rfl
  · have hop := isArithmetic_of_orderTest? h
    rw [outcome_calculate_of_isArithmetic_eq_false hop,
      result_reconcile (isMultiplicative_of_isArithmetic_eq_false hop), hv', hw']

/-- The order of two values answers every comparison of them. -/
theorem result_combineKnown_of_order? (h : op.orderTest? = some test) {o : Ordering}
    (ho : v.order? w = some o) :
    (op.combineKnown (.value v) (.value w)).result = .boolean (test o) := by
  rw [result_combineKnown_value, applyOrWarn_of_ok (apply_of_compare? h ho)]
  rfl

/-- What is not ordered does not come before or after anything. -/
theorem result_combineKnown_comparison (c : Comparison) (ho : v.order? w = none) :
    ((comparison c).combineKnown (.value v) (.value w)).result = .inapplicable := by
  have hmismatch : (comparison c).apply (.value (v.asCompared w).1) (.value (v.asCompared w).2) =
      .error ((comparison c).mismatch (v.asCompared w).1 (v.asCompared w).2) := by
    rw [Value.order?] at ho
    simp only [apply, Outcome.orZero?, ho]
  rw [result_combineKnown_value, applyOrWarn_of_error hmismatch]

/-- What is not ordered is not the same. -/
theorem result_combineKnown_equality (e : Equality) (ho : v.order? w = none) :
    ((equality e).combineKnown (.value v) (.value w)).result = .boolean (e == .neq) := by
  have hne : (v.asCompared w).1 ≠ (v.asCompared w).2 := fun heq => by
    rw [Value.order?, (Value.compare?_eq_some_eq_iff _ _).2 heq] at ho
    cases ho
  have hholds : e.holds (v.asCompared w).1 (v.asCompared w).2 = (e == .neq) := by
    cases e
    · exact beq_eq_false_iff_ne.2 hne
    · exact bne_iff_ne.2 hne
  rw [result_combineKnown_value]
  exact congrArg Outcome.boolean hholds

end Operator

/-! ## Comparing two operands -/

namespace Expr

/-- How the operators that compare answer for operands in one order: just one of the operands comes
before the other, or they are the same. -/
structure AnswersFor (outcome : Operator → Outcome) (o : Ordering) : Prop where
  lt : outcome .lt = .boolean (o == .lt)
  eq : outcome .eq = .boolean (o == .eq)
  gt : outcome .gt = .boolean (o == .gt)
  lte : outcome .lte = .boolean (o == .lt || o == .eq)
  gte : outcome .gte = .boolean (o == .eq || o == .gt)
  neq : outcome .neq = .boolean (!(o == .eq))

variable {resolve : String → Logged Node} {left right : Expr} {v w : Value}

/-- The order of two quantities, as it stands in the six answers. -/
theorem answersFor_of_orderTest? {outcome : Operator → Outcome} {o : Ordering}
    (h : ∀ op test, Operator.orderTest? op = some test → outcome op = .boolean (test o)) :
    AnswersFor outcome o where
  lt := h .lt _ rfl
  eq := h .eq _ rfl
  gt := h .gt _ rfl
  lte := (h .lte _ rfl).trans (by cases o <;> rfl)
  gte := (h .gte _ rfl).trans (by cases o <;> rfl)
  neq := h .neq _ rfl

/-- No value decides a comparison, so that it is calculated. -/
theorem outcome_evaluate_compared
    (hleft : (left.evaluate resolve).result.outcome = .value v)
    (hright : (right.evaluate resolve).result.outcome = .value w) {op : Operator}
    {test : Ordering → Bool} (h : op.orderTest? = some test) (symbol : String) :
    ((operation op symbol left right).evaluate resolve).result.outcome =
      (op.calculate (left.evaluate resolve).result.quantity
        (right.evaluate resolve).result.quantity).result.outcome := by
  rw [outcome_evaluate_operation, hleft, hright, (Operator.undecided_of_orderTest? h v).1,
    (Operator.undecided_of_orderTest? h w).2]
  rfl

/-- If two operands come to values of one type, all comparisons of them answer for one order: just
one of them comes before the other, or they are the same. That is the order of the values in one
unit, or as they are if there is none. Values of different types are not the same, and no comparison
of which comes first applies to them. -/
theorem comparisons_agree
    (hleft : (left.evaluate resolve).result.outcome = .value v)
    (hright : (right.evaluate resolve).result.outcome = .value w) (symbol : Operator → String) :
    let outcome (op : Operator) : Outcome :=
      ((operation op (symbol op) left right).evaluate resolve).result.outcome
    (v.type = w.type → ∃ o, AnswersFor outcome o ∧
        (left.evaluate resolve).result.quantity.order? (right.evaluate resolve).result.quantity =
          some o) ∧
      (v.type ≠ w.type → (∀ c, outcome (.comparison c) = .inapplicable) ∧
        outcome .eq = .boolean false ∧ outcome .neq = .boolean true) := by
  intro outcome
  obtain ⟨v', w', htype, horder, hcalculate⟩ := Operator.exists_outcome_calculate hleft hright
  have houtcome (op : Operator) (test : Ordering → Bool) (h : op.orderTest? = some test) :
      outcome op = (op.combineKnown (.value v') (.value w')).result :=
    (outcome_evaluate_compared hleft hright h _).trans (hcalculate op test h)
  constructor
  · intro hsame
    obtain ⟨o, ho⟩ := Option.isSome_iff_exists.1 ((v'.isSome_order?_iff w').2 (htype.2 hsame))
    refine ⟨o, answersFor_of_orderTest? fun op test h => ?_, horder.trans ho⟩
    rw [houtcome op test h, Operator.result_combineKnown_of_order? h ho]
  · intro hdiffer
    have ho : v'.order? w' = none := by
      rw [← Option.not_isSome_iff_eq_none, Value.isSome_order?_iff, htype]
      exact hdiffer
    refine ⟨fun c => ?_, ?_, ?_⟩
    · rw [houtcome (.comparison c) _ rfl, Operator.result_combineKnown_comparison c ho]
    · rw [houtcome .eq _ rfl, Operator.result_combineKnown_equality .eq ho]
      rfl
    · rw [houtcome .neq _ rfl, Operator.result_combineKnown_equality .neq ho]
      rfl

/-- The last of February comes before a deadline on the first of March, though its text does not, in
whatever units. It comes neither before nor after a number. -/
theorem comparisons_agree_deadline :
    let resolve (name : String) : Logged Node := pure (.leaf (.unknown name) (.waiting name none))
    let last : Expr := constant ⟨.value (.text "28/02/2021"), some (.atom "day")⟩
    let deadline : Expr := constant ⟨.value (.text "01/03/2021"), some (.atom "kg")⟩
    let outcome (op : Operator) (right : Expr) : Outcome :=
      ((binary op last right).evaluate resolve).result.outcome
    (last.evaluate resolve).result.outcome = .value (.text "28/02/2021") ∧
      (deadline.evaluate resolve).result.outcome = .value (.text "01/03/2021") ∧
      AnswersFor (outcome · deadline) .lt ∧ "01/03/2021" < "28/02/2021" ∧
      outcome .lte (number .one) = .inapplicable ∧
      outcome .neq (number .one) = .boolean true := by
  intro resolve last deadline outcome
  have hlast : (last.evaluate resolve).result.outcome = .value (.text "28/02/2021") := rfl
  have hdeadline : (deadline.evaluate resolve).result.outcome = .value (.text "01/03/2021") := rfl
  have hnumber : ((number .one).evaluate resolve).result.outcome = .value (.number .one) := rfl
  obtain ⟨o, hanswers, ho⟩ := (comparisons_agree hlast hdeadline Operator.symbol).1 rfl
  have hlt : (last.evaluate resolve).result.quantity.order?
      (deadline.evaluate resolve).result.quantity = some .lt := by decide +kernel
  cases ho.symm.trans hlt
  obtain ⟨horderings, -, hneq⟩ := (comparisons_agree hlast hnumber Operator.symbol).2 (by decide)
  exact ⟨hlast, hdeadline, hanswers, by decide +kernel, horderings .lte, hneq⟩

end Expr

end Rulebook
