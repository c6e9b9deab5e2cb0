import Rulebook.Proofs.Accounting

/-!
# Answers that a result does not wait for

An answer to a name that a result does not wait for leaves the result as it is.
Operands that were dropped may come to something else then, but an operation
that was decided is decided the same way again. Products and quotients are the
exception: a right operand that decides one while the left operand is still open
is overruled by an answer that decides it from the left.

* `eq_none_or_eq_of_decidedByRight?`: other operations are decided alike from both sides.
* `Evaluates.comesTo_withAnswer`: an answer that is not waited for changes no quantity.
* `quantity_withAnswer`: nor does it change that of a whole evaluation.
-/

namespace Rulebook

/-- The operands of an operation that is no product and no quotient decide it alike. -/
theorem Operator.eq_none_or_eq_of_decidedByRight? {op : Operator} {right o : Outcome}
    (hop : op.isMultiplicative = false) (h : op.decidedByRight? right = some o) (left : Outcome) :
    op.decidedByLeft? left = none ∨ op.decidedByLeft? left = some o := by
  have hguard (b : Bool) : (if b then some o else none) = none ∨
      (if b then some o else none) = some o := by
    cases b
    · exact .inl rfl
    · exact .inr rfl
  unfold decidedByRight? at h
  split at h <;> simp only [Option.ite_none_right_eq_some, Option.some.injEq, reduceCtorEq] at h
  · cases hop
  · cases hop
  all_goals obtain ⟨-, rfl⟩ := h
  all_goals exact hguard _

/-- Whether the node is a product or a quotient that its right operand decided while the left one
was open. -/
def Node.decidedBlindly : Node → Bool
  | operation op _ _ left right =>
    op.isMultiplicative && left.outcome.isIndeterminate && (op.decidedByRight? right.outcome).isSome
  | _ => false

namespace Questionnaire

variable {q : Questionnaire} {depth : Nat} {e : Expr} {n : Node} {events : List Event}
  {name other : String}

/-! ## Names -/

theorem ne_of_standing_eq_answered {rule : Rule} {answer : Answer}
    (hs : q.standing other = .answered rule answer) (hanswer : q.situation[name]? = none) :
    other ≠ name := by
  rintro rfl
  rw [(standing_eq_answered_iff.1 hs).2] at hanswer
  cases hanswer

theorem ne_of_standing_eq_computed {rule : Rule} {formula : Expr}
    (hs : q.standing other = .computed rule formula)
    (hrule : ∀ rule, q.rules[name]? = some rule → rule.formula = none) : other ≠ name := by
  rintro rfl
  obtain ⟨hother, -, hformula⟩ := standing_eq_computed_iff.1 hs
  rw [hrule rule hother] at hformula
  cases hformula

/-! ## Quantities -/

/-- Whether the expression comes to the quantity, where up to `depth` formulas may be nested. -/
def ComesTo (q : Questionnaire) (depth : Nat) (e : Expr) (c : Quantity) : Prop :=
  ∃ n events, q.Evaluates depth e n events ∧ n.quantity = c

theorem Evaluates.comesTo (h : q.Evaluates depth e n events) : q.ComesTo depth e n.quantity :=
  ⟨n, events, h, rfl⟩

theorem quantity_evaluate {c : Quantity} (h : q.ComesTo q.settings.maxDepth e c) :
    (q.evaluate e).result.quantity = c := by
  obtain ⟨n, events, hn, hc⟩ := h
  rw [evaluate, hn.evaluate_eq, hc]

variable {op : Operator} {symbol : String} {left right : Expr}

theorem comesTo_decidedByLeft {l : Quantity} {o : Outcome} (hleft : q.ComesTo depth left l)
    (hd : op.decidedByLeft? l.outcome = some o) :
    q.ComesTo depth (.operation op symbol left right) ⟨o, none⟩ := by
  obtain ⟨l, events, hl, rfl⟩ := hleft
  exact ⟨_, _, .decidedByLeft hl hd, rfl⟩

/-- A right operand that decides an operation decides it over any left operand that does not decide
otherwise. -/
theorem comesTo_decidedByRight {l r : Quantity} {o : Outcome} (hleft : q.ComesTo depth left l)
    (hright : q.ComesTo depth right r)
    (hl : op.decidedByLeft? l.outcome = none ∨ op.decidedByLeft? l.outcome = some o)
    (hr : op.decidedByRight? r.outcome = some o) :
    q.ComesTo depth (.operation op symbol left right) ⟨o, none⟩ := by
  rcases hl with hl | hl
  · obtain ⟨l, events, hn, rfl⟩ := hleft
    obtain ⟨r, events', hm, rfl⟩ := hright
    exact ⟨_, _, .decidedByRight hn hl hm hr, rfl⟩
  · exact comesTo_decidedByLeft hleft hl

theorem comesTo_calculated {l r : Quantity} (hleft : q.ComesTo depth left l)
    (hright : q.ComesTo depth right r) (hl : op.decidedByLeft? l.outcome = none)
    (hr : op.decidedByRight? r.outcome = none) :
    q.ComesTo depth (.operation op symbol left right) (op.calculate l r).result.normal := by
  obtain ⟨l, events, hn, rfl⟩ := hleft
  obtain ⟨r, events', hm, rfl⟩ := hright
  exact ⟨_, _, .calculated hn hl hm hr rfl, rfl⟩

/-- A rule comes to the quantity of its formula, in its own unit if that one has none. -/
theorem comesTo_rule {rule : Rule} {formula : Expr} {c : Quantity}
    (hs : q.standing other = .computed rule formula) (h : q.ComesTo depth formula c) :
    q.ComesTo (depth + 1) (.reference other) ⟨c.outcome, c.unit.or rule.unit⟩ := by
  obtain ⟨n, events, hn, rfl⟩ := h
  exact ⟨_, _, .rule hs hn, rfl⟩

/-! ## Another answer -/

/-- An answer to a name that the node does not wait for changes no quantity, if no product and no
quotient on the way was decided blindly. -/
theorem Evaluates.comesTo_withAnswer (h : q.Evaluates depth e n events)
    (hanswer : q.situation[name]? = none)
    (hrule : ∀ rule, q.rules[name]? = some rule → rule.formula = none)
    (hblind : ∀ m ∈ n.parts, m.decidedBlindly = false) (hmissing : n.missing.weight name = 0)
    (answer : Answer) : (q.withAnswer name answer).ComesTo depth e n.quantity := by
  induction h with
  | constant c => exact (Evaluates.constant c).comesTo
  | unknown hs =>
    rw [← standing_withAnswer_of_ne (Missing.weight_single_eq_zero_iff.1 hmissing) answer] at hs
    exact (Evaluates.unknown hs).comesTo
  | given hs hv =>
    rw [← standing_withAnswer_of_ne (ne_of_standing_eq_answered hs hanswer) answer] at hs
    exact (Evaluates.given hs hv).comesTo
  | unreadable hs hv =>
    rw [← standing_withAnswer_of_ne (ne_of_standing_eq_answered hs hanswer) answer] at hs
    exact (Evaluates.unreadable hs hv).comesTo
  | question hs =>
    rw [← standing_withAnswer_of_ne (Missing.weight_single_eq_zero_iff.1 hmissing) answer] at hs
    exact (Evaluates.question hs).comesTo
  | cutOff hs =>
    rw [← standing_withAnswer_of_ne (ne_of_standing_eq_computed hs hrule) answer] at hs
    exact (Evaluates.cutOff hs).comesTo
  | rule hs _ ih =>
    rw [← standing_withAnswer_of_ne (ne_of_standing_eq_computed hs hrule) answer] at hs
    exact comesTo_rule hs (ih (Node.forall_mem_parts_rule.1 hblind).2 hmissing)
  | decidedByLeft _ hd ih =>
    exact comesTo_decidedByLeft (ih (Node.forall_mem_parts_decided.1 hblind).2 hmissing) hd
  | @decidedByRight depth op _ left _ l r o _ _ hleft hl _ hr ihl ihr =>
    obtain ⟨hself, hpartsl, hpartsr⟩ := Node.forall_mem_parts_operation.1 hblind
    have hright := ihr hpartsr hmissing
    by_cases hopen : l.outcome = .indeterminate
    · -- The left operand may change, but no longer decides otherwise.
      obtain ⟨l', events', hl'⟩ := exists_evaluates (q.withAnswer name answer) depth left
      have hop : op.isMultiplicative = false := by
        simpa [Node.decidedBlindly, hopen, hr, Outcome.isIndeterminate] using hself
      refine comesTo_decidedByRight hl'.comesTo hright ?_ hr
      exact Operator.eq_none_or_eq_of_decidedByRight? hop hr _
    · -- A left operand that has come to something waits for nothing, so that it stays.
      have hsettled := (hleft.accounted l l.self_mem_parts).settled hopen
      have hweight : l.missing.weight name = 0 := by rw [hsettled, Missing.weight_empty]
      exact comesTo_decidedByRight (ihl hpartsl hweight) hright (.inl hl) hr
  | @calculated depth op symbol left right l r c _ _ _ _ hl _ hr hc ihl ihr =>
    obtain ⟨-, hpartsl, hpartsr⟩ := Node.forall_mem_parts_operation.1 hblind
    have hweights : (Missing.mergeAll [l.missing, r.missing]).weight name = 0 := hmissing
    rw [Missing.weight_mergeAll_pair] at hweights
    have hleft := ihl hpartsl (Nat.eq_zero_of_add_eq_zero_right hweights)
    have hright := ihr hpartsr (Nat.eq_zero_of_add_eq_zero_left hweights)
    have hcalculated : (q.withAnswer name answer).ComesTo depth (.operation op symbol left right)
        (op.calculate l.quantity r.quantity).result.normal := comesTo_calculated hleft hright hl hr
    rw [hc] at hcalculated
    exact hcalculated

/-- An answer to a question that the result does not wait for changes neither its outcome nor its
unit. The name may also be one that no rule has. -/
theorem quantity_withAnswer {q : Questionnaire} {e : Expr} {name : String}
    (hanswer : q.situation[name]? = none)
    (hrule : ∀ rule, q.rules[name]? = some rule → rule.formula = none)
    (hmissing : (q.evaluate e).result.missing.contains name = false)
    (hblind : ∀ n ∈ (q.evaluate e).result.parts, n.decidedBlindly = false) (answer : Answer) :
    ((q.withAnswer name answer).evaluate e).result.quantity = (q.evaluate e).result.quantity := by
  have hweight : (q.evaluate e).result.missing.weight name = 0 := by
    rw [← Bool.not_eq_true, Missing.contains_iff, Decidable.not_not] at hmissing
    exact hmissing
  exact quantity_evaluate <|
    (evaluates_evaluate q e).comesTo_withAnswer hanswer hrule hblind hweight answer

/-- Who does not work gets nothing, so that the residence that was asked for first does not
matter. -/
theorem quantity_withAnswer_conjunction :
    let q : Questionnaire := {
      rules := Rules.ofList [("resident", .question), ("worker", .question)]
      situation := (∅ : Situation).insert "worker" (.text "no") }
    let e : Expr := .binary .and (.reference "resident") (.reference "worker")
    q.situation["resident"]? = none ∧ (q.evaluate e).result.missing.contains "resident" = false ∧
      ((q.withAnswer "resident" (.text "yes")).evaluate e).result.quantity =
        (q.evaluate e).result.quantity := by
  intro q e
  have hanswer : q.situation["resident"]? = none := by decide
  have hasked : q.rules["resident"]? = some .question := rfl
  have hmissing : (q.evaluate e).result.missing.contains "resident" = false := by decide
  refine ⟨hanswer, hmissing, quantity_withAnswer hanswer (fun rule hrule => ?_) hmissing ?_ _⟩
  · rw [hasked] at hrule
    cases hrule
    rfl
  · decide

/-- What does not apply decides a product over an open factor, but not over one that is zero. -/
example :
    let q : Questionnaire := { rules := Rules.ofList [("children", .question)] }
    let e : Expr := .binary .mul (.reference "children") .inapplicable
    (q.evaluate e).result.isComplete = true ∧ (q.evaluate e).result.outcome = .inapplicable ∧
      ((q.withAnswer "children" (.number .zero)).evaluate e).result.outcome = .number .zero := by
  decide +kernel

end Questionnaire

end Rulebook
