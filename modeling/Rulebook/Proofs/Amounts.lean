import Rulebook.Proofs.Locality
import Rulebook.Proofs.Weights

/-!
# Units do not depend on amounts

Units are settled before amounts are: a question has its unit whether or not it
is answered, and a calculation gets its unit from those of its operands, whether
its outcome is still open, overflows, or its operands could not be brought to
one unit. Only an operation that one operand decides has no unit for the reason
of an amount.

* `Operator.unit_calculate_congr`: the unit of a calculation depends on units only.
* `Evaluates.sameUnits`: amounts change neither the shape of a tree nor its units.
* `evaluate_sameUnits`: so it is for whole evaluations.
-/

namespace Rulebook

/-! ## Units of calculations -/

namespace Operator

/-- Reconciling the operands leaves the unit of the result as it is, whether or not it succeeds. -/
theorem unit?_reconcile (op : Operator) (left right : Quantity) :
    op.unit? (op.reconcile left right).result.1.unit (op.reconcile left right).result.2.unit =
      op.unit? left.unit right.unit := by
  cases hop : op.isMultiplicative with
  | true => rw [reconcile, if_pos hop, Logged.result_pure]
  | false =>
    rw [unit?_of_isMultiplicative_eq_false hop, unit?_of_isMultiplicative_eq_false hop]
    cases h : left.reconcile? right with
    | ok operands =>
      rw [reconcile_of_ok hop h, Logged.result_pure, (Quantity.reconciled_of_reconcile? h).or_unit]
    | error e => rw [reconcile_of_error hop h]

theorem unit_withUnit_congr {op : Operator} {left right left' right' : Option Measure}
    (h : op.unit? left right = op.unit? left' right') (o o' : Outcome) :
    (op.withUnit o left right).unit = (op.withUnit o' left' right').unit := by
  rcases op with a | c | e | c
  · cases a with
    | mul =>
      simp only [withUnit, h]
      cases mul.unit? left' right' with
      | none => rfl
      | some u => cases hpercent : u.hasPercent <;> simp [hpercent]
    | div => exact h
    | add => exact h
    | sub => exact h
  · rfl
  · rfl
  · rfl

/-- The unit of a calculation depends on the units of its operands only. -/
theorem unit_calculate_congr {op : Operator} {left right left' right' : Quantity}
    (hleft : left.unit = left'.unit) (hright : right.unit = right'.unit) :
    (op.calculate left right).result.unit = (op.calculate left' right').result.unit := by
  have hadjust : op.adjustment? left right = op.adjustment? left' right' := by
    unfold adjustment? Quantity.isPercent
    rw [hleft, hright]
  cases h : op.adjustment? left right with
  | some adjustment =>
    rw [calculate, calculate, ← hadjust, h]
    exact (unit_adjust ..).trans (hleft.trans (unit_adjust ..).symm)
  | none =>
    rw [calculate_of_adjustment?_eq_none h, calculate_of_adjustment?_eq_none (hadjust ▸ h)]
    refine unit_withUnit_congr ?_ _ _
    rw [unit?_reconcile, unit?_reconcile, hleft, hright]

end Operator

/-! ## Trees of units -/

namespace Node

/-- Whether two trees have the same shape, and the same unit at each node. -/
inductive SameUnits : Node → Node → Prop
  | leaf {origin origin' : Origin} {r r' : Result} : r.unit = r'.unit →
    SameUnits (leaf origin r) (leaf origin' r')
  | rule {name : String} {r r' : Result} {n n' : Node} : r.unit = r'.unit → SameUnits n n' →
    SameUnits (rule name r n) (rule name r' n')
  | decided {op : Operator} {symbol : String} {r r' : Result} {n n' : Node} : r.unit = r'.unit →
    SameUnits n n' → SameUnits (decided op symbol r n) (decided op symbol r' n')
  | operation {op : Operator} {symbol : String} {r r' : Result} {n n' m m' : Node} :
    r.unit = r'.unit → SameUnits n n' → SameUnits m m' →
    SameUnits (operation op symbol r n m) (operation op symbol r' n' m')

theorem SameUnits.unit_eq {n n' : Node} (h : n.SameUnits n') :
    n.quantity.unit = n'.quantity.unit := by
  cases h <;> assumption

theorem SameUnits.ruleNode {n n' : Node} (h : n.SameUnits n') (name : String) (rule : Rule) :
    (Questionnaire.ruleNode name rule n).SameUnits (Questionnaire.ruleNode name rule n') :=
  .rule (congrArg (·.or rule.unit) h.unit_eq) h

theorem SameUnits.calculated {l r l' r' : Node} (hl : l.SameUnits l') (hr : r.SameUnits r')
    (op : Operator) (symbol : String) :
    (Node.operation op symbol
      (Result.calculated (op.calculate l.quantity r.quantity).result l r) l r).SameUnits
    (Node.operation op symbol
      (Result.calculated (op.calculate l'.quantity r'.quantity).result l' r') l' r') :=
  .operation (congrArg Measure.normal (Operator.unit_calculate_congr hl.unit_eq hr.unit_eq)) hl hr

/-- Whether the node is an operation that one operand decided. -/
def isDecided : Node → Bool
  | decided _ _ _ _ => true
  | n => n.isDecidedByRight

theorem isDecided_of_decidedByRight? {op : Operator} {right : Node} {o : Outcome}
    (h : op.decidedByRight? right.outcome = some o) (symbol : String) (r : Result) (left : Node) :
    (operation op symbol r left right).isDecided = true := by
  show (op.decidedByRight? right.outcome).isSome = true
  rw [h, Option.isSome_some]

end Node

/-! ## Names that stand alike but for amounts -/

def Answer.isNumber : Answer → Bool
  | number _ => true
  | text _ => false

/-- Whether a name stands for an amount of the rule: a question with a number for an answer, or
without one. -/
inductive Standing.IsAmount (rule : Rule) : Standing → Prop
  | answered (n : Decimal) : IsAmount rule (.answered rule (.number n))
  | unanswered : IsAmount rule (.unanswered rule)

/-- Whether two situations differ in amounts only: a rule that they answer differently has no
formula, and each of them has a number for it or no answer. -/
def Rules.DifferInAmounts (rules : Rules) (s s' : Situation) : Prop :=
  ∀ {name : String} {rule : Rule}, rules[name]? = some rule → s[name]? ≠ s'[name]? →
    rule.formula = none ∧ s[name]?.all Answer.isNumber = true ∧
      s'[name]?.all Answer.isNumber = true

namespace Questionnaire

variable {q q' : Questionnaire} {depth : Nat} {e : Expr} {n n' : Node} {events events' : List Event}
  {name : String} {rule : Rule}

/-- Whether a name stands alike in two questionnaires, but for amounts. -/
def StandsAlike (q q' : Questionnaire) (name : String) : Prop :=
  q'.standing name = q.standing name ∨
    ∃ rule, (q.standing name).IsAmount rule ∧ (q'.standing name).IsAmount rule

theorem isAmount_standing (hrule : q.rules[name]? = some rule) (hformula : rule.formula = none)
    (hnumber : q.situation[name]?.all Answer.isNumber = true) :
    (q.standing name).IsAmount rule := by
  cases hanswer : q.situation[name]? with
  | none =>
    rw [standing_eq_unanswered_iff.2 ⟨hrule, hanswer, hformula⟩]
    exact .unanswered
  | some answer =>
    rw [standing_eq_answered_iff.2 ⟨hrule, hanswer⟩]
    rw [hanswer] at hnumber
    cases answer with
    | number n => exact .answered n
    | text t => cases hnumber

/-- In situations that differ in amounts only, all names stand alike but for amounts. -/
theorem standsAlike_of_differInAmounts {s : Situation}
    (h : q.rules.DifferInAmounts q.situation s) (name : String) :
    q.StandsAlike { q with situation := s } name := by
  by_cases hsame : q.situation[name]? = s[name]?
  · left
    simp only [standing, hsame]
  · cases hrule : q.rules[name]? with
    | none =>
      left
      rw [standing_eq_unknown_iff.2 hrule]
      exact standing_eq_unknown_iff.2 hrule
    | some rule =>
      obtain ⟨hformula, hnumber, hnumber'⟩ := h hrule hsame
      exact .inr ⟨rule, isAmount_standing hrule hformula hnumber,
        isAmount_standing hrule hformula hnumber'⟩

theorem StandsAlike.eq_computed {formula : Expr} (h : q.StandsAlike q' name)
    (hs : q.standing name = .computed rule formula) :
    q'.standing name = .computed rule formula := by
  rcases h with h | ⟨rule, hamount, -⟩
  · exact h.trans hs
  · rw [hs] at hamount
    cases hamount

/-! ## Derivations -/

/-- An amount is a leaf in the unit of its rule. -/
theorem Evaluates.leaf_of_isAmount (h : q.Evaluates depth (.reference name) n events)
    (hs : (q.standing name).IsAmount rule) :
    ∃ origin r, n = .leaf origin r ∧ r.unit = rule.unit := by
  cases h with
  | unknown ho => rw [ho] at hs; cases hs
  | given ho hv =>
    rw [ho] at hs
    cases hs
    cases hv
    exact ⟨_, _, rfl, rfl⟩
  | unreadable ho hv =>
    rw [ho] at hs
    cases hs
    cases hv
  | question ho =>
    rw [ho] at hs
    cases hs
    exact ⟨_, _, rfl, rfl⟩
  | cutOff ho => rw [ho] at hs; cases hs
  | rule ho _ => rw [ho] at hs; cases hs

/-- A leaf is a leaf in the same unit where its name stands alike but for amounts. -/
theorem Evaluates.sameUnits_leaf {origin : Origin} {r : Result}
    (h : q.Evaluates depth (.reference name) (.leaf origin r) events)
    (h' : q'.Evaluates depth (.reference name) n' events')
    (hlimit : q'.settings.maxDepth = q.settings.maxDepth) (hs : q.StandsAlike q' name)
    (hasked : askedIn events = [name]) : (Node.leaf origin r).SameUnits n' := by
  rcases hs with hs | ⟨rule, hs, hs'⟩
  · have hsame : q'.Evaluates depth (.reference name) (.leaf origin r) events := by
      refine h.of_standing_eq hlimit ?_
      rw [hasked]
      exact List.forall_mem_singleton.2 hs
    have heq := hsame.evaluate_eq.symm.trans h'.evaluate_eq
    cases heq
    exact .leaf rfl
  · obtain ⟨_, _, heq, hunit⟩ := h.leaf_of_isAmount hs
    obtain ⟨_, _, rfl, hunit'⟩ := h'.leaf_of_isAmount hs'
    cases heq
    exact .leaf (hunit.trans hunit'.symm)

theorem Evaluates.exists_ruleNode {formula : Expr}
    (h : q.Evaluates (depth + 1) (.reference name) n events)
    (hs : q.standing name = .computed rule formula) :
    ∃ m events, q.Evaluates depth formula m events ∧ n = ruleNode name rule m := by
  cases h with
  | rule ho hm =>
    rw [hs] at ho
    cases ho
    exact ⟨_, _, hm, rfl⟩
  | unknown ho => cases hs.symm.trans ho
  | given ho _ => cases hs.symm.trans ho
  | unreadable ho _ => cases hs.symm.trans ho
  | question ho => cases hs.symm.trans ho

/-- An operation that no operand decided was calculated. -/
theorem Evaluates.exists_calculated {op : Operator} {symbol : String} {left right : Expr}
    (h : q.Evaluates depth (.operation op symbol left right) n events)
    (hn : n.isDecided = false) :
    ∃ l r events events', q.Evaluates depth left l events ∧ q.Evaluates depth right r events' ∧
      n = .operation op symbol
        (.calculated (op.calculate l.quantity r.quantity).result l r) l r := by
  cases h with
  | decidedByLeft _ _ => cases hn
  | decidedByRight _ _ _ hr => cases hn.symm.trans (Node.isDecided_of_decidedByRight? hr ..)
  | calculated hl _ hr _ hc => exact ⟨_, _, _, _, hl, hr, by rw [hc]⟩

/-- Where names stand alike but for amounts, and no operand decides an operation, trees have the
same units. -/
theorem Evaluates.sameUnits (h : q.Evaluates depth e n events)
    (h' : q'.Evaluates depth e n' events')
    (hlimit : q'.settings.maxDepth = q.settings.maxDepth)
    (hs : ∀ name, q.StandsAlike q' name) (hn : ∀ m ∈ n.parts, m.isDecided = false)
    (hn' : ∀ m ∈ n'.parts, m.isDecided = false) : n.SameUnits n' := by
  induction h generalizing n' events' with
  | constant c =>
    cases h'
    exact .leaf rfl
  | unknown ho => exact (Evaluates.unknown ho).sameUnits_leaf h' hlimit (hs _) rfl
  | given ho hv => exact (Evaluates.given ho hv).sameUnits_leaf h' hlimit (hs _) rfl
  | unreadable ho hv => exact (Evaluates.unreadable ho hv).sameUnits_leaf h' hlimit (hs _) rfl
  | question ho => exact (Evaluates.question ho).sameUnits_leaf h' hlimit (hs _) rfl
  | cutOff ho => exact (Evaluates.cutOff ho).sameUnits_leaf h' hlimit (hs _) rfl
  | @rule _ name rule _ _ _ ho _ ih =>
    obtain ⟨m, _, hm, rfl⟩ := h'.exists_ruleNode ((hs name).eq_computed ho)
    have hformula := ih hm (Node.forall_mem_parts_rule.1 hn).2 (Node.forall_mem_parts_rule.1 hn').2
    exact hformula.ruleNode name rule
  | decidedByLeft _ _ _ => cases (Node.forall_mem_parts_decided.1 hn).1
  | decidedByRight _ _ _ hr _ _ =>
    have hself := (Node.forall_mem_parts_operation.1 hn).1
    cases hself.symm.trans (Node.isDecided_of_decidedByRight? hr ..)
  | @calculated _ op symbol _ _ l r c _ _ _ _ _ _ _ hc ihl ihr =>
    obtain ⟨l', r', _, _, hl', hr', rfl⟩ := h'.exists_calculated (hn' n' n'.self_mem_parts)
    obtain ⟨-, hnl, hnr⟩ := Node.forall_mem_parts_operation.1 hn
    obtain ⟨-, hnl', hnr'⟩ := Node.forall_mem_parts_operation.1 hn'
    have hsame := (ihl hl' hnl hnl').calculated (ihr hr' hnr hnr') op symbol
    rw [hc] at hsame
    exact hsame

/-- Two situations that differ in amounts only give every expression trees of the same shape, with
the same unit at each node, unless an operation is decided by one operand. -/
theorem evaluate_sameUnits {q : Questionnaire} {s : Situation} {e : Expr}
    (hdiffer : q.rules.DifferInAmounts q.situation s)
    (hn : ∀ n ∈ (q.evaluate e).result.parts, n.isDecided = false)
    (hn' : ∀ n ∈ ({ q with situation := s }.evaluate e).result.parts, n.isDecided = false) :
    (q.evaluate e).result.SameUnits ({ q with situation := s }.evaluate e).result := by
  have h := evaluates_evaluate q e
  have h' := evaluates_evaluate { q with situation := s } e
  exact h.sameUnits h' rfl (standsAlike_of_differInAmounts hdiffer) hn hn'

/-- A sum is in metres whether its second term is too large to be converted to metres, so that the
sum overflows, or is still to come. -/
theorem evaluate_sameUnits_overflow :
    let metres : Rule := Rule.question.withUnit (.atom "m")
    let kilometres : Rule := Rule.question.withUnit (.atom "km")
    let height : Situation := (∅ : Situation).insert "height" (.number .one)
    let greatest : Decimal := .ofParts 79228162514264337593543950335 0
    let q : Questionnaire := {
      rules := Rules.ofList [("height", metres), ("distance", kilometres)]
      situation := height.insert "distance" (.number greatest) }
    let e : Expr := .binary .add (.reference "height") (.reference "distance")
    let n := (q.evaluate e).result
    let n' := ({ q with situation := height }.evaluate e).result
    q.rules.DifferInAmounts q.situation height ∧ n.outcome = .inapplicable ∧
      n'.outcome = .indeterminate ∧ n.quantity.unit = some (.atom "m") ∧ n.SameUnits n' := by
  intro metres kilometres height greatest q e n n'
  have hdiffer : q.rules.DifferInAmounts q.situation height := by
    intro name rule hrule hname
    have hmem := Rules.mem_of_get?_ofList hrule
    simp only [List.mem_cons, Prod.mk.injEq, List.not_mem_nil, or_false] at hmem
    rcases hmem with ⟨rfl, rfl⟩ | ⟨rfl, rfl⟩
    · exact ⟨rfl, by decide +kernel, by decide +kernel⟩
    · exact ⟨rfl, by decide +kernel, by decide +kernel⟩
  refine ⟨hdiffer, by decide +kernel, by decide +kernel, by decide +kernel, ?_⟩
  exact evaluate_sameUnits hdiffer (by decide +kernel) (by decide +kernel)

end Questionnaire

end Rulebook
