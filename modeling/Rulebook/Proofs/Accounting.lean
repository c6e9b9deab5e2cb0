import Rulebook.Proofs.Derivation
import Rulebook.Proofs.Openness
import Rulebook.Proofs.Parts
import Rulebook.Proofs.Standing

/-!
# Missing answers account for open outcomes

A node that has come to something waits for no answer, and a node that is still
open waits for one, unless it was made from a constant that is open itself. This
holds at all nodes of a tree, and for rules in a circle as well.

* `Evaluates.accounted`: evaluation accounts for every node.
* `Evaluates.fromConstants`: the constants of a tree stand in the expression or in a formula.
-/

namespace Rulebook

/-- The constants in an expression. -/
def Expr.constants : Expr → List Quantity
  | constant c => [c]
  | reference _ => []
  | operation _ _ left right => left.constants ++ right.constants

/-! ## Nodes accounted for -/

namespace Node

/-- Whether the node is a constant that is open itself. -/
def isOpenConstant : Node → Bool
  | leaf .constant r => r.outcome.isIndeterminate
  | _ => false

theorem isOpenConstant_iff {n : Node} :
    n.isOpenConstant = true ↔ ∃ r, n = leaf .constant r ∧ r.outcome = .indeterminate := by
  unfold isOpenConstant
  split
  · simp [Outcome.isIndeterminate]
  · rename_i hn
    simp only [reduceCtorEq, false_iff]
    rintro ⟨r, rfl, -⟩
    exact hn r rfl

/-- The missing answers of a node account for its outcome. -/
structure Accounted (n : Node) : Prop where
  /-- A node that has come to something waits for nothing. -/
  settled : n.outcome ≠ .indeterminate → n.missing = .empty
  /-- An open node waits for an answer, or was made from an open constant. -/
  waiting : n.outcome = .indeterminate →
    n.missing ≠ .empty ∨ ∃ m ∈ n.parts, m.isOpenConstant = true

theorem accounted_constant (c : Quantity) : (leaf .constant (.complete c)).Accounted where
  settled _ := rfl
  waiting h := .inr ⟨_, self_mem_parts _, isOpenConstant_iff.2 ⟨_, rfl, h⟩⟩

theorem accounted_value (origin : Origin) (v : Value) (unit : Option Measure) :
    (leaf origin (.complete ⟨.value v, unit⟩)).Accounted where
  settled _ := rfl
  waiting := nofun

theorem accounted_waiting (origin : Origin) (name : String) (unit : Option Measure) :
    (leaf origin (.waiting name unit)).Accounted where
  settled h := absurd rfl h
  waiting _ := .inl (Missing.single_ne_empty name)

/-- An operand that decides has come to something, so that nothing is left to wait for. -/
theorem Accounted.of_decided {n operand : Node} {o : Outcome} (h : operand.Accounted)
    (hr : n.result = .decided o operand) (hopen : operand.outcome ≠ .indeterminate)
    (ho : o ≠ .indeterminate) : n.Accounted where
  settled _ := by
    rw [missing, hr]
    exact h.settled hopen
  waiting hn := by
    rw [outcome, hr] at hn
    exact absurd hn ho

theorem Accounted.ruleNode {n : Node} (h : n.Accounted) (name : String) (rule : Rule) :
    (Questionnaire.ruleNode name rule n).Accounted where
  settled := h.settled
  waiting hn := by
    refine (h.waiting hn).imp_right fun ⟨m, hm, hc⟩ => ⟨m, ?_, hc⟩
    exact mem_parts_of_mem_children (List.mem_singleton_self n) hm

/-- A calculation waits for what its operands wait for, and is open if one of them is. -/
theorem Accounted.calculated {left right : Node} {c : Quantity} (hleft : left.Accounted)
    (hright : right.Accounted) (op : Operator) (symbol : String)
    (hc : c.outcome = .indeterminate ↔
      left.outcome = .indeterminate ∨ right.outcome = .indeterminate) :
    (operation op symbol (.calculated c left right) left right).Accounted where
  settled hn := by
    have hopen := not_or.1 (mt hc.2 hn)
    exact Missing.mergeAll_pair_eq_empty_iff.2
      ⟨hleft.settled hopen.1, hright.settled hopen.2⟩
  waiting hn := by
    have hempty (h : Missing.mergeAll [left.missing, right.missing] = .empty) :=
      Missing.mergeAll_pair_eq_empty_iff.1 h
    rcases hc.1 hn with hl | hr
    · rcases hleft.waiting hl with hm | ⟨m, hm, hopen⟩
      · exact .inl fun h => hm (hempty h).1
      · exact .inr ⟨m, mem_parts_of_mem_children (List.mem_cons_self ..) hm, hopen⟩
    · rcases hright.waiting hr with hm | ⟨m, hm, hopen⟩
      · exact .inl fun h => hm (hempty h).2
      · refine .inr ⟨m, mem_parts_of_mem_children ?_ hm, hopen⟩
        exact List.mem_cons_of_mem _ (List.mem_singleton_self right)

end Node

namespace Questionnaire

variable {q : Questionnaire} {depth : Nat} {e : Expr} {n : Node} {events : List Event}

/-- Evaluation accounts for every node of its tree. -/
theorem Evaluates.accounted (h : q.Evaluates depth e n events) : ∀ m ∈ n.parts, m.Accounted := by
  induction h with
  | constant c => exact Node.forall_mem_parts_leaf.2 (Node.accounted_constant _)
  | given _ _ => exact Node.forall_mem_parts_leaf.2 (Node.accounted_value _ _ _)
  | unknown _ => exact Node.forall_mem_parts_leaf.2 (Node.accounted_waiting _ _ _)
  | unreadable _ _ => exact Node.forall_mem_parts_leaf.2 (Node.accounted_waiting _ _ _)
  | question _ => exact Node.forall_mem_parts_leaf.2 (Node.accounted_waiting _ _ _)
  | cutOff _ => exact Node.forall_mem_parts_leaf.2 (Node.accounted_waiting _ _ _)
  | @rule _ name rule _ n _ _ _ ih =>
    exact Node.forall_mem_parts_rule.2 ⟨(ih n n.self_mem_parts).ruleNode name rule, ih⟩
  | @decidedByLeft _ _ _ _ _ l _ _ _ hd ih =>
    have hopen := Operator.ne_indeterminate_of_decidedByLeft? hd
    refine Node.forall_mem_parts_decided.2 ⟨?_, ih⟩
    exact (ih l l.self_mem_parts).of_decided rfl hopen.1 hopen.2
  | @decidedByRight _ _ _ _ _ l r _ _ _ _ _ _ hr ihl ihr =>
    have hopen := Operator.ne_indeterminate_of_decidedByRight? hr
    refine Node.forall_mem_parts_operation.2 ⟨?_, ihl, ihr⟩
    exact (ihr r r.self_mem_parts).of_decided rfl hopen.1 hopen.2
  | @calculated _ op symbol _ _ l r c _ _ _ _ _ _ _ hc ihl ihr =>
    have hopen := Operator.outcome_calculate_eq_indeterminate_iff op l.quantity r.quantity
    rw [hc] at hopen
    refine Node.forall_mem_parts_operation.2 ⟨?_, ihl, ihr⟩
    exact (ihl l l.self_mem_parts).calculated (ihr r r.self_mem_parts) op symbol hopen

/-! ## Constants of a tree -/

/-- Whether a constant stands in the expression or in the formula of a rule. -/
def Holds (q : Questionnaire) (e : Expr) (c : Quantity) : Prop :=
  c ∈ e.constants ∨ ∃ (name : String) (rule : Rule) (formula : Expr),
    q.rules[name]? = some rule ∧ rule.formula = some formula ∧ c ∈ formula.constants

theorem holds_reference {name : String} {rule : Rule} {formula : Expr} {c : Quantity}
    (hs : q.standing name = .computed rule formula) (h : q.Holds formula c) :
    q.Holds (.reference name) c := by
  obtain ⟨hrule, -, hformula⟩ := standing_eq_computed_iff.1 hs
  rcases h with h | h
  · exact .inr ⟨name, rule, formula, hrule, hformula, h⟩
  · exact .inr h

theorem holds_operation {op : Operator} {symbol : String} {left right : Expr} {c : Quantity}
    (h : q.Holds left c ∨ q.Holds right c) : q.Holds (.operation op symbol left right) c := by
  rcases h with (h | h) | (h | h)
  · exact .inl (List.mem_append_left _ h)
  · exact .inr h
  · exact .inl (List.mem_append_right _ h)
  · exact .inr h

/-- Whether the node is no constant, or one that stands in the expression or in a formula. -/
def FromConstants (q : Questionnaire) (e : Expr) (m : Node) : Prop :=
  ∀ r, m = .leaf .constant r → ∃ c, q.Holds e c ∧ r = .complete c.normal

theorem FromConstants.mono {e e' : Expr} {m : Node} (h : q.FromConstants e m)
    (hle : ∀ c, q.Holds e c → q.Holds e' c) : q.FromConstants e' m := by
  intro r hr
  obtain ⟨c, hc, hr⟩ := h r hr
  exact ⟨c, hle c hc, hr⟩

/-- The constants of a tree stand in the expression or in a formula. -/
theorem Evaluates.fromConstants (h : q.Evaluates depth e n events) :
    ∀ m ∈ n.parts, q.FromConstants e m := by
  induction h with
  | constant c =>
    refine Node.forall_mem_parts_leaf.2 fun r hr => ?_
    cases hr
    exact ⟨c, .inl (List.mem_singleton_self c), rfl⟩
  | given _ _ => exact Node.forall_mem_parts_leaf.2 nofun
  | unknown _ => exact Node.forall_mem_parts_leaf.2 nofun
  | unreadable _ _ => exact Node.forall_mem_parts_leaf.2 nofun
  | question _ => exact Node.forall_mem_parts_leaf.2 nofun
  | cutOff _ => exact Node.forall_mem_parts_leaf.2 nofun
  | rule hs _ ih =>
    refine Node.forall_mem_parts_rule.2 ⟨nofun, fun m hm => ?_⟩
    exact (ih m hm).mono fun c hc => holds_reference hs hc
  | decidedByLeft _ _ ih =>
    refine Node.forall_mem_parts_decided.2 ⟨nofun, fun m hm => ?_⟩
    exact (ih m hm).mono fun c hc => holds_operation (.inl hc)
  | decidedByRight _ _ _ _ ihl ihr =>
    refine Node.forall_mem_parts_operation.2 ⟨nofun, fun m hm => ?_, fun m hm => ?_⟩
    · exact (ihl m hm).mono fun c hc => holds_operation (.inl hc)
    · exact (ihr m hm).mono fun c hc => holds_operation (.inr hc)
  | calculated _ _ _ _ _ ihl ihr =>
    refine Node.forall_mem_parts_operation.2 ⟨nofun, fun m hm => ?_, fun m hm => ?_⟩
    · exact (ihl m hm).mono fun c hc => holds_operation (.inl hc)
    · exact (ihr m hm).mono fun c hc => holds_operation (.inr hc)

/-! ## Evaluations -/

/-- The missing answers of a node in the tree of an expression account for its outcome. -/
structure Accounts (q : Questionnaire) (e : Expr) (n : Node) : Prop where
  /-- A node that has come to something waits for nothing. -/
  settled : n.outcome ≠ .indeterminate → n.isComplete = true
  /-- An open node waits for an answer, unless a constant of the expression or of a formula that is
  open itself stands among the nodes it was made from. -/
  waiting : n.outcome = .indeterminate → n.isComplete = false ∨
    ∃ c, q.Holds e c ∧ c.outcome = .indeterminate ∧ .leaf .constant (.complete c.normal) ∈ n.parts

/-- Every node that evaluates to an outcome is complete, and every open one waits for an answer or
was made from an open constant. -/
theorem accounts_of_mem_parts (q : Questionnaire) :
    (∀ e, ∀ n ∈ (q.evaluate e).result.parts, q.Accounts e n) ∧
      ∀ name, ∀ n ∈ (q.evaluateRule name).result.parts, q.Accounts (.reference name) n := by
  have hall : ∀ e, ∀ n ∈ (q.evaluate e).result.parts, q.Accounts e n := by
    intro e n hn
    have hderived := evaluates_evaluate q e
    have hnode := hderived.accounted n hn
    constructor
    · intro hsettled
      exact Missing.isEmpty_iff.2 (hnode.settled hsettled)
    · intro hopen
      rcases hnode.waiting hopen with hmissing | ⟨m, hm, hconstant⟩
      · left
        rw [Node.isComplete, ← Bool.not_eq_true, Missing.isEmpty_iff]
        exact hmissing
      · right
        obtain ⟨r, rfl, hr⟩ := Node.isOpenConstant_iff.1 hconstant
        obtain ⟨c, hc, rfl⟩ := hderived.fromConstants _ (Node.mem_parts_trans hm hn) r rfl
        exact ⟨c, hc, hr, hm⟩
  exact ⟨hall, fun name => hall (.reference name)⟩

/-- The sum of a constant that is open and an amount is open and waits for nothing. -/
theorem accounts_sum_of_open_constant :
    let q : Questionnaire := { rules := ∅ }
    let e : Expr := .binary .add (.constant ⟨.indeterminate, none⟩) (.number .one)
    let n := (q.evaluate e).result
    n ∈ n.parts ∧ n.isComplete = true ∧ ∃ c, q.Holds e c ∧ c.outcome = .indeterminate ∧
      .leaf .constant (.complete c.normal) ∈ n.parts := by
  intro q e n
  have haccounts := (accounts_of_mem_parts q).1 e n n.self_mem_parts
  have hcomplete : n.isComplete = true := by decide
  refine ⟨n.self_mem_parts, hcomplete, (haccounts.waiting rfl).resolve_left ?_⟩
  rw [hcomplete]
  decide

end Questionnaire

end Rulebook
