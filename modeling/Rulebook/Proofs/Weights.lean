import Rulebook.Proofs.Accounting
import Rulebook.Proofs.Belonging

/-!
# Weights of missing answers

The weight of a name counts the leaves of the tree that wait for it: sets are
added up where two operands meet, and passed on by rules. Only an operation that
its right operand decides leaves out what its left operand waits for. A leaf
waits for a name that has no answer to be used, and no formula that could still
be nested.

* `Evaluates.weighed`: weights count leaves.
* `Evaluates.unsettled`: why a leaf waits for a name.
* `weight_counts_leaves`: both, for whole evaluations.
-/

namespace Rulebook

/-! ## Leaves that wait -/

theorem Result.weight_complete (c : Quantity) (name : String) :
    (Result.complete c).missing.weight name = 0 :=
  Missing.weight_empty name

theorem Result.weight_waiting (other : String) (unit : Option Measure) (name : String) :
    (Result.waiting other unit).missing.weight name = if other = name then 1 else 0 :=
  Missing.weight_single other name

namespace Node

/-- Whether the node has no parts and waits for the name. -/
def isLeafWaiting (name : String) (n : Node) : Bool :=
  n.children.isEmpty && n.missing.contains name

/-- The number of leaves of a tree that wait for the name. -/
def leavesWaiting (name : String) (n : Node) : Nat :=
  n.parts.countP (isLeafWaiting name)

/-- Whether the node is an operation that its right operand decided. -/
def isDecidedByRight : Node → Bool
  | operation op _ _ _ right => (op.decidedByRight? right.outcome).isSome
  | _ => false

theorem leavesWaiting_leaf (name : String) (origin : Origin) (r : Result) :
    (leaf origin r).leavesWaiting name = if r.missing.contains name then 1 else 0 := by
  simp only [leavesWaiting, parts, List.countP_singleton, isLeafWaiting, children,
    List.isEmpty_nil, Bool.true_and, missing, result]

theorem leavesWaiting_rule (name other : String) (r : Result) (formula : Node) :
    (rule other r formula).leavesWaiting name = formula.leavesWaiting name := by
  simp [leavesWaiting, parts, isLeafWaiting, children]

theorem leavesWaiting_decided (name : String) (op : Operator) (symbol : String) (r : Result)
    (left : Node) : (decided op symbol r left).leavesWaiting name = left.leavesWaiting name := by
  simp [leavesWaiting, parts, isLeafWaiting, children]

theorem leavesWaiting_operation (name : String) (op : Operator) (symbol : String) (r : Result)
    (left right : Node) :
    (operation op symbol r left right).leavesWaiting name =
      left.leavesWaiting name + right.leavesWaiting name := by
  simp [leavesWaiting, parts, isLeafWaiting, children]

theorem exists_isLeafWaiting {name : String} {n : Node} (h : n.leavesWaiting name ≠ 0) :
    ∃ m ∈ n.parts, m.isLeafWaiting name = true :=
  List.countP_pos_iff.1 (Nat.pos_of_ne_zero h)

/-! ## Weights of nodes -/

/-- The weight of a name in a node counts the leaves below it that wait for the name. -/
structure Weighed (name : String) (n : Node) : Prop where
  le : n.missing.weight name ≤ n.leavesWaiting name
  /-- An operation that its right operand decided does not wait for what the left one waits for. -/
  eq : (∀ m ∈ n.parts, m.isDecidedByRight = false) →
    n.missing.weight name = n.leavesWaiting name

variable {name : String} {n left right : Node}

theorem weighed_of_eq (h : n.missing.weight name = n.leavesWaiting name) : n.Weighed name where
  le := Nat.le_of_eq h
  eq _ := h

/-- A leaf waits for an answer once at most. -/
theorem weighed_leaf {r : Result} (h : r.missing.weight name ≤ 1) (origin : Origin) :
    (leaf origin r).Weighed name := by
  refine weighed_of_eq ?_
  rw [leavesWaiting_leaf]
  by_cases hname : r.missing.contains name = true
  · have hne := Missing.contains_iff.1 hname
    rw [if_pos hname]
    show r.missing.weight name = 1
    omega
  · have hzero := mt Missing.contains_iff.2 hname
    rw [if_neg hname]
    show r.missing.weight name = 0
    omega

theorem weighed_complete (name : String) (origin : Origin) (c : Quantity) :
    (leaf origin (.complete c)).Weighed name := by
  have hweight := Result.weight_complete c name
  exact weighed_leaf (by omega) origin

theorem weighed_waiting (name : String) (origin : Origin) (other : String)
    (unit : Option Measure) : (leaf origin (.waiting other unit)).Weighed name := by
  have hweight := Result.weight_waiting other unit name
  refine weighed_leaf ?_ origin
  split at hweight <;> omega

theorem Weighed.ruleNode (h : n.Weighed name) (other : String) (rule : Rule) :
    (Questionnaire.ruleNode other rule n).Weighed name where
  le := by
    rw [Questionnaire.ruleNode, leavesWaiting_rule]
    exact h.le
  eq hright := by
    rw [Questionnaire.ruleNode, leavesWaiting_rule]
    exact h.eq (forall_mem_parts_rule.1 hright).2

theorem Weighed.decidedByLeft (h : left.Weighed name) (op : Operator) (symbol : String)
    (o : Outcome) : (decided op symbol (.decided o left) left).Weighed name where
  le := by
    rw [leavesWaiting_decided]
    exact h.le
  eq hright := by
    rw [leavesWaiting_decided]
    exact h.eq (forall_mem_parts_decided.1 hright).2

theorem Weighed.decidedByRight (h : right.Weighed name) {op : Operator} {o : Outcome}
    (hr : op.decidedByRight? right.outcome = some o) (symbol : String) (left : Node) :
    (operation op symbol (.decided o right) left right).Weighed name where
  le := by
    rw [leavesWaiting_operation]
    exact Nat.le_trans h.le (Nat.le_add_left _ _)
  eq hright := by
    have hself := (forall_mem_parts_operation.1 hright).1
    rw [isDecidedByRight, hr] at hself
    cases hself

theorem Weighed.calculated (hleft : left.Weighed name) (hright : right.Weighed name)
    (op : Operator) (symbol : String) (c : Quantity) :
    (operation op symbol (.calculated c left right) left right).Weighed name := by
  have hweight := Missing.weight_mergeAll_pair left.missing right.missing name
  constructor
  · rw [leavesWaiting_operation]
    exact hweight ▸ Nat.add_le_add hleft.le hright.le
  · intro hparts
    obtain ⟨-, hl, hr⟩ := forall_mem_parts_operation.1 hparts
    rw [leavesWaiting_operation, ← hleft.eq hl, ← hright.eq hr]
    exact hweight

end Node

namespace Questionnaire

variable {q : Questionnaire} {depth : Nat} {e : Expr} {m n : Node} {events : List Event}
  {name : String}

/-- Weights count leaves in the tree of every expression. -/
theorem Evaluates.weighed (h : q.Evaluates depth e n events) (name : String) :
    n.Weighed name := by
  induction h with
  | constant c => exact Node.weighed_complete ..
  | given _ _ => exact Node.weighed_complete ..
  | unknown _ => exact Node.weighed_waiting ..
  | unreadable _ _ => exact Node.weighed_waiting ..
  | question _ => exact Node.weighed_waiting ..
  | cutOff _ => exact Node.weighed_waiting ..
  | rule _ _ ih => exact ih.ruleNode ..
  | decidedByLeft _ _ ih => exact ih.decidedByLeft ..
  | decidedByRight _ _ _ hr _ ihr => exact ihr.decidedByRight hr ..
  | calculated _ _ _ _ _ ihl ihr => exact ihl.calculated ihr ..

/-! ## Why leaves wait -/

/-- Whether the node is the leaf of a name that has come to nothing, as the name stands in the
questionnaire. -/
inductive Unsettled (q : Questionnaire) (name : String) : Node → Prop
  | question {rule : Rule} : q.standing name = .unanswered rule →
    Unsettled q name (.leaf (.question name) (.waiting name rule.unit))
  | unknown : q.standing name = .unknown →
    Unsettled q name (.leaf (.unknown name) (.waiting name none))
  | unreadable {rule : Rule} {answer : Answer} {e : Expr.Error} :
    q.standing name = .answered rule answer → answer.value = .error e →
    Unsettled q name (.leaf (.unreadable name) (.waiting name none))
  /-- The rule has a formula, which was nested too deeply. -/
  | cutOff {rule : Rule} {formula : Expr} : q.standing name = .computed rule formula →
    Unsettled q name (.leaf (.cutOff name) (.waiting name none))

theorem eq_of_weight_waiting {other : String} {unit : Option Measure}
    (h : (Result.waiting other unit).missing.weight name ≠ 0) : other = name :=
  Decidable.of_not_not (mt Missing.weight_single_eq_zero_iff.2 h)

/-- A leaf that waits for a name is what a reference to the name comes to. -/
theorem Evaluates.unsettled (h : q.Evaluates depth e n events) (hleaf : n.children = [])
    (hname : n.missing.weight name ≠ 0) : e = .reference name ∧ q.Unsettled name n := by
  cases h with
  | constant c => exact absurd (Result.weight_complete _ name) hname
  | given _ _ => exact absurd (Result.weight_complete _ name) hname
  | unknown hs =>
    obtain rfl := eq_of_weight_waiting hname
    exact ⟨rfl, .unknown hs⟩
  | unreadable hs hv =>
    obtain rfl := eq_of_weight_waiting hname
    exact ⟨rfl, .unreadable hs hv⟩
  | question hs =>
    obtain rfl := eq_of_weight_waiting hname
    exact ⟨rfl, .question hs⟩
  | cutOff hs =>
    obtain rfl := eq_of_weight_waiting hname
    exact ⟨rfl, .cutOff hs⟩
  | rule _ _ => cases hleaf
  | decidedByLeft _ _ => cases hleaf
  | decidedByRight _ _ _ _ => cases hleaf
  | calculated _ _ _ _ _ => cases hleaf

/-- A leaf of a tree that waits for a name belongs to a reference to the name. -/
theorem Evaluates.unsettled_of_mem_parts (h : q.Evaluates depth e n events) (hm : m ∈ n.parts)
    (hwaiting : m.isLeafWaiting name = true) :
    q.BelongsTo m (.reference name) n e ∧ q.Unsettled name m := by
  rw [Node.isLeafWaiting, Bool.and_eq_true, List.isEmpty_iff, Missing.contains_iff] at hwaiting
  obtain ⟨f, hf⟩ := h.exists_belongsTo m hm
  obtain ⟨depth', events', hderived⟩ := hf.exists_evaluates h
  obtain ⟨rfl, hunsettled⟩ := hderived.unsettled hwaiting.1 hwaiting.2
  exact ⟨hf, hunsettled⟩

/-- The weight of a name is at most the number of leaves that wait for it, and it is this number if
no operation was decided by its right operand. Each of these leaves belongs to a reference to the
name, which is a question without answer, a name that no rule has, a name whose answer cannot be
read, or a rule that was cut off. -/
theorem weight_counts_leaves (q : Questionnaire) (e : Expr) (name : String) :
    let n := (q.evaluate e).result
    n.missing.weight name ≤ n.leavesWaiting name ∧
      ((∀ m ∈ n.parts, m.isDecidedByRight = false) →
        n.missing.weight name = n.leavesWaiting name) ∧
      ∀ m ∈ n.parts, m.isLeafWaiting name = true →
        q.BelongsTo m (.reference name) n e ∧ q.Unsettled name m := by
  intro n
  have h := evaluates_evaluate q e
  have hweighed := h.weighed name
  exact ⟨hweighed.le, hweighed.eq, fun m => h.unsettled_of_mem_parts⟩

/-- A question that a rule is made from counts as often as the rule is used, and once more for being
used itself. -/
theorem weight_counts_leaves_area :
    let side : Rule := Rule.question.withFormula (.binary .add (.reference "width") (.number .one))
    let e : Expr :=
      .binary .sub (.binary .mul (.reference "side") (.reference "side")) (.reference "width")
    let q : Questionnaire := { rules := Rules.ofList [("width", .question), ("side", side)] }
    let n := (q.evaluate e).result
    n.leavesWaiting "width" = 3 ∧ (∀ m ∈ n.parts, m.isDecidedByRight = false) ∧
      n.missing.weight "width" = n.leavesWaiting "width" := by
  intro side e q n
  have hright : ∀ m ∈ n.parts, m.isDecidedByRight = false := by decide +kernel
  exact ⟨by decide +kernel, hright, (weight_counts_leaves q e "width").2.1 hright⟩

/-- An answer that an alternative no longer depends on has no weight, though a leaf still waits for
it. -/
example :
    let e : Expr := .binary .or (.reference "resident") (.value (.boolean true))
    let q : Questionnaire := { rules := Rules.ofList [("resident", .question)] }
    let n := (q.evaluate e).result
    n.missing.weight "resident" = 0 ∧ n.leavesWaiting "resident" = 1 := by
  decide +kernel

end Questionnaire

end Rulebook
