import Rulebook.Expr.Basic
import Rulebook.Operation.Calculation

/-!
# Evaluating expressions

An expression is evaluated against a source of results for names. An operation
evaluates its left operand first, and its right one only if it needs it. The log
says which names were asked for.

* `outcome_evaluate_operation`, `quantity_evaluate_operation`: the left operand
  decides an operation, or the right one does, or both are calculated.
* `events_evaluate_operation`, `missing_evaluate_operation`: a calculation adds to
  the log of its operands, and waits for what they wait for.
* `evaluate_congr`: only the names of an expression matter to it.
-/

namespace Rulebook.Expr

/-- The node of an expression, where `resolve` gives the node of a name. -/
def evaluate (resolve : String → Logged Node) : Expr → Logged Node
  | constant q => pure (.leaf .constant (.complete q.normal))
  | reference name => do
    Logged.ask name
    resolve name
  | operation op symbol left right => do
    let l ← left.evaluate resolve
    match op.decidedByLeft? l.outcome with
    | some o => pure (.decided op symbol (.decided o l) l)
    | none => do
      let r ← right.evaluate resolve
      op.ofOperands symbol l r

section Quantities

variable {resolve : String → Logged Node} {left right : Expr} {l r : Quantity}
  (hleft : (left.evaluate resolve).result.quantity = l)
  (hright : (right.evaluate resolve).result.quantity = r)

include hleft hright

/-- An operation that one operand decides has no unit, and any other one is calculated. -/
theorem quantity_evaluate_operation (op : Operator) (symbol : String) :
    ((operation op symbol left right).evaluate resolve).result.quantity =
      match (op.decidedByLeft? l.outcome).or (op.decidedByRight? r.outcome) with
      | some o => ⟨o, none⟩
      | none => (op.calculate l r).result.normal := by
  subst hleft hright
  have houtcome (n : Node) : n.quantity.outcome = n.outcome := rfl
  rw [evaluate, Logged.result_bind, houtcome, houtcome]
  cases hleft : op.decidedByLeft? (left.evaluate resolve).result.outcome with
  | some o => rfl
  | none =>
    rw [Logged.result_bind, Option.none_or]
    cases hright : op.decidedByRight? (right.evaluate resolve).result.outcome with
    | some o => rw [Operator.ofOperands_of_decidedByRight? hright]; rfl
    | none => rw [Operator.ofOperands_of_undecided hright]; rfl

/-- The log of a calculation follows those of the operands. -/
theorem events_evaluate_operation {op : Operator} (hl : op.decidedByLeft? l.outcome = none)
    (hr : op.decidedByRight? r.outcome = none) (symbol : String) :
    ((operation op symbol left right).evaluate resolve).events =
      (left.evaluate resolve).events ++
        ((right.evaluate resolve).events ++ (op.calculate l r).events) := by
  subst hleft hright
  have houtcome (n : Node) : n.outcome = n.quantity.outcome := rfl
  rw [evaluate, Logged.events_bind, houtcome, hl, Logged.events_bind,
    Operator.ofOperands_of_undecided hr, Logged.events_bind, Logged.events_pure, List.append_nil]

end Quantities

/-- The left operand decides an operation, or the right one does, or both are calculated. -/
theorem outcome_evaluate_operation (resolve : String → Logged Node) (op : Operator)
    (symbol : String) (left right : Expr) :
    let l := (left.evaluate resolve).result
    let r := (right.evaluate resolve).result
    ((operation op symbol left right).evaluate resolve).result.outcome =
      ((op.decidedByLeft? l.outcome).or (op.decidedByRight? r.outcome)).getD
        (op.calculate l.quantity r.quantity).result.outcome := by
  intro l r
  have hquantity : ((operation op symbol left right).evaluate resolve).result.quantity =
      match (op.decidedByLeft? l.outcome).or (op.decidedByRight? r.outcome) with
      | some o => ⟨o, none⟩
      | none => (op.calculate l.quantity r.quantity).result.normal :=
    quantity_evaluate_operation rfl rfl op symbol
  refine (congrArg Quantity.outcome hquantity).trans ?_
  cases (op.decidedByLeft? l.outcome).or (op.decidedByRight? r.outcome) with
  | some o => rfl
  | none => rfl

/-- A calculation waits for what its operands wait for. -/
theorem missing_evaluate_operation {resolve : String → Logged Node} {left right : Expr}
    {l r : Result} {op : Operator} (hleft : (left.evaluate resolve).result.result = l)
    (hright : (right.evaluate resolve).result.result = r)
    (hl : op.decidedByLeft? l.outcome = none) (hr : op.decidedByRight? r.outcome = none)
    (symbol : String) :
    ((operation op symbol left right).evaluate resolve).result.missing =
      .mergeAll [l.missing, r.missing] := by
  subst hleft hright
  have houtcome (n : Node) : n.outcome = n.result.outcome := rfl
  rw [evaluate, Logged.result_bind, houtcome, hl, Logged.result_bind,
    Operator.ofOperands_of_undecided hr]
  rfl

/-- The names in an expression. -/
def names : Expr → List String
  | constant _ => []
  | reference name => [name]
  | operation _ _ left right => left.names ++ right.names

/-- Only the names of an expression matter to it. -/
theorem evaluate_congr {resolve resolve' : String → Logged Node} (e : Expr)
    (h : ∀ name ∈ e.names, resolve name = resolve' name) :
    e.evaluate resolve = e.evaluate resolve' := by
  induction e with
  | constant q => rfl
  | reference name => rw [evaluate, evaluate, h name (List.mem_singleton_self _)]
  | operation op symbol left right ihl ihr =>
    rw [evaluate, evaluate, ihl fun n hn => h n (List.mem_append_left _ hn),
      ihr fun n hn => h n (List.mem_append_right _ hn)]

end Rulebook.Expr
