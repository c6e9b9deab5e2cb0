import Rulebook.Proofs.Belonging

/-!
# Operands that are evaluated

An operation evaluates its left operand first, and its right one only if the
left one does not decide it. The nodes of the operands that were evaluated stand
below the node of the operation as they are on their own, and not as they were
converted. A tree thus shows which names an evaluation asked for, and in which
order.

* `children_evaluate_operation`: the nodes below an operation.
* `asked_evaluate_operation`: the names that an operation asks for.
* `evaluate_lazily`: the names that an evaluation asks for are those that its tree shows.
-/

namespace Rulebook

/-- An operation asks for no name itself. -/
theorem Operator.asked_ofOperands (op : Operator) (symbol : String) (left right : Node) :
    (op.ofOperands symbol left right).asked = [] := by
  cases hright : op.decidedByRight? right.outcome with
  | some o => rw [ofOperands_of_decidedByRight? hright]; rfl
  | none =>
    rw [ofOperands_of_undecided hright, Logged.asked_bind, Logged.asked_eq, askedIn_calculate]
    rfl

namespace Expr

/-- Below an operation stand the nodes of the operands that it evaluated, which is the right one
only if the left one does not decide. -/
theorem children_evaluate_operation (resolve : String → Logged Node) (op : Operator)
    (symbol : String) (left right : Expr) :
    let l := (left.evaluate resolve).result
    let r := (right.evaluate resolve).result
    ((operation op symbol left right).evaluate resolve).result.children =
      if (op.decidedByLeft? l.outcome).isSome then [l] else [l, r] := by
  intro l r
  rw [evaluate, Logged.result_bind]
  cases hleft : op.decidedByLeft? l.outcome with
  | some o => rfl
  | none =>
    rw [Logged.result_bind]
    cases hright : op.decidedByRight? r.outcome with
    | some o => rw [Operator.ofOperands_of_decidedByRight? hright]; rfl
    | none => rw [Operator.ofOperands_of_undecided hright]; rfl

/-- An operation asks for the names of its left operand, and then for those of the right one unless
the left one decides. -/
theorem asked_evaluate_operation (resolve : String → Logged Node) (op : Operator)
    (symbol : String) (left right : Expr) :
    ((operation op symbol left right).evaluate resolve).asked =
      (left.evaluate resolve).asked ++
        if (op.decidedByLeft? (left.evaluate resolve).result.outcome).isSome then []
        else (right.evaluate resolve).asked := by
  rw [evaluate, Logged.asked_bind]
  cases hleft : op.decidedByLeft? (left.evaluate resolve).result.outcome with
  | some o => rfl
  | none =>
    rw [Logged.asked_bind, Operator.asked_ofOperands, List.append_nil]
    rfl

/-! ## Names from a table -/

/-- The node of an expression where a table gives the nodes of names. -/
def evaluateFrom (table : String → Node) (e : Expr) : Logged Node :=
  e.evaluate fun name => pure (table name)

/-- The names that stand in an expression from left to right, where the right operand of an
operation is entered only if the node of the operation has two children. -/
def entered : Expr → Node → List String
  | constant _, _ => []
  | reference name, _ => [name]
  | operation _ _ left right, n =>
    match n.children with
    | [l] => left.entered l
    | [l, r] => left.entered l ++ right.entered r
    | _ => []

/-- An evaluation asks for the names of the operands that its tree shows. -/
theorem asked_evaluateFrom (table : String → Node) (e : Expr) :
    (e.evaluateFrom table).asked = e.entered (e.evaluateFrom table).result := by
  induction e with
  | constant q => rfl
  | reference name => rfl
  | operation op symbol left right ihl ihr =>
    rw [evaluateFrom] at ihl ihr ⊢
    rw [asked_evaluate_operation, entered, children_evaluate_operation, ihl, ihr]
    split
    · exact List.append_nil _
    · rfl

/-- No operand is entered twice, nor one after another that stands to the right of it. -/
theorem entered_sublist_names (e : Expr) (n : Node) : (e.entered n).Sublist e.names := by
  induction e generalizing n with
  | constant q => exact .slnil
  | reference name => exact .refl _
  | operation op symbol left right ihl ihr =>
    rw [entered, names]
    split
    · exact (ihl _).trans (List.sublist_append_left _ _)
    · exact (ihl _).append (ihr _)
    · exact List.nil_sublist _

/-- Where a table gives the nodes of names, below an operation stands the node of its left operand
alone just if that operand decides, and otherwise those of both operands, as they are on their own.
The names that are asked for are those of the operands that the tree shows, from left to right and
each as often as it stands there. -/
theorem evaluate_lazily (table : String → Node) :
    let node (e : Expr) : Node := (e.evaluateFrom table).result
    (∀ op symbol left right,
      ((node (operation op symbol left right)).children = [node left] ↔
          (op.decidedByLeft? (node left).outcome).isSome) ∧
        ((node (operation op symbol left right)).children = [node left, node right] ↔
          op.decidedByLeft? (node left).outcome = none)) ∧
      ∀ e : Expr, (e.evaluateFrom table).asked = e.entered (node e) ∧
        (e.entered (node e)).Sublist e.names := by
  intro node
  refine ⟨fun op symbol left right => ?_, fun e =>
    ⟨asked_evaluateFrom table e, entered_sublist_names e _⟩⟩
  have hchildren : (node (operation op symbol left right)).children =
      if (op.decidedByLeft? (node left).outcome).isSome then [node left]
      else [node left, node right] := children_evaluate_operation _ op symbol left right
  rw [hchildren]
  cases op.decidedByLeft? (node left).outcome with
  | some o => simp
  | none => simp

end Expr

end Rulebook
