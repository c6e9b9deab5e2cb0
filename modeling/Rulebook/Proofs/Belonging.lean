import Rulebook.Proofs.Parts
import Rulebook.Proofs.Reports

/-!
# Nodes and their expressions

Each node of a tree belongs to an expression: the root to the one that was
evaluated, and the nodes below it to its operands and to the formulas of rules.
A name is asked for just where a node belongs to a reference to it, so that the
tree shows all names that the evaluation depended on.

* `Evaluates.exists_belongsTo`: each node belongs to an expression.
* `BelongsTo.exists_evaluates`: a node is what its expression comes to.
* `Evaluates.askedIn_eq`: the names asked for are those of the nodes, in order.
-/

namespace Rulebook

/-! ## Names among events -/

def Event.asked? : Event → Option String
  | .asked name => some name
  | .warned _ => none

/-- The names that are asked for among events, in order. -/
def askedIn (events : List Event) : List String :=
  events.filterMap Event.asked?

theorem Logged.asked_eq {α : Type} (x : Logged α) : x.asked = askedIn x.events :=
  rfl

theorem askedIn_append (xs ys : List Event) : askedIn (xs ++ ys) = askedIn xs ++ askedIn ys :=
  List.filterMap_append

theorem askedIn_asked_cons (name : String) (events : List Event) :
    askedIn (.asked name :: events) = name :: askedIn events :=
  rfl

/-- A calculation asks for no name. -/
theorem Operator.askedIn_calculate (op : Operator) (left right : Quantity) :
    askedIn (op.calculate left right).events = [] := by
  refine List.filterMap_eq_nil_iff.2 fun event hevent => ?_
  cases reports_of_mem_events hevent <;> rfl

/-! ## Names of nodes -/

/-- The name that a leaf stands for. -/
def Origin.name? : Origin → Option String
  | constant => none
  | given name => some name
  | question name => some name
  | unknown name => some name
  | unreadable name => some name
  | cutOff name => some name

namespace Node

/-- The name that a node stands for. -/
def name? : Node → Option String
  | leaf origin _ => origin.name?
  | rule name _ _ => some name
  | decided _ _ _ _ => none
  | operation _ _ _ _ _ => none

/-- The names that the nodes of a tree stand for, in the order of a walk. -/
def names (n : Node) : List String :=
  n.parts.filterMap name?

theorem names_rule (name : String) (r : Result) (formula : Node) :
    (rule name r formula).names = name :: formula.names :=
  rfl

theorem names_decided (op : Operator) (symbol : String) (r : Result) (left : Node) :
    (decided op symbol r left).names = left.names :=
  rfl

theorem names_operation (op : Operator) (symbol : String) (r : Result) (left right : Node) :
    (operation op symbol r left right).names = left.names ++ right.names :=
  List.filterMap_append

theorem mem_names_iff {n : Node} {name : String} :
    name ∈ n.names ↔ ∃ m ∈ n.parts, m.name? = some name :=
  List.mem_filterMap

end Node

namespace Questionnaire

variable {q : Questionnaire} {depth : Nat} {e f : Expr} {m n : Node} {events : List Event}
  {name : String}

/-! ## Nodes and their expressions -/

/-- Whether the node `m` in the tree `n` of the expression `e` belongs to the expression `f`: the
root belongs to `e`, what stands under a rule to its formula, and what stands under an operation to
its operands. -/
inductive BelongsTo (q : Questionnaire) (m : Node) (f : Expr) : (n : Node) → (e : Expr) → Prop
  | root : BelongsTo q m f m f
  | formula {name : String} {rule : Rule} {formula : Expr} {r : Result} {n : Node} :
    q.standing name = .computed rule formula → BelongsTo q m f n formula →
    BelongsTo q m f (.rule name r n) (.reference name)
  | decided {op : Operator} {symbol : String} {left right : Expr} {r : Result} {n : Node} :
    BelongsTo q m f n left →
    BelongsTo q m f (.decided op symbol r n) (.operation op symbol left right)
  | left {op : Operator} {symbol : String} {left right : Expr} {r : Result} {n n' : Node} :
    BelongsTo q m f n left →
    BelongsTo q m f (.operation op symbol r n n') (.operation op symbol left right)
  | right {op : Operator} {symbol : String} {left right : Expr} {r : Result} {n n' : Node} :
    BelongsTo q m f n' right →
    BelongsTo q m f (.operation op symbol r n n') (.operation op symbol left right)

/-- A node that belongs to an expression is what the expression comes to. -/
theorem BelongsTo.exists_evaluates (hm : q.BelongsTo m f n e)
    (h : q.Evaluates depth e n events) : ∃ depth events, q.Evaluates depth f m events := by
  induction hm generalizing depth events with
  | root => exact ⟨depth, events, h⟩
  | formula hs _ ih =>
    cases h with
    | rule hs' hn =>
      rw [hs] at hs'
      cases hs'
      exact ih hn
  | decided _ ih =>
    cases h with
    | decidedByLeft hn _ => exact ih hn
  | left _ ih =>
    cases h with
    | decidedByRight hn _ _ _ => exact ih hn
    | calculated hn _ _ _ _ => exact ih hn
  | right _ ih =>
    cases h with
    | decidedByRight _ _ hn _ => exact ih hn
    | calculated _ _ hn _ _ => exact ih hn

theorem forall_exists_belongsTo_operation {l r : Node} {left right : Expr}
    (hl : ∀ m ∈ l.parts, ∃ f, q.BelongsTo m f l left)
    (hr : ∀ m ∈ r.parts, ∃ f, q.BelongsTo m f r right) (op : Operator) (symbol : String)
    (result : Result) :
    ∀ m ∈ (Node.operation op symbol result l r).parts,
      ∃ f, q.BelongsTo m f (.operation op symbol result l r) (.operation op symbol left right) := by
  refine Node.forall_mem_parts_operation.2 ⟨⟨_, .root⟩, fun m hm => ?_, fun m hm => ?_⟩
  · obtain ⟨f, hf⟩ := hl m hm
    exact ⟨f, .left hf⟩
  · obtain ⟨f, hf⟩ := hr m hm
    exact ⟨f, .right hf⟩

/-- Each node of a tree belongs to an expression. -/
theorem Evaluates.exists_belongsTo (h : q.Evaluates depth e n events) :
    ∀ m ∈ n.parts, ∃ f, q.BelongsTo m f n e := by
  induction h with
  | rule hs _ ih =>
    refine Node.forall_mem_parts_rule.2 ⟨⟨_, .root⟩, fun m hm => ?_⟩
    obtain ⟨f, hf⟩ := ih m hm
    exact ⟨f, .formula hs hf⟩
  | decidedByLeft _ _ ih =>
    refine Node.forall_mem_parts_decided.2 ⟨⟨_, .root⟩, fun m hm => ?_⟩
    obtain ⟨f, hf⟩ := ih m hm
    exact ⟨f, .decided hf⟩
  | decidedByRight _ _ _ _ ihl ihr => exact forall_exists_belongsTo_operation ihl ihr _ _ _
  | calculated _ _ _ _ _ ihl ihr => exact forall_exists_belongsTo_operation ihl ihr _ _ _
  | _ => exact Node.forall_mem_parts_leaf.2 ⟨_, .root⟩

/-! ## Names and references -/

/-- The names that an evaluation asks for are those that its nodes stand for, in the same order. -/
theorem Evaluates.askedIn_eq (h : q.Evaluates depth e n events) : askedIn events = n.names := by
  induction h with
  | rule _ _ ih => rw [askedIn_asked_cons, ih, ruleNode, Node.names_rule]
  | decidedByLeft _ _ ih => rw [ih, Node.names_decided]
  | decidedByRight _ _ _ _ ihl ihr => rw [askedIn_append, ihl, ihr, Node.names_operation]
  | @calculated _ op _ _ _ l r _ _ _ _ _ _ _ _ hc ihl ihr =>
    have hwarned := op.askedIn_calculate l.quantity r.quantity
    rw [hc] at hwarned
    rw [askedIn_append, askedIn_append, ihl, ihr, hwarned, List.append_nil, Node.names_operation]
  | _ => rfl

theorem mem_asked_iff : name ∈ (q.evaluate e).asked ↔ name ∈ (q.evaluate e).result.names := by
  rw [Logged.asked_eq, (evaluates_evaluate q e).askedIn_eq]

/-- A node that stands for a name is what a reference to the name comes to. -/
theorem Evaluates.eq_reference (h : q.Evaluates depth f m events) (hname : m.name? = some name) :
    f = .reference name := by
  cases h <;> cases hname <;> rfl

/-- A name that is asked for is referred to where the tree has a node. -/
theorem Evaluates.exists_belongsTo_reference (h : q.Evaluates depth e n events)
    (hname : name ∈ n.names) :
    ∃ m, m.name? = some name ∧ q.BelongsTo m (.reference name) n e := by
  obtain ⟨m, hm, hmname⟩ := Node.mem_names_iff.1 hname
  obtain ⟨f, hf⟩ := h.exists_belongsTo m hm
  obtain ⟨depth', events', hm⟩ := hf.exists_evaluates h
  have hf' := hm.eq_reference hmname
  subst hf'
  exact ⟨m, hmname, hf⟩

end Questionnaire

end Rulebook
