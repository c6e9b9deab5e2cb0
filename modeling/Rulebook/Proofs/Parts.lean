import Rulebook.Node

/-!
# The nodes of a tree

A node together with the nodes below it, each before its children.

* `induction_children`: what a node has if its children have it, all nodes have.
* `mem_parts_trans`: the nodes of a node of a tree are nodes of the tree.
-/

namespace Rulebook.Node

/-- The node itself and the nodes below it. -/
def parts : Node → List Node
  | leaf origin r => [leaf origin r]
  | rule name r formula => rule name r formula :: formula.parts
  | decided op symbol r left => decided op symbol r left :: left.parts
  | operation op symbol r left right =>
    operation op symbol r left right :: (left.parts ++ right.parts)

theorem mem_parts_iff {m n : Node} : m ∈ n.parts ↔ m = n ∨ ∃ c ∈ n.children, m ∈ c.parts := by
  cases n <;> simp [parts, children]

theorem self_mem_parts (n : Node) : n ∈ n.parts :=
  mem_parts_iff.2 (.inl rfl)

/-- The nodes of a child are nodes of the tree. -/
theorem mem_parts_of_mem_children {m n c : Node} (hc : c ∈ n.children) (hm : m ∈ c.parts) :
    m ∈ n.parts :=
  mem_parts_iff.2 (.inr ⟨c, hc, hm⟩)

/-- What a node has if its children have it, all nodes have. -/
theorem induction_children {P : Node → Prop} (h : ∀ n : Node, (∀ c ∈ n.children, P c) → P n)
    (n : Node) : P n := by
  induction n with
  | leaf => exact h _ nofun
  | rule _ _ _ ih => exact h _ (List.forall_mem_singleton.2 ih)
  | decided _ _ _ _ ih => exact h _ (List.forall_mem_singleton.2 ih)
  | operation _ _ _ _ _ ihl ihr =>
    exact h _ (List.forall_mem_cons.2 ⟨ihl, List.forall_mem_singleton.2 ihr⟩)

/-- The nodes of a node of a tree are nodes of the tree. -/
theorem mem_parts_trans {l m n : Node} (hl : l ∈ m.parts) (hm : m ∈ n.parts) : l ∈ n.parts := by
  induction n using induction_children with
  | h n ih =>
    rcases mem_parts_iff.1 hm with rfl | ⟨c, hc, hm⟩
    · exact hl
    · exact mem_parts_of_mem_children hc (ih c hc hm)

/-! ## Properties of all nodes -/

theorem forall_mem_parts_leaf {P : Node → Prop} {origin : Origin} {r : Result} :
    (∀ m ∈ (leaf origin r).parts, P m) ↔ P (leaf origin r) :=
  List.forall_mem_singleton

theorem forall_mem_parts_rule {P : Node → Prop} {name : String} {r : Result} {formula : Node} :
    (∀ m ∈ (rule name r formula).parts, P m) ↔
      P (rule name r formula) ∧ ∀ m ∈ formula.parts, P m :=
  List.forall_mem_cons

theorem forall_mem_parts_decided {P : Node → Prop} {op : Operator} {symbol : String} {r : Result}
    {left : Node} :
    (∀ m ∈ (decided op symbol r left).parts, P m) ↔
      P (decided op symbol r left) ∧ ∀ m ∈ left.parts, P m :=
  List.forall_mem_cons

theorem forall_mem_parts_operation {P : Node → Prop} {op : Operator} {symbol : String} {r : Result}
    {left right : Node} :
    (∀ m ∈ (operation op symbol r left right).parts, P m) ↔
      P (operation op symbol r left right) ∧ (∀ m ∈ left.parts, P m) ∧
        ∀ m ∈ right.parts, P m := by
  rw [parts, List.forall_mem_cons, List.forall_mem_append]

end Rulebook.Node
