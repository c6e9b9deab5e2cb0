import Rulebook.Proofs.Ranking

/-!
# How deep rules are nested

The limit is kept exactly: no leaf of a tree stands in more rules than it
allows, and a leaf that was cut off stands in just so many. Each such leaf has
its warning, in the same order. Rules that can be ranked within the limit are
not cut off at all.

* `Evaluates.rules_le`, `Evaluates.rules_of_cutOff`: how many rules a leaf stands in.
* `Evaluates.warningsIn_filter_isCutOff`: the warnings are those of the leaves that were cut off.
* `nesting_within_limit`: both, and what ranked rules come to.
-/

namespace Rulebook

def Warning.isCutOff : Warning → Bool
  | cutOff _ _ => true
  | _ => false

namespace Node

/-- Where a leaf comes from, and in how many rules it stands. -/
structure Leaf where
  origin : Origin
  rules : Nat
deriving DecidableEq

/-- The leaves of a tree from left to right, if the tree itself stands in `rules` rules. -/
def leaves (rules : Nat) : Node → List Leaf
  | leaf origin _ => [⟨origin, rules⟩]
  | rule _ _ formula => formula.leaves (rules + 1)
  | decided _ _ _ left => left.leaves rules
  | operation _ _ _ left right => left.leaves rules ++ right.leaves rules

/-- The name of the rule that was cut off at a leaf. -/
def Leaf.cutOff? (l : Leaf) : Option String :=
  match l.origin with
  | .cutOff name => some name
  | _ => none

/-- The names of the rules that were cut off in a tree, from left to right. -/
def cutOffs (n : Node) : List String :=
  (n.leaves 0).filterMap Leaf.cutOff?

theorem filterMap_cutOff?_leaves (n : Node) (rules : Nat) :
    (n.leaves rules).filterMap Leaf.cutOff? = n.cutOffs := by
  suffices h : ∀ rules rules', (n.leaves rules).filterMap Leaf.cutOff? =
      (n.leaves rules').filterMap Leaf.cutOff? from h rules 0
  induction n with
  | leaf => exact fun _ _ => rfl
  | rule _ _ _ ih => exact fun _ _ => ih _ _
  | decided _ _ _ _ ih => exact ih
  | operation _ _ _ _ _ ihl ihr =>
    intro rules rules'
    rw [leaves, leaves, List.filterMap_append, List.filterMap_append, ihl rules rules',
      ihr rules rules']

theorem cutOffs_rule (name : String) (r : Result) (formula : Node) :
    (rule name r formula).cutOffs = formula.cutOffs :=
  filterMap_cutOff?_leaves formula 1

theorem cutOffs_operation (op : Operator) (symbol : String) (r : Result) (left right : Node) :
    (operation op symbol r left right).cutOffs = left.cutOffs ++ right.cutOffs :=
  List.filterMap_append

end Node

namespace Questionnaire

variable {q : Questionnaire} {depth : Nat} {e : Expr} {n : Node} {events : List Event}

/-- No leaf stands in more rules than those around the tree and the depth that is left. -/
theorem Evaluates.rules_le (h : q.Evaluates depth e n events) (rules : Nat) :
    ∀ l ∈ n.leaves rules, l.rules ≤ rules + depth := by
  induction h generalizing rules with
  | rule _ _ ih =>
    intro l hl
    have hle := ih (rules + 1) l hl
    omega
  | decidedByLeft _ _ ih => exact ih rules
  | decidedByRight _ _ _ _ ihl ihr => exact List.forall_mem_append.2 ⟨ihl rules, ihr rules⟩
  | calculated _ _ _ _ _ ihl ihr => exact List.forall_mem_append.2 ⟨ihl rules, ihr rules⟩
  | _ => exact List.forall_mem_singleton.2 (Nat.le_add_right ..)

/-- A leaf that was cut off stands in all of them. -/
theorem Evaluates.rules_of_cutOff (h : q.Evaluates depth e n events) (rules : Nat) :
    ∀ l ∈ n.leaves rules, l.cutOff?.isSome → l.rules = rules + depth := by
  induction h generalizing rules with
  | cutOff _ => exact List.forall_mem_singleton.2 fun _ => rfl
  | rule _ _ ih =>
    intro l hl hcut
    have heq := ih (rules + 1) l hl hcut
    omega
  | decidedByLeft _ _ ih => exact ih rules
  | decidedByRight _ _ _ _ ihl ihr => exact List.forall_mem_append.2 ⟨ihl rules, ihr rules⟩
  | calculated _ _ _ _ _ ihl ihr => exact List.forall_mem_append.2 ⟨ihl rules, ihr rules⟩
  | _ => exact List.forall_mem_singleton.2 nofun

theorem filter_isCutOff_eq_nil (h : NoCutOff events) :
    (warningsIn events).filter Warning.isCutOff = [] := by
  refine List.filter_eq_nil_iff.2 fun w hw => ?_
  cases w with
  | cutOff name limit => exact absurd (mem_warningsIn.1 hw) (h name limit)
  | _ => exact Bool.false_ne_true

/-- The warnings that rules were cut off are those of the leaves that were, in the same order. -/
theorem Evaluates.warningsIn_filter_isCutOff (h : q.Evaluates depth e n events) :
    (warningsIn events).filter Warning.isCutOff =
      n.cutOffs.map fun name => .cutOff name q.settings.maxDepth := by
  induction h with
  | rule _ _ ih => rw [warningsIn_asked_cons, ih, ruleNode, Node.cutOffs_rule]
  | decidedByLeft _ _ ih => exact ih
  | decidedByRight _ _ _ _ ihl ihr =>
    rw [warningsIn_append, List.filter_append, ihl, ihr, Node.cutOffs_operation, List.map_append]
  | @calculated _ op _ _ _ l r _ _ _ _ _ _ _ _ hc ihl ihr =>
    have hwarned := filter_isCutOff_eq_nil (op.noCutOff_calculate l.quantity r.quantity)
    rw [hc] at hwarned
    rw [warningsIn_append, warningsIn_append, List.filter_append, List.filter_append, ihl, ihr,
      hwarned, List.append_nil, Node.cutOffs_operation, List.map_append]
  | _ => rfl

/-- Rules that are ranked within the limit come to what they come to without one, and nothing is cut
off. In any tree, no path to a leaf goes through more rules than the limit allows, and each warning
that a rule was cut off is that of a leaf that so many rules lead to. -/
theorem nesting_within_limit (q : Questionnaire) :
    (∀ (r : q.Ranking) (name : String) (rule : Rule) (formula : Expr),
      q.standing name = .computed rule formula → r.rank name ≤ q.settings.maxDepth →
        (∀ other limit, .cutOff other limit ∉ (q.evaluateRule name).warnings) ∧
          q.evaluateRule name = r.evaluate (.reference name)) ∧
    ∀ e,
      (∀ l ∈ (q.evaluate e).result.leaves 0, l.rules ≤ q.settings.maxDepth) ∧
      (∀ l ∈ (q.evaluate e).result.leaves 0, l.cutOff?.isSome → l.rules = q.settings.maxDepth) ∧
      (q.evaluate e).warnings.filter Warning.isCutOff =
        ((q.evaluate e).result.leaves 0).filterMap fun l =>
          l.cutOff?.map fun name => .cutOff name q.settings.maxDepth := by
  constructor
  · intro r name rule formula hs hrank
    have hlevel : ∀ other ∈ (Expr.reference name).names,
        r.level other ≤ q.settings.maxDepth := by
      refine List.forall_mem_singleton.2 ?_
      rw [r.level_of_computed hs]
      exact hrank
    have hcut := (evaluates_evaluate q (.reference name)).noCutOff r hlevel
    exact ⟨fun other limit h => hcut other limit (Logged.mem_warnings.1 h),
      r.evaluate_of_level_le hlevel⟩
  · intro e
    have h := evaluates_evaluate q e
    refine ⟨fun l hl => ?_, fun l hl hcut => ?_, ?_⟩
    · simpa using h.rules_le 0 l hl
    · simpa using h.rules_of_cutOff 0 l hl hcut
    · rw [Logged.warnings_eq, h.warningsIn_filter_isCutOff, Node.cutOffs, List.map_filterMap]

/-- A rule that another one uses twice is nested in it twice, within a limit of two. -/
theorem nesting_within_limit_square :
    let side : Rule := Rule.question.withFormula (.binary .add (.reference "hours") (.number .one))
    let product : Expr := .binary .mul (.reference "side") (.reference "side")
    let q : Questionnaire := {
      rules := Rules.ofList
        [("hours", .question), ("side", side), ("square", Rule.question.withFormula product)]
      settings := { maxDepth := 2 } }
    ∃ r : q.Ranking, r.rank "square" = 2 ∧
      (∀ other limit, .cutOff other limit ∉ (q.evaluateRule "square").warnings) ∧
      q.evaluateRule "square" = r.evaluate (.reference "square") := by
  intro side product q
  have hformula {name rule formula} (hs : q.standing name = .computed rule formula) :
      name = "side" ∧ formula.names = ["hours"] ∨
        name = "square" ∧ formula.names = ["side", "side"] := by
    obtain ⟨hrule, -, hformula⟩ := standing_eq_computed_iff.1 hs
    have hmem := Rules.mem_of_get?_ofList hrule
    simp only [List.mem_cons, Prod.mk.injEq, List.not_mem_nil, or_false] at hmem
    rcases hmem with ⟨-, rfl⟩ | ⟨rfl, rfl⟩ | ⟨rfl, rfl⟩ <;> cases hformula
    · exact .inl ⟨rfl, rfl⟩
    · exact .inr ⟨rfl, rfl⟩
  let r : q.Ranking := {
    rank name := if name = "square" then 2 else 1
    rank_pos _ := by split <;> decide
    rank_lt := by
      intro name rule formula hs other hother rule' formula' hs'
      rcases hformula hs with ⟨rfl, hnames⟩ | ⟨rfl, hnames⟩ <;>
        rcases hformula hs' with ⟨rfl, -⟩ | ⟨rfl, -⟩ <;> simp_all }
  have hrule : q.rules["square"]? = some (Rule.question.withFormula product) :=
    Rules.get?_add_self _ _ _
  have hs := standing_eq_computed_iff.2 ⟨hrule, rfl, rfl⟩
  exact ⟨r, rfl, (nesting_within_limit q).1 r "square" _ product hs (Nat.le_refl 2)⟩

/-- Two nested rules are one too many for a limit of one. -/
example :
    let side : Rule := Rule.question.withFormula (.number .one)
    let product : Expr := .binary .mul (.reference "side") (.reference "side")
    let q : Questionnaire := {
      rules := Rules.ofList [("side", side), ("square", Rule.question.withFormula product)]
      settings := { maxDepth := 1 } }
    (q.evaluateRule "square").warnings = [.cutOff "side" 1, .cutOff "side" 1] := by
  decide

end Questionnaire

end Rulebook
