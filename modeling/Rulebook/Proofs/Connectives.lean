import Rulebook.Expr.Evaluate

/-!
# Connected truth values

Formulas of `and` and `or` follow strong Kleene logic, where what does not apply
is false and what is still open is unknown. The units of the operands do not
matter, nor whether an operand decides alone or both are calculated, so that the
operands can be exchanged and regrouped.

* `outcome_connective`: an operation on truth values follows the tables of Kleene.
* `truth?_outcome`: so does a formula of any shape.
* `Rearranged.outcome_eq`: a formula that is rearranged comes to the same.
-/

namespace Rulebook

/-! ## Truth values -/

/-- A truth value that may be unknown. -/
inductive Truth
  | no
  | unknown
  | yes
deriving DecidableEq

/-- The outcome that a truth value is. -/
def Truth.outcome : Truth → Outcome
  | no => .boolean false
  | unknown => .indeterminate
  | yes => .boolean true

/-- The truth value of an outcome, which is false if it does not apply. -/
def Outcome.truth? : Outcome → Option Truth
  | value (.boolean true) => some .yes
  | value (.boolean false) => some .no
  | inapplicable => some .no
  | indeterminate => some .unknown
  | _ => none

theorem Truth.truth?_outcome (t : Truth) : t.outcome.truth? = some t := by
  cases t <;> rfl

theorem Truth.outcome_ne_inapplicable (t : Truth) : t.outcome ≠ .inapplicable := by
  cases t <;> nofun

theorem Outcome.truth?_eq_some_iff {o : Outcome} {t : Truth} :
    o.truth? = some t ↔ o = t.outcome ∨ o = .inapplicable ∧ t = .no := by
  constructor
  · intro h
    unfold truth? at h
    split at h <;> cases h
    · exact .inl rfl
    · exact .inl rfl
    · exact .inr ⟨rfl, rfl⟩
    · exact .inl rfl
  · rintro (rfl | ⟨rfl, rfl⟩)
    · exact t.truth?_outcome
    · rfl

namespace Connective

/-- The truth value of an operand that settles the whole. -/
def settling : Connective → Truth
  | and => .no
  | or => .yes

/-- The truth value that the whole has if both operands have it and it settles nothing. -/
def neutral : Connective → Truth
  | and => .yes
  | or => .no

/-- The strong tables of Kleene: one operand may settle the whole, and otherwise both are needed. -/
def kleene (c : Connective) (t u : Truth) : Truth :=
  if t = c.settling ∨ u = c.settling then c.settling
  else if t = c.neutral ∧ u = c.neutral then c.neutral
  else .unknown

theorem kleene_comm (c : Connective) (t u : Truth) : c.kleene t u = c.kleene u t := by
  cases c <;> cases t <;> cases u <;> rfl

theorem kleene_assoc (c : Connective) (t u v : Truth) :
    c.kleene (c.kleene t u) v = c.kleene t (c.kleene u v) := by
  cases c <;> cases t <;> cases u <;> cases v <;> rfl

end Connective

/-! ## Operations on truth values -/

namespace Connective

variable {c : Connective} {t u : Truth}

/-- Two truth values come to what the tables say, decided by one of them or combined. -/
theorem outcome_kleene {left right : Outcome} (hleft : left.truth? = some t)
    (hright : right.truth? = some u) :
    (((Operator.connective c).decidedByLeft? left).or
      ((Operator.connective c).decidedByRight? right)).getD
      ((Operator.connective c).combineKnown left right).result = (c.kleene t u).outcome := by
  rcases Outcome.truth?_eq_some_iff.1 hleft with rfl | ⟨rfl, rfl⟩ <;>
    rcases Outcome.truth?_eq_some_iff.1 hright with rfl | ⟨rfl, rfl⟩ <;> clear hleft hright
  · cases c <;> cases t <;> cases u <;> rfl
  · cases c <;> cases t <;> rfl
  · cases c <;> cases u <;> rfl
  · cases c <;> rfl

end Connective

namespace Operator

variable {c : Connective} {t u : Truth}

theorem number?_eq_none_of_truth? {o : Outcome} (h : o.truth? = some t) : o.number? = none := by
  rcases Outcome.truth?_eq_some_iff.1 h with rfl | ⟨rfl, -⟩
  · cases t <;> rfl
  · rfl

/-- A connective combines truth values as they are, whatever units they have. -/
theorem outcome_calculate_connective {left right : Quantity}
    (hleft : left.outcome.truth? = some t) (hright : right.outcome.truth? = some u) :
    ((connective c).calculate left right).result.outcome =
      ((connective c).combineKnown left.outcome right.outcome).result :=
  outcome_calculate_of_number?_eq_none rfl (number?_eq_none_of_truth? hleft)
    (number?_eq_none_of_truth? hright)

end Operator

/-- An operation on truth values follows the tables of Kleene. -/
theorem Expr.outcome_connective {resolve : String → Logged Node} {left right : Expr}
    {c : Connective} {t u : Truth} (hleft : (left.evaluate resolve).result.outcome.truth? = some t)
    (hright : (right.evaluate resolve).result.outcome.truth? = some u) (symbol : String) :
    ((operation (.connective c) symbol left right).evaluate resolve).result.outcome =
      (c.kleene t u).outcome := by
  have hcalculate : ((Operator.connective c).calculate (left.evaluate resolve).result.quantity
      (right.evaluate resolve).result.quantity).result.outcome = _ :=
    Operator.outcome_calculate_connective hleft hright
  rw [outcome_evaluate_operation, hcalculate]
  exact Connective.outcome_kleene hleft hright

/-! ## Formulas -/

/-- Expressions joined by connectives, in any shape. -/
inductive Formula
  | operand (e : Expr)
  | joined (c : Connective) (symbol : String) (left right : Formula)

namespace Formula

def expr : Formula → Expr
  | operand e => e
  | joined c symbol left right => .operation (.connective c) symbol left.expr right.expr

/-- The expressions that are joined, from left to right. -/
def operands : Formula → List Expr
  | operand e => [e]
  | joined _ _ left right => left.operands ++ right.operands

/-- The formula itself and the formulas that it is made of. -/
def parts : Formula → List Formula
  | operand e => [operand e]
  | joined c symbol left right => joined c symbol left right :: (left.parts ++ right.parts)

/-- The truth value of a formula by the tables of Kleene. -/
def truth (val : Expr → Truth) : Formula → Truth
  | operand e => val e
  | joined c _ left right => c.kleene (left.truth val) (right.truth val)

/-- What a formula comes to. -/
def outcome (resolve : String → Logged Node) (f : Formula) : Outcome :=
  (f.expr.evaluate resolve).result.outcome

variable {resolve : String → Logged Node} {val : Expr → Truth} {f g : Formula}

theorem mem_operands_of_mem_parts {e : Expr} (hg : g ∈ f.parts) (he : e ∈ g.operands) :
    e ∈ f.operands := by
  induction f with
  | operand e' =>
    rw [List.mem_singleton.1 hg] at he
    exact he
  | joined c symbol left right ihl ihr =>
    rcases List.mem_cons.1 hg with rfl | hg
    · exact he
    · rcases List.mem_append.1 hg with hg | hg
      · exact List.mem_append_left _ (ihl hg)
      · exact List.mem_append_right _ (ihr hg)

/-- A formula has the truth value that the tables give, if its operands have theirs. -/
theorem truth?_outcome
    (hval : ∀ e ∈ f.operands, (e.evaluate resolve).result.outcome.truth? = some (val e)) :
    (f.outcome resolve).truth? = some (f.truth val) := by
  induction f with
  | operand e => exact hval e (List.mem_singleton_self e)
  | joined c symbol left right ihl ihr =>
    obtain ⟨hleft, hright⟩ := List.forall_mem_append.1 hval
    rw [outcome, expr, Expr.outcome_connective (ihl hleft) (ihr hright) symbol]
    exact Truth.truth?_outcome _

/-- What is joined by a connective comes to the truth value that the tables give. -/
theorem outcome_joined {c : Connective} {symbol : String} {left right : Formula}
    (hval : ∀ e ∈ (joined c symbol left right).operands,
      (e.evaluate resolve).result.outcome.truth? = some (val e)) :
    (joined c symbol left right).outcome resolve =
      (c.kleene (left.truth val) (right.truth val)).outcome := by
  obtain ⟨hleft, hright⟩ := List.forall_mem_append.1 hval
  exact Expr.outcome_connective (truth?_outcome hleft) (truth?_outcome hright) symbol

/-! ## Exchanging and regrouping -/

/-- Whether a formula becomes another one by exchanging the operands of connectives and regrouping
operands of one connective, anywhere in it and in any number of steps. -/
inductive Rearranged : Formula → Formula → Prop
  | refl (f : Formula) : Rearranged f f
  | symm {f g : Formula} : Rearranged f g → Rearranged g f
  | trans {f g h : Formula} : Rearranged f g → Rearranged g h → Rearranged f h
  | exchange (c : Connective) (symbol symbol' : String) (f g : Formula) :
    Rearranged (joined c symbol f g) (joined c symbol' g f)
  | regroup (c : Connective) (symbol symbol₁ symbol' symbol₂ : String) (f g h : Formula) :
    Rearranged (joined c symbol (joined c symbol₁ f g) h)
      (joined c symbol' f (joined c symbol₂ g h))
  | inside (c : Connective) (symbol symbol' : String) {f f' g g' : Formula} :
    Rearranged f f' → Rearranged g g' → Rearranged (joined c symbol f g) (joined c symbol' f' g')

namespace Rearranged

theorem operands_perm (h : Rearranged f g) : f.operands.Perm g.operands := by
  induction h with
  | refl f => exact .refl _
  | symm _ ih => exact ih.symm
  | trans _ _ ih ih' => exact ih.trans ih'
  | exchange c _ _ f g => exact List.perm_append_comm
  | regroup c _ _ _ _ f g h => exact .of_eq (List.append_assoc ..)
  | inside c _ _ _ _ ih ih' => exact ih.append ih'

theorem truth_eq (h : Rearranged f g) (val : Expr → Truth) : f.truth val = g.truth val := by
  induction h with
  | refl f => rfl
  | symm _ ih => exact ih.symm
  | trans _ _ ih ih' => exact ih.trans ih'
  | exchange c _ _ f g => exact c.kleene_comm _ _
  | regroup c _ _ _ _ f g h => exact c.kleene_assoc _ _ _
  | inside c _ _ _ _ ih ih' => rw [truth, truth, ih, ih']

/-- An expression that is not joined to another one stands alone. -/
theorem eq_or_joined (h : Rearranged f g) :
    f = g ∨ (∃ c symbol left right, f = joined c symbol left right) ∧
      ∃ c symbol left right, g = joined c symbol left right := by
  induction h with
  | refl f => exact .inl rfl
  | symm _ ih => exact ih.imp Eq.symm And.symm
  | trans _ _ ih ih' =>
    rcases ih with rfl | ⟨hf, hg⟩
    · exact ih'
    · rcases ih' with rfl | ⟨-, hh⟩
      · exact .inr ⟨hf, hg⟩
      · exact .inr ⟨hf, hh⟩
  | exchange c _ _ f g => exact .inr ⟨⟨_, _, _, _, rfl⟩, _, _, _, _, rfl⟩
  | regroup c _ _ _ _ f g h => exact .inr ⟨⟨_, _, _, _, rfl⟩, _, _, _, _, rfl⟩
  | inside c _ _ _ _ _ _ => exact .inr ⟨⟨_, _, _, _, rfl⟩, _, _, _, _, rfl⟩

/-- A formula that is rearranged comes to the same. -/
theorem outcome_eq (h : Rearranged f g)
    (hval : ∀ e ∈ f.operands, (e.evaluate resolve).result.outcome.truth? = some (val e)) :
    g.outcome resolve = f.outcome resolve := by
  rcases h.eq_or_joined with rfl | ⟨⟨c, symbol, left, right, rfl⟩, c', symbol', left', right', rfl⟩
  · rfl
  · have hval' := fun e he => hval e (h.operands_perm.mem_iff.2 he)
    rw [outcome_joined hval, outcome_joined hval']
    exact congrArg Truth.outcome (h.truth_eq val).symm

end Rearranged

/-- If the operands of a formula come to truth values, where what does not apply is false and what
is open is unknown, then each formula in it has the truth value of the strong tables of Kleene. What
is joined by a connective is never inapplicable, and comes to the same if the operands are exchanged
and regrouped. -/
theorem outcome_formula {resolve : String → Logged Node} {val : Expr → Truth} {f : Formula}
    (hval : ∀ e ∈ f.operands, (e.evaluate resolve).result.outcome.truth? = some (val e)) :
    (∀ g ∈ f.parts, (g.outcome resolve).truth? = some (g.truth val)) ∧
      (∀ c symbol left right, joined c symbol left right ∈ f.parts →
        (joined c symbol left right).outcome resolve =
            (c.kleene (left.truth val) (right.truth val)).outcome ∧
          (joined c symbol left right).outcome resolve ≠ .inapplicable) ∧
      ∀ g, f.Rearranged g → g.outcome resolve = f.outcome resolve := by
  refine ⟨fun g hg => ?_, fun c symbol left right hg => ?_, fun g hg => hg.outcome_eq hval⟩
  · exact truth?_outcome fun e he => hval e (mem_operands_of_mem_parts hg he)
  · rw [outcome_joined fun e he => hval e (mem_operands_of_mem_parts hg he)]
    exact ⟨rfl, Truth.outcome_ne_inapplicable _⟩

/-- Whether someone is an adult resident or exempt stays open as long as the residence is not known
and the exemption does not apply, in whatever units and from whichever side. -/
theorem outcome_formula_exemption :
    let node (name : String) (o : Outcome) (atom : String) : Logged Node :=
      pure (.leaf (.given name) ⟨⟨o, some (.atom atom)⟩, .single name⟩)
    let resolve : String → Logged Node
      | "adult" => node "adult" (.boolean true) "m"
      | "resident" => node "resident" .indeterminate "kg"
      | name => node name .inapplicable "%"
    let val : Expr → Truth
      | .reference "adult" => .yes
      | .reference "resident" => .unknown
      | _ => .no
    let adult := operand (.reference "adult")
    let resident := operand (.reference "resident")
    let exempt := operand (.reference "exempt")
    let f := joined .or "or" (joined .and "and" adult resident) exempt
    let g := joined .or "or" exempt (joined .and "and" resident adult)
    (∀ e ∈ f.operands, (e.evaluate resolve).result.outcome.truth? = some (val e)) ∧
      f.outcome resolve = .indeterminate ∧ g.outcome resolve = f.outcome resolve := by
  intro node resolve val adult resident exempt f g
  have hval : ∀ e ∈ f.operands, (e.evaluate resolve).result.outcome.truth? = some (val e) := by
    decide +kernel
  obtain ⟨-, hjoined, hrearranged⟩ := outcome_formula hval
  refine ⟨hval, (hjoined _ _ _ _ (List.mem_cons_self ..)).1, hrearranged g ?_⟩
  exact .trans (.exchange .or "or" "or" _ _) (.inside _ _ _ (.refl _) (.exchange ..))

end Formula

end Rulebook
