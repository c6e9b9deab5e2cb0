import Rulebook.Proofs.Accounting
import Rulebook.Proofs.Amounts
import Rulebook.Proofs.WrittenUnits

/-!
# Units that trees show

If the units of rules and constants are read from texts, then the units in the
trees of evaluations are such units as well: none of them is empty, and the text
of each is read as that unit. Every place where a unit comes from keeps this:
constants and calculations drop the empty unit, products and quotients only
cancel atoms, and a share loses the atom of percentages.

* `Operator.shown_calculate`: the unit of a calculation can be shown if those of
  its operands can.
* `Evaluates.shown`: so can the units of all nodes of a tree.
* `parse_text_of_mem_parts`: the text of each of them is read again.
-/

namespace Rulebook

namespace Measure

/-- Whether there is no unit, or one that is not empty and can be written. -/
structure Shown (u : Option Measure) : Prop where
  ne_empty : u ≠ some .empty
  writable : ∀ v ∈ u, v.Writable

variable {u v : Option Measure}

theorem shown_none : Shown none where
  ne_empty h := by cases h
  writable v hv := by cases hv

/-- The empty unit is dropped. -/
theorem shown_normal (h : ∀ v ∈ u, v.Writable) : Shown (normal u) where
  ne_empty := normal_ne_empty _
  writable v hv := h v (normal_eq_some_iff.1 hv).1

theorem Writable.shown_nonEmpty? {u : Measure} (h : u.Writable) : Shown u.nonEmpty? :=
  shown_normal (u := some u) fun _ hv => Option.some_inj.1 hv ▸ h

theorem Shown.writable_orEmpty (h : Shown u) : (orEmpty u).Writable := by
  cases u with
  | none => exact writable_empty
  | some w => exact h.writable w rfl

theorem Shown.or (hu : Shown u) (hv : Shown v) : Shown (u.or v) := by
  cases u with
  | none => exact hv
  | some w => exact hu

end Measure

/-! ## Calculations -/

namespace Operator

variable {op : Operator} {left right : Option Measure}

open Rulebook.Measure

/-- The unit of a result can be shown if those of the operands can. -/
theorem shown_unit? (op : Operator) (hleft : Shown left) (hright : Shown right) :
    Shown (op.unit? left right) := by
  unfold unit?
  split
  · exact (hleft.writable_orEmpty.multiply hright.writable_orEmpty).shown_nonEmpty?
  · exact (hleft.writable_orEmpty.multiply hright.writable_orEmpty.inverse).shown_nonEmpty?
  · exact shown_normal (hleft.or hright).writable
  · exact shown_normal (hleft.or hright).writable
  · exact shown_none

/-- A share is without one `%`, and without unit if no more was left. -/
theorem shown_withUnit (h : Shown (op.unit? left right)) (o : Outcome) :
    Shown (op.withUnit o left right).unit := by
  unfold withUnit
  split
  · rename_i u hu
    have hwritable := h.writable u hu
    split
    · exact (hwritable.multiply writable_percent.inverse).shown_nonEmpty?
    · exact hu ▸ h
  · exact h

/-- The unit of a calculation can be shown if those of its operands can. -/
theorem shown_calculate (op : Operator) {left right : Quantity} (hleft : Shown left.unit)
    (hright : Shown right.unit) : Shown (op.calculate left right).result.unit := by
  cases h : op.adjustment? left right with
  | some adjustment =>
    rw [calculate, h]
    exact (unit_adjust op adjustment left right).symm ▸ hleft
  | none =>
    rw [calculate_of_adjustment?_eq_none h]
    refine shown_withUnit ?_ _
    rw [unit?_reconcile]
    exact shown_unit? op hleft hright

end Operator

/-! ## Trees -/

namespace Questionnaire

open Rulebook.Measure

variable {q : Questionnaire} {depth : Nat} {e : Expr} {n : Node} {events : List Event}

theorem shown_answerUnit {rule : Rule} (h : Shown rule.unit) (v : Value) :
    Shown (answerUnit rule v) := by
  cases v with
  | number n => exact h
  | boolean b => exact shown_none
  | text t => exact shown_none
  | date d => exact shown_none

/-- The units of all nodes of a tree can be shown, if those of rules can and those of constants can
be written. -/
theorem Evaluates.shown (h : q.Evaluates depth e n events)
    (hrules : ∀ {name : String} {rule : Rule}, q.rules[name]? = some rule → Shown rule.unit)
    (hconstants : ∀ {c : Quantity}, q.Holds e c → ∀ u ∈ c.unit, u.Writable) :
    ∀ m ∈ n.parts, Shown m.quantity.unit := by
  induction h with
  | constant c =>
    have hc := hconstants (.inl (List.mem_singleton_self c))
    exact Node.forall_mem_parts_leaf.2 (shown_normal hc)
  | unknown _ => exact Node.forall_mem_parts_leaf.2 shown_none
  | @given _ _ _ _ v hs _ =>
    have hrule := hrules (standing_eq_answered_iff.1 hs).1
    exact Node.forall_mem_parts_leaf.2 (shown_answerUnit hrule v)
  | unreadable _ _ => exact Node.forall_mem_parts_leaf.2 shown_none
  | question hs =>
    have hrule := hrules (standing_eq_unanswered_iff.1 hs).1
    exact Node.forall_mem_parts_leaf.2 hrule
  | cutOff _ => exact Node.forall_mem_parts_leaf.2 shown_none
  | @rule _ _ _ _ n _ hs _ ih =>
    have hrule := hrules (standing_eq_computed_iff.1 hs).1
    have hformula := ih fun hc => hconstants (holds_reference hs hc)
    exact Node.forall_mem_parts_rule.2 ⟨(hformula n n.self_mem_parts).or hrule, hformula⟩
  | decidedByLeft _ _ ih =>
    have hleft := ih fun hc => hconstants (holds_operation (.inl hc))
    exact Node.forall_mem_parts_decided.2 ⟨shown_none, hleft⟩
  | decidedByRight _ _ _ _ ihl ihr =>
    have hleft := ihl fun hc => hconstants (holds_operation (.inl hc))
    have hright := ihr fun hc => hconstants (holds_operation (.inr hc))
    exact Node.forall_mem_parts_operation.2 ⟨shown_none, hleft, hright⟩
  | @calculated _ op _ _ _ l r _ _ _ _ _ _ _ _ hc ihl ihr =>
    have hleft := ihl fun hc => hconstants (holds_operation (.inl hc))
    have hright := ihr fun hc => hconstants (holds_operation (.inr hc))
    have hcalculated :=
      op.shown_calculate (hleft l l.self_mem_parts) (hright r r.self_mem_parts)
    rw [hc] at hcalculated
    refine Node.forall_mem_parts_operation.2 ⟨?_, hleft, hright⟩
    exact shown_normal hcalculated.writable

/-- If the units of the rules, and those of the constants in the expression and in formulas, are
read from texts, then a node of the tree has no unit, or one that is not empty and that is read
from its own text. -/
theorem parse_text_of_mem_parts {q : Questionnaire} {e : Expr}
    (hrules : ∀ (name : String) (rule : Rule) (u : Measure), q.rules[name]? = some rule →
      rule.unit = some u → ∃ text, Measure.parse text = .ok u)
    (hconstants : ∀ (c : Quantity) (u : Measure), q.Holds e c → c.unit = some u →
      ∃ text, Measure.parse text = .ok u) :
    ∀ n ∈ (q.evaluate e).result.parts, n.quantity.unit = none ∨
      ∃ u, n.quantity.unit = some u ∧ u ≠ .empty ∧ Measure.parse u.text = .ok u := by
  intro n hn
  have hshown : Shown n.quantity.unit := by
    refine (evaluates_evaluate q e).shown (fun {name rule} hrule => ?_) (fun {c} hc u hu => ?_) n hn
    · refine ⟨rule.unit_ne_empty, fun u hu => ?_⟩
      obtain ⟨text, hread⟩ := hrules _ _ u hrule hu
      exact writable_of_parse hread
    · obtain ⟨text, hread⟩ := hconstants _ u hc hu
      exact writable_of_parse hread
  cases hunit : n.quantity.unit with
  | none => exact .inl rfl
  | some u =>
    rw [hunit] at hshown
    refine .inr ⟨u, rfl, fun hempty => hshown.ne_empty (congrArg some hempty), ?_⟩
    exact parse_text (hshown.writable u rfl)

/-- Ten percent of what three kilograms cost are an amount of money, whose unit is read again, and
so are the units of all that it is calculated from. A fee in the empty unit takes that unit. -/
theorem parse_text_of_mem_parts_share :
    let price : Rule := Rule.question.withUnit ⟨["EUR"], ["kg"]⟩
    let weight : Rule := Rule.question.withUnit (.atom "kg")
    let ten : Quantity := ⟨.number (.ofParts 10 0), some .percent⟩
    let fee : Quantity := ⟨.number .one, some .empty⟩
    let q : Questionnaire := {
      rules := Rules.ofList
        [("price", price), ("weight", weight), ("tax", Rule.question.withFormula (.constant ten))]
      situation := (∅ : Situation).insert "weight" (.number (.ofParts 3 0)) }
    let cost : Expr := .binary .mul (.reference "price") (.reference "weight")
    let e : Expr := .binary .add (.binary .mul cost (.reference "tax")) (.constant fee)
    let n := (q.evaluate e).result
    n.quantity.unit = some (.atom "EUR") ∧ ∀ m ∈ n.parts, m.quantity.unit = none ∨
      ∃ u, m.quantity.unit = some u ∧ u ≠ .empty ∧ Measure.parse u.text = .ok u := by
  intro price weight ten fee q cost e n
  have hrules : ∀ {name : String} {rule : Rule}, q.rules[name]? = some rule →
      rule = price ∨ rule = weight ∨ rule = Rule.question.withFormula (.constant ten) := by
    intro name rule hrule
    have hmem := Rules.mem_of_get?_ofList hrule
    simp only [List.mem_cons, Prod.mk.injEq, List.not_mem_nil, or_false] at hmem
    exact hmem.imp And.right (Or.imp And.right And.right)
  have hconstants : ∀ {c : Quantity}, q.Holds e c → c = ten ∨ c = fee := by
    rintro c (hc | ⟨name, rule, formula, hrule, hformula, hc⟩)
    · exact .inr (List.mem_singleton.1 hc)
    · rcases hrules hrule with rfl | rfl | rfl <;> cases hformula
      exact .inl (List.mem_singleton.1 hc)
  refine ⟨by decide +kernel, parse_text_of_mem_parts ?_ ?_⟩
  · intro name rule u hrule hu
    rcases hrules hrule with rfl | rfl | rfl <;> cases hu
    · exact ⟨"EUR/kg", parse_eq_ok_iff.2 (by decide +kernel)⟩
    · exact ⟨"kg", parse_eq_ok_iff.2 (by decide +kernel)⟩
  · intro c u hc hu
    rcases hconstants hc with rfl | rfl <;> cases hu
    · exact ⟨"%", parse_eq_ok_iff.2 (by decide +kernel)⟩
    · exact ⟨" ", parse_eq_ok_iff.2 (by decide +kernel)⟩

end Questionnaire

end Rulebook
