import Rulebook.Proofs.Belonging
import Rulebook.Proofs.Typing

/-!
# Types of expressions

Rules are given types, and the types of expressions follow: operators take
operands of their type, and a constant without a value is of any type. Where
formulas and answers are of the type of their rule, each node of a tree is of
the type of the expression that it belongs to, or has no value, and no mismatch
of types is ever reported.

* `Evaluates.wellTyped`: an expression comes to an outcome of its type.
* `BelongsTo.exists_hasType`: each node belongs to an expression that has a type.
* `hasType_of_belongsTo`: both, for whole evaluations.
-/

namespace Rulebook

/-- The types of expressions, where names have the types `types`. -/
inductive Expr.HasType (types : String → ValueType) : Expr → ValueType → Prop
  | constant {c : Quantity} {t : ValueType} : c.outcome.HasType t → HasType types (.constant c) t
  | reference (name : String) : HasType types (.reference name) (types name)
  | operation {op : Operator} {s t : ValueType} {left right : Expr} (symbol : String) :
    op.Signature s t → HasType types left s → HasType types right s →
    HasType types (.operation op symbol left right) t

namespace Questionnaire

/-- Whether the formulas and the answers of a questionnaire are of the types of their rules. -/
structure WellTyped (q : Questionnaire) (types : String → ValueType) : Prop where
  formulas : ∀ {name : String} {rule : Rule} {formula : Expr},
    q.rules[name]? = some rule → rule.formula = some formula →
      formula.HasType types (types name)
  /-- An answer that cannot be read is of every type. -/
  answers : ∀ {name : String} {rule : Rule} {answer : Answer} {v : Value},
    q.standing name = .answered rule answer → answer.value = .ok v → v.type = types name

variable {q : Questionnaire} {types : String → ValueType} {depth : Nat} {e f : Expr} {m n : Node}
  {events : List Event} {t : ValueType}

theorem WellTyped.formula (hq : q.WellTyped types) {name : String} {rule : Rule} {formula : Expr}
    (hs : q.standing name = .computed rule formula) : formula.HasType types (types name) := by
  obtain ⟨hrule, -, hformula⟩ := standing_eq_computed_iff.1 hs
  exact hq.formulas hrule hformula

/-! ## Outcomes -/

/-- An expression comes to an outcome of its type, and reports no mismatch. -/
theorem Evaluates.wellTyped (h : q.Evaluates depth e n events) (hq : q.WellTyped types)
    (he : e.HasType types t) : n.outcome.HasType t ∧ NoMismatch events := by
  induction h generalizing t with
  | constant c =>
    cases he with
    | constant hc => exact ⟨hc, noMismatch_of_warningsIn_eq_nil rfl⟩
  | unknown hs => exact ⟨Outcome.hasType_indeterminate, List.forall_mem_singleton.2 rfl⟩
  | given hs hv =>
    cases he
    exact ⟨Outcome.hasType_value.2 (hq.answers hs hv), noMismatch_of_warningsIn_eq_nil rfl⟩
  | unreadable hs hv => exact ⟨Outcome.hasType_indeterminate, List.forall_mem_singleton.2 rfl⟩
  | question hs =>
    exact ⟨Outcome.hasType_indeterminate, noMismatch_of_warningsIn_eq_nil rfl⟩
  | cutOff hs => exact ⟨Outcome.hasType_indeterminate, List.forall_mem_singleton.2 rfl⟩
  | rule hs _ ih =>
    cases he
    exact ih (hq.formula hs)
  | decidedByLeft _ hd ih =>
    cases he with
    | operation _ hop hleft _ =>
      obtain ⟨hl, hevents⟩ := ih hleft
      exact ⟨hop.hasType_of_decidedByLeft? hl hd, hevents⟩
  | decidedByRight _ _ _ hr ihl ihr =>
    cases he with
    | operation _ hop hleft hright =>
      obtain ⟨-, hevents⟩ := ihl hleft
      obtain ⟨hright, hevents'⟩ := ihr hright
      exact ⟨hop.hasType_of_decidedByRight? hright hr, noMismatch_append.2 ⟨hevents, hevents'⟩⟩
  | @calculated _ op _ _ _ l r _ _ _ _ _ _ _ _ hc ihl ihr =>
    cases he with
    | operation _ hop hleft hright =>
      obtain ⟨hl, hevents⟩ := ihl hleft
      obtain ⟨hr, hevents'⟩ := ihr hright
      have hcalculated := hop.wellTyped_calculate (l := l.quantity) (r := r.quantity) hl hr
      rw [hc] at hcalculated
      exact ⟨hcalculated.result, noMismatch_append.2 ⟨hevents,
        noMismatch_append.2 ⟨hevents', hcalculated.noMismatch⟩⟩⟩

/-! ## Nodes -/

/-- A node belongs to an expression that has a type if the whole expression has one. -/
theorem BelongsTo.exists_hasType (hm : q.BelongsTo m f n e) (hq : q.WellTyped types)
    (he : e.HasType types t) : ∃ u, f.HasType types u := by
  induction hm generalizing t with
  | root => exact ⟨t, he⟩
  | formula hs _ ih => exact ih (hq.formula hs)
  | decided _ ih =>
    cases he with
    | operation _ _ hleft _ => exact ih hleft
  | left _ ih =>
    cases he with
    | operation _ _ hleft _ => exact ih hleft
  | right _ ih =>
    cases he with
    | operation _ _ _ hright => exact ih hright

/-- If formulas and answers are of the types of their rules, each node in the tree of an expression
that has a type belongs to such an expression, and is of every type that this one has or has no
value. No mismatch of types is reported. -/
theorem hasType_of_belongsTo {q : Questionnaire} {types : String → ValueType} {e : Expr}
    {t : ValueType} (hq : q.WellTyped types) (he : e.HasType types t) :
    (∀ m ∈ (q.evaluate e).result.parts,
      ∃ f u, q.BelongsTo m f (q.evaluate e).result e ∧ f.HasType types u) ∧
    (∀ m f u, q.BelongsTo m f (q.evaluate e).result e → f.HasType types u →
      m.outcome.HasType u) ∧
    ∀ op op' u v, .notApplicable op (.mismatch op' u v) ∉ (q.evaluate e).warnings := by
  have h := evaluates_evaluate q e
  refine ⟨fun m hm => ?_, fun m f u hm hf => ?_, fun op op' u v hw => ?_⟩
  · obtain ⟨f, hf⟩ := h.exists_belongsTo m hm
    obtain ⟨u, hu⟩ := hf.exists_hasType hq he
    exact ⟨f, u, hf, hu⟩
  · obtain ⟨depth, events, hevaluates⟩ := hm.exists_evaluates h
    exact (hevaluates.wellTyped hq hf).1
  · cases (h.wellTyped hq he).2 _ hw

/-- A date that is not on the calendar is compared as a text, which is reported, but is no mismatch.
The answer still to come is of type number by the comparison that it stands in. -/
theorem hasType_of_belongsTo_impossible_date :
    let types (name : String) : ValueType :=
      if name = "start" then .text else if name = "late" then .boolean else .number
    let late : Expr := .binary .neq (.reference "start") (.value (.text "30/02/2020"))
    let q : Questionnaire := {
      rules := Rules.ofList
        [("start", .question), ("days", .question), ("late", Rule.question.withFormula late)]
      situation := (∅ : Situation).insert "start" (.text "'01/02/2020'") }
    let e : Expr := .binary .and (.reference "late") (.binary .lt (.reference "days") .inapplicable)
    q.WellTyped types ∧ e.HasType types .boolean ∧
      (q.evaluate e).warnings = [.datesAsText .neq (.invalid "30/02/2020")] ∧
      (∀ m f u, q.BelongsTo m f (q.evaluate e).result e → f.HasType types u →
        m.outcome.HasType u) ∧
      ∀ op op' u v, .notApplicable op (.mismatch op' u v) ∉ (q.evaluate e).warnings := by
  intro types late q e
  have hlate : late.HasType types .boolean :=
    .operation _ (.equality .neq .text) (.reference "start")
      (.constant (Outcome.hasType_value.2 rfl))
  have hq : q.WellTyped types := by
    constructor
    · intro name rule formula hrule hformula
      have hmem := Rules.mem_of_get?_ofList hrule
      simp only [List.mem_cons, Prod.mk.injEq, List.not_mem_nil, or_false] at hmem
      rcases hmem with ⟨-, rfl⟩ | ⟨-, rfl⟩ | ⟨rfl, rfl⟩ <;> cases hformula
      exact hlate
    · intro name rule answer v hs hv
      have hanswer := (standing_eq_answered_iff.1 hs).2
      rw [Std.ExtTreeMap.getElem?_insert] at hanswer
      split at hanswer
      · rename_i hname
        cases Std.compare_eq_iff_eq.1 hname
        cases hanswer
        cases hv
        rfl
      · simp at hanswer
  have he : e.HasType types .boolean :=
    .operation _ (.connective .and) (.reference "late")
      (.operation _ (.comparison .lt) (.reference "days") (.constant Outcome.hasType_inapplicable))
  refine ⟨hq, he, by decide +kernel, (hasType_of_belongsTo hq he).2⟩

end Questionnaire

end Rulebook
