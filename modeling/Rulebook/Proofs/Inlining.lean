import Rulebook.Proofs.Reports

/-!
# Formulas in place of rules

A rule without a unit of its own stands for its formula: an expression comes to
the same, waits for the same and reports the same if the formula is written
where the rule was referred to. Of an operand nothing but its result counts, and
a formula that was reached through a rule is reached with more depth to spare.

* `Yields.calculated` and the lemmas before it: an operation depends on the results of its
  operands only.
* `Evaluates.inline`: so writes every derivation.
* `evaluate_inline`: so does a whole evaluation that was not cut off.
-/

namespace Rulebook

/-- The expression with `formula` in the place of each reference to `name`. -/
def Expr.inline (e : Expr) (name : String) (formula : Expr) : Expr :=
  match e with
  | constant c => constant c
  | reference other => if other = name then formula else reference other
  | operation op symbol left right =>
    operation op symbol (left.inline name formula) (right.inline name formula)

theorem Expr.inline_reference_self (name : String) (formula : Expr) :
    (reference name).inline name formula = formula :=
  if_pos rfl

theorem Expr.inline_reference_of_ne {name other : String} (h : other ≠ name) (formula : Expr) :
    (reference other).inline name formula = reference other :=
  if_neg h

namespace Questionnaire

variable {q : Questionnaire} {depth : Nat} {e : Expr} {n : Node} {events : List Event}
  {name other : String} {rule : Rule} {formula : Expr}

/-! ## Results with their warnings -/

/-- Whether the expression comes to the result and reports the warnings, where up to `depth`
formulas may be nested. -/
def Yields (q : Questionnaire) (depth : Nat) (e : Expr) (r : Result) (warnings : List Warning) :
    Prop :=
  ∃ n events, q.Evaluates depth e n events ∧ n.result = r ∧ warningsIn events = warnings

theorem Evaluates.yields (h : q.Evaluates depth e n events) :
    q.Yields depth e n.result (warningsIn events) :=
  ⟨n, events, h, rfl, rfl⟩

/-- What an expression yields within the limit is what evaluation gives. -/
theorem Yields.evaluate_eq {r : Result} {warnings : List Warning}
    (h : q.Yields q.settings.maxDepth e r warnings) :
    (q.evaluate e).result.result = r ∧ (q.evaluate e).warnings = warnings := by
  obtain ⟨n, events, hn, rfl, rfl⟩ := h
  rw [evaluate, hn.evaluate_eq]
  exact ⟨rfl, rfl⟩

section

variable {op : Operator} {symbol : String} {left right : Expr} {l r : Result} {o : Outcome}
  {warnings warnings' : List Warning}

theorem Yields.decidedByLeft (hleft : q.Yields depth left l warnings)
    (hd : op.decidedByLeft? l.outcome = some o) :
    q.Yields depth (.operation op symbol left right) ⟨⟨o, none⟩, l.missing⟩ warnings := by
  obtain ⟨l, events, hl, rfl, rfl⟩ := hleft
  exact (Evaluates.decidedByLeft hl hd).yields

theorem Yields.decidedByRight (hleft : q.Yields depth left l warnings)
    (hl : op.decidedByLeft? l.outcome = none) (hright : q.Yields depth right r warnings')
    (hr : op.decidedByRight? r.outcome = some o) :
    q.Yields depth (.operation op symbol left right) ⟨⟨o, none⟩, r.missing⟩
      (warnings ++ warnings') := by
  obtain ⟨l, events, hln, rfl, rfl⟩ := hleft
  obtain ⟨r, events', hrn, rfl, rfl⟩ := hright
  rw [← warningsIn_append]
  exact (Evaluates.decidedByRight hln hl hrn hr).yields

/-- A calculation depends on the results of its operands, and adds its warnings to theirs. -/
theorem Yields.calculated {c : Quantity} {warned : List Event}
    (hleft : q.Yields depth left l warnings) (hl : op.decidedByLeft? l.outcome = none)
    (hright : q.Yields depth right r warnings') (hr : op.decidedByRight? r.outcome = none)
    (hc : op.calculate l.toQuantity r.toQuantity = ⟨c, warned⟩) :
    q.Yields depth (.operation op symbol left right)
      ⟨c.normal, .mergeAll [l.missing, r.missing]⟩
      (warnings ++ (warnings' ++ warningsIn warned)) := by
  obtain ⟨l, events, hln, rfl, rfl⟩ := hleft
  obtain ⟨r, events', hrn, rfl, rfl⟩ := hright
  rw [← warningsIn_append, ← warningsIn_append]
  exact (Evaluates.calculated hln hl hrn hr hc).yields

end

/-! ## Formulas written out -/

/-- A rule without a unit of its own has the result of its formula. -/
theorem result_ruleNode (hunit : rule.unit = none) (name : String) (n : Node) :
    (ruleNode name rule n).result = n.result := by
  rw [ruleNode, hunit, Option.or_none]
  rfl

theorem Evaluates.yields_inline_of_ne (h : q.Evaluates depth (.reference other) n events)
    (hs : q.standing other ≠ q.standing name) (formula : Expr) :
    q.Yields depth ((Expr.reference other).inline name formula) n.result (warningsIn events) := by
  rw [Expr.inline_reference_of_ne (fun hname => hs (congrArg q.standing hname))]
  exact h.yields

/-- An expression yields the same with a formula in the place of its rule. -/
theorem Evaluates.inline (h : q.Evaluates depth e n events) (hcut : NoCutOff events)
    (hs : q.standing name = .computed rule formula) (hunit : rule.unit = none) :
    q.Yields depth (e.inline name formula) n.result (warningsIn events) := by
  induction h with
  | constant c => exact (Evaluates.constant c).yields
  | unknown ho => exact (Evaluates.unknown ho).yields_inline_of_ne (by simp [ho, hs]) formula
  | given ho hv => exact (Evaluates.given ho hv).yields_inline_of_ne (by simp [ho, hs]) formula
  | unreadable ho hv =>
    exact (Evaluates.unreadable ho hv).yields_inline_of_ne (by simp [ho, hs]) formula
  | question ho => exact (Evaluates.question ho).yields_inline_of_ne (by simp [ho, hs]) formula
  | cutOff _ => exact absurd (List.mem_cons_of_mem _ (List.mem_singleton_self _)) (hcut _ _)
  | @rule depth other _ _ n events ho hn _ =>
    by_cases hother : other = name
    · -- The formula is evaluated one level higher, without the rule around it.
      subst hother
      rw [hs] at ho
      cases ho
      have hhigher : q.Evaluates (depth + 1) formula n events :=
        hn.deeper (noCutOff_cons.1 hcut).2 (Nat.le_succ depth) q.settings.maxDepth
      rw [Expr.inline_reference_self, result_ruleNode hunit, warningsIn_asked_cons]
      exact hhigher.yields
    · rw [Expr.inline_reference_of_ne hother]
      exact (Evaluates.rule ho hn).yields
  | decidedByLeft _ hd ih => exact (ih hcut).decidedByLeft hd
  | decidedByRight _ hl _ hr ihl ihr =>
    obtain ⟨hcutl, hcutr⟩ := noCutOff_append.1 hcut
    rw [warningsIn_append]
    exact (ihl hcutl).decidedByRight hl (ihr hcutr) hr
  | calculated _ hl _ hr hc ihl ihr =>
    obtain ⟨hcutl, hcut⟩ := noCutOff_append.1 hcut
    obtain ⟨hcutr, -⟩ := noCutOff_append.1 hcut
    rw [warningsIn_append, warningsIn_append]
    exact (ihl hcutl).calculated hl (ihr hcutr) hr hc

/-- An expression of which nothing was cut off has the same outcome, unit, missing answers and
warnings with a formula in the place of each reference to its rule, if the rule has no unit. The
formula may refer to the rule itself. -/
theorem evaluate_inline {q : Questionnaire} {e : Expr} {name : String} {rule : Rule}
    {formula : Expr} (hrule : q.rules[name]? = some rule) (hformula : rule.formula = some formula)
    (hunit : rule.unit = none) (hanswer : q.situation[name]? = none)
    (hcut : ∀ other limit, .cutOff other limit ∉ (q.evaluate e).warnings) :
    (q.evaluate (e.inline name formula)).result.result = (q.evaluate e).result.result ∧
      (q.evaluate (e.inline name formula)).warnings = (q.evaluate e).warnings := by
  have hs := standing_eq_computed_iff.2 ⟨hrule, hanswer, hformula⟩
  have hevents : NoCutOff (q.evaluate e).events :=
    fun other limit h => hcut other limit (Logged.mem_warnings.2 h)
  exact ((evaluates_evaluate q e).inline hevents hs hunit).evaluate_eq

/-- A rule that refers to itself where its value is not needed is written out once, and reports the
sum of a length and a time wherever it stands. -/
theorem evaluate_inline_self_reference :
    let length : Measure := .atom "m"
    let time : Measure := .atom "s"
    let sum : Expr :=
      .binary .add (.constant ⟨.number .one, some length⟩) (.constant ⟨.number .one, some time⟩)
    let formula : Expr := .binary .mul sum (.binary .mul .inapplicable (.reference "loop"))
    let q : Questionnaire := { rules := Rules.ofList [("loop", Rule.question.withFormula formula)] }
    let e : Expr := .binary .eq (.reference "loop") (.reference "loop")
    let warning : Warning := .unreconciled .add length time (.incompatible time length)
    e.inline "loop" formula = .binary .eq formula formula ∧
      (q.evaluate e).warnings = [warning, warning] ∧
      (q.evaluate (e.inline "loop" formula)).result.result = (q.evaluate e).result.result ∧
      (q.evaluate (e.inline "loop" formula)).warnings = (q.evaluate e).warnings := by
  intro length time sum formula q e warning
  have hrule : q.rules["loop"]? = some (Rule.question.withFormula formula) :=
    Rules.get?_add_self _ _ _
  have hwarnings : (q.evaluate e).warnings = [warning, warning] := by decide +kernel
  refine ⟨rfl, hwarnings, evaluate_inline hrule rfl rfl rfl fun other limit => ?_⟩
  rw [hwarnings]
  simp [warning]

end Questionnaire

end Rulebook
