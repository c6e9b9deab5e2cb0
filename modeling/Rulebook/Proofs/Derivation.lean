import Rulebook.Questionnaire

/-!
# Derivations

What an expression comes to, by rules: one for each way in which a constant, a
name or an operation gets its node and its log. Properties of a whole
evaluation, through formulas and operands, go by induction on these rules.

* `evaluates_iff`: the rules derive what evaluation gives, and nothing else.
-/

namespace Rulebook

theorem Logged.bind_mk {α β : Type} (a : α) (events : List Event) (f : α → Logged β) :
    (⟨a, events⟩ >>= f : Logged β) = ⟨(f a).result, events ++ (f a).events⟩ :=
  rfl

namespace Questionnaire

/-- The expression comes to the node with these events, where up to `depth` formulas may be
nested. -/
inductive Evaluates (q : Questionnaire) : (depth : Nat) → Expr → Node → List Event → Prop
  | constant {depth : Nat} (c : Quantity) :
    Evaluates q depth (.constant c) (.leaf .constant (.complete c.normal)) []
  | unknown {depth : Nat} {name : String} : q.standing name = .unknown →
    Evaluates q depth (.reference name) (.leaf (.unknown name) (.waiting name none))
      [.asked name, .warned (.unknownRule name)]
  | given {depth : Nat} {name : String} {rule : Rule} {answer : Answer} {v : Value} :
    q.standing name = .answered rule answer → answer.value = .ok v →
    Evaluates q depth (.reference name)
      (.leaf (.given name) (.complete ⟨.value v, answerUnit rule v⟩)) [.asked name]
  | unreadable {depth : Nat} {name : String} {rule : Rule} {answer : Answer} {e : Expr.Error} :
    q.standing name = .answered rule answer → answer.value = .error e →
    Evaluates q depth (.reference name) (.leaf (.unreadable name) (.waiting name none))
      [.asked name, .warned (.unreadable name e)]
  | question {depth : Nat} {name : String} {rule : Rule} : q.standing name = .unanswered rule →
    Evaluates q depth (.reference name) (.leaf (.question name) (.waiting name rule.unit))
      [.asked name]
  | cutOff {name : String} {rule : Rule} {formula : Expr} :
    q.standing name = .computed rule formula →
    Evaluates q 0 (.reference name) (.leaf (.cutOff name) (.waiting name none))
      [.asked name, .warned (.cutOff name q.settings.maxDepth)]
  | rule {depth : Nat} {name : String} {rule : Rule} {formula : Expr} {n : Node}
      {events : List Event} :
    q.standing name = .computed rule formula → Evaluates q depth formula n events →
    Evaluates q (depth + 1) (.reference name) (ruleNode name rule n) (.asked name :: events)
  /-- The left operand decides, and the right one is not evaluated. -/
  | decidedByLeft {depth : Nat} {op : Operator} {symbol : String} {left right : Expr} {l : Node}
      {o : Outcome} {events : List Event} :
    Evaluates q depth left l events → op.decidedByLeft? l.outcome = some o →
    Evaluates q depth (.operation op symbol left right) (.decided op symbol (.decided o l) l) events
  | decidedByRight {depth : Nat} {op : Operator} {symbol : String} {left right : Expr} {l r : Node}
      {o : Outcome} {events events' : List Event} :
    Evaluates q depth left l events → op.decidedByLeft? l.outcome = none →
    Evaluates q depth right r events' → op.decidedByRight? r.outcome = some o →
    Evaluates q depth (.operation op symbol left right)
      (.operation op symbol (.decided o r) l r) (events ++ events')
  | calculated {depth : Nat} {op : Operator} {symbol : String} {left right : Expr} {l r : Node}
      {c : Quantity} {events events' warned : List Event} :
    Evaluates q depth left l events → op.decidedByLeft? l.outcome = none →
    Evaluates q depth right r events' → op.decidedByRight? r.outcome = none →
    op.calculate l.quantity r.quantity = ⟨c, warned⟩ →
    Evaluates q depth (.operation op symbol left right)
      (.operation op symbol (.calculated c l r) l r) (events ++ (events' ++ warned))

variable {q : Questionnaire} {depth : Nat} {e : Expr} {n : Node} {events : List Event}

/-! ## Rules and evaluation -/

/-- What the rules derive is what evaluation gives. -/
theorem Evaluates.evaluate_eq (h : q.Evaluates depth e n events) :
    e.evaluate (q.resolve depth) = ⟨n, events⟩ := by
  induction h with
  | constant c => rfl
  | unknown hs => rw [Expr.evaluate, resolve, hs]; rfl
  | given hs hv => rw [Expr.evaluate, resolve, hs]; simp only [answeredNode, hv]; rfl
  | unreadable hs hv => rw [Expr.evaluate, resolve, hs]; simp only [answeredNode, hv]; rfl
  | question hs => rw [Expr.evaluate, resolve, hs]; rfl
  | cutOff hs => rw [Expr.evaluate, resolve, hs]; rfl
  | rule hs _ ih =>
    rw [Expr.evaluate, resolve_succ hs, ih]
    exact Logged.eq_of_result_eq rfl (congrArg (_ :: ·) (List.append_nil _))
  | decidedByLeft _ hd ih =>
    rw [Expr.evaluate, ih, Logged.bind_mk, hd]
    exact Logged.eq_of_result_eq rfl (List.append_nil _)
  | decidedByRight _ hl _ hr ihl ihr =>
    rw [Expr.evaluate, ihl, Logged.bind_mk, hl, ihr, Logged.bind_mk,
      Operator.ofOperands_of_decidedByRight? hr]
    exact Logged.eq_of_result_eq rfl (congrArg (_ ++ ·) (List.append_nil _))
  | calculated _ hl _ hr hc ihl ihr =>
    rw [Expr.evaluate, ihl, Logged.bind_mk, hl, ihr, Logged.bind_mk,
      Operator.ofOperands_of_undecided hr, hc]
    exact Logged.eq_of_result_eq rfl
      (congrArg (_ ++ ·) (congrArg (_ ++ ·) (List.append_nil _)))

/-- Every name has a derivation if every formula has one at a lower depth. -/
theorem evaluates_reference (q : Questionnaire) (depth : Nat) (name : String)
    (h : ∀ d < depth, ∀ e, ∃ n events, q.Evaluates d e n events) :
    ∃ n events, q.Evaluates depth (.reference name) n events := by
  cases hs : q.standing name with
  | unknown => exact ⟨_, _, .unknown hs⟩
  | answered rule answer =>
    cases hv : answer.value with
    | ok v => exact ⟨_, _, .given hs hv⟩
    | error e => exact ⟨_, _, .unreadable hs hv⟩
  | unanswered rule => exact ⟨_, _, .question hs⟩
  | computed rule formula =>
    cases depth with
    | zero => exact ⟨_, _, .cutOff hs⟩
    | succ depth =>
      obtain ⟨n, events, hn⟩ := h depth (Nat.lt_succ_self depth) formula
      exact ⟨_, _, .rule hs hn⟩

/-- Every expression has a derivation, whatever depth is left. -/
theorem exists_evaluates (q : Questionnaire) (depth : Nat) (e : Expr) :
    ∃ n events, q.Evaluates depth e n events := by
  induction depth using Nat.strongRecOn generalizing e with
  | ind depth ihd =>
    induction e with
    | constant c => exact ⟨_, _, .constant c⟩
    | reference name => exact evaluates_reference q depth name ihd
    | operation op symbol left right ihl ihr =>
      obtain ⟨l, events, hl⟩ := ihl
      obtain ⟨r, events', hr⟩ := ihr
      cases hdl : op.decidedByLeft? l.outcome with
      | some o => exact ⟨_, _, .decidedByLeft hl hdl⟩
      | none =>
        cases hdr : op.decidedByRight? r.outcome with
        | some o => exact ⟨_, _, .decidedByRight hl hdl hr hdr⟩
        | none => exact ⟨_, _, .calculated hl hdl hr hdr rfl⟩

/-- The rules derive what evaluation gives, and nothing else. -/
theorem evaluates_iff :
    q.Evaluates depth e n events ↔ e.evaluate (q.resolve depth) = ⟨n, events⟩ := by
  refine ⟨Evaluates.evaluate_eq, fun h => ?_⟩
  obtain ⟨n', events', h'⟩ := exists_evaluates q depth e
  rw [h'.evaluate_eq] at h
  cases h
  exact h'

/-- An evaluation of the questionnaire has a derivation. -/
theorem evaluates_evaluate (q : Questionnaire) (e : Expr) :
    q.Evaluates q.settings.maxDepth e (q.evaluate e).result (q.evaluate e).events :=
  evaluates_iff.2 rfl

end Questionnaire

end Rulebook
