import Rulebook.Answer.Options
import Rulebook.Expr.Evaluate

/-!
# Questionnaires

A questionnaire is a model with answers to some of its questions. A name comes
to its answer or, if it has none, to what its formula comes to; what is not
answered yet is named by the result. Formulas refer to each other only so deep
as the settings allow, so that rules in a circle are cut off.

* `resolve_succ`: a formula is evaluated one level deeper.
-/

namespace Rulebook

structure Settings where
  /-- How many references may be nested. -/
  maxDepth : Nat := 256
  /-- Whether answers that are not accepted are dropped. -/
  checkOptions : Bool := true
deriving DecidableEq

structure Questionnaire where
  rules : Rules
  settings : Settings := {}
  situation : Situation := ∅

/-- How a name stands in a questionnaire. -/
inductive Standing
  | unknown
  | answered (rule : Rule) (answer : Answer)
  | unanswered (rule : Rule)
  | computed (rule : Rule) (formula : Expr)

namespace Questionnaire

/-- The questionnaire with other answers. -/
def answer (q : Questionnaire) (answers : Situation) : Logged Questionnaire := do
  let kept ← if q.settings.checkOptions then Rules.accepted q.rules answers else pure answers
  pure { q with situation := kept }

/-- An answer comes before a formula. -/
def standing (q : Questionnaire) (name : String) : Standing :=
  match q.rules[name]? with
  | none => .unknown
  | some rule =>
    match q.situation[name]?, rule.formula with
    | some answer, _ => .answered rule answer
    | none, some formula => .computed rule formula
    | none, none => .unanswered rule

/-- The unit of an answer: numbers are in the unit of their rule. -/
def answerUnit (rule : Rule) : Value → Option Measure
  | .number _ => rule.unit
  | _ => none

/-- The node of a name that is answered. -/
def answeredNode (name : String) (rule : Rule) (answer : Answer) : Logged Node :=
  match answer.value with
  | .ok v => pure (.leaf (.given name) (.complete ⟨.value v, answerUnit rule v⟩))
  | .error e => do
    Logged.warn (.unreadable name e)
    pure (.leaf (.unreadable name) (.waiting name none))

/-- The node of a rule whose formula came to `formula`, in the unit of the rule if it has none. -/
def ruleNode (name : String) (rule : Rule) (formula : Node) : Node :=
  .rule name ⟨⟨formula.outcome, formula.quantity.unit.or rule.unit⟩, formula.missing⟩ formula

/-- The node of a name, where up to `depth` formulas may be nested. -/
def resolve (q : Questionnaire) (depth : Nat) (name : String) : Logged Node :=
  match q.standing name with
  | .unknown => do
    Logged.warn (.unknownRule name)
    pure (.leaf (.unknown name) (.waiting name none))
  | .answered rule answer => answeredNode name rule answer
  | .unanswered rule =>
    pure (.leaf (.question name) (.waiting name rule.unit))
  | .computed rule formula =>
    match depth with
    | 0 => do
      Logged.warn (.cutOff name q.settings.maxDepth)
      pure (.leaf (.cutOff name) (.waiting name none))
    | depth + 1 => do
      let node ← formula.evaluate (q.resolve depth)
      pure (ruleNode name rule node)

/-- A formula is evaluated one level deeper. -/
theorem resolve_succ {q : Questionnaire} {name : String} {rule : Rule} {formula : Expr}
    (h : q.standing name = .computed rule formula) (depth : Nat) :
    q.resolve (depth + 1) name =
      (do
        let node ← formula.evaluate (q.resolve depth)
        pure (ruleNode name rule node)) := by
  rw [resolve, h]

/-- The node of an expression. -/
def evaluate (q : Questionnaire) (e : Expr) : Logged Node :=
  e.evaluate (q.resolve q.settings.maxDepth)

/-- The node of the rule of a name. -/
def evaluateRule (q : Questionnaire) (name : String) : Logged Node :=
  q.evaluate (.reference name)

end Questionnaire

end Rulebook
