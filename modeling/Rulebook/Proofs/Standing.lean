import Rulebook.Questionnaire

/-!
# How names stand

When a name is unknown, answered, computed or still a question, and what changes
in a questionnaire that gets another answer or another limit.

* `standing_withAnswer_of_ne`: an answer changes how no other name stands.
* `standing_withMaxDepth`: the limit changes how no name stands.
-/

namespace Rulebook.Questionnaire

variable {q : Questionnaire} {name : String} {rule : Rule}

theorem standing_eq_unknown_iff : q.standing name = .unknown ↔ q.rules[name]? = none := by
  unfold standing
  grind

theorem standing_eq_answered_iff {answer : Answer} :
    q.standing name = .answered rule answer ↔
      q.rules[name]? = some rule ∧ q.situation[name]? = some answer := by
  unfold standing
  grind

theorem standing_eq_unanswered_iff :
    q.standing name = .unanswered rule ↔
      q.rules[name]? = some rule ∧ q.situation[name]? = none ∧ rule.formula = none := by
  unfold standing
  grind

theorem standing_eq_computed_iff {formula : Expr} :
    q.standing name = .computed rule formula ↔
      q.rules[name]? = some rule ∧ q.situation[name]? = none ∧ rule.formula = some formula := by
  unfold standing
  grind

/-! ## Another answer -/

/-- The questionnaire with an answer to one more name. -/
def withAnswer (q : Questionnaire) (name : String) (answer : Answer) : Questionnaire :=
  { q with situation := q.situation.insert name answer }

/-- An answer changes how no other name stands. -/
theorem standing_withAnswer_of_ne {other : String} (h : name ≠ other) (answer : Answer) :
    (q.withAnswer other answer).standing name = q.standing name := by
  have hsituation : (q.situation.insert other answer)[name]? = q.situation[name]? := by
    rw [Std.ExtTreeMap.getElem?_insert, if_neg fun he => h (Std.compare_eq_iff_eq.1 he).symm]
  simp only [standing, withAnswer, hsituation]

/-! ## Another limit -/

/-- The questionnaire where up to `depth` references may be nested. -/
def withMaxDepth (q : Questionnaire) (depth : Nat) : Questionnaire :=
  { q with settings := { q.settings with maxDepth := depth } }

/-- The limit changes how no name stands. -/
theorem standing_withMaxDepth (q : Questionnaire) (depth : Nat) (name : String) :
    (q.withMaxDepth depth).standing name = q.standing name :=
  rfl

end Rulebook.Questionnaire
