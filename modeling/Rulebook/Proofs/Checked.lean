import Mathlib.Data.List.Forall2
import Rulebook.Proofs.Answered

/-!
# Checked answers

Checking answers and evaluating them agree. The answers that are kept are those
that their names accept, each judged by itself, and the others are reported in
the order of their names. What is kept evaluates to its value without a warning,
and is kept again.

* `getElem?_situation_answer_iff`: which answers are kept.
* `forall₂_rejects_dropped`: what is reported of the others.
* `isGiven_of_kept`: what is kept gives its value.
* `answer_situation_answer`: checking answers twice is checking them once.
-/

namespace Rulebook

/-! ## Answers that are rejected -/

namespace Rules

variable {rules : Rules} {name : String} {answer : Answer} {w : Warning}

/-- Whether the warning is what is reported of an answer that the name does not accept. -/
inductive Rejects (rules : Rules) (name : String) : Answer → Warning → Prop
  | notAnOption {text : String} : accepts rules name (.text text) = .ok false →
    Rejects rules name (.text text) (.notAnOption name text)
  | unreadable {answer : Answer} {cause : Expr.Error} : accepts rules name answer = .error cause →
    Rejects rules name answer (.ignored name cause)

/-- The objection to an answer is what is reported of it. -/
theorem objection?_eq_some_iff :
    objection? rules name answer = some w ↔ rules.Rejects name answer w := by
  constructor
  · intro h
    cases answer with
    | number n => cases h
    | text t =>
      rw [objection?] at h
      split at h <;> cases h
      · exact .notAnOption ‹_›
      · exact .unreadable ‹_›
  · intro h
    cases h with
    | notAnOption h =>
      rw [accepts] at h
      rw [objection?, h]
    | @unreadable _ cause h =>
      cases answer with
      | number n => cases h
      | text t =>
        rw [accepts] at h
        rw [objection?, h]

end Rules

/-- What a partial function gives for the members of a list, beside those it has something for. -/
theorem forall₂_filter_filterMap {α β : Type} (f : α → Option β) (l : List α) :
    List.Forall₂ (fun a b => f a = some b) (l.filter fun a => (f a).isSome) (l.filterMap f) := by
  induction l with
  | nil => exact .nil
  | cons a l ih =>
    cases h : f a with
    | none => rwa [List.filterMap_cons_none h, List.filter_cons_of_neg (by rw [h]; nofun)]
    | some b =>
      rw [List.filterMap_cons_some h, List.filter_cons_of_pos (by rw [h]; rfl)]
      exact .cons h ih

namespace Questionnaire

variable {q : Questionnaire} {name : String} {rule : Rule} {answer : Answer} {v : Value}

/-! ## Names that are given a value -/

/-- Whether a name comes to the quantity just as its answer gives it. -/
structure IsGiven (q : Questionnaire) (name : String) (c : Quantity) : Prop where
  quantity : (q.evaluateRule name).result.quantity = c
  children : (q.evaluateRule name).result.children = []
  missing : (q.evaluateRule name).result.missing = .empty
  warnings : (q.evaluateRule name).warnings = []

/-- A rule whose answer can be read is given its value, a number in the unit of the rule. -/
theorem isGiven_of_answered (hrule : q.rules[name]? = some rule)
    (hanswer : q.situation[name]? = some answer) (hv : answer.value = .ok v) :
    q.IsGiven name ⟨.value v, answerUnit rule v⟩ := by
  have hderived : q.Evaluates q.settings.maxDepth (.reference name) _ _ :=
    .given (standing_eq_answered_iff.2 ⟨hrule, hanswer⟩) hv
  have heq : q.evaluateRule name = _ := hderived.evaluate_eq
  constructor <;> rw [heq] <;> rfl

/-! ## Answers that are kept -/

theorem answer_of_checkOptions (hcheck : q.settings.checkOptions = true) (answers : Situation) :
    q.answer answers = (do
      let kept ← q.rules.accepted answers
      pure { q with situation := kept }) := by
  rw [Questionnaire.answer, if_pos hcheck]

/-- The answers that are kept are those that their names accept, unchanged. -/
theorem getElem?_situation_answer_iff (hcheck : q.settings.checkOptions = true)
    (answers : Situation) :
    (q.answer answers).result.situation[name]? = some answer ↔
      answers[name]? = some answer ∧ q.rules.accepts name answer = .ok true := by
  rw [situation_answer hcheck, Rules.getElem?_accepted, Option.filter_eq_some_iff,
    Option.isNone_iff_eq_none, Rules.objection?_eq_none_iff]

/-! ## Answers that are dropped -/

/-- The answers that are dropped, by name. -/
def dropped (q : Questionnaire) (answers : Situation) : List (String × Answer) :=
  answers.toList.filter fun entry => (q.rules.objection? entry.1 entry.2).isSome

theorem mem_dropped_iff (hcheck : q.settings.checkOptions = true) {answers : Situation}
    {entry : String × Answer} :
    entry ∈ q.dropped answers ↔
      answers[entry.1]? = some entry.2 ∧ entry.1 ∉ (q.answer answers).result.situation := by
  rw [dropped, List.mem_filter, Std.ExtTreeMap.mem_toList_iff_getElem?_eq_some,
    situation_answer hcheck, Std.ExtTreeMap.mem_iff_isSome_getElem?, Rules.getElem?_accepted]
  refine and_congr_right fun hentry => ?_
  rw [hentry]
  cases h : q.rules.objection? entry.1 entry.2 <;> simp [h]

/-- The answers that are dropped are in the order of their names. -/
theorem pairwise_dropped (q : Questionnaire) (answers : Situation) :
    (q.dropped answers).Pairwise fun entry entry' => entry.1 < entry'.1 := by
  have hordered : answers.toList.Pairwise fun entry entry' => compare entry.1 entry'.1 = .lt :=
    Std.ExtTreeMap.ordered_keys_toList
  exact (hordered.imp compareOfLessAndEq_eq_lt.1).filter _

theorem warnings_accepted (rules : Rules) (answers : Situation) :
    (rules.accepted answers).warnings =
      answers.toList.filterMap fun entry => rules.objection? entry.1 entry.2 := by
  rw [Logged.warnings_eq, Rules.accepted, warningsIn, List.filterMap_filterMap]
  congr 1
  funext entry
  cases rules.objection? entry.1 entry.2 <;> rfl

/-- One warning is reported of each answer that is dropped, in the same order. -/
theorem forall₂_rejects_dropped (hcheck : q.settings.checkOptions = true) (answers : Situation) :
    List.Forall₂ (fun entry w => q.rules.Rejects entry.1 entry.2 w) (q.dropped answers)
      (q.answer answers).warnings := by
  have hwarnings : (q.answer answers).warnings = (q.rules.accepted answers).warnings := by
    rw [answer_of_checkOptions hcheck, Logged.warnings_bind]
    exact List.append_nil _
  rw [hwarnings, warnings_accepted, dropped]
  refine (forall₂_filter_filterMap _ _).imp fun entry w h => ?_
  exact Rules.objection?_eq_some_iff.1 h

/-- Checking answers that were kept keeps all of them, and reports nothing. -/
theorem answer_situation_answer (hcheck : q.settings.checkOptions = true) (answers : Situation) :
    (q.answer answers).result.answer (q.answer answers).result.situation =
      pure (q.answer answers).result := by
  rw [answer_of_checkOptions hcheck, Logged.result_bind, Logged.result_pure]
  refine (answer_of_checkOptions hcheck _).trans ?_
  rw [Rules.accepted_accepted]
  rfl

/-! ## Checking and evaluating -/

/-- A rule whose answer was kept is given the value of the answer. -/
theorem isGiven_of_kept (hcheck : q.settings.checkOptions = true) {answers : Situation}
    (hkept : (q.answer answers).result.situation[name]? = some answer)
    (hrule : q.rules[name]? = some rule) :
    ∃ v, answer.value = .ok v ∧
      (q.answer answers).result.IsGiven name ⟨.value v, answerUnit rule v⟩ := by
  obtain ⟨v, hv⟩ := Answer.exists_value_of_isReadable (isReadable_of_kept hcheck hkept)
  rw [← rules_answer q answers] at hrule
  exact ⟨v, hv, isGiven_of_answered hrule hkept hv⟩

/-- Of the answers that are checked, just those that their names accept are kept, unchanged. One
warning is reported of each of the others, in the order of names. A rule whose answer was kept
comes to the value of the answer, and answers that were kept are kept again without a warning. -/
theorem answer_checked {q : Questionnaire} (hcheck : q.settings.checkOptions = true)
    (answers : Situation) :
    let kept := (q.answer answers).result
    (∀ name answer, kept.situation[name]? = some answer ↔
        answers[name]? = some answer ∧ q.rules.accepts name answer = .ok true) ∧
      (∃ dropped : List (String × Answer),
        (∀ entry, entry ∈ dropped ↔
          answers[entry.1]? = some entry.2 ∧ entry.1 ∉ kept.situation) ∧
        (dropped.Pairwise fun entry entry' => entry.1 < entry'.1) ∧
        List.Forall₂ (fun entry w => q.rules.Rejects entry.1 entry.2 w) dropped
          (q.answer answers).warnings) ∧
      (∀ name answer rule, kept.situation[name]? = some answer → q.rules[name]? = some rule →
        ∃ v, answer.value = .ok v ∧ kept.IsGiven name ⟨.value v, answerUnit rule v⟩) ∧
      kept.answer kept.situation = pure kept := by
  intro kept
  refine ⟨fun name answer => getElem?_situation_answer_iff hcheck answers, ?_,
    fun name answer rule => isGiven_of_kept hcheck, answer_situation_answer hcheck answers⟩
  exact ⟨q.dropped answers, fun entry => mem_dropped_iff hcheck, pairwise_dropped q answers,
    forall₂_rejects_dropped hcheck answers⟩

/-- A kind that was an option once and has become a rule is kept and given, while an age with an
open quote and a kind of contract that is no option are dropped, in this order. -/
theorem answer_checked_former_option :
    let kind : Rule := Rule.question.withOptions ["'employee'", "director"]
    let q : Questionnaire := {
      rules := Rules.ofList [("contract", Rule.question.withOptions ["permanent"]),
        ("kind . trainee", .question), ("kind", kind)] }
    let contract : Situation := (∅ : Situation).insert "contract" (.text "permanent!")
    let answers := (contract.insert "kind" (.text " trainee ")).insert "age" (.text "'41")
    let kept := (q.answer answers).result
    q.settings.checkOptions = true ∧ kept.situation["kind"]? = some (.text " trainee ") ∧
      kept.IsGiven "kind" ⟨.value (.text "trainee"), none⟩ ∧
      (q.answer answers).warnings =
        [.ignored "age" (.unterminatedText "'41"), .notAnOption "contract" "permanent!"] ∧
      kept.answer kept.situation = pure kept := by
  intro kind q contract answers kept
  have hcheck : q.settings.checkOptions = true := rfl
  obtain ⟨hkept, -, hgiven, hagain⟩ := answer_checked hcheck answers
  have hkind : kept.situation["kind"]? = some (.text " trainee ") :=
    (hkept _ _).2 ⟨by decide +kernel, by decide +kernel⟩
  have hrule : q.rules["kind"]? = some kind := Rules.get?_add_self _ _ _
  obtain ⟨v, hv, hvalue⟩ := hgiven _ _ _ hkind hrule
  have htrainee : (Answer.text " trainee ").value = .ok (.text "trainee") := by decide +kernel
  cases htrainee.symm.trans hv
  exact ⟨hcheck, hkind, hvalue, by decide +kernel, hagain⟩

end Questionnaire

end Rulebook
