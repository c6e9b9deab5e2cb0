import Rulebook.Answer.Basic
import Rulebook.Logged
import Rulebook.Rule

/-!
# Accepted answers

A question that lists options accepts just these, and the names of rules under
it that stand for an option. Numbers are accepted by every question. Of the
answers to a questionnaire, those that are not accepted are dropped, with a
warning for each.

* `getElem?_accepted`: each answer is judged by itself, and kept unchanged.
* `accepted_accepted`: what is accepted is accepted again, without a warning.
-/

namespace Rulebook

open Std (ExtTreeMap)

/-- Answers by the names that they answer. -/
abbrev Situation := ExtTreeMap String Answer

namespace Answer

/-- The characters between two quotes of one kind, if they stand between them. -/
def unquotedBy? (quote : Char) (cs : List Char) : Option (List Char) :=
  match cs with
  | [] => none
  | c :: rest =>
    if c = quote ∧ rest.getLast? = some quote then some rest.dropLast else none

/-- The text that an option stands for: without the blanks around it, and without quotes. -/
def optionText (option : String) : String :=
  let cs := Text.trim option.toList
  String.ofList (((unquotedBy? '\'' cs).or (unquotedBy? '"' cs)).getD cs)

end Answer

namespace Rules

/-- Whether a reading is one of the options of a name, or a rule under the name. -/
def isOption (rules : Rules) (name : String) (options : List String) (text : String) :
    Reading → Bool
  | .constant (.text t) => options.any fun option => Answer.optionText option == t
  | .constant _ => options.contains (Text.trimmed text)
  | .reference option => options.contains option || rules.contains (name ++ " . " ++ option)

/-- Whether a name accepts a text answer. -/
def acceptsText (rules : Rules) (name text : String) : Except Expr.Error Bool :=
  match Answer.parse text with
  | .error e => .error e
  | .ok reading =>
    match rules[name]?.bind Rule.options with
    | none => .ok true
    | some [] => .ok true
    | some options => .ok (isOption rules name options text reading)

/-- Whether a name accepts an answer. -/
def accepts (rules : Rules) (name : String) : Answer → Except Expr.Error Bool
  | .number _ => .ok true
  | .text t => acceptsText rules name t

/-- Why an answer is not kept. -/
def objection? (rules : Rules) (name : String) : Answer → Option Warning
  | .number _ => none
  | .text t =>
    match acceptsText rules name t with
    | .ok true => none
    | .ok false => some (.notAnOption name t)
    | .error e => some (.ignored name e)

/-- The answers without those that are not accepted, with a warning for each of these in the order
of names. -/
def accepted (rules : Rules) (answers : Situation) : Logged Situation where
  result := answers.filter fun name answer => (objection? rules name answer).isNone
  events := answers.toList.filterMap fun entry =>
    (objection? rules entry.1 entry.2).map Event.warned

theorem objection?_eq_none_iff (rules : Rules) (name : String) (answer : Answer) :
    objection? rules name answer = none ↔ accepts rules name answer = .ok true := by
  cases answer with
  | number n => simp [objection?, accepts]
  | text t =>
    rw [objection?, accepts]
    split <;> simp_all

/-- Each answer is judged by itself, and kept unchanged. -/
theorem getElem?_accepted (rules : Rules) (answers : Situation) (name : String) :
    (accepted rules answers).result[name]? =
      answers[name]?.filter fun answer => (objection? rules name answer).isNone := by
  simp [accepted]

theorem events_accepted_eq_nil {rules : Rules} {answers : Situation}
    (h : ∀ name answer, answers[name]? = some answer → objection? rules name answer = none) :
    (accepted rules answers).events = [] := by
  rw [accepted, List.filterMap_eq_nil_iff]
  intro entry hentry
  rw [h _ _ (ExtTreeMap.mem_toList_iff_getElem?_eq_some.1 hentry), Option.map_none]

/-- What is accepted is accepted again, without a warning. -/
theorem accepted_accepted (rules : Rules) (answers : Situation) :
    accepted rules (accepted rules answers).result = pure (accepted rules answers).result := by
  refine Logged.eq_of_result_eq ?_ (events_accepted_eq_nil fun name answer h => ?_)
  · refine ExtTreeMap.ext_getElem? fun name => ?_
    rw [getElem?_accepted, Logged.result_pure, getElem?_accepted, Option.filter_filter]
    simp only [Bool.and_self]
  · rw [getElem?_accepted, Option.filter_eq_some_iff] at h
    exact Option.isNone_iff_eq_none.1 h.2

end Rules

end Rulebook
