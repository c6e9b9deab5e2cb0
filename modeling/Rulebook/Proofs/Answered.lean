import Rulebook.Proofs.Rounds
import Rulebook.Proofs.Weights

/-!
# Answers that are kept

Answers that a questionnaire keeps can be read, and what is answered is not
waited for. The exception are names that no rule has: an answer to such a name
is kept as well, but evaluation does not come to it, and goes on waiting for the
name wherever it is asked for.

* `isReadable_of_kept`: answers that are kept can be read.
* `Evaluates.exists_unsettled`: what is waited for has not been settled.
* `answered_missing_iff`: which answers are still waited for.
-/

namespace Rulebook

/-- Answers that are accepted can be read. -/
theorem Rules.isReadable_of_accepts {rules : Rules} {name : String} {answer : Answer}
    (h : accepts rules name answer = .ok true) : answer.isReadable = true := by
  cases answer with
  | number n => rfl
  | text t =>
    rw [accepts, acceptsText] at h
    rw [Answer.isReadable]
    cases hparse : Answer.parse t with
    | ok reading => rfl
    | error e =>
      rw [hparse] at h
      cases h

namespace Questionnaire

variable {q : Questionnaire} {depth : Nat} {e : Expr} {m n : Node} {events : List Event}
  {name : String} {answer : Answer} {answers : Situation}

/-! ## Answers -/

theorem rules_answer (q : Questionnaire) (answers : Situation) :
    (q.answer answers).result.rules = q.rules := by
  rw [Questionnaire.answer]
  split <;> rfl

theorem situation_answer (hcheck : q.settings.checkOptions = true) (answers : Situation) :
    (q.answer answers).result.situation = (Rules.accepted q.rules answers).result := by
  rw [Questionnaire.answer, if_pos hcheck]
  rfl

/-- Answers that are kept can be read. -/
theorem isReadable_of_kept (hcheck : q.settings.checkOptions = true)
    (h : (q.answer answers).result.situation[name]? = some answer) :
    answer.isReadable = true := by
  rw [situation_answer hcheck, Rules.getElem?_accepted, Option.filter_eq_some_iff] at h
  have hnone := Option.isNone_iff_eq_none.1 h.2
  exact Rules.isReadable_of_accepts ((Rules.objection?_eq_none_iff ..).1 hnone)

/-! ## Names that are waited for -/

/-- A name that a node waits for is unsettled, as a leaf of the node shows. -/
theorem Evaluates.exists_unsettled (h : q.Evaluates depth e n events)
    (hname : n.missing.weight name ≠ 0) : ∃ m ∈ n.parts, q.Unsettled name m := by
  have hle := (h.weighed name).le
  have hleaves : n.leavesWaiting name ≠ 0 := by omega
  obtain ⟨m, hm, hwaiting⟩ := Node.exists_isLeafWaiting hleaves
  exact ⟨m, hm, (h.unsettled_of_mem_parts hm hwaiting).2⟩

theorem Unsettled.name?_eq (h : q.Unsettled name m) : m.name? = some name := by
  cases h <;> rfl

/-- A name that is answered so that the answer can be read is unsettled only if no rule has it. -/
theorem Unsettled.rule_eq_none (h : q.Unsettled name m)
    (hanswer : q.situation[name]? = some answer) (hreadable : answer.isReadable = true) :
    q.rules[name]? = none := by
  cases h with
  | question hs =>
    have hnone := (standing_eq_unanswered_iff.1 hs).2.1
    cases hanswer.symm.trans hnone
  | unknown hs => exact standing_eq_unknown_iff.1 hs
  | unreadable hs hv =>
    cases hanswer.symm.trans (standing_eq_answered_iff.1 hs).2
    obtain ⟨v, hvalue⟩ := Answer.exists_value_of_isReadable hreadable
    cases hvalue.symm.trans hv
  | cutOff hs =>
    have hnone := (standing_eq_computed_iff.1 hs).2.1
    cases hanswer.symm.trans hnone

/-- The leaf of a name that no rule has waits for the name. -/
theorem Evaluates.contains_of_unknown (h : q.Evaluates depth (.reference name) m events)
    (hrule : q.rules[name]? = none) : m.missing.contains name = true := by
  have hunknown : q.Evaluates depth (.reference name) _ _ :=
    .unknown (standing_eq_unknown_iff.2 hrule)
  have hderived := hunknown.evaluate_eq
  rw [h.evaluate_eq] at hderived
  cases hderived
  have hweight := Result.weight_waiting name none name
  rw [if_pos rfl] at hweight
  exact Missing.contains_iff.2 (hweight ▸ Nat.one_ne_zero)

/-- An answer that can be read is waited for just where it answers a name that no rule has, and the
name is asked for. -/
theorem exists_missing_iff (hanswer : q.situation[name]? = some answer)
    (hreadable : answer.isReadable = true) (e : Expr) :
    (∃ n ∈ (q.evaluate e).result.parts, n.missing.contains name = true) ↔
      q.rules[name]? = none ∧ name ∈ (q.evaluate e).asked := by
  have h := evaluates_evaluate q e
  rw [mem_asked_iff]
  constructor
  · rintro ⟨n, hn, hname⟩
    obtain ⟨f, hf⟩ := h.exists_belongsTo n hn
    obtain ⟨depth, events, hderived⟩ := hf.exists_evaluates h
    obtain ⟨m, hm, hunsettled⟩ := hderived.exists_unsettled (Missing.contains_iff.1 hname)
    refine ⟨hunsettled.rule_eq_none hanswer hreadable, ?_⟩
    exact Node.mem_names_iff.2 ⟨m, Node.mem_parts_trans hm hn, hunsettled.name?_eq⟩
  · rintro ⟨hrule, hname⟩
    obtain ⟨m, hm, hmname⟩ := Node.mem_names_iff.1 hname
    obtain ⟨f, hf⟩ := h.exists_belongsTo m hm
    obtain ⟨depth, events, hderived⟩ := hf.exists_evaluates h
    obtain rfl := hderived.eq_reference hmname
    exact ⟨m, hm, hderived.contains_of_unknown hrule⟩

/-- Of the names that have an answer once the answers were checked, those of rules are waited for by
no node of any tree. A name that no rule has is waited for in every tree that it was asked for
in. -/
theorem answered_missing_iff {q : Questionnaire} (hcheck : q.settings.checkOptions = true)
    (answers : Situation) :
    let kept := (q.answer answers).result
    ∀ name ∈ kept.situation,
      (∀ e, (∃ n ∈ (kept.evaluate e).result.parts, n.missing.contains name = true) ↔
        q.rules[name]? = none ∧ name ∈ (kept.evaluate e).asked) ∧
      ∀ rule, (∃ n ∈ (kept.evaluateRule rule).result.parts, n.missing.contains name = true) ↔
        q.rules[name]? = none ∧ name ∈ (kept.evaluateRule rule).asked := by
  intro kept name hname
  have hsome := Std.ExtTreeMap.mem_iff_isSome_getElem?.1 hname
  obtain ⟨answer, hanswer⟩ := Option.isSome_iff_exists.1 hsome
  have hreadable := isReadable_of_kept hcheck hanswer
  rw [← rules_answer q answers]
  exact ⟨exists_missing_iff hanswer hreadable,
    fun rule => exists_missing_iff hanswer hreadable (.reference rule)⟩

/-- The salary that was answered is not waited for, and the bonus of which no rule knows is, though
its answer was kept. -/
theorem answered_missing_iff_bonus :
    let salary : Rule := Rule.question.withUnit (.atom "€")
    let q : Questionnaire := { rules := Rules.ofList [("salary", salary)] }
    let answers : Situation :=
      ((∅ : Situation).insert "salary" (.text " 12.5 ")).insert "bonus" (.number .one)
    let kept := (q.answer answers).result
    let e : Expr := .binary .add (.reference "salary") (.reference "bonus")
    q.settings.checkOptions = true ∧ "salary" ∈ kept.situation ∧ "bonus" ∈ kept.situation ∧
      (¬ ∃ n ∈ (kept.evaluate e).result.parts, n.missing.contains "salary" = true) ∧
      ∃ n ∈ (kept.evaluate e).result.parts, n.missing.contains "bonus" = true := by
  intro salary q answers kept e
  have hcheck : q.settings.checkOptions = true := rfl
  have hsalary : "salary" ∈ kept.situation := by decide +kernel
  have hbonus : "bonus" ∈ kept.situation := by decide +kernel
  have hrule : q.rules["salary"]? = some salary := Rules.get?_add_self _ _ _
  have hasked : "bonus" ∈ (kept.evaluate e).asked := by decide +kernel
  refine ⟨hcheck, hsalary, hbonus, fun h => ?_, ?_⟩
  · have hnone := (((answered_missing_iff hcheck answers _ hsalary).1 e).1 h).1
    cases hrule.symm.trans hnone
  · exact ((answered_missing_iff hcheck answers _ hbonus).1 e).2 ⟨by decide, hasked⟩

/-- An answer that was kept without a warning, and is waited for nevertheless. -/
theorem missing_answered_bonus :
    let q : Questionnaire := { rules := ∅ }
    let answers : Situation := (∅ : Situation).insert "bonus" (.number .one)
    let kept := (q.answer answers).result
    q.settings.checkOptions = true ∧ (q.answer answers).warnings = [] ∧
      "bonus" ∈ kept.situation ∧
      (kept.evaluate (.reference "bonus")).result.missing.contains "bonus" = true := by
  decide +kernel

end Questionnaire

end Rulebook
