import Rulebook.Proofs.Belonging

/-!
# Names that an evaluation depends on

An evaluation depends on the names that it asks for, and on nothing else. Where
another questionnaire has the same rules and answers for these names, it comes
to the same tree and reports the same warnings. What an operand refers to that
was skipped, or a formula that an answer stands in front of, makes no
difference.

* `Evaluates.of_standing_eq`: a derivation holds wherever the names that it asks for stand alike.
* `evaluate_eq_of_agree`: so does a whole evaluation.
-/

namespace Rulebook.Questionnaire

variable {q q' : Questionnaire} {depth : Nat} {e : Expr} {n : Node} {events : List Event}
  {name : String}

/-! ## Questionnaires that agree -/

/-- Whether two questionnaires have the same rule and the same answer for a name, or none. -/
def AgreesOn (q q' : Questionnaire) (name : String) : Prop :=
  q'.rules[name]? = q.rules[name]? ∧ q'.situation[name]? = q.situation[name]?

theorem AgreesOn.standing_eq (h : q.AgreesOn q' name) : q'.standing name = q.standing name := by
  rw [standing, standing, h.1, h.2]

/-! ## Derivations -/

/-- A derivation holds in every questionnaire with the same limit where the names that it asks for
stand alike. -/
theorem Evaluates.of_standing_eq (h : q.Evaluates depth e n events)
    (hlimit : q'.settings.maxDepth = q.settings.maxDepth)
    (hs : ∀ name ∈ askedIn events, q'.standing name = q.standing name) :
    q'.Evaluates depth e n events := by
  induction h with
  | constant c => exact .constant c
  | unknown ho => exact .unknown ((hs _ (List.mem_singleton_self _)).trans ho)
  | given ho hv => exact .given ((hs _ (List.mem_singleton_self _)).trans ho) hv
  | unreadable ho hv => exact .unreadable ((hs _ (List.mem_singleton_self _)).trans ho) hv
  | question ho => exact .question ((hs _ (List.mem_singleton_self _)).trans ho)
  | cutOff ho =>
    rw [← hlimit]
    exact .cutOff ((hs _ (List.mem_singleton_self _)).trans ho)
  | rule ho _ ih =>
    obtain ⟨hname, hformula⟩ := List.forall_mem_cons.1 hs
    exact .rule (hname.trans ho) (ih hformula)
  | decidedByLeft _ hd ih => exact .decidedByLeft (ih hs) hd
  | decidedByRight _ hl _ hr ihl ihr =>
    rw [askedIn_append] at hs
    obtain ⟨hleft, hright⟩ := List.forall_mem_append.1 hs
    exact .decidedByRight (ihl hleft) hl (ihr hright) hr
  | calculated _ hl _ hr hc ihl ihr =>
    rw [askedIn_append, askedIn_append] at hs
    obtain ⟨hleft, hrest⟩ := List.forall_mem_append.1 hs
    obtain ⟨hright, -⟩ := List.forall_mem_append.1 hrest
    exact .calculated (ihl hleft) hl (ihr hright) hr hc

theorem evaluate_eq_of_agreesOn (hsettings : q'.settings = q.settings)
    (h : ∀ name ∈ (q.evaluate e).asked, q.AgreesOn q' name) : q'.evaluate e = q.evaluate e := by
  have hlimit := congrArg Settings.maxDepth hsettings
  have hderived := (evaluates_evaluate q e).of_standing_eq hlimit fun name hname =>
    (h name hname).standing_eq
  rw [← hlimit] at hderived
  exact hderived.evaluate_eq

/-! ## Evaluations -/

/-- An evaluation has the same tree and the same log in every questionnaire with the same settings
that agrees on the names that were asked for. In particular, rules and answers may be added, removed
and changed for all names to which no reference stands outside of the operands that were skipped. -/
theorem evaluate_eq_of_agree (q : Questionnaire) (e : Expr) :
    (∀ q' : Questionnaire, q'.settings = q.settings →
      (∀ name ∈ (q.evaluate e).asked, q.AgreesOn q' name) → q'.evaluate e = q.evaluate e) ∧
    ∀ q' : Questionnaire, q'.settings = q.settings →
      (∀ name, ¬ q.AgreesOn q' name →
        ∀ m, ¬ q.BelongsTo m (.reference name) (q.evaluate e).result e) →
      q'.evaluate e = q.evaluate e := by
  refine ⟨fun q' => evaluate_eq_of_agreesOn, fun q' hsettings hskipped => ?_⟩
  refine evaluate_eq_of_agreesOn hsettings fun name hname => ?_
  obtain ⟨m, -, hm⟩ :=
    (evaluates_evaluate q e).exists_belongsTo_reference (mem_asked_iff.1 hname)
  exact Classical.not_not.1 fun hdiffer => hskipped name hdiffer m hm

/-- A bonus that counts for nothing is not asked for, so that it may be a rule that refers to itself
as well as an answer that is no amount. -/
theorem evaluate_eq_of_agree_bonus :
    let salary : Rule := Rule.question.withUnit (.atom "€")
    let loop : Rule := Rule.question.withFormula (.reference "bonus")
    let product : Expr := .binary .mul (.number .zero) (.reference "bonus")
    let e : Expr := .binary .add (.reference "salary") product
    let q : Questionnaire := { rules := Rules.ofList [("salary", salary), ("bonus", loop)] }
    let q' : Questionnaire := {
      rules := Rules.ofList [("bonus", .question), ("salary", salary)]
      situation := (∅ : Situation).insert "bonus" (.text "none") }
    (q.evaluate e).asked = ["salary"] ∧ q'.evaluate e = q.evaluate e ∧
      q'.evaluateRule "bonus" ≠ q.evaluateRule "bonus" := by
  intro salary loop product e q q'
  have hasked : (q.evaluate e).asked = ["salary"] := by decide +kernel
  have hrule : q.rules["salary"]? = some salary :=
    (Rules.get?_add_of_ne _ _ (by decide)).trans (Rules.get?_add_self _ _ _)
  have hrule' : q'.rules["salary"]? = some salary := Rules.get?_add_self _ _ _
  have hagree : ∀ name ∈ (q.evaluate e).asked, q.AgreesOn q' name := by
    rw [hasked]
    exact List.forall_mem_singleton.2 ⟨hrule'.trans hrule.symm, by decide⟩
  exact ⟨hasked, (evaluate_eq_of_agree q e).1 q' rfl hagree, by decide +kernel⟩

end Rulebook.Questionnaire
