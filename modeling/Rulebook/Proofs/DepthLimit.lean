import Rulebook.Proofs.Derivation
import Rulebook.Proofs.Standing

/-!
# The limit on nested references

The limit does nothing but cut off: an evaluation that it did not cut off goes
the same way under every greater limit, since formulas that were reached are
reached again with more depth to spare, and operands that were skipped are
skipped again.

* `Evaluates.deeper`: a derivation without a cut-off holds at every greater depth.
* `evaluate_withMaxDepth`: an evaluation without a cut-off does not depend on the limit.
-/

namespace Rulebook

/-! ## Logs without a cut-off -/

/-- Whether no rule was cut off on the way. -/
def NoCutOff (events : List Event) : Prop :=
  ∀ name limit, .warned (.cutOff name limit) ∉ events

theorem noCutOff_append {xs ys : List Event} : NoCutOff (xs ++ ys) ↔ NoCutOff xs ∧ NoCutOff ys := by
  simp only [NoCutOff, List.mem_append, not_or, forall_and]

theorem noCutOff_cons {x : Event} {xs : List Event} :
    NoCutOff (x :: xs) ↔ NoCutOff [x] ∧ NoCutOff xs := by
  rw [← noCutOff_append, List.singleton_append]

theorem Logged.mem_warnings {α : Type} {x : Logged α} {w : Warning} :
    w ∈ x.warnings ↔ .warned w ∈ x.events := by
  simp only [warnings, List.mem_filterMap]
  constructor
  · rintro ⟨event, hevent, hw⟩
    cases event with
    | asked name => cases hw
    | warned w' => cases hw; exact hevent
  · exact fun h => ⟨_, h, rfl⟩

namespace Questionnaire

variable {q : Questionnaire} {depth depth' : Nat} {e : Expr} {n : Node} {events : List Event}

/-- What comes about without a cut-off comes about with more depth to spare, and under any limit. -/
theorem Evaluates.deeper (h : q.Evaluates depth e n events) (hcut : NoCutOff events)
    (hle : depth ≤ depth') (limit : Nat) : (q.withMaxDepth limit).Evaluates depth' e n events := by
  have hstanding := standing_withMaxDepth q limit
  induction h generalizing depth' with
  | constant c => exact .constant c
  | unknown hs => exact .unknown ((hstanding _).trans hs)
  | given hs hv => exact .given ((hstanding _).trans hs) hv
  | unreadable hs hv => exact .unreadable ((hstanding _).trans hs) hv
  | question hs => exact .question ((hstanding _).trans hs)
  | cutOff hs => exact absurd (List.mem_cons_of_mem _ (List.mem_singleton_self _)) (hcut _ _)
  | rule hs _ ih =>
    -- A rule takes one level of both depths for its formula.
    obtain ⟨spare, rfl⟩ := Nat.exists_eq_add_of_le hle
    rw [Nat.succ_add]
    exact .rule ((hstanding _).trans hs) (ih (noCutOff_cons.1 hcut).2 (Nat.le_add_right _ _))
  | decidedByLeft _ hd ih => exact .decidedByLeft (ih hcut hle) hd
  | decidedByRight _ hl _ hr ihl ihr =>
    obtain ⟨hcutl, hcutr⟩ := noCutOff_append.1 hcut
    exact .decidedByRight (ihl hcutl hle) hl (ihr hcutr hle) hr
  | calculated _ hl _ hr hc ihl ihr =>
    obtain ⟨hcutl, hcut⟩ := noCutOff_append.1 hcut
    obtain ⟨hcutr, -⟩ := noCutOff_append.1 hcut
    exact .calculated (ihl hcutl hle) hl (ihr hcutr hle) hr hc

/-- An evaluation that nothing cut off has the same tree and the same log under every greater
limit. -/
theorem evaluate_withMaxDepth {q : Questionnaire} {e : Expr} {depth : Nat}
    (hcut : ∀ name limit, .cutOff name limit ∉ (q.evaluate e).warnings)
    (hle : q.settings.maxDepth ≤ depth) : (q.withMaxDepth depth).evaluate e = q.evaluate e := by
  have hevents : NoCutOff (q.evaluate e).events :=
    fun name limit h => hcut name limit (Logged.mem_warnings.2 h)
  exact ((evaluates_evaluate q e).deeper hevents hle depth).evaluate_eq

/-- A rule that refers to itself only where its value is not needed is not cut off, whatever the
limit. -/
theorem evaluate_withMaxDepth_circle :
    let loop : Rule := Rule.question.withFormula (.binary .mul .inapplicable (.reference "loop"))
    let q : Questionnaire :=
      { rules := Rules.ofList [("loop", loop)], settings := { maxDepth := 1 } }
    (q.evaluate (.reference "loop")).warnings = [] ∧
      (q.withMaxDepth 7).evaluate (.reference "loop") = q.evaluate (.reference "loop") := by
  intro loop q
  have hwarnings : (q.evaluate (.reference "loop")).warnings = [] := by decide
  refine ⟨hwarnings, evaluate_withMaxDepth (fun name limit => ?_) (by decide)⟩
  rw [hwarnings]
  exact List.not_mem_nil

end Questionnaire

end Rulebook
