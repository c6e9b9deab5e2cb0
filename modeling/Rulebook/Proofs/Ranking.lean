import Rulebook.Proofs.Reports

/-!
# Ranked rules

Rules that do not go in a circle can be ranked, so that their formulas refer to
rules of lower rank only. They are then evaluated by recursion on the rank, and
nothing limits how deep their formulas are nested.

* `Ranking.resolve_of_computed`: without a limit, a rule comes to what its formula comes to.
* `Ranking.resolve_of_level_le`: within its rank, a name is evaluated as if there were no limit.
* `Evaluates.noCutOff`: nothing is cut off within the ranks.
-/

namespace Rulebook.Questionnaire

variable {q : Questionnaire} {depth : Nat} {e : Expr} {n : Node} {events : List Event}
  {name other : String} {rule : Rule} {formula : Expr}

/-- Ranks, counted from 1, of the rules that are computed: a formula refers to such rules only if
their rank is lower. -/
structure Ranking (q : Questionnaire) where
  rank : String → Nat
  rank_pos : ∀ {name rule formula}, q.standing name = .computed rule formula → 1 ≤ rank name
  rank_lt : ∀ {name rule formula}, q.standing name = .computed rule formula →
    ∀ other ∈ formula.names, ∀ {rule' formula'}, q.standing other = .computed rule' formula' →
      rank other < rank name

namespace Ranking

/-- How many formulas a name may bring to be nested: the rank of a rule that is computed, and none
for other names. -/
def level (r : q.Ranking) (name : String) : Nat :=
  match q.standing name with
  | .computed _ _ => r.rank name
  | _ => 0

theorem level_of_computed (r : q.Ranking) (hs : q.standing name = .computed rule formula) :
    r.level name = r.rank name := by
  rw [level, hs]

theorem level_lt (r : q.Ranking) (hs : q.standing name = .computed rule formula)
    (h : other ∈ formula.names) : r.level other < r.level name := by
  rw [r.level_of_computed hs]
  unfold level
  split
  · rename_i hother
    exact r.rank_lt hs other h hother
  · exact r.rank_pos hs

/-- The node of a name, however deep formulas are nested. -/
def resolve (r : q.Ranking) (name : String) : Logged Node :=
  match _hs : q.standing name with
  | .unknown => do
    Logged.warn (.unknownRule name)
    pure (.leaf (.unknown name) (.waiting name none))
  | .answered rule answer => answeredNode name rule answer
  | .unanswered rule => pure (.leaf (.question name) (.waiting name rule.unit))
  | .computed rule formula => do
    let node ← formula.evaluate fun other =>
      -- A formula asks for no other names than its own.
      if _h : other ∈ formula.names then r.resolve other
      else pure (.leaf (.unknown other) (.waiting other none))
    pure (ruleNode name rule node)
termination_by r.level name
decreasing_by exact r.level_lt _hs _h

/-- The node of an expression, however deep formulas are nested. -/
def evaluate (r : q.Ranking) (e : Expr) : Logged Node :=
  e.evaluate r.resolve

/-- Without a limit, a rule comes to what its formula comes to. -/
theorem resolve_of_computed (r : q.Ranking) (hs : q.standing name = .computed rule formula) :
    r.resolve name =
      (do
        let node ← r.evaluate formula
        pure (ruleNode name rule node)) := by
  rw [resolve]
  split
  case h_4 hs' =>
    rw [hs] at hs'
    cases hs'
    exact congrArg (· >>= fun node => pure (ruleNode name rule node))
      (Expr.evaluate_congr formula fun other h => dif_pos h)
  all_goals
    rename_i hs'
    cases hs.symm.trans hs'

/-- The limit makes a difference to formulas only. -/
theorem resolve_of_not_computed (r : q.Ranking)
    (hs : ∀ rule formula, q.standing name ≠ .computed rule formula) (depth : Nat) :
    q.resolve depth name = r.resolve name := by
  rw [resolve, Questionnaire.resolve]
  split <;> split <;> simp_all

/-- Within its rank, a name is evaluated as if there were no limit. -/
theorem resolve_of_level_le (r : q.Ranking) (h : r.level name ≤ depth) :
    q.resolve depth name = r.resolve name := by
  induction depth generalizing name with
  | zero =>
    refine r.resolve_of_not_computed (fun rule formula hs => ?_) 0
    rw [r.level_of_computed hs] at h
    exact absurd (r.rank_pos hs) (by omega)
  | succ depth ih =>
    cases hs : q.standing name with
    | computed rule formula =>
      have hformula : formula.evaluate (q.resolve depth) = r.evaluate formula := by
        refine Expr.evaluate_congr formula fun other hother => ih ?_
        have hlt := r.level_lt hs hother
        omega
      rw [resolve_succ hs, r.resolve_of_computed hs, hformula]
    | unknown => exact r.resolve_of_not_computed (by simp [hs]) _
    | answered rule answer => exact r.resolve_of_not_computed (by simp [hs]) _
    | unanswered rule => exact r.resolve_of_not_computed (by simp [hs]) _

/-- So is an expression whose names are all within the limit. -/
theorem evaluate_of_level_le (r : q.Ranking)
    (h : ∀ name ∈ e.names, r.level name ≤ q.settings.maxDepth) : q.evaluate e = r.evaluate e :=
  Expr.evaluate_congr e fun name hname => r.resolve_of_level_le (h name hname)

end Ranking

/-! ## Evaluation within ranks -/

theorem noCutOff_asked (name : String) : NoCutOff [.asked name] := by
  simp [NoCutOff]

/-- Rules whose ranks are within the limit are not cut off. -/
theorem Evaluates.noCutOff (h : q.Evaluates depth e n events) (r : q.Ranking)
    (hlevel : ∀ name ∈ e.names, r.level name ≤ depth) : NoCutOff events := by
  induction h with
  | constant c => exact nofun
  | unknown hs => simp [NoCutOff]
  | given hs hv => exact noCutOff_asked _
  | unreadable hs hv => simp [NoCutOff]
  | question hs => exact noCutOff_asked _
  | @cutOff name _ _ hs =>
    -- A rule that is computed is of some rank, so that no depth is not enough for it.
    have hle := hlevel name (List.mem_singleton_self name)
    rw [r.level_of_computed hs] at hle
    exact absurd (r.rank_pos hs) (by omega)
  | @rule depth name _ formula _ _ hs _ ih =>
    have hle := hlevel name (List.mem_singleton_self name)
    refine noCutOff_cons.2 ⟨noCutOff_asked name, ih fun other hother => ?_⟩
    have hlt := r.level_lt hs hother
    omega
  | decidedByLeft _ _ ih => exact ih (List.forall_mem_append.1 hlevel).1
  | decidedByRight _ _ _ _ ihl ihr =>
    obtain ⟨hleft, hright⟩ := List.forall_mem_append.1 hlevel
    exact noCutOff_append.2 ⟨ihl hleft, ihr hright⟩
  | @calculated _ op _ _ _ l r _ _ _ _ _ _ _ _ hc ihl ihr =>
    obtain ⟨hleft, hright⟩ := List.forall_mem_append.1 hlevel
    have hwarned := op.noCutOff_calculate l.quantity r.quantity
    rw [hc] at hwarned
    exact noCutOff_append.2 ⟨ihl hleft, noCutOff_append.2 ⟨ihr hright, hwarned⟩⟩

end Rulebook.Questionnaire
