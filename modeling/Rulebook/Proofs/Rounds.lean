import Rulebook.Proofs.Accounting
import Rulebook.Proofs.Ranking

/-!
# Asking in rounds

A rule is evaluated, some of the answers that it waits for are given, and it is
evaluated again. What it waits for are open questions, and each round leaves
fewer of them, so that the rule comes to something in the end, in whatever order
and however the questions are answered.

* `Evaluates.isOpen_of_missing`: an evaluation waits for open questions only.
* `Round.answerable`, `Round.length_openQuestions_lt`: what a round keeps, and what it uses up.
* `exists_complete_of_rounds`: the rounds end with a result.
-/

namespace Rulebook

/-- Whether the answer can be read. -/
def Answer.isReadable : Answer → Bool
  | number _ => true
  | text t => (parse t).toBool

theorem Answer.exists_value_of_isReadable {answer : Answer} (h : answer.isReadable = true) :
    ∃ v, answer.value = .ok v := by
  cases answer with
  | number n => exact ⟨_, rfl⟩
  | text t =>
    rw [isReadable] at h
    rw [value]
    cases hparse : parse t with
    | ok reading => cases reading <;> exact ⟨_, rfl⟩
    | error e =>
      rw [hparse] at h
      cases h

namespace Questionnaire

variable {q q' : Questionnaire} {depth : Nat} {e : Expr} {n : Node} {events : List Event}
  {name other : String} {rule : Rule} {formula : Expr} {answer : Answer}

/-! ## Open questions -/

/-- Whether the name is that of a question that is not answered. -/
def isOpen (q : Questionnaire) (name : String) : Bool :=
  match q.standing name with
  | .unanswered _ => true
  | _ => false

/-- The questions that are not answered. -/
def openQuestions (q : Questionnaire) : List String :=
  q.rules.keys.filter q.isOpen

theorem isOpen_iff : q.isOpen name = true ↔ ∃ rule, q.standing name = .unanswered rule := by
  unfold isOpen
  split <;> simp_all

theorem mem_openQuestions_iff : name ∈ q.openQuestions ↔ q.isOpen name = true := by
  rw [openQuestions, List.mem_filter, and_iff_right_iff_imp, isOpen_iff]
  rintro ⟨rule, hs⟩
  have hrule := (standing_eq_unanswered_iff.1 hs).1
  rw [Std.ExtTreeMap.mem_keys, Std.ExtTreeMap.mem_iff_isSome_getElem?, hrule]
  rfl

/-! ## Answerable questionnaires -/

/-- What it takes for questions to be all that is missing. -/
structure Answerable (q : Questionnaire) : Prop where
  /-- Formulas refer to rules. -/
  refers : ∀ {name : String} {rule : Rule} {formula : Expr},
    q.rules[name]? = some rule → rule.formula = some formula →
      ∀ other ∈ formula.names, other ∈ q.rules
  /-- Formulas contain no constant that is open itself. -/
  settled : ∀ {name : String} {rule : Rule} {formula : Expr},
    q.rules[name]? = some rule → rule.formula = some formula →
      ∀ c ∈ formula.constants, c.outcome ≠ .indeterminate
  readable : ∀ {name : String} {answer : Answer},
    q.situation[name]? = some answer → answer.isReadable = true
  /-- The rules that are computed have ranks within the limit. -/
  ranked : ∃ r : q.Ranking, ∀ {name : String} {rule : Rule} {formula : Expr},
    q.standing name = .computed rule formula → r.rank name ≤ q.settings.maxDepth

/-- An evaluation without a cut-off waits for open questions only. -/
theorem Evaluates.isOpen_of_missing (h : q.Evaluates depth e n events) (hq : q.Answerable)
    (hcut : NoCutOff events) (hnames : ∀ name ∈ e.names, name ∈ q.rules) :
    ∀ name, n.missing.weight name ≠ 0 → q.isOpen name = true := by
  induction h with
  | constant c => exact fun name hname => absurd (Missing.weight_empty name) hname
  | given _ _ => exact fun name hname => absurd (Missing.weight_empty name) hname
  | @unknown _ name hs =>
    have hmem := hnames name (List.mem_singleton_self name)
    rw [Std.ExtTreeMap.mem_iff_isSome_getElem?, standing_eq_unknown_iff.1 hs] at hmem
    cases hmem
  | unreadable hs hv =>
    have hreadable := hq.readable (standing_eq_answered_iff.1 hs).2
    obtain ⟨v, hvalue⟩ := Answer.exists_value_of_isReadable hreadable
    rw [hvalue] at hv
    cases hv
  | @question _ name _ hs =>
    intro other hother
    obtain rfl := Decidable.of_not_not (mt Missing.weight_single_eq_zero_iff.2 hother)
    exact isOpen_iff.2 ⟨_, hs⟩
  | cutOff _ => exact absurd (List.mem_cons_of_mem _ (List.mem_singleton_self _)) (hcut _ _)
  | rule hs _ ih =>
    obtain ⟨hrule, -, hformula⟩ := standing_eq_computed_iff.1 hs
    exact ih (noCutOff_cons.1 hcut).2 (hq.refers hrule hformula)
  | decidedByLeft _ _ ih => exact ih hcut (List.forall_mem_append.1 hnames).1
  | decidedByRight _ _ _ _ _ ihr =>
    exact ihr (noCutOff_append.1 hcut).2 (List.forall_mem_append.1 hnames).2
  | @calculated _ _ _ _ _ l r _ _ _ _ _ _ _ _ _ ihl ihr =>
    obtain ⟨hcutl, hcut⟩ := noCutOff_append.1 hcut
    obtain ⟨hleft, hright⟩ := List.forall_mem_append.1 hnames
    intro name hname
    have hweight : l.missing.weight name + r.missing.weight name ≠ 0 := by
      rw [← Missing.weight_mergeAll_pair]
      exact hname
    by_cases hl : l.missing.weight name = 0
    · exact ihr (noCutOff_append.1 hcut).1 hright name (by omega)
    · exact ihl hcutl hleft name hl

namespace Answerable

/-- A rule waits for open questions only. -/
theorem isOpen_of_missing (hq : q.Answerable) (hname : name ∈ q.rules)
    (h : (q.evaluateRule name).result.missing.contains other = true) : q.isOpen other = true := by
  have hevaluates := evaluates_evaluate q (.reference name)
  obtain ⟨r, hrank⟩ := hq.ranked
  have hlevel : r.level name ≤ q.settings.maxDepth := by
    unfold Ranking.level
    split
    · exact hrank ‹_›
    · exact Nat.zero_le _
  have hcut := hevaluates.noCutOff r (List.forall_mem_singleton.2 hlevel)
  refine hevaluates.isOpen_of_missing hq hcut (List.forall_mem_singleton.2 hname) other ?_
  exact Missing.contains_iff.1 h

/-- A rule that waits for nothing has come to something. -/
theorem outcome_ne_indeterminate (hq : q.Answerable)
    (h : (q.evaluateRule name).result.isComplete = true) :
    (q.evaluateRule name).result.outcome ≠ .indeterminate := by
  intro hopen
  have hevaluates := evaluates_evaluate q (.reference name)
  have hroot := hevaluates.accounted _ (Node.self_mem_parts _)
  rcases hroot.waiting hopen with hmissing | ⟨m, hm, hconstant⟩
  · exact hmissing (Missing.isEmpty_iff.1 h)
  · obtain ⟨r, rfl, hr⟩ := Node.isOpenConstant_iff.1 hconstant
    obtain ⟨c, hholds, rfl⟩ := hevaluates.fromConstants _ hm r rfl
    rcases hholds with hc | ⟨name, rule, formula, hrule, hformula, hc⟩
    · cases hc
    · exact hq.settled hrule hformula c hc hr

end Answerable

/-! ## Answers -/

theorem standing_of_withAnswer_eq_computed
    (hs : (q.withAnswer other answer).standing name = .computed rule formula) :
    q.standing name = .computed rule formula := by
  by_cases hname : name = other
  · subst hname
    have hanswer := (standing_eq_computed_iff.1 hs).2.1
    rw [withAnswer, Std.ExtTreeMap.getElem?_insert_self] at hanswer
    cases hanswer
  · rwa [standing_withAnswer_of_ne hname] at hs

/-- Ranks stay ranks when names are answered. -/
def Ranking.withAnswer (r : q.Ranking) (other : String) (answer : Answer) :
    (q.withAnswer other answer).Ranking where
  rank := r.rank
  rank_pos hs := r.rank_pos (standing_of_withAnswer_eq_computed hs)
  rank_lt hs other hother _ _ hs' :=
    r.rank_lt (standing_of_withAnswer_eq_computed hs) other hother
      (standing_of_withAnswer_eq_computed hs')

theorem Answerable.withAnswer (hq : q.Answerable) (hanswer : answer.isReadable = true)
    (other : String) : (q.withAnswer other answer).Answerable where
  refers := hq.refers
  settled := hq.settled
  readable := by
    intro name given hgiven
    rw [Questionnaire.withAnswer, Std.ExtTreeMap.getElem?_insert] at hgiven
    split at hgiven
    · cases hgiven
      exact hanswer
    · exact hq.readable hgiven
  ranked := by
    obtain ⟨r, hrank⟩ := hq.ranked
    exact ⟨r.withAnswer other answer, fun hs => hrank (standing_of_withAnswer_eq_computed hs)⟩

theorem isOpen_withAnswer (q : Questionnaire) (other : String) (answer : Answer) (name : String) :
    (q.withAnswer other answer).isOpen name = (q.isOpen name && name != other) := by
  by_cases hname : name = other
  · subst hname
    rw [bne_self_eq_false, Bool.and_false, ← Bool.not_eq_true, isOpen_iff]
    rintro ⟨rule, hs⟩
    have hanswer := (standing_eq_unanswered_iff.1 hs).2.1
    rw [withAnswer, Std.ExtTreeMap.getElem?_insert_self] at hanswer
    cases hanswer
  · rw [isOpen, standing_withAnswer_of_ne hname, bne_iff_ne.2 hname, Bool.and_true, isOpen]

/-- An answer takes its name from the open questions. -/
theorem openQuestions_withAnswer (q : Questionnaire) (other : String) (answer : Answer) :
    (q.withAnswer other answer).openQuestions = q.openQuestions.filter (· != other) := by
  rw [openQuestions, openQuestions, List.filter_filter]
  refine List.filter_congr fun name _ => ?_
  rw [isOpen_withAnswer, Bool.and_comm]

/-- The questionnaire with answers to more names; of two to one name, the later one. -/
def withAnswers (q : Questionnaire) (answers : List (String × Answer)) : Questionnaire :=
  answers.foldl (fun q entry => q.withAnswer entry.1 entry.2) q

theorem Answerable.withAnswers (hq : q.Answerable) {answers : List (String × Answer)}
    (hanswers : ∀ entry ∈ answers, entry.2.isReadable = true) :
    (q.withAnswers answers).Answerable := by
  induction answers generalizing q with
  | nil => exact hq
  | cons entry answers ih =>
    obtain ⟨hentry, hanswers⟩ := List.forall_mem_cons.1 hanswers
    exact ih (hq.withAnswer hentry entry.1) hanswers

theorem rules_withAnswers (q : Questionnaire) (answers : List (String × Answer)) :
    (q.withAnswers answers).rules = q.rules := by
  induction answers generalizing q with
  | nil => rfl
  | cons entry answers ih => exact ih (q.withAnswer entry.1 entry.2)

theorem length_openQuestions_withAnswers_le (q : Questionnaire)
    (answers : List (String × Answer)) :
    (q.withAnswers answers).openQuestions.length ≤ q.openQuestions.length := by
  induction answers generalizing q with
  | nil => exact Nat.le_refl _
  | cons entry answers ih =>
    refine Nat.le_trans (ih (q.withAnswer entry.1 entry.2)) ?_
    rw [openQuestions_withAnswer]
    exact List.length_filter_le ..

/-! ## Rounds -/

/-- A round: at least one of the names that a rule waits for is answered, with answers that can be
read. -/
def Round (name : String) (q q' : Questionnaire) : Prop :=
  ∃ answers : List (String × Answer), answers ≠ [] ∧
    (∀ entry ∈ answers, (q.evaluateRule name).result.missing.contains entry.1 = true ∧
      entry.2.isReadable = true) ∧
    q' = q.withAnswers answers

/-- As long as a rule is not complete, a round can be played. -/
theorem exists_round (h : (q.evaluateRule name).result.isComplete = false) :
    ∃ q', Round name q q' := by
  have hne : (q.evaluateRule name).result.missing ≠ .empty := by
    rw [Ne, ← Missing.isEmpty_iff, Bool.not_eq_true]
    exact h
  obtain ⟨other, hother⟩ := Classical.not_forall.1 (mt Missing.eq_empty_iff.2 hne)
  refine ⟨_, [(other, .number .zero)], List.cons_ne_nil _ _, ?_, rfl⟩
  exact List.forall_mem_singleton.2 ⟨Missing.contains_iff.2 hother, rfl⟩

theorem Round.answerable (h : Round name q q') (hq : q.Answerable) : q'.Answerable := by
  obtain ⟨answers, -, hanswers, rfl⟩ := h
  exact hq.withAnswers fun entry hentry => (hanswers entry hentry).2

theorem Round.rules_eq (h : Round name q q') : q'.rules = q.rules := by
  obtain ⟨answers, -, -, rfl⟩ := h
  exact rules_withAnswers q answers

/-- A round leaves fewer open questions. -/
theorem Round.length_openQuestions_lt (h : Round name q q') (hq : q.Answerable)
    (hname : name ∈ q.rules) : q'.openQuestions.length < q.openQuestions.length := by
  obtain ⟨answers, hne, hanswers, rfl⟩ := h
  cases answers with
  | nil => exact absurd rfl hne
  | cons entry answers =>
    have hopen := hq.isOpen_of_missing hname (hanswers entry (List.mem_cons_self ..)).1
    refine Nat.lt_of_le_of_lt (length_openQuestions_withAnswers_le _ answers) ?_
    rw [openQuestions_withAnswer, List.length_filter_lt_length_iff_exists]
    exact ⟨entry.1, mem_openQuestions_iff.2 hopen, by simp⟩

/-- Rounds that are played as long as a rule is not complete end with a result of the rule, after no
more rounds than there were open questions. -/
theorem exists_complete_of_rounds (hq : q.Answerable) (hname : name ∈ q.rules)
    {rounds : Nat → Questionnaire} (hstart : rounds 0 = q)
    (hround : ∀ k, ((rounds k).evaluateRule name).result.isComplete = false →
      Round name (rounds k) (rounds (k + 1))) :
    ∃ k ≤ q.openQuestions.length,
      (∀ j < k, ((rounds j).evaluateRule name).result.isComplete = false) ∧
        ((rounds k).evaluateRule name).result.isComplete = true ∧
        ((rounds k).evaluateRule name).result.outcome ≠ .indeterminate := by
  -- The open questions are fewer after the first round, so that the rounds after it end sooner.
  induction hlength : q.openQuestions.length using Nat.strongRecOn generalizing q rounds with
  | ind length ih =>
    subst hstart
    cases hcomplete : ((rounds 0).evaluateRule name).result.isComplete with
    | true =>
      exact ⟨0, Nat.zero_le _, nofun, hcomplete, hq.outcome_ne_indeterminate hcomplete⟩
    | false =>
      have hfirst := hround 0 hcomplete
      have hfewer := hfirst.length_openQuestions_lt hq hname
      rw [hlength] at hfewer
      have hrule : name ∈ (rounds 1).rules := by
        rw [hfirst.rules_eq]
        exact hname
      obtain ⟨k, hk, hbefore, hend⟩ := @ih _ hfewer _ (hfirst.answerable hq) hrule
        (fun k => rounds (k + 1)) rfl (fun k => hround (k + 1)) rfl
      refine ⟨k + 1, by omega, fun j hj => ?_, hend⟩
      cases j with
      | zero => exact hcomplete
      | succ j => exact hbefore j (Nat.lt_of_succ_lt_succ hj)

/-- As long as a rule is not complete, names that it waits for can be answered, and if rounds are
played so long, the rule comes to something after no more rounds than there are open questions at
the start, whichever names are answered in each of them, and however. -/
theorem rounds_complete {q : Questionnaire} {name : String} (hq : q.Answerable)
    (hname : name ∈ q.rules) :
    (∀ q', (q'.evaluateRule name).result.isComplete = false → ∃ q'', Round name q' q'') ∧
    ∀ rounds : Nat → Questionnaire, rounds 0 = q →
      (∀ k, ((rounds k).evaluateRule name).result.isComplete = false →
        Round name (rounds k) (rounds (k + 1))) →
      ∃ k ≤ q.openQuestions.length,
        (∀ j < k, ((rounds j).evaluateRule name).result.isComplete = false) ∧
          ((rounds k).evaluateRule name).result.isComplete = true ∧
          ((rounds k).evaluateRule name).result.outcome ≠ .indeterminate := by
  refine ⟨fun _ h => exists_round h, fun rounds hstart hround => ?_⟩
  exact exists_complete_of_rounds hq hname hstart hround

/-- Two rounds for a product whose factors are asked for one after the other, the second one
first. -/
theorem rounds_complete_product :
    let product : Expr := .binary .mul (.reference "hours") (.reference "rate")
    let q : Questionnaire := {
      rules := Rules.ofList
        [("hours", .question), ("rate", .question), ("pay", Rule.question.withFormula product)] }
    let rated := q.withAnswer "rate" (.text " 12.5 ")
    let rounds : Nat → Questionnaire
      | 0 => q
      | 1 => rated
      | _ => rated.withAnswer "hours" (.number .one)
    q.Answerable ∧ "pay" ∈ q.rules ∧ q.openQuestions = ["hours", "rate"] ∧
      (∀ k, ((rounds k).evaluateRule "pay").result.isComplete = false →
        Round "pay" (rounds k) (rounds (k + 1))) ∧
      ∃ k ≤ q.openQuestions.length,
        (∀ j < k, ((rounds j).evaluateRule "pay").result.isComplete = false) ∧
          ((rounds k).evaluateRule "pay").result.isComplete = true ∧
          ((rounds k).evaluateRule "pay").result.outcome ≠ .indeterminate := by
  intro product q rated rounds
  have hformula {name rule formula} (hrule : q.rules[name]? = some rule)
      (hformula : rule.formula = some formula) : name = "pay" ∧ formula = product := by
    have hmem := Rules.mem_of_get?_ofList hrule
    simp only [List.mem_cons, Prod.mk.injEq, List.not_mem_nil, or_false] at hmem
    rcases hmem with ⟨-, rfl⟩ | ⟨-, rfl⟩ | ⟨rfl, rfl⟩ <;> cases hformula
    exact ⟨rfl, rfl⟩
  have hcomputed {name rule formula} (hs : q.standing name = .computed rule formula) :
      name = "pay" ∧ formula = product := by
    obtain ⟨hrule, -, hrest⟩ := standing_eq_computed_iff.1 hs
    exact hformula hrule hrest
  let r : q.Ranking := {
    rank _ := 1
    rank_pos _ := Nat.le_refl 1
    rank_lt := by
      intro name rule formula hs other hother rule' formula' hs'
      obtain ⟨rfl, rfl⟩ := hcomputed hs
      obtain ⟨rfl, -⟩ := hcomputed hs'
      simp [product, Expr.binary, Expr.names] at hother }
  have hq : q.Answerable := {
    refers := by
      intro name rule formula hrule hrest
      obtain ⟨-, rfl⟩ := hformula hrule hrest
      decide
    settled := by
      intro name rule formula hrule hrest
      obtain ⟨-, rfl⟩ := hformula hrule hrest
      exact nofun
    readable := by
      intro name answer h
      simp [q] at h
    ranked := ⟨r, fun _ => (by decide : 1 ≤ 256)⟩ }
  have hname : "pay" ∈ q.rules := by decide
  have hround : ∀ k, ((rounds k).evaluateRule "pay").result.isComplete = false →
      Round "pay" (rounds k) (rounds (k + 1)) := by
    intro k hk
    rcases k with _ | _ | k
    · exact ⟨[("rate", .text " 12.5 ")], List.cons_ne_nil _ _, by decide +kernel, rfl⟩
    · exact ⟨[("hours", .number .one)], List.cons_ne_nil _ _, by decide +kernel, rfl⟩
    · have hcomplete : ((rounds 2).evaluateRule "pay").result.isComplete = true := by
        decide +kernel
      cases hcomplete.symm.trans hk
  exact ⟨hq, hname, by decide, hround, (rounds_complete hq hname).2 rounds rfl hround⟩

end Questionnaire

end Rulebook
