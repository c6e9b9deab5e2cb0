import Rulebook.Proofs.WrittenDates

/-!
# The order of texts

Two texts are compared by the calendar if both are dates, and by their characters
otherwise. Each of the two orders is transitive, but both together are not: the
earlier of two dates may have the greater text, and then a text between theirs
that is no date comes after the later date and before the earlier one. Three
texts go round in such a circle, or they are in order.

* `precedes_or_precedes_of_ne`, `Precedes.asymm`: two texts have one order.
* `goRound_iff`: what texts go round.
* `Precedes.trans_iff`: all others are in order.
* `outcome_lt_trans`: what that means for the comparisons of three operands.
* `not_outcome_lt_trans`: a circle.
-/

namespace Rulebook

namespace Value

variable {a b : String}

/-- Two texts that are read as dates are compared by the calendar. -/
theorem order?_texts_of_parse {d e : Date} (ha : Date.parse a = .ok d) (hb : Date.parse b = .ok e) :
    (text a).order? (text b) = some (d.compare e) := by
  have hdate {t : String} {f : Date} (h : Date.parse t = .ok f) :
      (Outcome.value (text t)).dateText? = some t :=
    Option.filter_eq_some_iff.2 ⟨rfl, Date.isLiteral_of_parse h⟩
  rw [order?, asCompared, hdate ha, hdate hb]
  simp only [Date.parseBoth, ha, hb]
  rfl

/-- Two texts of which one is not read as a date are compared by their characters. -/
theorem order?_texts_of_unread
    (h : (∀ d, Date.parse a ≠ .ok d) ∨ ∀ e, Date.parse b ≠ .ok e) :
    (text a).order? (text b) = some (compareOfLessAndEq a b) := by
  rw [order?]
  rcases asCompared_texts a b with hcompared | ⟨d, e, ha, hb, -⟩
  · rw [hcompared]
    rfl
  · rcases h with h | h
    · exact absurd ha (h d)
    · exact absurd hb (h e)

end Value

namespace Text

variable {a b c : String} {d e : Date}

/-! ## Two texts -/

/-- Whether the text `a` comes before the text `b` as they are compared. -/
def Precedes (a b : String) : Prop :=
  (Value.text a).order? (.text b) = some .lt

instance (a b : String) : Decidable (Precedes a b) :=
  inferInstanceAs (Decidable (_ = _))

/-- Whether a text is read as no date: it has not the shape of one, or is not on the calendar. -/
def NoDate (t : String) : Prop :=
  ∀ d, Date.parse t ≠ .ok d

theorem exists_parse_or_noDate (t : String) : (∃ d, Date.parse t = .ok d) ∨ NoDate t := by
  rw [NoDate, ← not_exists]
  exact Classical.em _

theorem exists_parse_both_or_noDate (a b : String) :
    (∃ d e, Date.parse a = .ok d ∧ Date.parse b = .ok e) ∨ (NoDate a ∨ NoDate b) := by
  rcases exists_parse_or_noDate a with ⟨d, ha⟩ | ha
  · rcases exists_parse_or_noDate b with ⟨e, hb⟩ | hb
    · exact .inl ⟨d, e, ha, hb⟩
    · exact .inr (.inr hb)
  · exact .inr (.inl ha)

theorem precedes_iff_of_parse (ha : Date.parse a = .ok d) (hb : Date.parse b = .ok e) :
    Precedes a b ↔ d.compare e = .lt := by
  rw [Precedes, Value.order?_texts_of_parse ha hb, Option.some_inj]

theorem precedes_iff_of_noDate (h : NoDate a ∨ NoDate b) : Precedes a b ↔ a < b := by
  rw [Precedes, Value.order?_texts_of_unread h, Option.some_inj, compareOfLessAndEq_eq_lt]

/-- Of two texts that are not the same, one comes before the other. -/
theorem precedes_or_precedes_of_ne (h : a ≠ b) : Precedes a b ∨ Precedes b a := by
  rcases exists_parse_both_or_noDate a b with ⟨d, e, ha, hb⟩ | hnone
  · rw [precedes_iff_of_parse ha hb, precedes_iff_of_parse hb ha]
    cases hcompare : d.compare e with
    | lt => exact .inl rfl
    | eq => exact absurd ((Date.eq_iff_of_parse ha hb).1 (Date.compare_eq_eq.1 hcompare)) h
    | gt => exact .inr (Date.compare_eq_gt.1 hcompare)
  · rw [precedes_iff_of_noDate hnone, precedes_iff_of_noDate hnone.symm]
    by_cases hlt : a < b
    · exact .inl hlt
    · exact .inr (String.not_le.1 fun hle => h (String.le_antisymm hle (String.not_lt.1 hlt)))

/-- No text comes before one that comes before it. -/
theorem Precedes.asymm (h : Precedes a b) : ¬ Precedes b a := by
  rcases exists_parse_both_or_noDate a b with ⟨d, e, ha, hb⟩ | hnone
  · rw [precedes_iff_of_parse ha hb] at h
    rw [precedes_iff_of_parse hb ha, ← Date.compare_eq_gt, h]
    nofun
  · rw [precedes_iff_of_noDate hnone] at h
    rw [precedes_iff_of_noDate hnone.symm]
    exact String.lt_asymm h

/-! ## Three texts -/

/-- Two dates of which the later one has the lesser text, and a text between these texts that is no
date. -/
structure Circle (early late other : String) : Prop where
  dates : ∃ d e, Date.parse early = .ok d ∧ Date.parse late = .ok e ∧ d.compare e = .lt
  noDate : NoDate other
  late_lt : late < other
  lt_early : other < early

/-- Whether three texts make a circle, with whichever of them it begins. -/
def GoRound (a b c : String) : Prop :=
  Circle a b c ∨ Circle b c a ∨ Circle c a b

theorem Circle.precedes (h : Circle a b c) : Precedes a b ∧ Precedes b c ∧ Precedes c a := by
  obtain ⟨d, e, ha, hb, hlt⟩ := h.dates
  exact ⟨(precedes_iff_of_parse ha hb).2 hlt, (precedes_iff_of_noDate (.inr h.noDate)).2 h.late_lt,
    (precedes_iff_of_noDate (.inl h.noDate)).2 h.lt_early⟩

theorem circle_of_precedes (ha : Date.parse a = .ok d) (hb : Date.parse b = .ok e) (hc : NoDate c)
    (hab : Precedes a b) (hbc : Precedes b c) (hca : Precedes c a) : Circle a b c where
  dates := ⟨d, e, ha, hb, (precedes_iff_of_parse ha hb).1 hab⟩
  noDate := hc
  late_lt := (precedes_iff_of_noDate (.inr hc)).1 hbc
  lt_early := (precedes_iff_of_noDate (.inl hc)).1 hca

/-- Three dates do not come before each other in turn. -/
theorem not_precedes_of_parse {f : Date} (ha : Date.parse a = .ok d) (hb : Date.parse b = .ok e)
    (hc : Date.parse c = .ok f) (hab : Precedes a b) (hbc : Precedes b c) : ¬ Precedes c a := by
  rw [precedes_iff_of_parse ha hb] at hab
  rw [precedes_iff_of_parse hb hc] at hbc
  rw [precedes_iff_of_parse hc ha, ← Date.compare_eq_gt, Date.compare_lt_trans hab hbc]
  nofun

/-- Nor do three texts of which no two are dates. -/
theorem not_precedes_of_noDate (hab : NoDate a ∨ NoDate b) (hbc : NoDate b ∨ NoDate c)
    (hca : NoDate c ∨ NoDate a) (hlt : Precedes a b) (hlt' : Precedes b c) : ¬ Precedes c a := by
  rw [precedes_iff_of_noDate hab] at hlt
  rw [precedes_iff_of_noDate hbc] at hlt'
  rw [precedes_iff_of_noDate hca]
  exact String.lt_asymm (String.lt_trans hlt hlt')

/-- Three texts come before each other in turn just if they make a circle. -/
theorem goRound_iff : GoRound a b c ↔ Precedes a b ∧ Precedes b c ∧ Precedes c a := by
  constructor
  · rintro (h | h | h)
    · exact h.precedes
    · obtain ⟨hbc, hca, hab⟩ := h.precedes
      exact ⟨hab, hbc, hca⟩
    · obtain ⟨hca, hab, hbc⟩ := h.precedes
      exact ⟨hab, hbc, hca⟩
  · rintro ⟨hab, hbc, hca⟩
    -- The circle begins with the earlier one of just two dates.
    rcases exists_parse_or_noDate a with ⟨d, ha⟩ | ha
    · rcases exists_parse_or_noDate b with ⟨e, hb⟩ | hb
      · rcases exists_parse_or_noDate c with ⟨f, hc⟩ | hc
        · exact absurd hca (not_precedes_of_parse ha hb hc hab hbc)
        · exact .inl (circle_of_precedes ha hb hc hab hbc hca)
      · rcases exists_parse_or_noDate c with ⟨f, hc⟩ | hc
        · exact .inr (.inr (circle_of_precedes hc ha hb hca hab hbc))
        · exact absurd hca (not_precedes_of_noDate (.inr hb) (.inl hb) (.inl hc) hab hbc)
    · rcases exists_parse_both_or_noDate b c with ⟨e, f, hb, hc⟩ | hbc'
      · exact .inr (.inl (circle_of_precedes hb hc ha hbc hca hab))
      · exact absurd hca (not_precedes_of_noDate (.inl ha) hbc' (.inr ha) hab hbc)

/-- Texts that do not make a circle are in order. -/
theorem Precedes.trans_iff (hab : Precedes a b) (hbc : Precedes b c) :
    Precedes a c ↔ ¬ GoRound a b c := by
  rw [goRound_iff]
  constructor
  · rintro hac ⟨-, -, hca⟩
    exact hac.asymm hca
  · intro hnot
    have hne : a ≠ c := by
      rintro rfl
      exact hab.asymm hbc
    exact (precedes_or_precedes_of_ne hne).resolve_right fun hca => hnot ⟨hab, hbc, hca⟩

end Text

/-! ## Comparing operands -/

namespace Expr

variable {resolve : String → Logged Node} {left middle right : Expr} {a b c : String}

/-- A text is less than another one just if it comes before it, in whatever units they are. -/
theorem outcome_lt_texts (hleft : (left.evaluate resolve).result.outcome = .value (.text a))
    (hright : (right.evaluate resolve).result.outcome = .value (.text b)) (symbol : String) :
    ((operation .lt symbol left right).evaluate resolve).result.outcome =
      .boolean (decide (Text.Precedes a b)) := by
  obtain ⟨o, ho⟩ := Option.isSome_iff_exists.1 (((Value.text a).isSome_order?_iff (.text b)).2 rfl)
  have htest : Operator.orderTest? .lt = some Comparison.lt.holds := rfl
  have hholds : Comparison.lt.holds o = decide (Text.Precedes a b) := by
    rw [Bool.eq_iff_iff, decide_eq_true_iff, Text.Precedes, ho, Option.some_inj, Comparison.holds,
      beq_iff_eq]
  rw [← hholds]
  exact (outcome_evaluate_compared hleft hright htest symbol).trans
    (Operator.outcome_calculate_texts htest hleft hright ho)

theorem outcome_lt_texts_eq_true_iff
    (hleft : (left.evaluate resolve).result.outcome = .value (.text a))
    (hright : (right.evaluate resolve).result.outcome = .value (.text b)) {symbol : String} :
    ((operation .lt symbol left right).evaluate resolve).result.outcome = .boolean true ↔
      Text.Precedes a b := by
  rw [outcome_lt_texts hleft hright]
  simp only [Outcome.boolean, Outcome.value.injEq, Value.boolean.injEq, decide_eq_true_eq]

/-- If a text is less than another one and that is less than a third one, then the first is less than
the third, in whatever units they are, unless they make a circle: then it is not. -/
theorem outcome_lt_trans (hleft : (left.evaluate resolve).result.outcome = .value (.text a))
    (hmiddle : (middle.evaluate resolve).result.outcome = .value (.text b))
    (hright : (right.evaluate resolve).result.outcome = .value (.text c)) {symbol symbol' : String}
    (hlt : ((operation .lt symbol left middle).evaluate resolve).result.outcome = .boolean true)
    (hlt' : ((operation .lt symbol' middle right).evaluate resolve).result.outcome = .boolean true)
    (symbol'' : String) :
    let outcome := ((operation .lt symbol'' left right).evaluate resolve).result.outcome
    (¬ Text.GoRound a b c → outcome = .boolean true) ∧
      (Text.GoRound a b c → outcome = .boolean false) := by
  intro outcome
  have htrans := ((outcome_lt_texts_eq_true_iff hleft hmiddle).1 hlt).trans_iff
    ((outcome_lt_texts_eq_true_iff hmiddle hright).1 hlt')
  have houtcome : outcome = .boolean (decide (Text.Precedes a c)) :=
    outcome_lt_texts hleft hright symbol''
  constructor
  · intro hnot
    rw [houtcome, decide_eq_true (htrans.2 hnot)]
  · intro hround
    rw [houtcome, decide_eq_false fun h => htrans.1 h hround]

/-- The last of April comes before the first of May, and that comes before the 31st of April, which
is not on the calendar: these three texts are in order. -/
theorem outcome_lt_trans_april :
    let resolve (name : String) : Logged Node := pure (.leaf (.unknown name) (.waiting name none))
    let less (a b : String) : Outcome :=
      ((binary .lt (value (.text a)) (value (.text b))).evaluate resolve).result.outcome
    Date.parse "31/04/2021" = .error (.invalid "31/04/2021") ∧
      less "30/04/2021" "01/05/2021" = .boolean true ∧
      less "01/05/2021" "31/04/2021" = .boolean true ∧
      ¬ Text.GoRound "30/04/2021" "01/05/2021" "31/04/2021" ∧
      less "30/04/2021" "31/04/2021" = .boolean true := by
  intro resolve less
  have hlt : less "30/04/2021" "01/05/2021" = .boolean true := by decide +kernel
  have hlt' : less "01/05/2021" "31/04/2021" = .boolean true := by decide +kernel
  have hread : Date.readChars? "31/04/2021".toList = none := by decide +kernel
  have hnot : ¬ Text.GoRound "30/04/2021" "01/05/2021" "31/04/2021" := by
    rw [Text.goRound_iff]
    decide +kernel
  refine ⟨by rw [Date.parse, hread], hlt, hlt', hnot, ?_⟩
  exact (outcome_lt_trans rfl rfl rfl hlt hlt' Operator.lt.symbol).1 hnot

/-- A day in January comes before one in March, though its text is the greater one. A text between
theirs that is no date comes after the day in March, and before the one in January. -/
theorem not_outcome_lt_trans :
    let resolve (name : String) : Logged Node := pure (.leaf (.unknown name) (.waiting name none))
    let less (a b : String) : Outcome :=
      ((binary .lt (value (.text a)) (value (.text b))).evaluate resolve).result.outcome
    less "15/01/2020" "01/03/2020" = .boolean true ∧
      less "01/03/2020" "1 March" = .boolean true ∧
      less "15/01/2020" "1 March" = .boolean false ∧
      less "1 March" "15/01/2020" = .boolean true := by
  decide +kernel

end Expr

end Rulebook
