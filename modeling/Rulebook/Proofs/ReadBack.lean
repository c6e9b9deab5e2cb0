import Rulebook.Proofs.Checked
import Rulebook.Proofs.Numerals

/-!
# Values that are read back

A value that is shown is an answer that says the value, blanks around it or not:
a number is shown as a numeral, a text between quotes that are not looked for
inside it, and a truth value as a keyword. A question that lists no options is
given the value by such an answer. Dates are left out, since no answer says one.

* `parse_between_blanks`: blanks around an answer do not count.
* `parse_shown`: what is shown is read back.
* `evaluateRule_shown`: a question is given the value that an answer shows.
-/

namespace Rulebook

theorem Text.isBlank_of_isDigit {c : Char} (h : c.isDigit = true) : isBlank c = false := by
  have hdigit : 0x30 ≤ c.toNat ∧ c.toNat ≤ 0x39 := by
    simp only [Char.isDigit, Bool.and_eq_true, decide_eq_true_eq] at h
    exact h
  have hruns : ∀ run ∈ blanks.runs, run.2 < 0x30 ∨ 0x39 < run.1 := by decide
  rw [← Bool.not_eq_true, isBlank, CharClass.contains_iff]
  rintro ⟨run, hrun, hle⟩
  have := hruns run hrun
  omega

/-! ## Reading what is shown -/

namespace Answer

/-- Blanks around an answer do not count. -/
theorem parse_between_blanks {before after : String}
    (hbefore : ∀ c ∈ before.toList, Text.isBlank c = true)
    (hafter : ∀ c ∈ after.toList, Text.isBlank c = true) (text : String) :
    parse (before ++ text ++ after) = parse text := by
  refine parse_congr ?_
  rw [String.toList_append, String.toList_append, Text.trim_append_blanks hafter,
    Text.trim_blanks_append hbefore]

/-- A text is read as it is if it neither begins nor ends with a blank. -/
theorem parse_eq_readTrimmed {text : String}
    (hstart : ∀ c ∈ text.toList.head?, Text.isBlank c = false)
    (hend : ∀ c ∈ text.toList.getLast?, Text.isBlank c = false) :
    parse text = readTrimmed text.toList := by
  rw [parse, Text.trim_eq_self hstart hend]

/-- A text between quotes is read back, whatever it holds. -/
theorem parse_quoted (text : String) :
    parse ("'" ++ text ++ "'") = .ok (.constant (.text text)) := by
  have hquote : Text.isBlank '\'' = false := by decide
  have hlist : ("'" ++ text ++ "'").toList = '\'' :: (text.toList ++ ['\'']) := by
    rw [String.toList_append, String.toList_append]
    rfl
  have hlast : ('\'' :: (text.toList ++ ['\''])).getLast? = some '\'' :=
    List.getLast?_concat (l := '\'' :: text.toList)
  rw [parse_eq_readTrimmed, hlist, readTrimmed_quoted rfl, String.ofList_toList]
  · intro c hc
    rw [hlist] at hc
    cases hc
    exact hquote
  · intro c hc
    rw [hlist, hlast] at hc
    cases hc
    exact hquote

/-- Characters that can be read as a number are no keyword. -/
theorem readBare_of_readChars? {cs : List Char} {n : Decimal}
    (h : Decimal.readChars? cs = some n) : readBare cs = .constant (.number n) := by
  have hne {keyword : String} (hkeyword : Decimal.readChars? keyword.toList = none) :
      String.ofList cs ≠ keyword := by
    rintro rfl
    rw [String.toList_ofList, h] at hkeyword
    cases hkeyword
  unfold readBare
  split
  · exact absurd ‹_› (hne (by decide +kernel))
  · exact absurd ‹_› (hne (by decide +kernel))
  · exact absurd ‹_› (hne (by decide +kernel))
  · exact absurd ‹_› (hne (by decide +kernel))
  · rw [h]

/-- A number is read back. -/
theorem parse_number (n : Decimal) : parse n.text = .ok (.constant (.number n)) := by
  have hlist : n.text.toList = n.showChars := String.toList_ofList
  have hchars {c : Char} (hc : c ∈ n.showChars) : Text.isBlank c = false ∧ isQuote c = false := by
    rcases Decimal.mem_showChars hc with h | rfl | rfl
    · refine ⟨Text.isBlank_of_isDigit h, ?_⟩
      rw [isQuote, Bool.or_eq_false_iff, beq_eq_false_iff_ne, beq_eq_false_iff_ne]
      exact ⟨Decimal.ne_of_isDigit h rfl, Decimal.ne_of_isDigit h rfl⟩
    · decide
    · decide
  have hread := n.readChars?_showChars
  rw [parse_eq_readTrimmed, hlist]
  · cases hshow : n.showChars with
    | nil =>
      rw [hshow] at hread
      cases hread
    | cons c cs =>
      rw [hshow] at hread hchars
      have hc := (hchars (List.mem_cons_self ..)).2
      rw [readTrimmed, hc, readBare_of_readChars? hread]
      rfl
  · rw [hlist]
    exact fun c hc => (hchars (List.mem_of_head? hc)).1
  · rw [hlist]
    exact fun c hc => (hchars (List.mem_of_getLast? hc)).1

/-- What is shown is read back, unless it is a date. -/
theorem parse_shown {v : Value} (hv : v.type ≠ .date) : parse v.shown = .ok (.constant v) := by
  cases v with
  | number n => exact parse_number n
  | text t => exact parse_quoted t
  | boolean b => cases b <;> rfl
  | date d => exact absurd rfl hv

end Answer

/-! ## Questions without options -/

/-- A rule that lists no options accepts every text that can be read. -/
theorem Rules.accepts_of_options_eq_nil {rules : Rules} {name text : String} {rule : Rule}
    {reading : Reading} (hrule : rules[name]? = some rule) (hoptions : rule.options.getD [] = [])
    (h : Answer.parse text = .ok reading) : rules.accepts name (.text text) = .ok true := by
  have hlisted : rules[name]?.bind Rule.options = rule.options := by rw [hrule, Option.bind_some]
  rw [accepts, acceptsText, h, hlisted]
  cases hlist : rule.options with
  | none => rfl
  | some options =>
    rw [hlist] at hoptions
    obtain rfl : options = [] := hoptions
    rfl

namespace Questionnaire

variable {q : Questionnaire} {name text : String} {rule : Rule} {v : Value}

/-- An answer to a rule that lists no options is kept if it can be read, checked or not. -/
theorem getElem?_situation_answer_of_parse {answers : Situation} {reading : Reading}
    (hrule : q.rules[name]? = some rule) (hoptions : rule.options.getD [] = [])
    (hanswer : answers[name]? = some (.text text)) (h : Answer.parse text = .ok reading) :
    (q.answer answers).result.situation[name]? = some (.text text) := by
  cases hcheck : q.settings.checkOptions with
  | true =>
    have haccepts := Rules.accepts_of_options_eq_nil hrule hoptions h
    exact (getElem?_situation_answer_iff hcheck answers).2 ⟨hanswer, haccepts⟩
  | false =>
    rw [Questionnaire.answer, hcheck]
    exact hanswer

/-- A value that is no date is read back from the text that shows it, with any blanks around it. A
rule that lists no options is given the value by such an answer. -/
theorem evaluateRule_shown {v : Value} (hv : v.type ≠ .date) {before after : String}
    (hbefore : ∀ c ∈ before.toList, Text.isBlank c = true)
    (hafter : ∀ c ∈ after.toList, Text.isBlank c = true) :
    Answer.parse (before ++ v.shown ++ after) = .ok (.constant v) ∧
      ∀ (q : Questionnaire) (answers : Situation) (name : String) (rule : Rule),
        q.rules[name]? = some rule → rule.options.getD [] = [] →
        answers[name]? = some (.text (before ++ v.shown ++ after)) →
        (q.answer answers).result.IsGiven name ⟨.value v, answerUnit rule v⟩ := by
  have hparse : Answer.parse (before ++ v.shown ++ after) = .ok (.constant v) := by
    rw [Answer.parse_between_blanks hbefore hafter, Answer.parse_shown hv]
  refine ⟨hparse, fun q answers name rule hrule hoptions hanswer => ?_⟩
  have hkept := getElem?_situation_answer_of_parse hrule hoptions hanswer hparse
  rw [← rules_answer q answers] at hrule
  refine isGiven_of_answered hrule hkept ?_
  rw [Answer.value, hparse]

/-- The least decimal with 28 decimals, answered between two kinds of blanks. -/
theorem evaluateRule_shown_least :
    let v : Value := .number (.ofParts (-79228162514264337593543950335) 28)
    let answer := "\u00a0" ++ v.shown ++ " \n"
    let q : Questionnaire := {
      rules := Rules.ofList [("height", Rule.question.withUnit (.atom "m"))] }
    let answers := (∅ : Situation).insert "height" (.text answer)
    v.type ≠ .date ∧ v.shown = "-7.9228162514264337593543950335" ∧
      Answer.parse answer = .ok (.constant v) ∧
      (q.answer answers).result.IsGiven "height" ⟨.value v, some (.atom "m")⟩ := by
  intro v answer q answers
  have hv : v.type ≠ .date := by decide
  have hbefore : ∀ c ∈ "\u00a0".toList, Text.isBlank c = true :=
    List.all_eq_true.1 (by decide +kernel)
  have hafter : ∀ c ∈ " \n".toList, Text.isBlank c = true :=
    List.all_eq_true.1 (by decide +kernel)
  obtain ⟨hparse, hgiven⟩ := evaluateRule_shown hv hbefore hafter
  refine ⟨hv, by decide +kernel, hparse, ?_⟩
  exact hgiven q answers "height" _ (Rules.get?_add_self _ _ _) rfl
    Std.ExtTreeMap.getElem?_insert_self

end Questionnaire

end Rulebook
