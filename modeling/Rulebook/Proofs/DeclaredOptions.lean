import Mathlib.Control.Monad.Basic
import Rulebook.Answer.Options

/-!
# Options as answers

An option is written like an answer, and can be given as one. It is accepted as
it is declared if it is a text between quotes, since both are then read without
the blanks and the quotes around them. Anything else is looked for among the
options without the blanks around the answer, but with those around the options.
So a truth value, a number or a name that is declared with blanks around it is
only accepted if it is declared without them too, or is the name of a rule.

* `parse_cases`: what is read is a quoted text, another value or a name.
* `optionText_of_quoted`: a quoted option stands for the text that it is read as.
* `isOption_declared_iff`: when an option is found among the options.
* `accepts_declared_iff`: when it is accepted as an answer, with its blanks or without.
* `not_accepts_declared_blank`: an option that cannot be chosen.
-/

namespace Rulebook

/-- Whether a reading is a text, which stands between quotes. -/
def Reading.isText : Reading → Bool
  | .constant (.text _) => true
  | _ => false

namespace Answer

variable {option t name : String}

/-! ## Reading an option -/

theorem trimmed_trimmed (s : String) : Text.trimmed (Text.trimmed s) = Text.trimmed s := by
  rw [Text.trimmed, Text.trimmed, String.toList_ofList, Text.trim_trim]

theorem parse_trimmed (s : String) : parse (Text.trimmed s) = parse s := by
  refine parse_congr ?_
  rw [Text.trimmed, String.toList_ofList, Text.trim_trim]

/-- Characters without quotes around them are read as a name, or as a value that is no text. -/
theorem readBare_cases (cs : List Char) :
    readBare cs = .reference (String.ofList cs) ∨
      ∃ v, readBare cs = .constant v ∧ v.type ≠ .text := by
  unfold readBare
  split
  · exact .inr ⟨_, rfl, nofun⟩
  · exact .inr ⟨_, rfl, nofun⟩
  · exact .inr ⟨_, rfl, nofun⟩
  · exact .inr ⟨_, rfl, nofun⟩
  · split
    · exact .inr ⟨_, rfl, nofun⟩
    · exact .inl rfl

/-- What is read is a text between quotes, a value that is no text, or the name that is left without
the blanks. -/
theorem parse_cases {reading : Reading} (h : parse option = .ok reading) :
    (∃ quote t, isQuote quote = true ∧
        Text.trim option.toList = quote :: (String.toList t ++ [quote]) ∧
        reading = .constant (.text t)) ∨
      (∃ v, reading = .constant v ∧ v.type ≠ .text) ∨
      reading = .reference (Text.trimmed option) := by
  rw [parse] at h
  rw [Text.trimmed]
  generalize Text.trim option.toList = cs at h ⊢
  unfold readTrimmed at h
  split at h
  · cases h
  · rename_i c rest
    split at h
    · rename_i hquote
      split at h <;> cases h
      rename_i hlast
      obtain ⟨inner, rfl⟩ := List.getLast?_eq_some_iff.1 hlast
      refine .inl ⟨c, String.ofList inner, hquote, ?_, ?_⟩
      · rw [String.toList_ofList]
      · rw [List.dropLast_concat]
    · cases h
      exact .inr (readBare_cases (c :: rest)).symm

/-! ## The text of an option -/

theorem unquotedBy?_self (quote : Char) (cs : List Char) :
    unquotedBy? quote (quote :: (cs ++ [quote])) = some cs := by
  rw [unquotedBy?, if_pos ⟨rfl, List.getLast?_concat⟩, List.dropLast_concat]

theorem unquotedBy?_of_ne {quote c : Char} (h : c ≠ quote) (rest : List Char) :
    unquotedBy? quote (c :: rest) = none :=
  if_neg fun hc => h hc.1

/-- A quoted option stands for the text between its quotes. -/
theorem optionText_of_quoted {quote : Char} (hquote : isQuote quote = true)
    (h : Text.trim option.toList = quote :: (t.toList ++ [quote])) : optionText option = t := by
  rw [optionText, h]
  rw [isQuote, Bool.or_eq_true, beq_iff_eq, beq_iff_eq] at hquote
  rcases hquote with rfl | rfl
  · rw [unquotedBy?_self, Option.some_or, Option.getD_some, String.ofList_toList]
  · rw [unquotedBy?_of_ne (by decide), Option.none_or, unquotedBy?_self, Option.getD_some,
      String.ofList_toList]

end Answer

namespace Rules

variable {rules : Rules} {name option : String} {rule : Rule} {options : List String}
  {reading : Reading}

/-! ## Accepting an option -/

/-- Whether an option that is read so is found as an answer: it is quoted, or also declared without
the blanks around it, or the name of a rule under the question. -/
def IsFound (rules : Rules) (name : String) (options : List String) (option : String)
    (reading : Reading) : Prop :=
  reading.isText = true ∨ Text.trimmed option ∈ options ∨
    reading = .reference (Text.trimmed option) ∧
      rules.contains (name ++ " . " ++ Text.trimmed option) = true

theorem isOption_declared_iff (hmem : option ∈ options) (hread : Answer.parse option = .ok reading) :
    isOption rules name options option reading = true ↔
      IsFound rules name options option reading := by
  rcases Answer.parse_cases hread with ⟨quote, t, hquote, hquoted, rfl⟩ | ⟨v, rfl, hv⟩ | rfl
  · refine iff_of_true (List.any_eq_true.2 ⟨option, hmem, ?_⟩) (.inl rfl)
    exact beq_iff_eq.2 (Answer.optionText_of_quoted hquote hquoted)
  · cases v with
    | text t => exact absurd rfl hv
    | number n => simp [isOption, IsFound, Reading.isText]
    | boolean b => simp [isOption, IsFound, Reading.isText]
    | date d => simp [isOption, IsFound, Reading.isText]
  · simp [isOption, IsFound, Reading.isText]

/-- Blanks around an answer do not count. -/
theorem acceptsText_trimmed (rules : Rules) (name text : String) :
    acceptsText rules name (Text.trimmed text) = acceptsText rules name text := by
  have hoption (options : List String) (reading : Reading) :
      isOption rules name options (Text.trimmed text) reading =
        isOption rules name options text reading := by
    cases reading with
    | reference option => rfl
    | constant v => cases v <;> simp only [isOption, Answer.trimmed_trimmed]
  simp only [acceptsText, Answer.parse_trimmed, hoption]

/-- An answer that can be read is accepted just if it is one of the options, where there are any. -/
theorem acceptsText_of_options (hrule : rules[name]? = some rule)
    (hoptions : rule.options = some options) (hne : options ≠ [])
    (hread : Answer.parse option = .ok reading) :
    acceptsText rules name option = .ok (isOption rules name options option reading) := by
  rw [acceptsText, hread, hrule, Option.bind_some, hoptions]
  cases options with
  | nil => exact absurd rfl hne
  | cons first rest => rfl

/-- A declared option that can be read is accepted, with the blanks around it or without them, just
if it is a text between quotes, or is also declared without the blanks, or is the name of a rule
under the question. Otherwise it is refused, without an error. -/
theorem accepts_declared_iff (hrule : rules[name]? = some rule)
    (hoptions : rule.options = some options) (hmem : option ∈ options)
    (hread : Answer.parse option = .ok reading) :
    ∃ accepted, accepts rules name (.text option) = .ok accepted ∧
      accepts rules name (.text (Text.trimmed option)) = .ok accepted ∧
      (accepted = true ↔ IsFound rules name options option reading) := by
  have haccepts : accepts rules name (.text option) =
      .ok (isOption rules name options option reading) :=
    acceptsText_of_options hrule hoptions (List.ne_nil_of_mem hmem) hread
  refine ⟨_, haccepts, ?_, isOption_declared_iff hmem hread⟩
  rw [accepts, acceptsText_trimmed]
  exact haccepts

/-- A trainee can be chosen though the option has a blank before it, since there is a rule for it. -/
theorem accepts_declared_iff_trainee :
    let kind : Rule := Rule.question.withOptions ["'employee'", " trainee"]
    let rules := Rules.ofList [("kind . trainee", .question), ("kind", kind)]
    rules["kind"]? = some kind ∧ Answer.parse " trainee" = .ok (.reference "trainee") ∧
      accepts rules "kind" (.text " trainee") = .ok true ∧
      accepts rules "kind" (.text (Text.trimmed " trainee")) = .ok true := by
  intro kind rules
  have hrule : rules["kind"]? = some kind := Rules.get?_add_self _ _ _
  have hread : Answer.parse " trainee" = .ok (.reference "trainee") := by decide +kernel
  have hfound : IsFound rules "kind" ["'employee'", " trainee"] " trainee" (.reference "trainee") :=
    .inr (.inr ⟨by decide +kernel, by decide +kernel⟩)
  obtain ⟨accepted, haccepts, haccepts', hiff⟩ := accepts_declared_iff hrule rfl (by decide) hread
  rw [hiff.2 hfound] at haccepts haccepts'
  exact ⟨hrule, hread, haccepts, haccepts'⟩

/-- An option with a blank before it cannot be chosen: the blank is dropped from the answer, but not
from the option. -/
theorem not_accepts_declared_blank :
    let remote : Rule := Rule.question.withOptions [" yes", "no"]
    let rules := Rules.ofList [("remote", remote)]
    rules["remote"]? = some remote ∧ remote.options = some [" yes", "no"] ∧
      Answer.parse " yes" = .ok (.constant (.boolean true)) ∧
      accepts rules "remote" (.text " yes") = .ok false ∧
      accepts rules "remote" (.text (Text.trimmed " yes")) = .ok false := by
  intro remote rules
  exact ⟨Rules.get?_add_self _ _ _, rfl, by decide +kernel, by decide +kernel, by decide +kernel⟩

end Rules

end Rulebook
