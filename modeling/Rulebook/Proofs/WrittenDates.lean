import Mathlib.Algebra.Group.Nat.Defs
import Rulebook.Proofs.Comparisons

/-!
# Dates and their texts

The dates of the years 0 to 9999 and the texts that show them correspond one to
one: a text is read as a date just if it is what shows that date. So two texts
that are compared as dates are the same just if they are the same as texts, and
no text is mistaken for another one by being read as a date.

* `Text.paddedDigits_ofDigitChars`: digits are what shows the number that they write.
* `fields?_eq_some_iff`: a text is cut at its two bars.
* `parse_eq_ok_iff`: a text is read as the date that it shows.
* `Value.order?_texts_eq_iff`: texts are the same however they are compared.
-/

namespace Rulebook

/-! ## Digits -/

namespace Text

/-- A number below the power of ten has just the width. -/
theorem length_paddedDigits_of_lt {width n : Nat} (hwidth : 0 < width) (h : n < 10 ^ width) :
    (paddedDigits width n).length = width := by
  have hshort := (Nat.length_toDigits_le_iff (by decide) hwidth).2 h
  rw [length_paddedDigits]
  omega

theorem toNat_of_isDigit {c : Char} (h : c.isDigit = true) :
    '0'.toNat ≤ c.toNat ∧ c.toNat - '0'.toNat < 10 := by
  simp only [Char.isDigit, Bool.and_eq_true, decide_eq_true_eq] at h
  have hlow : '0'.toNat ≤ c.toNat := h.1
  have hhigh : c.toNat ≤ '9'.toNat := h.2
  have hnine : '9'.toNat = '0'.toNat + 9 := rfl
  omega

theorem ofDigitChars_cons_zero (c : Char) (cs : List Char) :
    Nat.ofDigitChars 10 (c :: cs) 0 =
      10 ^ cs.length * (c.toNat - '0'.toNat) + Nat.ofDigitChars 10 cs 0 := by
  rw [Nat.ofDigitChars_cons, Nat.mul_zero, Nat.zero_add, Nat.ofDigitChars_eq_ofDigitChars_zero]

/-- Digits write a number that needs no more of them. -/
theorem ofDigitChars_lt {cs : List Char} (h : ∀ c ∈ cs, c.isDigit = true) :
    Nat.ofDigitChars 10 cs 0 < 10 ^ cs.length := by
  induction cs with
  | nil => decide
  | cons c cs ih =>
    obtain ⟨hc, hcs⟩ := List.forall_mem_cons.1 h
    have hfirst := Nat.mul_le_mul_left (10 ^ cs.length) (Nat.succ_le_of_lt (toNat_of_isDigit hc).2)
    have hrest := ih hcs
    rw [Nat.mul_succ] at hfirst
    rw [ofDigitChars_cons_zero, List.length_cons, Nat.pow_succ]
    omega

/-- As many digits that write the same number are the same. -/
theorem eq_of_ofDigitChars_eq {cs ds : List Char} (hcs : ∀ c ∈ cs, c.isDigit = true)
    (hds : ∀ d ∈ ds, d.isDigit = true) (hlength : cs.length = ds.length)
    (h : Nat.ofDigitChars 10 cs 0 = Nat.ofDigitChars 10 ds 0) : cs = ds := by
  induction cs generalizing ds with
  | nil => exact (List.length_eq_zero_iff.1 hlength.symm).symm
  | cons c cs ih =>
    cases ds with
    | nil => cases hlength
    | cons d ds =>
      obtain ⟨hc, hcs⟩ := List.forall_mem_cons.1 hcs
      obtain ⟨hd, hds⟩ := List.forall_mem_cons.1 hds
      have hlength : cs.length = ds.length := Nat.succ.inj hlength
      rw [ofDigitChars_cons_zero, ofDigitChars_cons_zero, ← hlength] at h
      -- The first digit is the quotient by a power of ten, and the others are the remainder.
      have hpos : 0 < 10 ^ cs.length := Nat.pow_pos (by decide)
      have hltc := ofDigitChars_lt hcs
      have hltd := hlength ▸ ofDigitChars_lt hds
      have hfirst := congrArg (· / 10 ^ cs.length) h
      have hrest := congrArg (· % 10 ^ cs.length) h
      simp only [Nat.mul_add_div hpos, Nat.div_eq_of_lt hltc, Nat.div_eq_of_lt hltd] at hfirst
      simp only [Nat.mul_add_mod, Nat.mod_eq_of_lt hltc, Nat.mod_eq_of_lt hltd] at hrest
      have hchar : c.toNat = d.toNat := by
        have := toNat_of_isDigit hc
        have := toNat_of_isDigit hd
        omega
      rw [Char.toNat_inj.1 hchar, ih hcs hds hlength hrest]

/-- Writing the number back gives the digits. -/
theorem paddedDigits_ofDigitChars {cs : List Char} {width : Nat} (hwidth : 0 < width)
    (hlength : cs.length = width) (h : ∀ c ∈ cs, c.isDigit = true) :
    paddedDigits width (Nat.ofDigitChars 10 cs 0) = cs := by
  have hlt := hlength ▸ ofDigitChars_lt h
  exact eq_of_ofDigitChars_eq (fun c hc => isDigit_of_mem_paddedDigits hc) h
    ((length_paddedDigits_of_lt hwidth hlt).trans hlength.symm) (ofDigitChars_paddedDigits _ _)

end Text

/-! ## Reading what is shown -/

namespace Date

variable {d : Date} {cs : List Char}

/-- The characters of a date stand before, between and after the two bars. -/
theorem fields?_eq_some_iff {day month year : List Char} :
    fields? cs = some (day, month, year) ↔
      day.length = 2 ∧ month.length = 2 ∧ year.length = 4 ∧
        cs = day ++ '/' :: month ++ '/' :: year := by
  constructor
  · intro h
    unfold fields? at h
    split at h <;> cases h
    exact ⟨rfl, rfl, rfl, rfl⟩
  · rintro ⟨hday, hmonth, hyear, rfl⟩
    match day, month, year with
    | [_, _], [_, _], [_, _, _, _] => rfl

/-- The digits between the bars write the day, the month and the year. -/
theorem readChars?_eq_some_iff :
    readChars? cs = some d ↔
      ∃ day month year : List Char, fields? cs = some (day, month, year) ∧
        (∀ c ∈ day ++ month ++ year, c.isDigit = true) ∧
        d.year = Nat.ofDigitChars 10 year 0 ∧ d.month = Nat.ofDigitChars 10 month 0 ∧
          d.day = Nat.ofDigitChars 10 day 0 := by
  simp only [readChars?, Option.bind_eq_bind, Option.bind_eq_some_iff, Prod.exists,
    Option.ite_none_right_eq_some, List.all_eq_true, ofNumbers?_eq_some_iff]

/-- A year of four digits is shown without a sign. -/
theorem toList_text (hlow : 0 ≤ d.year) (hhigh : d.year ≤ 9999) :
    d.text.toList =
      Text.paddedDigits 2 d.day ++ '/' :: Text.paddedDigits 2 d.month ++
        '/' :: Text.paddedDigits 4 d.year.natAbs := by
  rw [text, String.toList_ofList, showYear, if_neg (Int.not_lt.2 hlow), if_neg (Int.not_lt.2 hhigh)]

/-- What is read as a date shows that date. -/
theorem eq_text_of_readChars? (h : readChars? cs = some d) :
    0 ≤ d.year ∧ d.year ≤ 9999 ∧ cs = d.text.toList := by
  obtain ⟨day, month, year, hfields, hdigits, hyear, hmonth, hday⟩ := readChars?_eq_some_iff.1 h
  obtain ⟨hlengthDay, hlengthMonth, hlengthYear, rfl⟩ := fields?_eq_some_iff.1 hfields
  obtain ⟨hdigits, hdigitsYear⟩ := List.forall_mem_append.1 hdigits
  obtain ⟨hdigitsDay, hdigitsMonth⟩ := List.forall_mem_append.1 hdigits
  have hlt := Text.ofDigitChars_lt hdigitsYear
  rw [hlengthYear] at hlt
  have hlow : 0 ≤ d.year := by omega
  have hhigh : d.year ≤ 9999 := by omega
  refine ⟨hlow, hhigh, ?_⟩
  rw [toList_text hlow hhigh, hday, hmonth, hyear, Int.natAbs_natCast,
    Text.paddedDigits_ofDigitChars (by decide) hlengthDay hdigitsDay,
    Text.paddedDigits_ofDigitChars (by decide) hlengthMonth hdigitsMonth,
    Text.paddedDigits_ofDigitChars (by decide) hlengthYear hdigitsYear]

/-- What shows a date is read as that date. -/
theorem readChars?_toList_text (hlow : 0 ≤ d.year) (hhigh : d.year ≤ 9999) :
    readChars? d.text.toList = some d := by
  obtain ⟨-, hmonth, -, hday⟩ := d.valid
  have hmax := (daysInMonth_bounds d.year d.month).2
  have hlengthDay : (Text.paddedDigits 2 d.day).length = 2 :=
    Text.length_paddedDigits_of_lt (by decide) (by omega)
  have hlengthMonth : (Text.paddedDigits 2 d.month).length = 2 :=
    Text.length_paddedDigits_of_lt (by decide) (by omega)
  have hlengthYear : (Text.paddedDigits 4 d.year.natAbs).length = 4 :=
    Text.length_paddedDigits_of_lt (by decide) (by omega)
  have hdigits (width n : Nat) : ∀ c ∈ Text.paddedDigits width n, c.isDigit = true :=
    fun _ => Text.isDigit_of_mem_paddedDigits
  have hfields := fields?_eq_some_iff.2
    ⟨hlengthDay, hlengthMonth, hlengthYear, toList_text hlow hhigh⟩
  refine readChars?_eq_some_iff.2 ⟨_, _, _, hfields, ?_, ?_, ?_, ?_⟩
  · exact List.forall_mem_append.2
      ⟨List.forall_mem_append.2 ⟨hdigits _ _, hdigits _ _⟩, hdigits _ _⟩
  · rw [Text.ofDigitChars_paddedDigits]
    omega
  · exact (Text.ofDigitChars_paddedDigits ..).symm
  · exact (Text.ofDigitChars_paddedDigits ..).symm

/-- A text is read as a date just if it shows that date, with a year of four digits. -/
theorem parse_eq_ok_iff {text : String} :
    parse text = .ok d ↔ 0 ≤ d.year ∧ d.year ≤ 9999 ∧ text = d.text := by
  have hread : parse text = .ok d ↔ readChars? text.toList = some d := by
    rw [parse]
    cases readChars? text.toList <;> simp
  rw [hread]
  constructor
  · intro h
    obtain ⟨hlow, hhigh, htext⟩ := eq_text_of_readChars? h
    exact ⟨hlow, hhigh, String.toList_inj.1 htext⟩
  · rintro ⟨hlow, hhigh, rfl⟩
    exact readChars?_toList_text hlow hhigh

/-- Any other text is refused. -/
theorem parse_eq_error {text : String} (h : ∀ d, parse text ≠ .ok d) :
    parse text = .error (.invalid text) := by
  cases hread : readChars? text.toList with
  | some d =>
    refine absurd ?_ (h d)
    rw [parse, hread]
  | none => rw [parse, hread]

/-- Texts that are read as one date are one text. -/
theorem eq_iff_of_parse {a b : String} {d e : Date} (ha : parse a = .ok d) (hb : parse b = .ok e) :
    d = e ↔ a = b := by
  constructor
  · rintro rfl
    rw [(parse_eq_ok_iff.1 ha).2.2, (parse_eq_ok_iff.1 hb).2.2]
  · rintro rfl
    exact Except.ok.inj (ha.symm.trans hb)

end Date

/-! ## Comparing texts -/

namespace Value

/-- Two texts are compared as the dates that they are read as, or as they are. -/
theorem asCompared_texts (a b : String) :
    (text a).asCompared (text b) = (text a, text b) ∨
      ∃ d e, Date.parse a = .ok d ∧ Date.parse b = .ok e ∧
        (text a).asCompared (text b) = (date d, date e) := by
  unfold asCompared
  split
  · rename_i hdateA hdateB
    cases (Option.filter_eq_some_iff.1 hdateA).1
    cases (Option.filter_eq_some_iff.1 hdateB).1
    cases ha : Date.parse a with
    | error e => simp only [Date.parseBoth, ha, true_or]
    | ok d =>
      cases hb : Date.parse b with
      | error e => simp only [Date.parseBoth, ha, hb, true_or]
      | ok e => exact .inr ⟨d, e, rfl, rfl, by simp only [Date.parseBoth, ha, hb]⟩
  · exact .inl rfl

/-- Either way, only a text itself comes neither before nor after. -/
theorem order?_texts_eq_iff (a b : String) : (text a).order? (text b) = some .eq ↔ a = b := by
  rw [order?, compare?_eq_some_eq_iff]
  rcases asCompared_texts a b with h | ⟨d, e, ha, hb, h⟩
  · rw [h, text.injEq]
  · rw [h, date.injEq, Date.eq_iff_of_parse ha hb]

end Value

/-- An operator that compares two texts asks for their order, in whatever units they are. -/
theorem Operator.outcome_calculate_texts {op : Operator} {test : Ordering → Bool}
    (h : op.orderTest? = some test) {left right : Quantity} {a b : String}
    (hleft : left.outcome = .value (.text a)) (hright : right.outcome = .value (.text b))
    {o : Ordering} (ho : (Value.text a).order? (.text b) = some o) :
    (op.calculate left right).result.outcome = .boolean (test o) := by
  have hno {o : Outcome} {t : String} (ho : o = .value (.text t)) : o.number? = none := by
    rw [ho]
    rfl
  rw [outcome_calculate_of_number?_eq_none (isArithmetic_of_orderTest? h) (hno hleft) (hno hright),
    hleft, hright, result_combineKnown_of_order? h ho]

namespace Date

/-- A text is read as a date just if the date is of the years 0 to 9999 and shown by that text, and
any other text is refused. So two texts, whether or not they are dates and whatever units they have,
are equal operands just if they are the same text. -/
theorem parse_shown_and_equality :
    (∀ (t : String) (d : Date),
        parse t = .ok d ↔ 0 ≤ d.year ∧ d.year ≤ 9999 ∧ t = (Value.date d).shown) ∧
      (∀ t : String, (∀ d : Date, 0 ≤ d.year → d.year ≤ 9999 → t ≠ (Value.date d).shown) →
        parse t = .error (.invalid t)) ∧
      ∀ (resolve : String → Logged Node) (left right : Expr) (a b symbol : String),
        (left.evaluate resolve).result.outcome = .value (.text a) →
        (right.evaluate resolve).result.outcome = .value (.text b) →
        ((Expr.operation .eq symbol left right).evaluate resolve).result.outcome =
            .boolean (a == b) ∧
          ((Expr.operation .neq symbol left right).evaluate resolve).result.outcome =
            .boolean (a != b) := by
  refine ⟨fun t d => parse_eq_ok_iff, fun t ht => parse_eq_error fun d hd => ?_, ?_⟩
  · obtain ⟨hlow, hhigh, htext⟩ := parse_eq_ok_iff.1 hd
    exact ht d hlow hhigh htext
  · intro resolve left right a b symbol hleft hright
    obtain ⟨o, ho⟩ :=
      Option.isSome_iff_exists.1 (((Value.text a).isSome_order?_iff (.text b)).2 rfl)
    have hsame : (o == .eq) = (a == b) := by
      rw [Bool.eq_iff_iff, beq_iff_eq, beq_iff_eq, ← Value.order?_texts_eq_iff, ho, Option.some_inj]
    have houtcome (op : Operator) (test : Ordering → Bool) (h : op.orderTest? = some test) :
        ((Expr.operation op symbol left right).evaluate resolve).result.outcome =
          .boolean (test o) :=
      (Expr.outcome_evaluate_compared hleft hright h symbol).trans
        (Operator.outcome_calculate_texts h hleft hright ho)
    constructor
    · rw [houtcome .eq _ rfl, hsame]
    · rw [houtcome .neq _ rfl, bne, hsame, bne]

/-- The 29th of February of 2024 is read from its text, and not from the same digits in full width,
which have the shape of a date. The two texts are different operands. -/
theorem parse_shown_and_equality_full_width :
    let resolve (name : String) : Logged Node := pure (.leaf (.unknown name) (.waiting name none))
    let leapDay : Date := ⟨2024, 2, 29, by decide⟩
    let left : Expr := .constant ⟨.value (.text "29/02/2024"), some (.atom "day")⟩
    let right : Expr := .constant ⟨.value (.text "２９/０２/２０２４"), some (.atom "kg")⟩
    (Value.date leapDay).shown = "29/02/2024" ∧ parse "29/02/2024" = .ok leapDay ∧
      isLiteral "２９/０２/２０２４" = true ∧
      (∀ d : Date, 0 ≤ d.year → d.year ≤ 9999 → "２９/０２/２０２４" ≠ (Value.date d).shown) ∧
      parse "２９/０２/２０２４" = .error (.invalid "２９/０２/２０２４") ∧
      (left.evaluate resolve).result.outcome = .value (.text "29/02/2024") ∧
      (right.evaluate resolve).result.outcome = .value (.text "２９/０２/２０２４") ∧
      ((Expr.operation .eq "=" left right).evaluate resolve).result.outcome = .boolean false ∧
      ((Expr.operation .neq "≠" left right).evaluate resolve).result.outcome = .boolean true := by
  intro resolve leapDay left right
  have hshown : (Value.date leapDay).shown = "29/02/2024" := by decide +kernel
  have hunread : readChars? "２９/０２/２０２４".toList = none := by decide +kernel
  have hother : ∀ d : Date, 0 ≤ d.year → d.year ≤ 9999 →
      "２９/０２/２０２４" ≠ (Value.date d).shown := by
    intro d hlow hhigh htext
    have hread := readChars?_toList_text hlow hhigh
    rw [show d.text = "２９/０２/２０２４" from htext.symm, hunread] at hread
    cases hread
  have hleft : (left.evaluate resolve).result.outcome = .value (.text "29/02/2024") := rfl
  have hright : (right.evaluate resolve).result.outcome = .value (.text "２９/０２/２０２４") := rfl
  obtain ⟨hread, hrefused, hequality⟩ := parse_shown_and_equality
  have heq := (hequality resolve left right _ _ "=" hleft hright).1
  have hneq := (hequality resolve left right _ _ "≠" hleft hright).2
  have hparsed := (hread _ leapDay).2 ⟨by decide, by decide, hshown.symm⟩
  refine ⟨hshown, hparsed, by decide +kernel, hother, hrefused _ hother, hleft, hright, ?_, ?_⟩
  · rw [heq, show ("29/02/2024" == "２９/０２/２０２４") = false by decide +kernel]
  · rw [hneq, show ("29/02/2024" != "２９/０２/２０２４") = true by decide +kernel]

end Date

end Rulebook
