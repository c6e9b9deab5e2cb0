import Rulebook.Date.Basic
import Rulebook.Text.Digit

/-!
# Written dates

A date is written `dd/mm/yyyy`, as in `29/02/2024`. A text may have that shape
in the digits of any script, and a day that the calendar does not have; it is
a date only in ASCII digits, and on a day of the calendar. A year before 0 is
shown with a minus sign, and one after 9999 with a plus sign.

* `isLiteral_of_parse`: every text that is read has the shape.
-/

namespace Rulebook.Date

inductive Error
  | invalid (text : String)
deriving DecidableEq

def Error.message : Error → String
  | .invalid text => "date error: '" ++ text ++ "' is not a dd/mm/yyyy date"

/-! ## Reading -/

/-- The characters for the day, the month and the year of a text shaped as `dd/mm/yyyy`. -/
def fields? : List Char → Option (List Char × List Char × List Char)
  | [d₁, d₂, '/', m₁, m₂, '/', y₁, y₂, y₃, y₄] => some ([d₁, d₂], [m₁, m₂], [y₁, y₂, y₃, y₄])
  | _ => none

/-- Whether a text has the shape of a date. -/
def isLiteral (text : String) : Bool :=
  match fields? text.toList with
  | some (day, month, year) => (day ++ month ++ year).all Text.isDecimalDigit
  | none => false

/-- The date that the characters write. -/
def readChars? (cs : List Char) : Option Date := do
  let (day, month, year) ← fields? cs
  if (day ++ month ++ year).all Char.isDigit then
    ofNumbers? (Nat.ofDigitChars 10 year 0) (Nat.ofDigitChars 10 month 0) (Nat.ofDigitChars 10 day 0)
  else none

/-- Reads a date. -/
def parse (text : String) : Except Error Date :=
  match readChars? text.toList with
  | some d => .ok d
  | none => .error (.invalid text)

/-! ## Showing -/

/-- The characters of a year: four digits at least, with a sign outside 0 to 9999. -/
def showYear (year : Int) : List Char :=
  let digits := Text.paddedDigits 4 year.natAbs
  if year < 0 then '-' :: digits else if 9999 < year then '+' :: digits else digits

/-- The text of a date. -/
def text (d : Date) : String :=
  String.ofList
    (Text.paddedDigits 2 d.day ++ '/' :: Text.paddedDigits 2 d.month ++ '/' :: showYear d.year)

/-! ## The shape -/

/-- Every text that is read has the shape of a date. -/
theorem isLiteral_of_parse {text : String} {d : Date} (h : parse text = .ok d) :
    isLiteral text = true := by
  unfold parse at h
  split at h <;> cases h
  rename_i hread
  unfold readChars? at hread
  cases hf : fields? text.toList with
  | none => simp [hf] at hread
  | some fields =>
    obtain ⟨day, month, year⟩ := fields
    simp only [hf, Option.bind_eq_bind, Option.bind_some] at hread
    split at hread
    · rename_i hdigits
      simp only [isLiteral, hf, List.all_eq_true] at hdigits ⊢
      exact fun c hc => Text.isDecimalDigit_of_isDigit (hdigits c hc)
    · cases hread

end Rulebook.Date
