import Rulebook.Date.Notation
import Rulebook.Decimal.Notation

/-!
# Values

A rule is worth a number, a text, a truth value or a date. Values of one type
are ordered: numbers by size, texts by the code points of their characters,
false before true, and dates by the calendar. Values of different types are not.

* `isSome_compare?_iff`: just the values of one type are ordered.
* `compare?_eq_some_eq_iff`: only a value itself comes neither before nor after.
-/

namespace Rulebook

inductive ValueType
  | number
  | text
  | boolean
  | date
deriving DecidableEq

/-- The name of a type in messages. -/
def ValueType.name : ValueType → String
  | .number => "number"
  | .text => "text"
  | .boolean => "boolean"
  | .date => "date"

inductive Value
  | number (n : Decimal)
  | text (t : String)
  | boolean (b : Bool)
  | date (d : Date)
deriving DecidableEq

namespace Value

def type : Value → ValueType
  | number _ => .number
  | text _ => .text
  | boolean _ => .boolean
  | date _ => .date

def number? : Value → Option Decimal
  | number n => some n
  | _ => none

def text? : Value → Option String
  | text t => some t
  | _ => none

def boolean? : Value → Option Bool
  | boolean b => some b
  | _ => none

/-- The text of a value: texts stand between single quotes, as they are. -/
def shown : Value → String
  | number n => n.text
  | text t => "'" ++ t ++ "'"
  | boolean true => "true"
  | boolean false => "false"
  | date d => d.text

/-- The order of two values of one type. -/
def compare? : Value → Value → Option Ordering
  | number a, number b => some (compareOfLessAndEq a.value b.value)
  | text a, text b => some (compareOfLessAndEq a b)
  | boolean a, boolean b => some (compareOfLessAndEq a b)
  | date a, date b => some (a.compare b)
  | _, _ => none

/-- Just the values of one type are ordered. -/
theorem isSome_compare?_iff (a b : Value) : (a.compare? b).isSome ↔ a.type = b.type := by
  cases a <;> cases b <;> constructor <;> intro h <;> first | rfl | cases h

/-- Only a value itself comes neither before nor after. -/
theorem compare?_eq_some_eq_iff (a b : Value) : a.compare? b = some .eq ↔ a = b := by
  cases a <;> cases b
  case number.number a b =>
    rw [compare?, Option.some_inj, compareOfLessAndEq_eq_eq (fun _ => Rat.le_refl) Rat.not_le,
      number.injEq]
    exact ⟨Decimal.eq_of_value_eq, congrArg _⟩
  case text.text a b =>
    rw [compare?, Option.some_inj, compareOfLessAndEq_eq_eq String.le_refl String.not_le,
      text.injEq]
  case boolean.boolean a b => cases a <;> cases b <;> decide
  case date.date a b => rw [compare?, Option.some_inj, Date.compare_eq_eq, date.injEq]
  all_goals simp only [compare?, reduceCtorEq]

end Value

end Rulebook
