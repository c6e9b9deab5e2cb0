/-!
# Calendar dates

The days of the Gregorian calendar, carried on before its introduction and
before the year 1, so that the year 0 is a leap year.

* `Date.compare_eq_eq`: only a date itself is neither earlier nor later.
* `Date.compare_eq_lt`: the year counts before the month, and the month before the day.
* `Date.compare_lt_trans`: what is earlier than an earlier date is earlier.
-/

namespace Rulebook

namespace Date

def isLeapYear (year : Int) : Bool :=
  year % 4 == 0 && (year % 100 != 0 || year % 400 == 0)

/-- The number of days of a month, January being 1. -/
def daysInMonth (year : Int) (month : Nat) : Nat :=
  match month with
  | 2 => if isLeapYear year then 29 else 28
  | 4 | 6 | 9 | 11 => 30
  | _ => 31

/-- Whether the calendar has the day. -/
def Valid (year : Int) (month day : Nat) : Prop :=
  1 ≤ month ∧ month ≤ 12 ∧ 1 ≤ day ∧ day ≤ daysInMonth year month

instance (year : Int) (month day : Nat) : Decidable (Valid year month day) :=
  inferInstanceAs (Decidable (_ ∧ _))

end Date

/-- A day of the calendar. -/
structure Date where
  year : Int
  month : Nat
  day : Nat
  valid : Date.Valid year month day
deriving DecidableEq

namespace Date

/-- The date of these numbers, if the calendar has it. -/
def ofNumbers? (year : Int) (month day : Nat) : Option Date :=
  if h : Valid year month day then some ⟨year, month, day, h⟩ else none

/-- Earlier dates are less. -/
def compare (a b : Date) : Ordering :=
  (compareOfLessAndEq a.year b.year).then
    ((compareOfLessAndEq a.month b.month).then (compareOfLessAndEq a.day b.day))

theorem ofNumbers?_eq_some_iff {year : Int} {month day : Nat} {d : Date} :
    ofNumbers? year month day = some d ↔ d.year = year ∧ d.month = month ∧ d.day = day := by
  unfold ofNumbers?
  constructor
  · intro h
    split at h <;> cases h
    exact ⟨rfl, rfl, rfl⟩
  · rintro ⟨rfl, rfl, rfl⟩
    rw [dif_pos d.valid]

/-- A month has at least 28 days and at most 31. -/
theorem daysInMonth_bounds (year : Int) (month : Nat) :
    28 ≤ daysInMonth year month ∧ daysInMonth year month ≤ 31 := by
  unfold daysInMonth
  split
  · split <;> decide
  all_goals decide

/-- Only a date itself is neither earlier nor later. -/
theorem compare_eq_eq {a b : Date} : a.compare b = .eq ↔ a = b := by
  unfold compare
  rw [Ordering.then_eq_eq, Ordering.then_eq_eq, compareOfLessAndEq_eq_eq Int.le_refl (by omega),
    compareOfLessAndEq_eq_eq Nat.le_refl (by omega),
    compareOfLessAndEq_eq_eq Nat.le_refl (by omega)]
  cases a
  cases b
  simp only [Date.mk.injEq]

/-- Of two dates, the one in the earlier year is earlier, then the one in the earlier month, and then
the one on the earlier day. -/
theorem compare_eq_lt {a b : Date} :
    a.compare b = .lt ↔
      a.year < b.year ∨ a.year = b.year ∧
        (a.month < b.month ∨ a.month = b.month ∧ a.day < b.day) := by
  unfold compare
  rw [Ordering.then_eq_lt, Ordering.then_eq_lt, compareOfLessAndEq_eq_lt, compareOfLessAndEq_eq_lt,
    compareOfLessAndEq_eq_lt, compareOfLessAndEq_eq_eq Int.le_refl (by omega),
    compareOfLessAndEq_eq_eq Nat.le_refl (by omega)]

theorem swap_compare (a b : Date) : (a.compare b).swap = b.compare a := by
  have hnat (m n : Nat) : (compareOfLessAndEq m n).swap = compareOfLessAndEq n m :=
    (compareOfLessAndEq_eq_swap Nat.le_antisymm Nat.le_total Nat.not_le).symm
  have hint (m n : Int) : (compareOfLessAndEq m n).swap = compareOfLessAndEq n m :=
    (compareOfLessAndEq_eq_swap Int.le_antisymm Int.le_total Int.not_le).symm
  rw [compare, Ordering.swap_then, Ordering.swap_then, hint, hnat, hnat, compare]

theorem compare_eq_gt {a b : Date} : a.compare b = .gt ↔ b.compare a = .lt := by
  rw [← swap_compare a b, Ordering.swap_eq_lt]

/-- What is earlier than an earlier date is earlier. -/
theorem compare_lt_trans {a b c : Date} (hab : a.compare b = .lt) (hbc : b.compare c = .lt) :
    a.compare c = .lt := by
  rw [compare_eq_lt] at hab hbc ⊢
  omega

end Date

end Rulebook
