import Rulebook.Decimal.Basic
import Rulebook.Text.Digit

/-!
# Written numbers

A number is written as digits with at most one point among them, after an
optional sign; digits may be grouped by underscores, and a power of ten may
follow (`1_000.5`, `.5`, `-2.5e-3`). More decimals than fit are rounded, a half
away from zero, but a group that begins after the last decimal there can be is
left out of a number with few digits, without rounding. A number is shown with
as few decimals as it needs and never with a power of ten.

* `keptDecimals_of_notMem`: without underscores, all decimals are kept.
-/

namespace Rulebook.Decimal

/-! ## Reading -/

/-- Whether a number is read with a minus sign, and the characters after the sign. -/
def sign : List Char → Bool × List Char
  | '-' :: cs => (true, cs)
  | '+' :: cs => (false, cs)
  | cs => (false, cs)

/-- Digits that may be grouped by underscores; the first is not an underscore. -/
def isGrouped (cs : List Char) : Bool :=
  (cs.head?.any Char.isDigit) && cs.all fun c => c.isDigit || c == '_'

/-- The digits without the underscores between them. -/
def ungrouped (cs : List Char) : List Char :=
  cs.filter (· != '_')

/-- The first `n` digits of grouped ones, and the characters after the last of these. -/
def firstDigits : Nat → List Char → List Char × List Char
  | 0, cs => ([], cs)
  | _ + 1, [] => ([], [])
  | n + 1, c :: cs =>
    if c = '_' then firstDigits (n + 1) cs
    else (c :: (firstDigits n cs).1, (firstDigits n cs).2)

/-- The digits of a number are few while they write less than this one: a tenth of the greatest
number of 64 bits, less 255. -/
def fewDigitsLimit : Nat := 1844674407370954906

/-- The decimals that a number is read from, where the digits `whole` stand before the point. If the
digits before the last decimal there can be are few, an underscore after that decimal ends the
number; what follows is left out. -/
def keptDecimals (whole grouped : List Char) : List Char :=
  let (first, rest) := firstDigits maxScale grouped
  if rest.head? = some '_' ∧ Nat.ofDigitChars 10 (whole ++ first.dropLast) 0 < fewDigitsLimit then
    first
  else first ++ ungrouped rest

/-- The number written by the digits `whole` and, after the point, `decimals`. -/
def ofDigits (whole decimals : List Char) : Rat :=
  Nat.ofDigitChars 10 (whole ++ decimals) 0 / tenTo decimals.length

/-- The characters before and after the first point; a text without one has nothing after it. -/
def atPoint (cs : List Char) : List Char × List Char :=
  (cs.takeWhile (· != '.'), (cs.dropWhile (· != '.')).drop 1)

/-- Reads digits with at most one point among them, after an optional sign. -/
def readPlain? (cs : List Char) : Option Decimal :=
  let (negative, unsigned) := sign cs
  let (whole, decimals) := atPoint unsigned
  if isGrouped (whole ++ decimals) then
    let magnitude := ofDigits (ungrouped whole) (keptDecimals (ungrouped whole) decimals)
    nearest? .awayFromZero (if negative then -magnitude else magnitude)
  else none

/-- Reads a power of ten: digits after an optional plus sign, and a minus sign before them if it is
negative. Powers beyond the greatest scale are not read. -/
def readPower? (cs : List Char) : Option (Bool × Nat) :=
  let (negative, unsigned) := match cs with
    | '-' :: rest => (true, rest)
    | _ => (false, cs)
  let power := match unsigned with
    | '+' :: rest => rest
    | _ => unsigned
  if !power.isEmpty && power.all Char.isDigit && Nat.ofDigitChars 10 power 0 ≤ maxScale then
    some (negative, Nat.ofDigitChars 10 power 0)
  else none

/-- Whether `c` comes before the power of ten. -/
def isBeforePower (c : Char) : Bool :=
  c != 'e' && c != 'E'

/-- Reads a number with an optional power of ten after it. -/
def readChars? (cs : List Char) : Option Decimal := do
  let base ← readPlain? (cs.takeWhile isBeforePower)
  match cs.dropWhile isBeforePower with
  | [] => some base
  | _ :: power =>
    let (negative, power) ← readPower? power
    nearest? .awayFromZero
      (if negative then base.value / tenTo power else base.value * tenTo power)

/-- Reads a number. -/
def read? (text : String) : Option Decimal :=
  readChars? text.toList

theorem ungrouped_of_notMem {cs : List Char} (h : '_' ∉ cs) : ungrouped cs = cs := by
  rw [ungrouped, List.filter_eq_self]
  intro c hc
  have hne : c ≠ '_' := fun he => h (he ▸ hc)
  simpa using hne

theorem firstDigits_of_notMem {cs : List Char} (h : '_' ∉ cs) (n : Nat) :
    firstDigits n cs = (cs.take n, cs.drop n) := by
  induction cs generalizing n with
  | nil => cases n <;> rfl
  | cons c cs ih =>
    rw [List.mem_cons, not_or] at h
    cases n with
    | zero => rfl
    | succ n =>
      rw [firstDigits, if_neg (Ne.symm h.1), ih h.2, List.take_succ_cons, List.drop_succ_cons]

/-- Without underscores, all decimals are kept. -/
theorem keptDecimals_of_notMem (whole : List Char) {decimals : List Char} (h : '_' ∉ decimals) :
    keptDecimals whole decimals = decimals := by
  have hrest : '_' ∉ decimals.drop maxScale := fun hmem => h (List.mem_of_mem_drop hmem)
  have hhead : (decimals.drop maxScale).head? ≠ some '_' := fun hhead =>
    hrest (List.mem_of_head? hhead)
  rw [keptDecimals, firstDigits_of_notMem h]
  simp only [hhead, false_and, if_false, ungrouped_of_notMem hrest, List.take_append_drop]

/-! ## Showing -/

/-- The characters of a number. -/
def showChars (d : Decimal) : List Char :=
  let digits := Text.paddedDigits (d.scale + 1) d.coefficient
  let whole := digits.take (digits.length - d.scale)
  let decimals := digits.drop (digits.length - d.scale)
  (if d.value < 0 then ['-'] else []) ++ whole ++ (if d.scale = 0 then [] else '.' :: decimals)

/-- The text of a number. -/
def text (d : Decimal) : String :=
  String.ofList d.showChars

end Rulebook.Decimal
