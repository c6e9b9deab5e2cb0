import Rulebook.Decimal.Division
import Rulebook.Measure.Notation

/-!
# Conversion of units

Some atoms are so many of a base atom: lengths are counted in metres, masses in
grams and spans of time in months. An atom that is not listed is its own base.
Two units convert into each other if the same base atoms are left of both, and
the factor is the quotient of their sizes.

* `factor_self`: a unit converts into itself by the factor 1.
* `sameDimension_iff`: a dimension is the base atoms that are left, in any order.
* `factor_of_not_sameDimension`: units of different dimensions do not convert.
-/

namespace Rulebook.Measure

/-! ## Sizes of atoms -/

/-- What an atom amounts to: `count` times the atom `base`, or the number `count` alone. -/
structure AtomSize where
  base : Option String
  count : Rat

/-- The atoms that are not their own base. A year has twelve months and 365 days; months are the
base, so that months, quarters and years convert exactly. -/
def atomSizes : List (String × AtomSize) :=
  [("mm", ⟨some "m", 1 / 1000⟩),
   ("cm", ⟨some "m", 1 / 100⟩),
   ("km", ⟨some "m", 1000⟩),
   ("kg", ⟨some "g", 1000⟩),
   ("t", ⟨some "g", 1000000⟩),
   ("day", ⟨some "month", 12 / 365⟩),
   ("week", ⟨some "month", 84 / 365⟩),
   ("quarter", ⟨some "month", 3⟩),
   ("year", ⟨some "month", 12⟩),
   (percentAtom, ⟨none, 1 / 100⟩)]

/-- The size of an atom. -/
def atomSize (name : String) : AtomSize :=
  (atomSizes.lookup name).getD ⟨some name, 1⟩

/-- The size of an atom as a decimal: that of a day is rounded. -/
def atomCount? (name : String) : Option Decimal :=
  Decimal.nearest? .toEven (atomSize name).count

/-- The base atoms of a list of atoms. -/
def baseAtoms (atoms : List String) : List String :=
  atoms.filterMap fun name => (atomSize name).base

/-- The product of the sizes of atoms, unless it overflows on the way. -/
def totalSize? (atoms : List String) : Option Decimal :=
  atoms.foldlM (fun total name => (atomCount? name).bind total.mul?) .one

/-! ## Dimension and size of a unit -/

/-- The unit in base atoms, cancelled. -/
def inBase (u : Measure) : Measure :=
  cancel (baseAtoms u.numerators) (baseAtoms u.denominators)

/-- Whether the same base atoms are left of two units, in whatever order. -/
def sameDimension (u v : Measure) : Bool :=
  u.inBase.numerators.isPerm v.inBase.numerators &&
    u.inBase.denominators.isPerm v.inBase.denominators

/-- The size of a unit in base atoms, as a fraction so that ratios stay exact. -/
structure Size where
  numerator : Decimal
  denominator : Decimal

/-- The size of a unit. -/
def size? (u : Measure) : Option Size := do
  let numerator ← totalSize? u.numerators
  let denominator ← totalSize? u.denominators
  some ⟨numerator, denominator⟩

/-! ## Factors -/

/-- How many units of the size `target` one unit of the size `source` makes. There is no answer if a
product overflows, and zero is in the way if `source.denominator * target.numerator` rounds to it. -/
def quotient (source target : Size) (incompatible overflow : Error) : Except Error Decimal :=
  match source.denominator.mul? target.numerator with
  | none => .error overflow
  | some divisor =>
    if divisor = .zero then .error incompatible
    else
      match (source.numerator.mul? target.denominator).bind (·.div? divisor) with
      | none => .error overflow
      | some factor => .ok factor

/-- The factor by which an amount in the unit `source` is multiplied to be in the unit `target`. -/
def factor (source target : Measure) : Except Error Decimal :=
  if source = target then .ok .one
  else if source.sameDimension target then
    match source.size?, target.size? with
    | some s, some t => quotient s t (.incompatible source target) (.overflow source target)
    | _, _ => .error (.overflow source target)
  else .error (.incompatible source target)

/-- A dimension is the base atoms that are left, in any order. -/
theorem sameDimension_iff {u v : Measure} :
    u.sameDimension v = true ↔
      u.inBase.numerators.Perm v.inBase.numerators ∧
        u.inBase.denominators.Perm v.inBase.denominators := by
  rw [sameDimension, Bool.and_eq_true, List.isPerm_iff, List.isPerm_iff]

theorem sameDimension_self (u : Measure) : u.sameDimension u = true :=
  sameDimension_iff.2 ⟨.refl _, .refl _⟩

/-- A unit converts into itself by the factor 1. -/
theorem factor_self (u : Measure) : factor u u = .ok .one :=
  if_pos rfl

/-- Units of different dimensions do not convert. -/
theorem factor_of_not_sameDimension {source target : Measure}
    (h : source.sameDimension target = false) :
    factor source target = .error (.incompatible source target) := by
  have hne : source ≠ target := by
    rintro rfl
    rw [sameDimension_self] at h
    cases h
  rw [factor, if_neg hne, h]
  rfl

theorem factor_eq_ok {source target : Measure} {f : Decimal}
    (h : (source.factor target).toOption = some f) : source.factor target = .ok f := by
  cases hfactor : source.factor target with
  | ok factor =>
    rw [hfactor] at h
    cases h
    rfl
  | error e =>
    rw [hfactor] at h
    cases h

end Rulebook.Measure
