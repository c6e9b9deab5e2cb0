import Rulebook.Measure.Basic
import Rulebook.Text.Basic
import Rulebook.Text.Split

/-!
# Written units

A unit is written `kg.m/s.s`: atoms between dots, and one bar before the atoms
that divide. Blanks around an atom do not count. There may be no atoms before
the bar, or in the whole text, but there are some after it.
-/

namespace Rulebook.Measure

/-! ## Showing -/

/-- Atoms with dots between them. -/
def atomsText (atoms : List String) : String :=
  String.ofList (Text.join '.' (atoms.map String.toList))

/-- The text of a unit. -/
def text (u : Measure) : String :=
  if u.denominators.isEmpty then atomsText u.numerators
  else atomsText u.numerators ++ "/" ++ atomsText u.denominators

/-- The text of an optional unit in a message. -/
def describe (u : Option Measure) : String :=
  match normal u with
  | some v => v.text
  | none => "none"

/-! ## Errors -/

/-- Why a unit is not read, or an amount not converted from one unit to another. -/
inductive Error
  | incompatible (source target : Measure)
  | overflow (source target : Measure)
  | malformed (text : String)
deriving DecidableEq

def Error.message : Error → String
  | .incompatible source target =>
    "unit error: cannot convert " ++ source.text ++ " to " ++ target.text
  | .overflow source target =>
    "unit error: converting " ++ source.text ++ " to " ++ target.text ++ " overflowed"
  | .malformed text => "unit error: malformed unit '" ++ text ++ "'"

/-! ## Reading -/

/-- Reads the atoms between dots; there are none in a blank text. -/
def readAtoms? (cs : List Char) : Option (List String) :=
  let atoms := (Text.split '.' cs).map Text.trim
  if Text.trim cs = [] then some []
  else if [] ∈ atoms then none
  else some (atoms.map String.ofList)

/-- Reads the atoms on both sides of the bar, if there is one. -/
def readChars? (cs : List Char) : Option Measure :=
  match Text.split '/' cs with
  | [above] => do
    let numerators ← readAtoms? above
    some ⟨numerators, []⟩
  | [above, below] => do
    let numerators ← readAtoms? above
    let denominators ← readAtoms? below
    if denominators.isEmpty then none else some ⟨numerators, denominators⟩
  | _ => none

/-- Reads a unit. -/
def parse (text : String) : Except Error Measure :=
  match readChars? text.toList with
  | some u => .ok u
  | none => .error (.malformed text)

end Rulebook.Measure
