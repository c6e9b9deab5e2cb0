/-!
# Operators

The twelve operators that join two expressions, in four families, with the
tokens that write them and the symbols that show them.

* `isArithmetic_eq`: arithmetic multiplies and divides, or adds and subtracts.
-/

namespace Rulebook

inductive Arithmetic
  | mul
  | div
  | add
  | sub
deriving DecidableEq

/-- The operators that ask which of two values comes first. -/
inductive Comparison
  | lt
  | lte
  | gt
  | gte
deriving DecidableEq

inductive Equality
  | eq
  | neq
deriving DecidableEq

inductive Connective
  | and
  | or
deriving DecidableEq

inductive Operator
  | arithmetic (a : Arithmetic)
  | comparison (c : Comparison)
  | equality (e : Equality)
  | connective (c : Connective)
deriving DecidableEq

namespace Operator

@[match_pattern] abbrev mul : Operator := arithmetic .mul
@[match_pattern] abbrev div : Operator := arithmetic .div
@[match_pattern] abbrev add : Operator := arithmetic .add
@[match_pattern] abbrev sub : Operator := arithmetic .sub
@[match_pattern] abbrev lt : Operator := comparison .lt
@[match_pattern] abbrev lte : Operator := comparison .lte
@[match_pattern] abbrev gt : Operator := comparison .gt
@[match_pattern] abbrev gte : Operator := comparison .gte
@[match_pattern] abbrev eq : Operator := equality .eq
@[match_pattern] abbrev neq : Operator := equality .neq
@[match_pattern] abbrev and : Operator := connective .and
@[match_pattern] abbrev or : Operator := connective .or

/-- The operators in the order in which they are listed. -/
def all : List Operator :=
  [mul, div, add, sub, lt, lte, gt, gte, eq, neq, and, or]

/-- The token that writes the operator. -/
def token : Operator → String
  | mul => "*"
  | div => "/"
  | add => "+"
  | sub => "-"
  | lt => "<"
  | lte => "<="
  | gt => ">"
  | gte => ">="
  | eq => "="
  | neq => "!="
  | and => "and"
  | or => "or"

/-- The symbol that shows the operator: a glyph of its own, or else its token. -/
def symbol : Operator → String
  | mul => "×"
  | div => "∕"
  | sub => "−"
  | lte => "≤"
  | gte => "≥"
  | neq => "≠"
  | op => op.token

/-- The operator that a token writes. -/
def ofToken? (token : String) : Option Operator :=
  all.find? fun op => op.token == token

def isArithmetic : Operator → Bool
  | arithmetic _ => true
  | _ => false

def isComparison : Operator → Bool
  | comparison _ => true
  | _ => false

/-- Whether units are multiplied or divided along with the amounts. -/
def isMultiplicative : Operator → Bool
  | mul => true
  | div => true
  | _ => false

def isAdditive : Operator → Bool
  | add => true
  | sub => true
  | _ => false

theorem isArithmetic_eq (op : Operator) :
    op.isArithmetic = (op.isMultiplicative || op.isAdditive) := by
  rcases op with a | c | e | c
  · cases a <;> rfl
  · rfl
  · rfl
  · rfl

theorem isMultiplicative_of_isArithmetic_eq_false {op : Operator} (h : op.isArithmetic = false) :
    op.isMultiplicative = false :=
  (Bool.or_eq_false_iff.1 (op.isArithmetic_eq ▸ h)).1

theorem isAdditive_of_isArithmetic_eq_false {op : Operator} (h : op.isArithmetic = false) :
    op.isAdditive = false :=
  (Bool.or_eq_false_iff.1 (op.isArithmetic_eq ▸ h)).2

/-- Every operator is read from its token. -/
example : ∀ op ∈ all, ofToken? op.token = some op := by
  decide

end Operator

end Rulebook
