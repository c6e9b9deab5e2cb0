import Rulebook.Quantity

/-!
# Expressions

The formula of a rule: constants with their units, references to rules, and
operators on two expressions. An operation keeps the symbol that shows it, which
is its operator's unless another is chosen.
-/

namespace Rulebook

inductive Expr
  | constant (q : Quantity)
  | reference (name : String)
  | operation (op : Operator) (symbol : String) (left right : Expr)
deriving DecidableEq

namespace Expr

/-- Why a text is not read as an expression, or as a part of one. -/
inductive Error
  | unknownOperator (token : String)
  | empty
  | unterminatedText (text : String)
  | unit (cause : Measure.Error)
deriving DecidableEq

def Error.message : Error → String
  | unknownOperator token => "parse error: unknown operator '" ++ token ++ "'"
  | empty => "parse error: empty expression"
  | unterminatedText text => "parse error: unterminated text '" ++ text ++ "'"
  | unit cause => cause.message

/-- A value without unit. -/
def value (v : Value) : Expr :=
  constant ⟨.value v, none⟩

def number (n : Decimal) : Expr :=
  value (.number n)

/-- A number in the unit that `unitText` writes. -/
def quantity (n : Decimal) (unitText : String) : Except Error Expr :=
  match Measure.parse unitText with
  | .ok u => .ok (constant ⟨.number n, u.nonEmpty?⟩)
  | .error e => .error (.unit e)

/-- The constant that does not apply. -/
def inapplicable : Expr :=
  constant ⟨.inapplicable, none⟩

/-- An operation shown by the symbol of its operator. -/
def binary (op : Operator) (left right : Expr) : Expr :=
  operation op op.symbol left right

/-- The operation that a token writes between two expressions. -/
def ofToken (token : String) (left right : Expr) : Except Error Expr :=
  match Operator.ofToken? token with
  | some op => .ok (binary op left right)
  | none => .error (.unknownOperator token)

/-- An operation shown by another symbol; other expressions have none. -/
def withSymbol (symbol : String) : Expr → Expr
  | operation op _ left right => operation op symbol left right
  | e => e

end Expr

end Rulebook
