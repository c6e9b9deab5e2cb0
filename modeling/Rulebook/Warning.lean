import Rulebook.Expr.Basic
import Rulebook.Operator.Apply
import Rulebook.Text.Escaped

/-!
# Warnings

What evaluation reports of the problems that it goes on from. A warning changes
no result.
-/

namespace Rulebook

inductive Warning
  /-- A name is referred to that no rule has. -/
  | unknownRule (name : String)
  /-- More references are nested than the limit allows. -/
  | cutOff (name : String) (limit : Nat)
  /-- A text answer is none of the options. -/
  | notAnOption (name answer : String)
  /-- An answer is not kept, as it cannot be read. -/
  | ignored (name : String) (cause : Expr.Error)
  /-- An answer that was kept cannot be read. -/
  | unreadable (name : String) (cause : Expr.Error)
  /-- No unit is common to the operands. -/
  | unreconciled (op : Operator) (left right : Option Measure) (cause : Measure.Error)
  /-- Of two texts shaped as dates, one is not on the calendar. -/
  | datesAsText (op : Operator) (cause : Date.Error)
  /-- An operator has no outcome for its operands. -/
  | notApplicable (op : Operator) (cause : Operator.Error)
deriving DecidableEq

namespace Warning

/-- A message with the message of its cause under it. -/
def withCause (message cause : String) : String :=
  message ++ "\n  caused by: " ++ cause

def message : Warning → String
  | unknownRule name => "The rule '" ++ name ++ "' does not exist"
  | cutOff name limit =>
    "Evaluating '" ++ name ++ "' nests more than " ++ toString limit ++
      " references, the rules are probably cyclic"
  | notAnOption name answer =>
    "The answer Text(" ++ Text.quoted answer ++ ") to '" ++ name ++
      "' is not one of its options, and is ignored"
  | ignored name cause =>
    withCause ("The answer to '" ++ name ++ "' cannot be read, and is ignored") cause.message
  | unreadable name cause =>
    withCause ("The answer to '" ++ name ++ "' cannot be read") cause.message
  | unreconciled op left right cause =>
    withCause ("In the expression '" ++ op.token ++ "', the left operand (unit: " ++
      Measure.describe left ++ ") cannot be reconciled with the right operand (unit: " ++
      Measure.describe right ++ ")") cause.message
  | datesAsText op cause =>
    withCause ("In the expression '" ++ op.token ++ "', the dates are compared as text")
      cause.message
  | notApplicable op cause =>
    withCause ("The expression '" ++ op.token ++ "' does not apply to its operands") cause.message

end Warning

end Rulebook
