import Rulebook.Missing
import Rulebook.Quantity

/-!
# Evaluated nodes

Evaluation gives a tree that explains its result: what each part of an
expression came to, and from which parts. Parts that were not needed are not in
the tree.
-/

namespace Rulebook

/-- What a node came to: an outcome with its unit, and the answers that it waits for. -/
structure Result extends Quantity where
  missing : Missing
deriving DecidableEq

namespace Result

/-- The result of a quantity for which no answer is missing. -/
def complete (q : Quantity) : Result :=
  ⟨q, .empty⟩

/-- An indeterminate result that waits for one name. -/
def waiting (name : String) (unit : Option Measure) : Result :=
  ⟨⟨.indeterminate, unit⟩, .single name⟩

end Result

/-- Where a node without parts comes from. -/
inductive Origin
  /-- A constant of the expression. -/
  | constant
  /-- A name whose result is given, such as by an answer. -/
  | given (name : String)
  /-- A question that is not answered. -/
  | question (name : String)
  /-- A name that no rule has. -/
  | unknown (name : String)
  /-- A name whose answer cannot be read. -/
  | unreadable (name : String)
  /-- A rule nested too deeply to be evaluated. -/
  | cutOff (name : String)
deriving DecidableEq

inductive Node
  /-- A node without parts. -/
  | leaf (origin : Origin) (result : Result)
  /-- A rule, from its formula. -/
  | rule (name : String) (result : Result) (formula : Node)
  /-- An operation decided by its left operand, so that the right one was not needed. -/
  | decided (op : Operator) (symbol : String) (result : Result) (left : Node)
  /-- An operation on two operands. -/
  | operation (op : Operator) (symbol : String) (result : Result) (left right : Node)
deriving DecidableEq

namespace Node

def result : Node → Result
  | leaf _ r => r
  | rule _ r _ => r
  | decided _ _ r _ => r
  | operation _ _ r _ _ => r

def quantity (n : Node) : Quantity :=
  n.result.toQuantity

def outcome (n : Node) : Outcome :=
  n.result.outcome

def missing (n : Node) : Missing :=
  n.result.missing

/-- Whether no answer is missing. -/
def isComplete (n : Node) : Bool :=
  n.missing.isEmpty

/-- The symbol of an operation. -/
def symbol? : Node → Option String
  | leaf _ _ => none
  | rule _ _ _ => none
  | decided _ symbol _ _ => some symbol
  | operation _ symbol _ _ _ => some symbol

/-- The nodes that a node was made from. -/
def children : Node → List Node
  | leaf _ _ => []
  | rule _ _ formula => [formula]
  | decided _ _ _ left => [left]
  | operation _ _ _ left right => [left, right]

/-- The nodes of a tree with their depths, each before its children. -/
def walk (depth : Nat) : Node → List (Nat × Node)
  | leaf origin r => [(depth, leaf origin r)]
  | rule name r formula => (depth, rule name r formula) :: formula.walk (depth + 1)
  | decided op symbol r left => (depth, decided op symbol r left) :: left.walk (depth + 1)
  | operation op symbol r left right =>
    (depth, operation op symbol r left right) ::
      (left.walk (depth + 1) ++ right.walk (depth + 1))

end Node

end Rulebook
