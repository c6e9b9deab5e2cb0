import Rulebook.Expr.Basic

/-!
# Answers

An answer is a number or a text, and a text is read as an expression: a text
between quotes is a text, `true` and `yes` and `false` and `no` are truth
values, a written number is a number, and anything else is the name of an
option. Blanks around it do not count.

* `parse_congr`: blanks around a text do not count.
* `readTrimmed_quoted`: a text between quotes is itself, whatever it holds.
-/

namespace Rulebook

inductive Answer
  | number (n : Decimal)
  | text (t : String)
deriving DecidableEq

/-- What a text answer says. -/
inductive Reading
  | constant (v : Value)
  | reference (name : String)
deriving DecidableEq

namespace Answer

def isQuote (c : Char) : Bool :=
  c == '\'' || c == '"'

/-- Reads characters without quotes around them. -/
def readBare (cs : List Char) : Reading :=
  match String.ofList cs with
  | "true" => .constant (.boolean true)
  | "yes" => .constant (.boolean true)
  | "false" => .constant (.boolean false)
  | "no" => .constant (.boolean false)
  | name =>
    match Decimal.readChars? cs with
    | some n => .constant (.number n)
    | none => .reference name

/-- Reads characters without blanks around them. -/
def readTrimmed (cs : List Char) : Except Expr.Error Reading :=
  match cs with
  | [] => .error .empty
  | c :: rest =>
    if isQuote c then
      if rest.getLast? = some c then .ok (.constant (.text (String.ofList rest.dropLast)))
      else .error (.unterminatedText (String.ofList cs))
    else .ok (readBare cs)

/-- Reads a text answer. -/
def parse (text : String) : Except Expr.Error Reading :=
  readTrimmed (Text.trim text.toList)

/-- The value of an answer; the name of an option is taken as a text. -/
def value : Answer → Except Expr.Error Value
  | number n => .ok (.number n)
  | text t =>
    match parse t with
    | .ok (.constant v) => .ok v
    | .ok (.reference name) => .ok (.text name)
    | .error e => .error e

/-- Blanks around a text do not count. -/
theorem parse_congr {s t : String} (h : Text.trim s.toList = Text.trim t.toList) :
    parse s = parse t := by
  rw [parse, parse, h]

/-- A text between quotes is itself, whatever it holds. -/
theorem readTrimmed_quoted {quote : Char} (h : isQuote quote = true) (cs : List Char) :
    readTrimmed (quote :: (cs ++ [quote])) = .ok (.constant (.text (String.ofList cs))) := by
  rw [readTrimmed, if_pos h, List.getLast?_concat, if_pos rfl, List.dropLast_concat]

end Answer

end Rulebook
