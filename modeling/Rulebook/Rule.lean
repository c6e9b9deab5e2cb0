import Rulebook.Expr.Basic
import Std.Data.ExtTreeMap

/-!
# Rules

A rule has a formula or is a question, whose value is left to an answer. It may
list the answers that it accepts and give a unit. Rules are found by their
names, which are dotted paths such as `contract . kind`.

* `get?_add_self`, `get?_add_of_ne`: a rule takes the place of one with its name.
* `mem_of_get?_ofList`: the rules of a list stand in the list.
-/

namespace Rulebook

open Std (ExtTreeMap)

/-- What a model says about a name. -/
structure Rule where
  /-- A rule without formula is a question. -/
  formula : Option Expr := none
  /-- The answers that are accepted, if they are listed. -/
  options : Option (List String) := none
  /-- The unit of numbers, for which the empty unit is no unit. -/
  unit : Option Measure := none
  unit_ne_empty : unit ≠ some .empty := by nofun

namespace Rule

/-- A question that accepts all answers. -/
def question : Rule := {}

def withFormula (r : Rule) (formula : Expr) : Rule :=
  { r with formula := some formula }

def withOptions (r : Rule) (options : List String) : Rule :=
  { r with options := some options }

/-- The rule with another unit. -/
def withUnit (r : Rule) (u : Measure) : Rule :=
  { r with
    unit := u.nonEmpty?
    unit_ne_empty := fun h => (Measure.nonEmpty?_eq_some_iff.1 h).2 rfl }

end Rule

/-- The rules of a model, by name. -/
abbrev Rules := ExtTreeMap String Rule

namespace Rules

/-- Adds a rule, in the place of a rule with that name. -/
def add (rules : Rules) (name : String) (rule : Rule) : Rules :=
  rules.insert name rule

/-- The rules of a list; of two with one name, the later one. -/
def ofList (entries : List (String × Rule)) : Rules :=
  entries.foldl (fun rules entry => add rules entry.1 entry.2) ∅

theorem get?_add_self (rules : Rules) (name : String) (rule : Rule) :
    (add rules name rule)[name]? = some rule := by
  rw [add, ExtTreeMap.getElem?_insert_self]

theorem get?_add_of_ne (rules : Rules) {name other : String} (rule : Rule) (h : name ≠ other) :
    (add rules name rule)[other]? = rules[other]? := by
  rw [add, ExtTreeMap.getElem?_insert, if_neg fun he => h (Std.compare_eq_iff_eq.1 he)]

/-- The rules of a list stand in the list. -/
theorem mem_of_get?_ofList {entries : List (String × Rule)} {name : String} {rule : Rule}
    (h : (ofList entries)[name]? = some rule) : (name, rule) ∈ entries := by
  suffices hadded : ∀ rules : Rules,
      (entries.foldl (fun rules entry => add rules entry.1 entry.2) rules)[name]? = some rule →
        (name, rule) ∈ entries ∨ rules[name]? = some rule from
    (hadded ∅ h).resolve_right (by simp)
  clear h
  induction entries with
  | nil => exact fun _ h => .inr h
  | cons entry entries ih =>
    intro rules h
    rcases ih _ h with h | h
    · exact .inl (List.mem_cons_of_mem _ h)
    · by_cases hname : entry.1 = name
      · subst hname
        rw [get?_add_self] at h
        cases h
        exact .inl (List.mem_cons_self ..)
      · rw [get?_add_of_ne _ _ hname] at h
        exact .inr h

end Rules

end Rulebook
