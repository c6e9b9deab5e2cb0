import Rulebook.Warning

/-!
# Logged computations

A computation that keeps a log: the names whose results it asked for, and its
warnings, in the order in which they came up. Nothing that a computation does
later depends on its log.

* `events_bind`, `result_bind`: in a sequence, the logs follow each other.
-/

namespace Rulebook

inductive Event
  /-- The result of a name was asked for. -/
  | asked (name : String)
  | warned (w : Warning)
deriving DecidableEq

/-- A result with what happened on the way to it. -/
structure Logged (α : Type) where
  result : α
  events : List Event
deriving DecidableEq

namespace Logged

variable {α β : Type}

instance : Monad Logged where
  pure a := ⟨a, []⟩
  bind x f := ⟨(f x.result).result, x.events ++ (f x.result).events⟩

/-- Notes that the result of a name is asked for. -/
def ask (name : String) : Logged Unit :=
  ⟨(), [.asked name]⟩

/-- Reports a warning. -/
def warn (w : Warning) : Logged Unit :=
  ⟨(), [.warned w]⟩

/-- The names that were asked for, in order and with repetitions. -/
def asked (x : Logged α) : List String :=
  x.events.filterMap fun
    | .asked name => some name
    | .warned _ => none

/-- The warnings, in order. -/
def warnings (x : Logged α) : List Warning :=
  x.events.filterMap fun
    | .asked _ => none
    | .warned w => some w

theorem eq_of_result_eq {x y : Logged α} (hr : x.result = y.result) (he : x.events = y.events) :
    x = y := by
  cases x; cases y; cases hr; cases he; rfl

theorem result_pure (a : α) : (pure a : Logged α).result = a :=
  rfl

theorem events_pure (a : α) : (pure a : Logged α).events = [] :=
  rfl

theorem result_bind (x : Logged α) (f : α → Logged β) :
    (x >>= f).result = (f x.result).result :=
  rfl

/-- The log of a sequence is that of its first part and then that of the second. -/
theorem events_bind (x : Logged α) (f : α → Logged β) :
    (x >>= f).events = x.events ++ (f x.result).events :=
  rfl

theorem asked_bind (x : Logged α) (f : α → Logged β) :
    (x >>= f).asked = x.asked ++ (f x.result).asked :=
  List.filterMap_append

theorem warnings_bind (x : Logged α) (f : α → Logged β) :
    (x >>= f).warnings = x.warnings ++ (f x.result).warnings :=
  List.filterMap_append

instance : LawfulMonad Logged :=
  LawfulMonad.mk' _
    (fun x => eq_of_result_eq rfl (List.append_nil x.events))
    (fun _ _ => rfl)
    (fun x f g => eq_of_result_eq rfl (List.append_assoc x.events _ _))

end Logged

end Rulebook
