import Rulebook.Proofs.DepthLimit

/-!
# What is reported

The warnings of an evaluation in the order of its events. An operation reports
only on itself: that its operands have no unit in common, that impossible dates
are compared as text, or that it does not apply.

* `Operator.cases_of_mem_events_combineKnown`: only the reconciling of operands
  reports on units.
* `Operator.reports_of_mem_events`: what a calculation reports is about its operator.
-/

namespace Rulebook

/-! ## Warnings among events -/

def Event.warning? : Event → Option Warning
  | .asked _ => none
  | .warned w => some w

/-- The warnings among events, in order. -/
def warningsIn (events : List Event) : List Warning :=
  events.filterMap Event.warning?

theorem Logged.warnings_eq {α : Type} (x : Logged α) : x.warnings = warningsIn x.events :=
  rfl

theorem warningsIn_append (xs ys : List Event) :
    warningsIn (xs ++ ys) = warningsIn xs ++ warningsIn ys :=
  List.filterMap_append

theorem warningsIn_asked_cons (name : String) (events : List Event) :
    warningsIn (.asked name :: events) = warningsIn events :=
  rfl

theorem mem_warningsIn {events : List Event} {w : Warning} :
    w ∈ warningsIn events ↔ .warned w ∈ events :=
  Logged.mem_warnings (x := ⟨(), events⟩)

/-! ## Warnings of operations -/

namespace Operator

/-- Whether the event is a warning that the operator has about its operands. -/
inductive Reports (op : Operator) : Event → Prop
  | unreconciled (left right : Option Measure) (cause : Measure.Error) :
    Reports op (.warned (.unreconciled op left right cause))
  | datesAsText (cause : Date.Error) : Reports op (.warned (.datesAsText op cause))
  | notApplicable (cause : Error) : Reports op (.warned (.notApplicable op cause))

variable {op : Operator} {event : Event}

theorem reports_of_mem_events_reconcile {left right : Quantity}
    (h : event ∈ (op.reconcile left right).events) : op.Reports event := by
  unfold reconcile at h
  split at h
  · cases h
  · split at h
    · cases h
    · rw [List.mem_singleton.1 h]
      exact .unreconciled _ _ _

theorem exists_of_mem_events_applyOrWarn {left right : Outcome}
    (h : event ∈ (op.applyOrWarn left right).events) :
    ∃ cause, event = .warned (.notApplicable op cause) := by
  unfold applyOrWarn at h
  split at h
  · cases h
  · exact ⟨_, List.mem_singleton.1 h⟩

/-- Operands in one unit are reported for not being on the calendar, or for what they are. -/
theorem cases_of_mem_events_combineKnown {left right : Outcome}
    (h : event ∈ (op.combineKnown left right).events) :
    (∃ cause, event = .warned (.datesAsText op cause)) ∨
      ∃ cause, event = .warned (.notApplicable op cause) := by
  unfold combineKnown at h
  split at h
  · cases h
  · unfold combine at h
    split at h
    · cases h
    · split at h
      · split at h
        · exact .inr (exists_of_mem_events_applyOrWarn h)
        · rcases List.mem_cons.1 h with rfl | h
          · exact .inl ⟨_, rfl⟩
          · exact .inr (exists_of_mem_events_applyOrWarn h)
      · exact .inr (exists_of_mem_events_applyOrWarn h)

theorem reports_of_mem_events_combineKnown {left right : Outcome}
    (h : event ∈ (op.combineKnown left right).events) : op.Reports event := by
  rcases cases_of_mem_events_combineKnown h with ⟨_, rfl⟩ | ⟨_, rfl⟩
  · exact .datesAsText _
  · exact .notApplicable _

theorem reports_of_mem_events_adjust {adjustment : Decimal.Adjustment} {left right : Quantity}
    (h : event ∈ (op.adjust adjustment left right).events) : op.Reports event := by
  rw [adjust, Logged.events_bind] at h
  rcases List.mem_append.1 h with h | h
  · exact reports_of_mem_events_combineKnown h
  · split at h
    · split at h
      · cases h
      · rw [List.mem_singleton.1 h]
        exact .notApplicable _
    · cases h

/-- What a calculation reports is about its operator. -/
theorem reports_of_mem_events {left right : Quantity}
    (h : event ∈ (op.calculate left right).events) : op.Reports event := by
  cases hadjust : op.adjustment? left right with
  | some adjustment =>
    rw [calculate, hadjust] at h
    exact reports_of_mem_events_adjust h
  | none =>
    rw [calculate_of_adjustment?_eq_none hadjust, Logged.events_bind] at h
    rcases List.mem_append.1 h with h | h
    · exact reports_of_mem_events_reconcile h
    · rw [Logged.events_bind, Logged.events_pure, List.append_nil] at h
      exact reports_of_mem_events_combineKnown h

/-- A calculation cuts no rule off. -/
theorem noCutOff_calculate (op : Operator) (left right : Quantity) :
    NoCutOff (op.calculate left right).events := by
  intro name limit h
  cases reports_of_mem_events h

end Operator

end Rulebook
