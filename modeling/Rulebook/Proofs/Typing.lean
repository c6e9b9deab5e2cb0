import Rulebook.Proofs.Openness
import Rulebook.Proofs.Reports

/-!
# Types of operators

An operator takes two operands of one type. On such operands it comes to an
outcome of its result type and reports no mismatch of types, whichever operand
decides it, whether or not units are converted, texts compared as dates or
percentages taken, and also if it overflows.

* `Signature.wellTyped_calculate`: calculations keep to the types.
* `Signature.hasType_of_decidedByLeft?`: so does what an operand decides.
-/

namespace Rulebook

/-! ## Types of outcomes -/

/-- Whether the outcome is of the type, if it has a value. -/
def Outcome.HasType (o : Outcome) (t : ValueType) : Prop :=
  ∀ v, o = .value v → v.type = t

namespace Outcome

variable {o : Outcome} {t : ValueType}

theorem hasType_value {v : Value} : (value v).HasType t ↔ v.type = t :=
  ⟨fun h => h v rfl, fun h w hw => by cases hw; exact h⟩

theorem hasType_inapplicable : inapplicable.HasType t :=
  nofun

theorem hasType_indeterminate : indeterminate.HasType t :=
  nofun

theorem hasType_number (n : Decimal) : (number n).HasType .number :=
  hasType_value.2 rfl

theorem hasType_boolean (b : Bool) : (boolean b).HasType .boolean :=
  hasType_value.2 rfl

/-- An operand that is read as zero if it does not apply is a number, if it is one otherwise. -/
theorem HasType.orZero?_eq_number {v : Value} (h : o.HasType .number) (hv : o.orZero? = some v) :
    ∃ n, v = .number n := by
  cases o with
  | value w =>
    cases hv
    have htype := hasType_value.1 h
    cases v with
    | number n => exact ⟨n, rfl⟩
    | _ => cases htype
  | inapplicable => cases hv; exact ⟨.zero, rfl⟩
  | indeterminate => cases hv

/-- An operand that is read as false if it is absent is a truth value, if it is one otherwise. -/
theorem HasType.orFalse_eq_boolean (h : o.HasType .boolean) : ∃ b, o.orFalse = .boolean b := by
  cases o with
  | value v =>
    have htype := hasType_value.1 h
    cases v with
    | boolean b => exact ⟨b, rfl⟩
    | _ => cases htype
  | inapplicable => exact ⟨false, rfl⟩
  | indeterminate => exact ⟨false, rfl⟩

theorem HasType.share (h : o.HasType t) : o.share.HasType t := by
  unfold Outcome.share
  split
  · have htype := hasType_value.1 h
    exact hasType_value.2 htype
  · exact h

/-- Another amount is of the same type. -/
theorem HasType.of_sameButAmount {o' : Outcome} (h : o.HasType t) (hsame : o.SameButAmount o') :
    o'.HasType t := by
  cases hsame with
  | refl o => exact h
  | amounts m n =>
    have htype := hasType_value.1 h
    exact hasType_value.2 htype

end Outcome

/-! ## Computations without a mismatch -/

/-- Whether the warning is that two types do not match. -/
def Warning.isMismatch : Warning → Bool
  | notApplicable _ (.mismatch _ _ _) => true
  | _ => false

/-- Whether no mismatch of types is reported. -/
def NoMismatch (events : List Event) : Prop :=
  ∀ w ∈ warningsIn events, w.isMismatch = false

theorem noMismatch_of_warningsIn_eq_nil {events : List Event} (h : warningsIn events = []) :
    NoMismatch events := by
  rw [NoMismatch, h]
  exact List.forall_mem_nil _

theorem noMismatch_append {xs ys : List Event} :
    NoMismatch (xs ++ ys) ↔ NoMismatch xs ∧ NoMismatch ys := by
  rw [NoMismatch, warningsIn_append, List.forall_mem_append]
  rfl

/-- Whether the computation comes to something of which `P` holds, and reports no mismatch of
types. -/
structure Logged.WellTyped {α : Type} (x : Logged α) (P : α → Prop) : Prop where
  result : P x.result
  noMismatch : NoMismatch x.events

namespace Logged

variable {α β : Type} {P : α → Prop} {R : β → Prop}

theorem wellTyped_pure {a : α} (h : P a) : (pure a : Logged α).WellTyped P where
  result := h
  noMismatch := noMismatch_of_warningsIn_eq_nil rfl

theorem wellTyped_warn {w : Warning} (h : w.isMismatch = false) :
    (warn w).WellTyped fun _ => True where
  result := trivial
  noMismatch := List.forall_mem_singleton.2 h

theorem WellTyped.bind {x : Logged α} {f : α → Logged β} (hx : x.WellTyped P)
    (hf : ∀ a, P a → (f a).WellTyped R) : (x >>= f).WellTyped R where
  result := (hf _ hx.result).result
  noMismatch := noMismatch_append.2 ⟨hx.noMismatch, (hf _ hx.result).noMismatch⟩

end Logged

/-! ## Types of operators -/

/-- The type of both operands of an operator, and the type of its result. Values of every type are
equal or not. -/
inductive Operator.Signature : Operator → ValueType → ValueType → Prop
  | arithmetic (a : Arithmetic) : Signature (.arithmetic a) .number .number
  | comparison (c : Comparison) : Signature (.comparison c) .number .boolean
  | equality (e : Equality) (t : ValueType) : Signature (.equality e) t .boolean
  | connective (c : Connective) : Signature (.connective c) .boolean .boolean

namespace Operator.Signature

variable {op : Operator} {s t : ValueType} {left right o : Outcome}

theorem hasType_of_result? {a : Arithmetic} {m n : Decimal} (h : a.result? m n = some o) :
    o.HasType .number := by
  unfold Arithmetic.result? at h
  split at h
  case h_2 =>
    split at h
    · cases h; exact Outcome.hasType_inapplicable
    · obtain ⟨k, -, rfl⟩ := Option.map_eq_some_iff.1 h
      exact Outcome.hasType_number k
  all_goals
    obtain ⟨k, -, rfl⟩ := Option.map_eq_some_iff.1 h
    exact Outcome.hasType_number k

/-- On operands of its type, an operator comes to an outcome of its result type or overflows. -/
theorem apply (hop : op.Signature s t) (hl : left.HasType s) (hr : right.HasType s) :
    (∃ o, op.apply left right = .ok o ∧ o.HasType t) ∨
      op.apply left right = .error (.overflow op) := by
  cases hop with
  | arithmetic a =>
    cases hleft : left.orZero? with
    | none => simp [Operator.apply, hleft, Outcome.hasType_indeterminate]
    | some v =>
      cases hright : right.orZero? with
      | none => simp [Operator.apply, hright, Outcome.hasType_indeterminate]
      | some w =>
        obtain ⟨m, rfl⟩ := hl.orZero?_eq_number hleft
        obtain ⟨n, rfl⟩ := hr.orZero?_eq_number hright
        cases hresult : a.result? m n with
        | none => simp [Operator.apply, hleft, hright, hresult]
        | some o => simp [Operator.apply, hleft, hright, hresult, hasType_of_result? hresult]
  | comparison c =>
    left
    cases hleft : left.orZero? with
    | none => simp [Operator.apply, hleft, Outcome.hasType_indeterminate]
    | some v =>
      cases hright : right.orZero? with
      | none => simp [Operator.apply, hright, Outcome.hasType_indeterminate]
      | some w =>
        obtain ⟨m, rfl⟩ := hl.orZero?_eq_number hleft
        obtain ⟨n, rfl⟩ := hr.orZero?_eq_number hright
        obtain ⟨order, horder⟩ :=
          Option.isSome_iff_exists.1 ((Value.isSome_compare?_iff (.number m) (.number n)).2 rfl)
        simp [Operator.apply, hleft, hright, horder, Outcome.hasType_boolean]
  | equality e => exact .inl ⟨_, rfl, Outcome.hasType_boolean _⟩
  | connective c =>
    obtain ⟨a, hleft⟩ := hl.orFalse_eq_boolean
    obtain ⟨b, hright⟩ := hr.orFalse_eq_boolean
    simp [Operator.apply, hleft, hright, Outcome.hasType_boolean]

theorem wellTyped_applyOrWarn (hop : op.Signature s t) (hl : left.HasType s)
    (hr : right.HasType s) : (op.applyOrWarn left right).WellTyped (·.HasType t) := by
  rcases hop.apply hl hr with ⟨o, ho, htype⟩ | herror
  · rw [applyOrWarn_of_ok ho]
    exact Logged.wellTyped_pure htype
  · rw [applyOrWarn_of_error herror]
    exact ⟨Outcome.hasType_inapplicable, List.forall_mem_singleton.2 rfl⟩

/-- An operand that is shaped as a date is a text. -/
theorem eq_text_of_dateText? {text : String} (hl : left.HasType s)
    (h : left.dateText? = some text) : s = .text := by
  cases left with
  | value v =>
    rw [← Outcome.hasType_value.1 hl]
    cases v with
    | text _ => rfl
    | _ => cases h
  | _ => cases h

theorem wellTyped_combine (hop : op.Signature s t) (hl : left.HasType s) (hr : right.HasType s) :
    (op.combine left right).WellTyped (·.HasType t) := by
  unfold combine
  split
  · exact Logged.wellTyped_pure Outcome.hasType_inapplicable
  · split
    · rename_i htext _
      split
      · -- Texts are compared for equality only, and so are dates.
        obtain rfl := eq_text_of_dateText? hl htext
        cases hop with
        | equality e =>
          have hdate (d : Date) : (Outcome.value (.date d)).HasType .date :=
            Outcome.hasType_value.2 rfl
          exact (equality e .date).wellTyped_applyOrWarn (hdate _) (hdate _)
      · exact (Logged.wellTyped_warn rfl).bind fun _ _ => hop.wellTyped_applyOrWarn hl hr
    · exact hop.wellTyped_applyOrWarn hl hr

theorem wellTyped_combineKnown (hop : op.Signature s t) (hl : left.HasType s)
    (hr : right.HasType s) : (op.combineKnown left right).WellTyped (·.HasType t) := by
  unfold combineKnown
  split
  · exact Logged.wellTyped_pure Outcome.hasType_indeterminate
  · exact hop.wellTyped_combine hl hr

/-! ## Calculations -/

variable {l r : Quantity}

theorem wellTyped_reconcile (op : Operator) (hl : l.outcome.HasType s)
    (hr : r.outcome.HasType s) :
    (op.reconcile l r).WellTyped fun operands =>
      operands.1.outcome.HasType s ∧ operands.2.outcome.HasType s := by
  unfold reconcile
  split
  · exact Logged.wellTyped_pure ⟨hl, hr⟩
  · split
    · have hsame := (Quantity.reconciled_of_reconcile? ‹_›).sameButAmount
      exact Logged.wellTyped_pure ⟨hl.of_sameButAmount hsame.1, hr.of_sameButAmount hsame.2⟩
    · exact (Logged.wellTyped_warn rfl).bind fun _ _ => Logged.wellTyped_pure ⟨hl, hr⟩

theorem hasType_withUnit (op : Operator) {u v : Option Measure} (h : o.HasType t) :
    (op.withUnit o u v).outcome.HasType t := by
  unfold withUnit
  split
  · split
    · exact h.share
    · exact h
  · exact h

theorem wellTyped_adjust {a : Arithmetic} {adjustment : Decimal.Adjustment}
    (hl : l.outcome.HasType .number) (hr : r.outcome.HasType .number) :
    ((Operator.arithmetic a).adjust adjustment l r).WellTyped (·.outcome.HasType .number) := by
  refine ((arithmetic a).wellTyped_combineKnown hl hr).bind fun plain hplain => ?_
  split
  · split
    · exact Logged.wellTyped_pure (Outcome.hasType_number _)
    · exact (Logged.wellTyped_warn rfl).bind fun _ _ =>
        Logged.wellTyped_pure Outcome.hasType_inapplicable
  · exact Logged.wellTyped_pure hplain

/-- A calculation on operands of the type of its operator comes to an outcome of the result type,
and reports no mismatch. -/
theorem wellTyped_calculate (hop : op.Signature s t) (hl : l.outcome.HasType s)
    (hr : r.outcome.HasType s) : (op.calculate l r).WellTyped (·.outcome.HasType t) := by
  cases h : op.adjustment? l r with
  | some adjustment =>
    rw [calculate, h]
    obtain ⟨rfl, -⟩ := adjustment?_eq_some_iff.1 h
    cases hop
    exact wellTyped_adjust hl hr
  | none =>
    rw [calculate_of_adjustment?_eq_none h]
    refine (wellTyped_reconcile op hl hr).bind fun operands hoperands => ?_
    refine (hop.wellTyped_combineKnown hoperands.1 hoperands.2).bind fun o ho => ?_
    exact Logged.wellTyped_pure (hasType_withUnit op ho)

/-! ## Operands that decide -/

/-- What the left operand decides is of the result type. -/
theorem hasType_of_decidedByLeft? (hop : op.Signature s t) (hl : left.HasType s)
    (h : op.decidedByLeft? left = some o) : o.HasType t := by
  unfold decidedByLeft? at h
  split at h <;> simp only [Option.ite_none_right_eq_some, Option.some.injEq, reduceCtorEq] at h
  all_goals
    obtain ⟨-, rfl⟩ := h
    cases hop
  · exact hl
  · exact hl
  · exact Outcome.hasType_inapplicable
  · exact Outcome.hasType_inapplicable
  · exact Outcome.hasType_inapplicable
  · exact Outcome.hasType_boolean false
  · exact Outcome.hasType_boolean true

theorem hasType_of_decidedByRight? (hop : op.Signature s t) (hr : right.HasType s)
    (h : op.decidedByRight? right = some o) : o.HasType t :=
  hop.hasType_of_decidedByLeft? hr (decidedByLeft?_of_decidedByRight? h)

end Operator.Signature

end Rulebook
