import Rulebook.Quantity

/-!
# The group of units

A unit gives each atom a power. Products add the powers, and a unit turned over
has the opposite ones. No atom is on both sides of a product, so that its powers
say how often each atom stands on which side. So the units without an atom on
both sides are a group, except for the order in which their atoms stand.

* `IsReduced.sameAtoms_iff`: reduced units of the same powers have the same atoms.
* `isProduct_multiply`: what the product of two units is.
* `multiply_eq_empty_iff`: when nothing is left of a product.
* `multiply_group`: the laws of the group, and when a result has no unit.
-/

namespace Rulebook

namespace Measure

variable {u v : Measure}

/-! ## Reduced units -/

/-- Whether two units have the same atoms above the bar and the same atoms below it, in whatever
order. -/
structure SameAtoms (u v : Measure) : Prop where
  numerators : u.numerators.Perm v.numerators
  denominators : u.denominators.Perm v.denominators

/-- Whether no atom stands on both sides of the bar. -/
def IsReduced (u : Measure) : Prop :=
  ∀ name ∈ u.numerators, name ∉ u.denominators

theorem isReduced_empty : empty.IsReduced :=
  nofun

theorem isReduced_multiply (u v : Measure) : (u.multiply v).IsReduced := by
  intro name habove hbelow
  rcases count_cancel_eq_zero name (u.numerators ++ v.numerators)
    (u.denominators ++ v.denominators) with h | h
  · exact List.count_eq_zero.1 h habove
  · exact List.count_eq_zero.1 h hbelow

/-- Nothing cancels in a reduced unit. -/
theorem IsReduced.cancel_eq_self (h : u.IsReduced) : cancel u.numerators u.denominators = u := by
  have happend := cancel_append_of_notMem h []
  rwa [List.append_nil, cancel, List.append_nil] at happend

/-- Two reduced units have the same atoms just if they have the same powers. -/
theorem IsReduced.sameAtoms_iff (hu : u.IsReduced) (hv : v.IsReduced) :
    u.SameAtoms v ↔ ∀ name, u.exponent name = v.exponent name := by
  rw [← hu.cancel_eq_self, ← hv.cancel_eq_self, ← perm_cancel_iff]
  exact ⟨fun h => ⟨h.numerators, h.denominators⟩, fun h => ⟨h.1, h.2⟩⟩

theorem SameAtoms.eq_empty (h : u.SameAtoms empty) : u = empty := by
  rw [← isEmpty_iff, isEmpty, h.numerators.eq_nil, h.denominators.eq_nil]
  rfl

theorem IsReduced.eq_empty_iff (h : u.IsReduced) : u = empty ↔ ∀ name, u.exponent name = 0 := by
  constructor
  · rintro rfl name
    rfl
  · exact fun hzero => ((h.sameAtoms_iff isReduced_empty).2 hzero).eq_empty

/-! ## Products -/

/-- Whether a unit is the product of two others: the powers are added, and the atoms that do not
cancel stay in order. -/
structure IsProduct (u v product : Measure) : Prop where
  exponent (name : String) : product.exponent name = u.exponent name + v.exponent name
  isReduced : product.IsReduced
  numerators : product.numerators.Sublist (u.numerators ++ v.numerators)
  denominators : product.denominators.Sublist (u.denominators ++ v.denominators)

theorem isProduct_multiply (u v : Measure) : IsProduct u v (u.multiply v) where
  exponent := exponent_multiply u v
  isReduced := isReduced_multiply u v
  numerators := numerators_cancel_sublist ..
  denominators := denominators_cancel_sublist ..

/-- The empty unit is neutral. -/
theorem IsReduced.multiply_empty (h : u.IsReduced) : u.multiply empty = u := by
  rw [multiply, empty, List.append_nil, List.append_nil]
  exact h.cancel_eq_self

theorem multiply_comm (u v : Measure) : (u.multiply v).SameAtoms (v.multiply u) := by
  refine ((isReduced_multiply u v).sameAtoms_iff (isReduced_multiply v u)).2 fun name => ?_
  rw [exponent_multiply, exponent_multiply, Int.add_comm]

theorem multiply_assoc (u v w : Measure) :
    ((u.multiply v).multiply w).SameAtoms (u.multiply (v.multiply w)) := by
  refine ((isReduced_multiply _ w).sameAtoms_iff (isReduced_multiply u _)).2 fun name => ?_
  simp only [exponent_multiply, Int.add_assoc]

/-- Nothing is left of a product just if all powers add up to zero. -/
theorem multiply_eq_empty_iff :
    u.multiply v = empty ↔ ∀ name, u.exponent name + v.exponent name = 0 := by
  simp only [(isReduced_multiply u v).eq_empty_iff, exponent_multiply]

/-- Products of units are a group, except for the order of their atoms. What is multiplied or divided
has no unit as a result just if all powers of the result are zero. -/
theorem multiply_group (u v w : Measure) (left right : Option Measure) :
    IsProduct u v (u.multiply v) ∧
      (∀ name, u.inverse.exponent name = -u.exponent name) ∧
      (u.multiply v).multiply empty = u.multiply v ∧
      u.multiply u.inverse = empty ∧
      (u.multiply v).SameAtoms (v.multiply u) ∧
      ((u.multiply v).multiply w).SameAtoms (u.multiply (v.multiply w)) ∧
      (Operator.mul.unit? left right = none ↔
        ∀ name, (orEmpty left).exponent name + (orEmpty right).exponent name = 0) ∧
      (Operator.div.unit? left right = none ↔
        ∀ name, (orEmpty left).exponent name - (orEmpty right).exponent name = 0) := by
  have hproduct : Operator.mul.unit? left right = none ↔
      ∀ name, (orEmpty left).exponent name + (orEmpty right).exponent name = 0 :=
    nonEmpty?_eq_none_iff.trans multiply_eq_empty_iff
  have hquotient : Operator.div.unit? left right = none ↔
      ∀ name, (orEmpty left).exponent name + (orEmpty right).inverse.exponent name = 0 :=
    nonEmpty?_eq_none_iff.trans multiply_eq_empty_iff
  simp only [exponent_inverse, ← Int.sub_eq_add_neg] at hquotient
  exact ⟨isProduct_multiply u v, exponent_inverse u, (isReduced_multiply u v).multiply_empty,
    multiply_inverse u, multiply_comm u v, multiply_assoc u v w, hproduct, hquotient⟩

end Measure

end Rulebook
