/-!
# Units of measure

A unit of measure is a product of atoms over a product of atoms, such as
kilograms over square metres. Units are multiplied by cancelling atoms that
stand on both sides.

* `exponent_multiply`, `exponent_inverse`: the powers of an atom add up, and
  turning a unit over negates them.
* `perm_cancel_iff`: what is left after cancelling is a normal form of the powers.
* `multiply_inverse`: a unit over itself is empty.
* `normal_eq_some_iff`: the empty unit counts as no unit.
-/

namespace Rulebook

/-- A unit of measure, as the atoms above and below the fraction bar. -/
structure Measure where
  numerators : List String
  denominators : List String
deriving DecidableEq

namespace Measure

/-- The unit without atoms. -/
def empty : Measure := ⟨[], []⟩

/-- The unit made of one atom. -/
def atom (name : String) : Measure := ⟨[name], []⟩

/-- The atom of percentages. -/
def percentAtom : String := "%"

/-- The unit `%`. -/
def percent : Measure := atom percentAtom

def isEmpty (u : Measure) : Bool :=
  u.numerators.isEmpty && u.denominators.isEmpty

/-- Whether the unit is `%` and nothing else. -/
def isPercent (u : Measure) : Bool :=
  u == percent

/-- Whether `%` stands above the fraction bar. -/
def hasPercent (u : Measure) : Bool :=
  u.numerators.contains percentAtom

/-- The unit turned over. -/
def inverse (u : Measure) : Measure :=
  ⟨u.denominators, u.numerators⟩

/-- The atoms `above` over the atoms `below`, where each atom above takes an equal one below with
it. The others stay in order. -/
def cancel : (above below : List String) → Measure
  | [], below => ⟨[], below⟩
  | a :: above, below =>
    if a ∈ below then cancel above (below.erase a)
    else ⟨a :: (cancel above below).numerators, (cancel above below).denominators⟩

/-- The product of two units. -/
def multiply (u v : Measure) : Measure :=
  cancel (u.numerators ++ v.numerators) (u.denominators ++ v.denominators)

/-- The unit, or nothing for the empty one. -/
def nonEmpty? (u : Measure) : Option Measure :=
  if u.isEmpty then none else some u

/-- An optional unit, where the empty unit is no unit. -/
def normal (u : Option Measure) : Option Measure :=
  u.bind nonEmpty?

/-- A unit, where no unit is the empty one. -/
def orEmpty (u : Option Measure) : Measure :=
  u.getD empty

/-- The power of an atom in a unit: how often it stands above the bar, less how often below. -/
def exponent (u : Measure) (name : String) : Int :=
  u.numerators.count name - u.denominators.count name

/-! ## Cancelling -/

theorem count_cancel (name : String) (above below : List String) :
    (cancel above below).numerators.count name + below.count name =
      (cancel above below).denominators.count name + above.count name := by
  induction above generalizing below with
  | nil => rw [cancel, List.count_nil, Nat.add_comm]
  | cons a above ih =>
    rw [cancel]
    split
    · rename_i ha
      have hrest := ih (below.erase a)
      have hpos := List.count_pos_iff.2 ha
      by_cases hname : a = name
      · subst hname
        rw [List.count_erase_self] at hrest
        rw [List.count_cons_self]
        omega
      · rw [List.count_erase_of_ne (Ne.symm hname)] at hrest
        rw [List.count_cons_of_ne hname]
        omega
    · have hrest := ih below
      by_cases hname : a = name
      · subst hname
        simp only [List.count_cons_self]
        omega
      · simp only [List.count_cons_of_ne hname]
        omega

/-- The atoms left above stay in order. -/
theorem numerators_cancel_sublist (above below : List String) :
    (cancel above below).numerators.Sublist above := by
  induction above generalizing below with
  | nil => exact .slnil
  | cons a above ih =>
    rw [cancel]
    split
    · exact (ih _).cons _
    · exact (ih _).cons_cons _

/-- The atoms left below stay in order. -/
theorem denominators_cancel_sublist (above below : List String) :
    (cancel above below).denominators.Sublist below := by
  induction above generalizing below with
  | nil => exact List.Sublist.refl _
  | cons a above ih =>
    rw [cancel]
    split
    · exact (ih _).trans List.erase_sublist
    · exact ih _

/-- No atom is left on both sides. -/
theorem count_cancel_eq_zero (name : String) (above below : List String) :
    (cancel above below).numerators.count name = 0 ∨
      (cancel above below).denominators.count name = 0 := by
  induction above generalizing below with
  | nil => exact .inl List.count_nil
  | cons a above ih =>
    rw [cancel]
    split
    · exact ih _
    · rename_i ha
      by_cases hname : a = name
      · subst hname
        refine .inr (List.count_eq_zero.2 fun hmem => ha ?_)
        exact (denominators_cancel_sublist above below).subset hmem
      · rw [List.count_cons_of_ne hname]
        exact ih below

/-- Cancelling keeps the power of every atom. -/
theorem exponent_cancel (above below : List String) (name : String) :
    (cancel above below).exponent name = above.count name - below.count name := by
  have h := count_cancel name above below
  rw [exponent]
  omega

/-- An atom is left as often as its power says, on the side that its sign says. -/
theorem count_cancel_eq_toNat (above below : List String) (name : String) :
    (cancel above below).numerators.count name = ((cancel above below).exponent name).toNat ∧
      (cancel above below).denominators.count name =
        (-(cancel above below).exponent name).toNat := by
  have h := count_cancel_eq_zero name above below
  simp only [exponent]
  omega

/-- The same atoms are left of two fractions, in whatever order, just if they have the same
powers. -/
theorem perm_cancel_iff {above below above' below' : List String} :
    (cancel above below).numerators.Perm (cancel above' below').numerators ∧
        (cancel above below).denominators.Perm (cancel above' below').denominators ↔
      ∀ name, (cancel above below).exponent name = (cancel above' below').exponent name := by
  constructor
  · rintro ⟨hnumerators, hdenominators⟩ name
    rw [exponent, exponent, hnumerators.count_eq, hdenominators.count_eq]
  · intro h
    constructor <;> refine List.perm_iff_count.2 fun name => ?_
    · rw [(count_cancel_eq_toNat _ _ name).1, (count_cancel_eq_toNat _ _ name).1, h]
    · rw [(count_cancel_eq_toNat _ _ name).2, (count_cancel_eq_toNat _ _ name).2, h]

/-- Atoms above cancel with the same atoms below, in whatever order they stand. -/
theorem cancel_of_perm {above below : List String} (h : above.Perm below) :
    cancel above below = empty := by
  induction above generalizing below with
  | nil => rw [cancel, ← List.Perm.nil_eq h, empty]
  | cons a above ih =>
    have ha : a ∈ below := h.subset (List.mem_cons_self ..)
    rw [cancel, if_pos ha]
    exact ih (h.trans (List.perm_cons_erase ha)).cons_inv

/-- Atoms that are not below stay above, and the others cancel among themselves. -/
theorem cancel_append_of_notMem {above below : List String} (h : ∀ name ∈ above, name ∉ below)
    (rest : List String) :
    cancel (above ++ rest) below =
      ⟨above ++ (cancel rest below).numerators, (cancel rest below).denominators⟩ := by
  induction above with
  | nil => rfl
  | cons a above ih =>
    obtain ⟨ha, habove⟩ := List.forall_mem_cons.1 h
    rw [List.cons_append, cancel, if_neg ha, ih habove, List.cons_append]

/-! ## Products -/

/-- The powers of an atom add up. -/
theorem exponent_multiply (u v : Measure) (name : String) :
    (u.multiply v).exponent name = u.exponent name + v.exponent name := by
  rw [multiply, exponent_cancel, exponent, exponent, List.count_append, List.count_append]
  omega

theorem exponent_inverse (u : Measure) (name : String) :
    u.inverse.exponent name = -u.exponent name := by
  simp only [exponent, inverse]
  omega

/-- A unit over itself is empty. -/
theorem multiply_inverse (u : Measure) : u.multiply u.inverse = empty :=
  cancel_of_perm List.perm_append_comm

/-! ## The empty unit -/

theorem isEmpty_iff {u : Measure} : u.isEmpty = true ↔ u = empty := by
  cases u
  simp only [isEmpty, empty, Bool.and_eq_true, List.isEmpty_iff, mk.injEq]

/-- What is kept is the unit itself, and not empty. -/
theorem nonEmpty?_eq_some_iff {u v : Measure} : u.nonEmpty? = some v ↔ u = v ∧ v ≠ empty := by
  rw [nonEmpty?]
  split
  · rename_i h
    rw [isEmpty_iff] at h
    simp only [reduceCtorEq, false_iff, not_and, Decidable.not_not]
    rintro rfl
    exact h
  · rename_i h
    rw [isEmpty_iff] at h
    simp only [Option.some_inj]
    exact ⟨fun e => ⟨e, e ▸ h⟩, And.left⟩

theorem nonEmpty?_eq_none_iff {u : Measure} : u.nonEmpty? = none ↔ u = empty := by
  rw [nonEmpty?, ite_eq_left_iff, ← isEmpty_iff]
  simp

theorem normal_eq_some_iff {u : Option Measure} {v : Measure} :
    normal u = some v ↔ u = some v ∧ v ≠ empty := by
  cases u with
  | none => simp only [normal, Option.bind_none, reduceCtorEq, false_and]
  | some w => simp only [normal, Option.bind_some, nonEmpty?_eq_some_iff, Option.some_inj]

theorem normal_ne_empty (u : Option Measure) : normal u ≠ some empty :=
  fun h => (normal_eq_some_iff.1 h).2 rfl

theorem normal_eq_self {u : Option Measure} (h : u ≠ some empty) : normal u = u := by
  cases u with
  | none => rfl
  | some v => exact normal_eq_some_iff.2 ⟨rfl, fun hv => h (congrArg some hv)⟩

theorem or_ne_empty {u v : Option Measure} (hu : u ≠ some empty) (hv : v ≠ some empty) :
    u.or v ≠ some empty := by
  intro h
  rcases Option.or_eq_some_iff.1 h with h | ⟨-, h⟩
  · exact hu h
  · exact hv h

theorem orEmpty_nonEmpty? (u : Measure) : orEmpty u.nonEmpty? = u := by
  rw [nonEmpty?]
  split
  · rename_i h
    exact (isEmpty_iff.1 h).symm
  · rfl

theorem nonEmpty?_orEmpty (u : Option Measure) : (orEmpty u).nonEmpty? = normal u := by
  cases u <;> rfl

/-- It does not matter whether the empty unit is taken for no unit. -/
theorem orEmpty_normal (u : Option Measure) : orEmpty (normal u) = orEmpty u := by
  cases u with
  | none => rfl
  | some v => exact v.orEmpty_nonEmpty?

theorem normal_normal (u : Option Measure) : normal (normal u) = normal u := by
  cases h : normal u with
  | none => rfl
  | some v => rw [normal_eq_some_iff] at h ⊢; exact ⟨rfl, h.2⟩

end Measure

end Rulebook
