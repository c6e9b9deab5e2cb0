import Mathlib.Algebra.BigOperators.Group.List.Basic
import Mathlib.Algebra.Order.Field.Basic
import Rulebook.Proofs.Dimensions
import Rulebook.Quantity

/-!
# Months, quarters and years

Months, quarters and years are whole numbers of months, so that the sizes of
units made of them are exact. The factor between two such units is the quotient
of their sizes, rounded once. It is exact just if the ratio of the sizes is a
decimal, as from years to months; a month in years is not. An amount is then
converted exactly just if its product with the rounded factor is rounded back.

* `exists_totalSize?`: sizes in months are exact as long as they are in range.
* `exists_factor_of_calendar`: the factor is the decimal nearest to the ratio of the sizes.
* `convert_calendar_iff`: what amounts are converted exactly.
-/

namespace Rulebook

theorem Decimal.exists_value_eq_natCast {k : Nat} (h : k ≤ maxMantissa) :
    ∃ d : Decimal, d.value = k :=
  ⟨ofParts k 0 (Nat.zero_le _) h, by simp [ofParts, tenTo_zero]⟩

/-- The product of two whole numbers is exact if it is in range. -/
theorem Decimal.exists_mul?_of_natCast {a b : Decimal} {k m : Nat} (ha : a.value = k)
    (hb : b.value = m) (h : k * m ≤ maxMantissa) :
    ∃ c, a.mul? b = some c ∧ c.value = (k * m : Nat) := by
  obtain ⟨c, hc⟩ := exists_value_eq_natCast h
  refine ⟨c, mul?_of_value ?_, hc⟩
  rw [ha, hb, ← Nat.cast_mul, hc]

theorem Decimal.ne_zero_of_natCast {d : Decimal} {k : Nat} (hk : 0 < k) (hd : d.value = k) :
    d ≠ zero := by
  rintro rfl
  rw [value_zero] at hd
  exact hk.ne (by exact_mod_cast hd)

/-- A whole number over another one has a quotient. -/
theorem Decimal.exists_div?_of_natCast {a b : Decimal} {k m : Nat} (hm : 0 < m) (ha : a.value = k)
    (hb : b.value = m) :
    ∃ q tie, a.div? b = some q ∧ nearest? tie (k / m) = some q := by
  have hk : (k : Rat) ≤ maxMantissa := ha ▸ a.value_bounds.2
  have hm' : (1 : Rat) ≤ m := by exact_mod_cast hm
  have hnonneg : 0 ≤ (k : Rat) / m := div_nonneg (Nat.cast_nonneg k) (Nat.cast_nonneg m)
  have hle : (k : Rat) / m ≤ maxMantissa := le_trans (div_le_self (Nat.cast_nonneg k) hm') hk
  have hlow : -(maxMantissa : Rat) ≤ k / m := le_trans (neg_nonpos.2 (Nat.cast_nonneg _)) hnonneg
  obtain ⟨q, hq⟩ := Option.isSome_iff_exists.1
    (isSome_nearest? (Tie.natAbs_round_le (quotientTie a b) hlow hle))
  refine ⟨q, quotientTie a b, div?_eq_some_iff.2 ⟨ne_zero_of_natCast hm hb, ?_⟩, hq⟩
  rw [ha, hb, hq]

namespace Measure

/-! ## Exact sizes -/

/-- The size of a list of atoms in base atoms. -/
def exactSize (atoms : List String) : Rat :=
  (atoms.map fun name => (atomSize name).count).prod

/-- How many units `v` make one unit `u`. -/
def ratio (u v : Measure) : Rat :=
  exactSize u.numerators * exactSize v.denominators /
    (exactSize u.denominators * exactSize v.numerators)

/-- The atoms of the calendar are months, quarters and years. They go together with any atoms
that, like months, are their own base. -/
inductive CalendarAtom : String → Prop
  | quarter : CalendarAtom "quarter"
  | year : CalendarAtom "year"
  | own {name : String} : atomSizes.lookup name = none → CalendarAtom name

/-- Whether all atoms of a unit are of the calendar or their own base. -/
structure Calendar (u : Measure) : Prop where
  numerators : ∀ name ∈ u.numerators, CalendarAtom name
  denominators : ∀ name ∈ u.denominators, CalendarAtom name

theorem CalendarAtom.exists_count {name : String} (h : CalendarAtom name) :
    ∃ k : Nat, 0 < k ∧ (atomSize name).count = k := by
  cases h with
  | quarter => exact ⟨3, by decide, by decide +kernel⟩
  | year => exact ⟨12, by decide, by decide +kernel⟩
  | own h => exact ⟨1, by decide, by rw [atomSize, h]; rfl⟩

theorem exists_exactSize {atoms : List String} (h : ∀ name ∈ atoms, CalendarAtom name) :
    ∃ k : Nat, 0 < k ∧ exactSize atoms = k := by
  induction atoms with
  | nil => exact ⟨1, by decide, by simp [exactSize]⟩
  | cons name atoms ih =>
    obtain ⟨hname, hatoms⟩ := List.forall_mem_cons.1 h
    obtain ⟨k, hk, hcount⟩ := hname.exists_count
    obtain ⟨m, hm, hsize⟩ := ih hatoms
    refine ⟨k * m, Nat.mul_pos hk hm, ?_⟩
    rw [exactSize] at hsize
    rw [exactSize, List.map_cons, List.prod_cons, hcount, hsize, Nat.cast_mul]

theorem exists_atomCount? {name : String} {k : Nat}
    (hcount : (atomSize name).count = k) (hle : k ≤ Decimal.maxMantissa) :
    ∃ d, atomCount? name = some d ∧ d.value = k := by
  obtain ⟨d, hd⟩ := Decimal.exists_value_eq_natCast hle
  refine ⟨d, ?_, hd⟩
  rw [atomCount?, hcount, ← hd, Decimal.nearest?_value]

/-- No size on the way is larger than the whole one, so that none is rounded. -/
theorem exists_foldlM_totalSize {atoms : List String} (h : ∀ name ∈ atoms, CalendarAtom name)
    {total : Decimal} {k size : Nat} (hk : 0 < k) (htotal : total.value = k)
    (hsize : exactSize atoms = size) (hle : k * size ≤ Decimal.maxMantissa) :
    ∃ d, atoms.foldlM (fun total name => (atomCount? name).bind total.mul?) total = some d ∧
      d.value = (k * size : Nat) := by
  induction atoms generalizing total k size with
  | nil =>
    have hone : size = 1 := by
      rw [exactSize, List.map_nil, List.prod_nil] at hsize
      exact_mod_cast hsize.symm
    exact ⟨total, rfl, by rw [hone, Nat.mul_one, htotal]⟩
  | cons name atoms ih =>
    obtain ⟨hname, hatoms⟩ := List.forall_mem_cons.1 h
    obtain ⟨m, hm, hcount⟩ := hname.exists_count
    obtain ⟨rest, hrest, hrestsize⟩ := exists_exactSize hatoms
    have hsplit : size = m * rest := by
      rw [exactSize, List.map_cons, List.prod_cons, hcount, ← exactSize, hrestsize] at hsize
      exact_mod_cast hsize.symm
    rw [hsplit, ← Nat.mul_assoc] at hle ⊢
    have hproduct : k * m ≤ Decimal.maxMantissa := le_trans (Nat.le_mul_of_pos_right _ hrest) hle
    obtain ⟨count, hcount?, hcountvalue⟩ :=
      exists_atomCount? hcount (le_trans (Nat.le_mul_of_pos_left _ hk) hproduct)
    obtain ⟨next, hnext, hnextvalue⟩ :=
      Decimal.exists_mul?_of_natCast htotal hcountvalue hproduct
    obtain ⟨d, hd, hdvalue⟩ := ih hatoms (Nat.mul_pos hk hm) hnextvalue hrestsize hle
    refine ⟨d, ?_, hdvalue⟩
    rw [List.foldlM_cons, hcount?, Option.bind_some, hnext]
    exact hd

/-- A size that is in range is exact. -/
theorem exists_totalSize? {atoms : List String} (h : ∀ name ∈ atoms, CalendarAtom name) {size : Nat}
    (hsize : exactSize atoms = size) (hle : size ≤ Decimal.maxMantissa) :
    ∃ d, totalSize? atoms = some d ∧ d.value = size := by
  have hone : Decimal.one.value = (1 : Nat) := Decimal.value_one.trans Nat.cast_one.symm
  obtain ⟨d, hd, hvalue⟩ := exists_foldlM_totalSize h Nat.one_pos hone hsize (by rwa [Nat.one_mul])
  exact ⟨d, hd, by rw [hvalue, Nat.one_mul]⟩

/-! ## Factors -/

variable {u v : Measure}

/-- A unit is one time itself. -/
theorem ratio_self (hu : u.Calendar) : u.ratio u = 1 := by
  obtain ⟨k, hk, hnumerators⟩ := exists_exactSize hu.numerators
  obtain ⟨m, hm, hdenominators⟩ := exists_exactSize hu.denominators
  have hproduct : ((m * k : Nat) : Rat) ≠ 0 := Nat.cast_ne_zero.2 (Nat.mul_pos hm hk).ne'
  rw [ratio, hnumerators, hdenominators, mul_comm, ← Nat.cast_mul, div_self hproduct]

/-- The sizes of a unit are exact if they are in range. -/
theorem Calendar.exists_size? (hu : u.Calendar) {numerator denominator : Nat}
    (hnumerators : exactSize u.numerators = numerator) (hn : numerator ≤ Decimal.maxMantissa)
    (hdenominators : exactSize u.denominators = denominator)
    (hd : denominator ≤ Decimal.maxMantissa) :
    ∃ s, u.size? = some s ∧ s.numerator.value = numerator ∧ s.denominator.value = denominator := by
  obtain ⟨n, hsome, hvalue⟩ := exists_totalSize? hu.numerators hnumerators hn
  obtain ⟨d, hsome', hvalue'⟩ := exists_totalSize? hu.denominators hdenominators hd
  exact ⟨⟨n, d⟩, size?_eq_some_iff.2 ⟨hsome, hsome'⟩, hvalue, hvalue'⟩

/-- The quotient of whole sizes is rounded once, if both products are in range. -/
theorem exists_quotient {s t : Size} {sn sd tn td : Nat} (hsn : s.numerator.value = sn)
    (hsd : s.denominator.value = sd) (htn : t.numerator.value = tn) (htd : t.denominator.value = td)
    (hdividend : sn * td ≤ Decimal.maxMantissa) (hdivisor : sd * tn ≤ Decimal.maxMantissa)
    (hpos : 0 < sd * tn) (e e' : Error) :
    ∃ f tie, quotient s t e e' = .ok f ∧
      Decimal.nearest? tie ((sn * td : Nat) / (sd * tn : Nat)) = some f := by
  obtain ⟨dividend, hdividend?, hdividendvalue⟩ := Decimal.exists_mul?_of_natCast hsn htd hdividend
  obtain ⟨divisor, hdivisor?, hdivisorvalue⟩ := Decimal.exists_mul?_of_natCast hsd htn hdivisor
  obtain ⟨f, tie, hf, hnearest⟩ :=
    Decimal.exists_div?_of_natCast hpos hdividendvalue hdivisorvalue
  have hne := Decimal.ne_zero_of_natCast hpos hdivisorvalue
  exact ⟨f, tie, quotient_eq_ok_iff.2 ⟨divisor, dividend, hdivisor?, hne, hdividend?, hf⟩, hnearest⟩

/-- The factor between two units of the calendar is their ratio, rounded once, if the two products
of which it is the quotient are in range. -/
theorem exists_factor_of_calendar (hu : u.Calendar) (hv : v.Calendar)
    (hdim : u.dimension = v.dimension)
    (hdividend : exactSize u.numerators * exactSize v.denominators ≤ Decimal.maxMantissa)
    (hdivisor : exactSize u.denominators * exactSize v.numerators ≤ Decimal.maxMantissa) :
    ∃ f tie, u.factor v = .ok f ∧ Decimal.nearest? tie (u.ratio v) = some f := by
  by_cases hne : u = v
  · subst hne
    refine ⟨.one, .toEven, factor_self u, ?_⟩
    rw [ratio_self hu, ← Decimal.value_one, Decimal.nearest?_value]
  · obtain ⟨un, hun, hunsize⟩ := exists_exactSize hu.numerators
    obtain ⟨ud, hud, hudsize⟩ := exists_exactSize hu.denominators
    obtain ⟨vn, hvn, hvnsize⟩ := exists_exactSize hv.numerators
    obtain ⟨vd, hvd, hvdsize⟩ := exists_exactSize hv.denominators
    rw [hunsize, hvdsize] at hdividend
    rw [hudsize, hvnsize] at hdivisor
    norm_cast at hdividend hdivisor
    -- Each size is a factor of one of the two products, and so in range with it.
    obtain ⟨s, hs, hsn, hsd⟩ := hu.exists_size? hunsize
      (le_trans (Nat.le_mul_of_pos_right _ hvd) hdividend) hudsize
      (le_trans (Nat.le_mul_of_pos_right _ hvn) hdivisor)
    obtain ⟨t, ht, htn, htd⟩ := hv.exists_size? hvnsize
      (le_trans (Nat.le_mul_of_pos_left _ hud) hdivisor) hvdsize
      (le_trans (Nat.le_mul_of_pos_left _ hun) hdividend)
    rw [factor_eq_quotient hne hdim hs ht, ratio, hunsize, hvdsize, hudsize, hvnsize]
    exact_mod_cast exists_quotient hsn hsd htn htd hdividend hdivisor (Nat.mul_pos hud hvn) _ _

/-! ## Amounts -/

/-- Amounts in two units of the calendar that have one dimension are converted by the ratio of the
units, rounded to a decimal. An amount whose exact conversion is a decimal is converted to it just
if the product with the rounded ratio is rounded back, and always if the ratio is a decimal itself.
The empty unit is no unit, so that amounts in it are kept. -/
theorem convert_calendar_iff (hu : u.Calendar) (hv : v.Calendar)
    (hdim : u.dimension = v.dimension)
    (hdividend : exactSize u.numerators * exactSize v.denominators ≤ Decimal.maxMantissa)
    (hdivisor : exactSize u.denominators * exactSize v.numerators ≤ Decimal.maxMantissa)
    {n x : Decimal} (hx : n.value * u.ratio v = x.value) :
    ∃ f tie, u.factor v = .ok f ∧ Decimal.nearest? tie (u.ratio v) = some f ∧
      ((Outcome.number n).convert (some u) v = .ok (.number x) ↔
        if u = .empty then n = x else n.mul? f = some x) ∧
      (u ≠ .empty → (∃ r : Decimal, r.value = u.ratio v) →
        (Outcome.number n).convert (some u) v = .ok (.number x)) := by
  obtain ⟨f, tie, hf, hnearest⟩ := exists_factor_of_calendar hu hv hdim hdividend hdivisor
  refine ⟨f, tie, hf, hnearest, ?_, ?_⟩
  · split
    · rename_i hempty
      rw [Outcome.convert_of_normal_eq_none (by rw [hempty]; rfl)]
      simp [Outcome.number]
    · exact Outcome.convert_number_eq_ok_iff ‹_› hf n x
  · rintro hne ⟨r, hr⟩
    rw [← hr, Decimal.nearest?_value, Option.some_inj] at hnearest
    rw [Outcome.convert_number_eq_ok_iff hne hf, Decimal.mul?, ← hnearest, hr, hx,
      Decimal.nearest?_value]

/-- Ten square quarters are seven and a half months times years. -/
theorem convert_calendar_iff_quarters :
    let u : Measure := ⟨["quarter", "quarter"], []⟩
    let v : Measure := ⟨["month", "year"], []⟩
    u.Calendar ∧ v.Calendar ∧ u.dimension = v.dimension ∧
      (Decimal.ofParts 10 0).value * u.ratio v = (Decimal.ofParts 75 1).value ∧
      (Outcome.number (.ofParts 10 0)).convert (some u) v = .ok (.number (.ofParts 75 1)) := by
  intro u v
  have hu : u.Calendar := ⟨by simpa [u] using .quarter, by simp [u]⟩
  have hv : v.Calendar := ⟨by simpa [v] using ⟨.own rfl, .year⟩, by simp [v]⟩
  have hdim : u.dimension = v.dimension := sameDimension_iff_dimension_eq.1 (by decide +kernel)
  have hx : (Decimal.ofParts 10 0).value * u.ratio v = (Decimal.ofParts 75 1).value := by
    decide +kernel
  obtain ⟨f, tie, -, -, -, hexact⟩ :=
    convert_calendar_iff hu hv hdim (by decide +kernel) (by decide +kernel) hx
  exact ⟨hu, hv, hdim, hx, hexact (by decide) ⟨.ofParts 75 2, by decide +kernel⟩⟩

/-- Twelve months are not converted to a year: the ratio of a month to a year, a twelfth, is rounded
to a little less. -/
theorem not_convert_months_year :
    let month : Measure := .atom "month"
    let year : Measure := .atom "year"
    month.Calendar ∧ year.Calendar ∧ month.dimension = year.dimension ∧
      exactSize month.numerators = 1 ∧ exactSize year.numerators = 12 ∧
      (Decimal.ofParts 12 0).value * month.ratio year = Decimal.one.value ∧
      (Outcome.number (.ofParts 12 0)).convert (some month) year =
        .ok (.number (.ofParts 9999999999999999999999999996 28)) ∧
      (Outcome.number (.ofParts 12 0)).convert (some month) year ≠ .ok (.number .one) := by
  intro month year
  have hmonth : month.Calendar := ⟨by simpa [month, atom] using .own rfl, by simp [month, atom]⟩
  have hyear : year.Calendar := ⟨by simpa [year, atom] using .year, by simp [year, atom]⟩
  have hfactor : month.factor year = .ok (.ofParts 833333333333333333333333333 28) :=
    factor_eq_ok (by decide +kernel)
  refine ⟨hmonth, hyear, sameDimension_iff_dimension_eq.1 (by decide +kernel), by decide +kernel,
    by decide +kernel, by decide +kernel, ?_, ?_⟩
  · exact (Outcome.convert_number_eq_ok_iff (by decide) hfactor _ _).2 (by decide +kernel)
  · rw [Ne, Outcome.convert_number_eq_ok_iff (by decide) hfactor]
    decide +kernel

end Measure

end Rulebook
