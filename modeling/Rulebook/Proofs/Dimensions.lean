import Mathlib.Algebra.Order.Field.Rat
import Rulebook.Measure.Conversion

/-!
# Dimensions

The dimension of a unit gives each base atom its power: how many atoms above the
bar are so many of it, less how many of those below. Cancelling leaves an atom
on one side of the bar only, so that the same base atoms are left of two units,
in whatever order, just if the units have the same dimension. Units of one
dimension convert into each other as far as their sizes can be written as
decimals.

* `sameDimension_iff_dimension_eq`: base atoms that are left are a normal form of the dimension.
* `factor_eq_incompatible_iff`: when units of one dimension do not convert for their sizes.
* `factor_of_dimensions`: what the factor of two units is, by their dimensions.
-/

namespace Rulebook

/-- No quotient of numbers that are not negative is negative. -/
theorem Decimal.nonneg_of_div? {a b q : Decimal} (ha : 0 ≤ a.value) (hb : 0 ≤ b.value)
    (h : a.div? b = some q) : 0 ≤ q.value :=
  nonneg_of_nearest? (div_nonneg ha hb) (div?_eq_some_iff.1 h).2

namespace Measure

variable {u v : Measure}

/-! ## Powers of base atoms -/

/-- Whether an atom is so many of the base atom. -/
def isCountOf (base name : String) : Bool :=
  (atomSize name).base == some base

/-- The powers of the base atoms in a unit. An atom that is a number alone counts for none. -/
def dimension (u : Measure) (base : String) : Int :=
  u.numerators.countP (isCountOf base) - u.denominators.countP (isCountOf base)

theorem count_baseAtoms (base : String) (atoms : List String) :
    (baseAtoms atoms).count base = atoms.countP (isCountOf base) :=
  List.count_filterMap

/-- The powers of the base atoms stay the same when they cancel. -/
theorem exponent_inBase (u : Measure) (base : String) :
    u.inBase.exponent base = u.dimension base := by
  rw [inBase, exponent_cancel, count_baseAtoms, count_baseAtoms, dimension]

/-- The same base atoms are left of two units just if they have the same dimension. -/
theorem sameDimension_iff_dimension_eq : u.sameDimension v = true ↔ u.dimension = v.dimension := by
  rw [sameDimension_iff, inBase, inBase, perm_cancel_iff, funext_iff]
  refine forall_congr' fun base => ?_
  rw [← exponent_inBase u, ← exponent_inBase v, inBase, inBase]

/-! ## Sizes -/

theorem atomSize_count_pos (name : String) : 0 < (atomSize name).count := by
  have hlisted : ∀ entry ∈ atomSizes, 0 < entry.2.count := by decide +kernel
  rw [atomSize]
  cases h : atomSizes.lookup name with
  | none => exact one_pos
  | some size =>
    obtain ⟨before, after, hsplit, -⟩ := List.lookup_eq_some_iff.1 h
    exact hlisted (name, size) (by rw [hsplit]; simp)

theorem nonneg_of_atomCount? {name : String} {d : Decimal} (h : atomCount? name = some d) :
    0 ≤ d.value :=
  Decimal.nonneg_of_nearest? (atomSize_count_pos name).le h

/-- No size is negative, though a small one may be rounded to zero. -/
theorem nonneg_of_totalSize? {atoms : List String} {d : Decimal} (h : totalSize? atoms = some d) :
    0 ≤ d.value := by
  suffices hfrom : ∀ total : Decimal, 0 ≤ total.value →
      atoms.foldlM (fun total name => (atomCount? name).bind total.mul?) total = some d →
        0 ≤ d.value from hfrom .one (Decimal.value_one ▸ zero_le_one) h
  clear h
  induction atoms with
  | nil =>
    rintro total htotal ⟨⟩
    exact htotal
  | cons name atoms ih =>
    intro total htotal h
    obtain ⟨next, hnext, hrest⟩ := Option.bind_eq_some_iff.1 h
    obtain ⟨count, hcount, hmul⟩ := Option.bind_eq_some_iff.1 hnext
    have hproduct := mul_nonneg htotal (nonneg_of_atomCount? hcount)
    exact ih next (Decimal.nonneg_of_nearest? hproduct hmul) hrest

theorem size?_eq_some_iff {s : Size} :
    u.size? = some s ↔
      totalSize? u.numerators = some s.numerator ∧ totalSize? u.denominators = some s.denominator := by
  constructor
  · intro h
    obtain ⟨numerator, hnumerator, hrest⟩ := Option.bind_eq_some_iff.1 h
    obtain ⟨denominator, hdenominator, hsize⟩ := Option.bind_eq_some_iff.1 hrest
    cases hsize
    exact ⟨hnumerator, hdenominator⟩
  · rintro ⟨hnumerator, hdenominator⟩
    rw [size?, hnumerator, hdenominator]
    rfl

/-! ## Factors -/

/-- A factor is a product of two sizes over another one that is not zero. -/
theorem quotient_eq_ok_iff {s t : Size} {e e' : Error} {f : Decimal} :
    quotient s t e e' = .ok f ↔
      ∃ divisor dividend, s.denominator.mul? t.numerator = some divisor ∧ divisor ≠ .zero ∧
        s.numerator.mul? t.denominator = some dividend ∧ dividend.div? divisor = some f := by
  unfold quotient
  cases hdivisor : s.denominator.mul? t.numerator with
  | none => simp
  | some divisor =>
    by_cases hzero : divisor = .zero
    · simp [hzero]
    · cases hdividend : s.numerator.mul? t.denominator with
      | none => simp [hzero]
      | some dividend =>
        cases hf : dividend.div? divisor with
        | none => simp [hzero, hf]
        | some f' => simp [hzero, hf]

/-- There is no factor just if a product overflows or the one to divide by is rounded to zero. -/
theorem quotient_cases (s t : Size) (e e' : Error) :
    s.denominator.mul? t.numerator = some .zero ∧ quotient s t e e' = .error e ∨
      s.denominator.mul? t.numerator ≠ some .zero ∧
        (quotient s t e e' = .error e' ∨ ∃ f, quotient s t e e' = .ok f) := by
  unfold quotient
  split
  · rename_i hnone
    exact .inr ⟨by rw [hnone]; nofun, .inl rfl⟩
  · rename_i divisor hdivisor
    split
    · rename_i hzero
      exact .inl ⟨by rw [hdivisor, hzero], rfl⟩
    · rename_i hzero
      refine .inr ⟨by rw [hdivisor, Ne, Option.some_inj]; exact hzero, ?_⟩
      split
      · exact .inl rfl
      · exact .inr ⟨_, rfl⟩

/-- Units of one dimension convert by the quotient of their sizes. -/
theorem factor_eq_quotient {s t : Size} (hne : u ≠ v) (hdim : u.dimension = v.dimension)
    (hs : u.size? = some s) (ht : v.size? = some t) :
    u.factor v = quotient s t (.incompatible u v) (.overflow u v) := by
  rw [factor, if_neg hne, if_pos (sameDimension_iff_dimension_eq.2 hdim), hs, ht]

/-- If nothing overflows, both units have a size. -/
theorem exists_sizes_of_factor_ne (hne : u ≠ v) (hdim : u.dimension = v.dimension)
    (h : u.factor v ≠ .error (.overflow u v)) :
    ∃ s t, u.size? = some s ∧ v.size? = some t ∧
      u.factor v = quotient s t (.incompatible u v) (.overflow u v) := by
  have hfactor := h
  rw [factor, if_neg hne, if_pos (sameDimension_iff_dimension_eq.2 hdim)] at h
  split at h
  · rename_i s t hs ht
    exact ⟨s, t, hs, ht, factor_eq_quotient hne hdim hs ht⟩
  · exact absurd rfl h

/-- Units of one dimension have a factor unless a product overflows or is rounded to zero. -/
theorem factor_cases (hdim : u.dimension = v.dimension) :
    (∃ f, u.factor v = .ok f) ∨ u.factor v = .error (.overflow u v) ∨
      u.factor v = .error (.incompatible u v) := by
  by_cases hne : u = v
  · subst hne
    exact .inl ⟨.one, factor_self u⟩
  · by_cases hoverflow : u.factor v = .error (.overflow u v)
    · exact .inr (.inl hoverflow)
    · obtain ⟨s, t, -, -, hquotient⟩ := exists_sizes_of_factor_ne hne hdim hoverflow
      rw [hquotient]
      rcases quotient_cases s t (.incompatible u v) (.overflow u v) with ⟨-, h⟩ | ⟨-, h | h⟩
      · exact .inr (.inr h)
      · exact .inr (.inl h)
      · exact .inl h

/-- Units of one dimension are taken for incompatible just if they are not the same and the size to
divide by is rounded to zero. -/
theorem factor_eq_incompatible_iff (hdim : u.dimension = v.dimension) :
    u.factor v = .error (.incompatible u v) ↔
      u ≠ v ∧ ∃ s t, u.size? = some s ∧ v.size? = some t ∧
        s.denominator.mul? t.numerator = some .zero := by
  constructor
  · intro h
    have hne : u ≠ v := by
      rintro rfl
      rw [factor_self] at h
      cases h
    obtain ⟨s, t, hs, ht, hquotient⟩ := exists_sizes_of_factor_ne hne hdim (by rw [h]; nofun)
    refine ⟨hne, s, t, hs, ht, ?_⟩
    rw [hquotient] at h
    rcases quotient_cases s t (.incompatible u v) (.overflow u v) with
      ⟨hzero, -⟩ | ⟨-, hq | ⟨f, hq⟩⟩
    · exact hzero
    · rw [hq] at h
      cases h
    · rw [hq] at h
      cases h
  · rintro ⟨hne, s, t, hs, ht, hzero⟩
    rw [factor_eq_quotient hne hdim hs ht]
    rcases quotient_cases s t (.incompatible u v) (.overflow u v) with ⟨-, h⟩ | ⟨h, -⟩
    · exact h
    · exact absurd hzero h

theorem dimension_eq_of_factor {f : Decimal} (h : u.factor v = .ok f) :
    u.dimension = v.dimension := by
  rw [← sameDimension_iff_dimension_eq]
  cases hdim : u.sameDimension v with
  | true => rfl
  | false =>
    rw [factor_of_not_sameDimension hdim] at h
    cases h

/-- No factor is negative. -/
theorem nonneg_of_factor {f : Decimal} (h : u.factor v = .ok f) : 0 ≤ f.value := by
  by_cases hne : u = v
  · subst hne
    rw [factor_self] at h
    cases h
    decide +kernel
  · obtain ⟨s, t, hs, ht, hquotient⟩ :=
      exists_sizes_of_factor_ne hne (dimension_eq_of_factor h) (by rw [h]; nofun)
    rw [hquotient] at h
    obtain ⟨divisor, dividend, hdivisor, -, hdividend, hf⟩ := quotient_eq_ok_iff.1 h
    obtain ⟨hsnum, hsden⟩ := size?_eq_some_iff.1 hs
    obtain ⟨htnum, htden⟩ := size?_eq_some_iff.1 ht
    have hproduct {a b c : Decimal} (ha : 0 ≤ a.value) (hb : 0 ≤ b.value)
        (hc : a.mul? b = some c) : 0 ≤ c.value := Decimal.nonneg_of_nearest? (mul_nonneg ha hb) hc
    exact Decimal.nonneg_of_div?
      (hproduct (nonneg_of_totalSize? hsnum) (nonneg_of_totalSize? htden) hdividend)
      (hproduct (nonneg_of_totalSize? hsden) (nonneg_of_totalSize? htnum) hdivisor) hf

/-- Units convert into each other just if they have the same dimension, as far as their sizes can be
written as decimals: there is no factor if one of them overflows, or if the product to divide by is
rounded to zero. A factor is never negative, and a unit converts into itself by the factor 1. -/
theorem factor_of_dimensions (u v : Measure) :
    (u.dimension ≠ v.dimension → u.factor v = .error (.incompatible u v)) ∧
      (u.dimension = v.dimension →
        ((∃ f, u.factor v = .ok f) ∨ u.factor v = .error (.overflow u v) ∨
            u.factor v = .error (.incompatible u v)) ∧
          (u.factor v = .error (.incompatible u v) ↔
            u ≠ v ∧ ∃ s t, u.size? = some s ∧ v.size? = some t ∧
              s.denominator.mul? t.numerator = some .zero)) ∧
      ∀ f, u.factor v = .ok f → 0 ≤ f.value ∧ (u = v → f = .one) := by
  refine ⟨fun hdim => ?_, fun hdim => ⟨factor_cases hdim, factor_eq_incompatible_iff hdim⟩,
    fun f hf => ⟨nonneg_of_factor hf, ?_⟩⟩
  · refine factor_of_not_sameDimension ?_
    rwa [Ne, ← sameDimension_iff_dimension_eq, Bool.not_eq_true] at hdim
  · rintro rfl
    rw [factor_self] at hf
    cases hf
    rfl

/-- What is counted per ten millimetre lengths is not converted to what is counted per ten metre
lengths, though both have the same dimension: ten millimetre lengths in metres are rounded to
zero. -/
theorem factor_of_dimensions_rounded_to_zero :
    let u : Measure := ⟨[], List.replicate 10 "mm"⟩
    let v : Measure := ⟨[], List.replicate 10 "m"⟩
    u.dimension = v.dimension ∧ u.factor v = .error (.incompatible u v) := by
  intro u v
  have hdim : u.dimension = v.dimension := sameDimension_iff_dimension_eq.1 (by decide +kernel)
  refine ⟨hdim, ((factor_of_dimensions u v).2.1 hdim).2.2 ⟨by decide, ?_⟩⟩
  refine ⟨⟨.one, .zero⟩, ⟨.one, .one⟩, size?_eq_some_iff.2 ?_, size?_eq_some_iff.2 ?_, ?_⟩ <;>
    decide +kernel

end Measure

end Rulebook
