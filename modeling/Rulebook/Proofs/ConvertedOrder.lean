import Mathlib.Algebra.Order.Field.Rat
import Rulebook.Proofs.Dimensions
import Rulebook.Quantity

/-!
# The order of converted amounts

An amount is converted by its product with a factor that is not negative, and
the product is rounded. A greater product may have fewer decimals than a smaller
one. But a number loses a decimal only where its mantissa would be too large,
and then it stays further from zero than all that keep the decimal. So rounding
keeps the order of numbers, and with it converting keeps that of amounts.

* `order_of_scale_lt`: a number with fewer decimals is further from zero, and so is its decimal.
* `nearest?_mono`: rounding to a decimal keeps the order of two numbers.
* `Outcome.exists_factor_of_convert`: all amounts are converted by one factor.
* `Outcome.convert_mono`: converting keeps the order and the signs of amounts.
-/

namespace Rulebook

namespace Decimal

variable {tie : Tie} {x y : Rat} {s t : Nat} {a b : Decimal}

/-! ## Fewer decimals -/

/-- A mantissa that is too large with one decimal more is at least a tenth of the greatest one. -/
theorem le_ten_mul_round (h : (maxMantissa : Int) < tie.round (x * tenTo (s + 1))) :
    (maxMantissa : Int) ≤ 10 * tie.round (x * tenTo s) := by
  have hmore := (tie.round_near (x * tenTo (s + 1))).1
  have hless := (tie.round_near (x * tenTo s)).2
  have hlarge : ((maxMantissa + 1 : Int) : Rat) ≤ tie.round (x * tenTo (s + 1)) :=
    Rat.intCast_le_intCast.2 h
  rw [tenTo_succ] at hmore hlarge
  -- At most four and a half are lost, and the next multiple of ten is past the greatest mantissa,
  -- which ends in 5.
  have htwice : ((2 * maxMantissa - 9 : Int) : Rat) ≤ (20 * tie.round (x * tenTo s) : Int) := by
    push_cast at hlarge ⊢
    grind
  have hint := Rat.intCast_le_intCast.1 htwice
  rw [maxMantissa] at hint ⊢
  omega

/-- What is in range with more decimals is in range with fewer. -/
theorem mul_tenTo_le_of_le (h : s ≤ t) (hx : x * tenTo t ≤ maxMantissa) :
    x * tenTo s ≤ maxMantissa := by
  rcases le_total 0 x with hpos | hneg
  · exact (mul_le_mul_of_nonneg_left (tenTo_le_tenTo h) hpos).trans hx
  · exact (mul_nonpos_of_nonpos_of_nonneg hneg (tenTo_pos s).le).trans Rat.natCast_nonneg

/-- A number that is too large for another decimal is greater than one that has more decimals, and
so is its decimal. -/
theorem order_of_lt_round (hmore : s + 1 ≤ t)
    (hx : (maxMantissa : Int) < tie.round (x * tenTo (s + 1)))
    (hy : tie.round (y * tenTo t) ≤ maxMantissa) :
    y < x ∧ (tie.round (y * tenTo t) : Rat) / tenTo t ≤ tie.round (x * tenTo s) / tenTo s := by
  constructor
  · refine lt_of_not_ge fun hle => ?_
    have hpos : 0 ≤ x := by
      refine le_of_not_gt fun hneg => ?_
      have hround := tie.round_le (n := 0) (x := x * tenTo (s + 1))
        (by simpa using mul_nonpos_of_nonpos_of_nonneg hneg.le (tenTo_pos _).le)
      omega
    have hmono := tie.round_mono
      (mul_le_mul hle (tenTo_le_tenTo hmore) (tenTo_pos _).le (hpos.trans hle))
    omega
  · have hsmall : (tie.round (y * tenTo t) : Rat) / tenTo t * tenTo (s + 1) ≤ maxMantissa := by
      refine mul_tenTo_le_of_le hmore ?_
      rw [div_tenTo_mul]
      exact_mod_cast hy
    have hlarge : (maxMantissa : Rat) ≤ tie.round (x * tenTo s) / tenTo s * tenTo (s + 1) := by
      rw [tenTo_succ, ← mul_assoc, div_tenTo_mul, mul_comm]
      exact_mod_cast le_ten_mul_round hx
    exact le_of_mul_le_mul_right (hsmall.trans hlarge) (tenTo_pos _)

/-- A number that has fewer decimals than another one, since it is too large for more of them, is
on the same side of the other as its decimal is. -/
theorem order_of_scale_lt (hmore : s + 1 ≤ t) (ht : t ≤ maxScale)
    (ha : atScale? tie x s = some a) (hx : atScale? tie x (s + 1) = none)
    (hb : atScale? tie y t = some b) :
    y < x ∧ b.value ≤ a.value ∨ x < y ∧ a.value ≤ b.value := by
  have hlarge := lt_natAbs_round_of_atScale? (hmore.trans ht) hx
  have hfits := natAbs_round_of_atScale? hb
  rw [value_of_ofParts? ha, value_of_ofParts? hb]
  rcases Int.le_total 0 (tie.round (x * tenTo (s + 1))) with hsign | hsign
  · exact .inl (order_of_lt_round hmore (by omega) (by omega))
  · -- Below zero it is the same for the opposite numbers.
    have hxneg : (maxMantissa : Int) < tie.round (-x * tenTo (s + 1)) := by
      rw [neg_mul, Tie.round_neg]
      omega
    have hyneg : tie.round (-y * tenTo t) ≤ maxMantissa := by
      rw [neg_mul, Tie.round_neg]
      omega
    have hneg := order_of_lt_round hmore hxneg hyneg
    simp only [neg_mul, Tie.round_neg, Int.cast_neg, neg_div, neg_le_neg_iff, neg_lt_neg_iff] at hneg
    exact .inr hneg

/-! ## Rounding to a decimal -/

/-- Rounding to a decimal keeps the order of two numbers, whatever decimals they are given. -/
theorem nearest?_mono (h : x ≤ y) (ha : nearest? tie x = some a) (hb : nearest? tie y = some b) :
    a.value ≤ b.value := by
  obtain ⟨s, hs, hatS, hgreaterS⟩ := exists_scale_of_nearest? ha
  obtain ⟨t, ht, hatT, hgreaterT⟩ := exists_scale_of_nearest? hb
  rcases Nat.lt_trichotomy s t with hst | rfl | hts
  · have hnone := hgreaterS (s + 1) (by omega) (by omega)
    rcases order_of_scale_lt hst ht hatS hnone hatT with ⟨hlt, -⟩ | ⟨-, hle⟩
    · exact absurd h (not_le_of_gt hlt)
    · exact hle
  · rw [value_of_ofParts? hatS, value_of_ofParts? hatT]
    have hround := tie.round_mono (mul_le_mul_of_nonneg_right h (tenTo_pos s).le)
    exact div_le_div_of_nonneg_right (Rat.intCast_le_intCast.2 hround) (tenTo_pos s).le
  · have hnone := hgreaterT (t + 1) (by omega) (by omega)
    rcases order_of_scale_lt hts hs hatT hnone hatS with ⟨-, hle⟩ | ⟨hlt, -⟩
    · exact hle
    · exact absurd h (not_le_of_gt hlt)

/-- Products with a factor that is not negative keep the order of the numbers. -/
theorem mul?_mono {m n f : Decimal} (hf : 0 ≤ f.value) (h : m.value ≤ n.value)
    (ha : m.mul? f = some a) (hb : n.mul? f = some b) : a.value ≤ b.value :=
  nearest?_mono (mul_le_mul_of_nonneg_right h hf) ha hb

theorem zero_mul? (f : Decimal) : zero.mul? f = some zero :=
  mul?_of_value (by rw [value_zero, zero_mul])

/-- Whether a number is on the same side of zero as another one, or zero. -/
structure KeepsSign (n x : Decimal) : Prop where
  nonneg : 0 ≤ n.value → 0 ≤ x.value
  nonpos : n.value ≤ 0 → x.value ≤ 0

/-- A product with a factor that is not negative keeps the sign of the number. -/
theorem keepsSign_of_mul? {n f x : Decimal} (hf : 0 ≤ f.value) (h : n.mul? f = some x) :
    KeepsSign n x where
  nonneg hn := by
    rw [← value_zero] at hn ⊢
    exact mul?_mono hf hn (zero_mul? f) h
  nonpos hn := by
    rw [← value_zero] at hn ⊢
    exact mul?_mono hf hn h (zero_mul? f)

end Decimal

/-! ## Converted amounts -/

namespace Outcome

variable {source : Option Measure} {target : Measure} {m n : Decimal} {o o' : Outcome}

/-- If one number can be converted, then all are by their products with one factor, which is not
negative. -/
theorem exists_factor_of_convert (h : (number m).convert source target = .ok o) :
    ∃ f : Decimal, 0 ≤ f.value ∧ ∀ (n : Decimal) (o : Outcome),
      (number n).convert source target = .ok o ↔ ∃ x, n.mul? f = some x ∧ o = .number x := by
  cases hsource : Measure.normal source with
  | none =>
    refine ⟨.one, by rw [Decimal.value_one]; exact zero_le_one, fun n o => ?_⟩
    rw [convert_of_normal_eq_none hsource, Decimal.mul?_one]
    simp [eq_comm]
  | some u =>
    simp only [convert, hsource] at h ⊢
    cases hf : u.factor target with
    | error e =>
      rw [hf] at h
      cases h
    | ok f =>
      refine ⟨f, Measure.nonneg_of_factor hf, fun n o => ?_⟩
      simp only [number]
      cases n.mul? f <;> simp [eq_comm]

/-- Numbers that can be converted are converted to numbers in the same order, and with the same
signs. Zero is converted to zero. -/
theorem convert_mono (hle : m.value ≤ n.value) (hm : (number m).convert source target = .ok o)
    (hn : (number n).convert source target = .ok o') :
    ∃ x y, o = .number x ∧ o' = .number y ∧ x.value ≤ y.value ∧ m.KeepsSign x ∧ n.KeepsSign y ∧
      (number .zero).convert source target = .ok (.number .zero) := by
  obtain ⟨f, hf, hconvert⟩ := exists_factor_of_convert hm
  obtain ⟨x, hx, rfl⟩ := (hconvert m o).1 hm
  obtain ⟨y, hy, rfl⟩ := (hconvert n o').1 hn
  have hzero := (hconvert .zero _).2 ⟨.zero, Decimal.zero_mul? f, rfl⟩
  exact ⟨x, y, rfl, rfl, Decimal.mul?_mono hf hle hx hy, Decimal.keepsSign_of_mul? hf hx,
    Decimal.keepsSign_of_mul? hf hy, hzero⟩

/-- A year of 365 days is a little more than twelve months, which are written with 27 decimals, and
less than the greatest number of days, of which one decimal is left in months. -/
theorem convert_mono_days :
    let convert (n : Decimal) : Except Measure.Error Outcome :=
      (number n).convert (some (.atom "day")) (.atom "month")
    let m : Decimal := .ofParts 365 0
    let n : Decimal := .ofParts 79228162514264337593543950335 0
    let x : Decimal := .ofParts 12000000000000000000000000008 27
    let y : Decimal := .ofParts 26047615073182795921165134375 1
    m.value ≤ n.value ∧ convert m = .ok (.number x) ∧ convert n = .ok (.number y) ∧
      x.value ≤ y.value ∧ m.KeepsSign x ∧ n.KeepsSign y ∧ convert .zero = .ok (.number .zero) := by
  intro convert m n x y
  have hfactor : (Measure.atom "day").factor (.atom "month") =
      .ok (.ofParts 328767123287671232876712329 28) := Measure.factor_eq_ok (by decide +kernel)
  have hle : m.value ≤ n.value := by decide +kernel
  have hm : convert m = .ok (.number x) :=
    (convert_number_eq_ok_iff (by decide) hfactor _ _).2 (by decide +kernel)
  have hn : convert n = .ok (.number y) :=
    (convert_number_eq_ok_iff (by decide) hfactor _ _).2 (by decide +kernel)
  obtain ⟨x', y', hx, hy, hresult⟩ := convert_mono hle hm hn
  cases hx
  cases hy
  exact ⟨hle, hm, hn, hresult⟩

end Outcome

end Rulebook
