import Rulebook.Decimal.Rounding

/-!
# Decimal numbers

A decimal is a whole number below `2 ^ 96` with a sign, over a power of ten up
to `10 ^ 28`. Sums and products take the exact result and give it as many
decimals as fit; a half goes to the even neighbour. There is no result if even
the nearest whole number is too large.

* `nearest?_value`: what is a decimal already is kept.
* `fits_iff_nearest?`: and nothing else is, so that decimals can be told.
* `isSome_nearest?`: only too large a number has no decimal.
* `value_of_nearest?`: the decimal is the number, rounded at one of the scales.
* `add?_of_value`, `sub?_of_value`, `mul?_of_value`: what is a decimal is exact.
* `nearest?_hundredth`: a number of percent always has its ratio.
-/

namespace Rulebook

namespace Decimal

/-- The greatest number of decimals. -/
def maxScale : Nat := 28

/-- The greatest mantissa, `2 ^ 96 - 1`. -/
def maxMantissa : Nat := 79228162514264337593543950335

/-- The number `10 ^ scale`. -/
def tenTo (scale : Nat) : Rat :=
  (Nat.pow 10 scale : Nat)

/-- Whether `x` is a whole number below `2 ^ 96`, with a sign, over a power of ten up to
`10 ^ 28`. -/
def Fits (x : Rat) : Prop :=
  ∃ (mantissa : Int) (scale : Nat),
    scale ≤ maxScale ∧ mantissa.natAbs ≤ maxMantissa ∧ x = mantissa / tenTo scale

end Decimal

/-- A decimal number. Zeros at the end of the decimals do not count, so that a decimal is its
value. -/
structure Decimal where
  value : Rat
  fits : Decimal.Fits value
deriving DecidableEq

namespace Decimal

theorem eq_of_value_eq {a b : Decimal} (h : a.value = b.value) : a = b := by
  cases a; cases b; cases h; rfl

/-- The decimal `mantissa / 10 ^ scale`. -/
def ofParts (mantissa : Int) (scale : Nat) (hscale : scale ≤ maxScale := by decide)
    (hmantissa : mantissa.natAbs ≤ maxMantissa := by decide) : Decimal :=
  ⟨mantissa / tenTo scale, mantissa, scale, hscale, hmantissa, rfl⟩

/-- The decimal `mantissa / 10 ^ scale`, if it is one. -/
def ofParts? (mantissa : Int) (scale : Nat) : Option Decimal :=
  if h : scale ≤ maxScale ∧ mantissa.natAbs ≤ maxMantissa then
    some (ofParts mantissa scale h.1 h.2)
  else none

/-- The number 0. -/
def zero : Decimal := ofParts 0 0

/-- The number 1. -/
def one : Decimal := ofParts 1 0

/-- The decimal for `x` with `scale` decimals, if its mantissa fits. -/
def atScale? (tie : Tie) (x : Rat) (scale : Nat) : Option Decimal :=
  ofParts? (tie.round (x * tenTo scale)) scale

/-- The numbers of decimals, the greatest first. -/
def scales : List Nat :=
  (List.range (maxScale + 1)).reverse

/-- The decimal for `x`, with as many decimals as fit. -/
def nearest? (tie : Tie) (x : Rat) : Option Decimal :=
  scales.findSome? (atScale? tie x)

/-! ## Digits -/

/-- The fewest decimals that the number needs. -/
def scale (d : Decimal) : Nat :=
  ((List.range (maxScale + 1)).find? fun s => (d.value * tenTo s).den == 1).getD maxScale

/-- The whole number that the digits of `d` write, without its sign. -/
def coefficient (d : Decimal) : Nat :=
  (d.value * tenTo d.scale).num.natAbs

/-! ## Powers of ten -/

theorem tenTo_pos (scale : Nat) : 0 < tenTo scale :=
  Rat.natCast_pos.2 (Nat.pow_pos (by decide))

theorem tenTo_zero : tenTo 0 = 1 :=
  rfl

theorem tenTo_add (s t : Nat) : tenTo (s + t) = tenTo s * tenTo t := by
  simp only [tenTo, Nat.pow_eq, Nat.pow_add, Rat.natCast_mul]

theorem tenTo_succ (scale : Nat) : tenTo (scale + 1) = tenTo scale * 10 := by
  rw [tenTo_add]
  rfl

theorem tenTo_le_tenTo {s t : Nat} (h : s ≤ t) : tenTo s ≤ tenTo t :=
  Rat.natCast_le_natCast.2 (Nat.pow_le_pow_right (by decide) h)

theorem div_tenTo_mul (x : Rat) (scale : Nat) : x / tenTo scale * tenTo scale = x :=
  Rat.div_mul_cancel (Rat.ne_of_gt (tenTo_pos scale))

theorem mul_tenTo_div (x : Rat) (scale : Nat) : x * tenTo scale / tenTo scale = x := by
  have := tenTo_pos scale
  grind

/-! ## The nearest decimal -/

theorem value_of_ofParts? {mantissa : Int} {scale : Nat} {d : Decimal}
    (h : ofParts? mantissa scale = some d) : d.value = mantissa / tenTo scale := by
  unfold ofParts? at h
  split at h <;> cases h
  rfl

theorem isSome_ofParts? {mantissa : Int} {scale : Nat} (hscale : scale ≤ maxScale)
    (hmantissa : mantissa.natAbs ≤ maxMantissa) : (ofParts? mantissa scale).isSome := by
  rw [ofParts?, dif_pos ⟨hscale, hmantissa⟩]
  rfl

/-- What has a decimal at a scale fits into a mantissa there. -/
theorem natAbs_round_of_atScale? {tie : Tie} {x : Rat} {scale : Nat} {d : Decimal}
    (h : atScale? tie x scale = some d) : (tie.round (x * tenTo scale)).natAbs ≤ maxMantissa := by
  unfold atScale? ofParts? at h
  split at h
  · rename_i hfits
    exact hfits.2
  · cases h

/-- What has no decimal at a scale is too large for a mantissa there. -/
theorem lt_natAbs_round_of_atScale? {tie : Tie} {x : Rat} {scale : Nat} (hscale : scale ≤ maxScale)
    (h : atScale? tie x scale = none) :
    maxMantissa < (tie.round (x * tenTo scale)).natAbs := by
  refine Nat.lt_of_not_le fun hle => ?_
  have hsome := isSome_ofParts? hscale hle
  rw [← atScale?, h] at hsome
  cases hsome

theorem mem_scales {scale : Nat} : scale ∈ scales ↔ scale ≤ maxScale := by
  simp only [scales, List.mem_reverse, List.mem_range]
  omega

theorem pairwise_scales : scales.Pairwise (· > ·) := by
  decide

/-- The scale that is taken is the greatest at which the mantissa fits. -/
theorem exists_scale_of_nearest? {tie : Tie} {x : Rat} {d : Decimal} (h : nearest? tie x = some d) :
    ∃ scale ≤ maxScale, atScale? tie x scale = some d ∧
      ∀ t ≤ maxScale, scale < t → atScale? tie x t = none := by
  obtain ⟨greater, scale, rest, hsplit, hfound, hnone⟩ := List.findSome?_eq_some_iff.1 h
  have hpair := pairwise_scales
  rw [hsplit, List.pairwise_append, List.pairwise_cons] at hpair
  refine ⟨scale, mem_scales.1 (by rw [hsplit]; simp), hfound, fun t ht hlt => hnone t ?_⟩
  have hmem := mem_scales.2 ht
  rw [hsplit, List.mem_append, List.mem_cons] at hmem
  rcases hmem with hmem | rfl | hmem
  · exact hmem
  · exact absurd hlt (Nat.lt_irrefl _)
  · exact absurd (hpair.2.1.1 t hmem) (by omega)

/-- The decimal is the number, rounded at one of the scales. -/
theorem value_of_nearest? {tie : Tie} {x : Rat} {d : Decimal} (h : nearest? tie x = some d) :
    ∃ scale ≤ maxScale, d.value = tie.round (x * tenTo scale) / tenTo scale := by
  obtain ⟨scale, hscale, hfound, -⟩ := exists_scale_of_nearest? h
  exact ⟨scale, hscale, value_of_ofParts? hfound⟩

/-- A number that is not negative is not rounded below zero. -/
theorem nonneg_of_nearest? {tie : Tie} {x : Rat} {d : Decimal} (hx : 0 ≤ x)
    (h : nearest? tie x = some d) : 0 ≤ d.value := by
  obtain ⟨scale, -, hd⟩ := value_of_nearest? h
  have hround : 0 ≤ tie.round (x * tenTo scale) :=
    tie.le_round (Rat.mul_nonneg hx (Rat.le_of_lt (tenTo_pos scale)))
  refine Rat.le_of_mul_le_mul_right ?_ (tenTo_pos scale)
  rw [hd, div_tenTo_mul, Rat.zero_mul]
  exact Rat.intCast_nonneg.2 hround

theorem isSome_nearest?_of_atScale? {tie : Tie} {x : Rat} {scale : Nat} (hscale : scale ≤ maxScale)
    (h : (atScale? tie x scale).isSome) : (nearest? tie x).isSome := by
  rw [nearest?, List.isSome_findSome?, List.any_eq_true]
  exact ⟨scale, mem_scales.2 hscale, h⟩

/-- Only a number whose nearest whole number is too large has no decimal. -/
theorem isSome_nearest? {tie : Tie} {x : Rat} (h : (tie.round x).natAbs ≤ maxMantissa) :
    (nearest? tie x).isSome := by
  refine isSome_nearest?_of_atScale? (Nat.zero_le _) (isSome_ofParts? (Nat.zero_le _) ?_)
  rwa [tenTo_zero, Rat.mul_one]

/-- What is a decimal already is kept. -/
theorem nearest?_value (tie : Tie) (d : Decimal) : nearest? tie d.value = some d := by
  obtain ⟨m, s, hs, hm, hv⟩ := d.fits
  have hround (t : Nat) : tie.round (d.value * tenTo (s + t)) = m * (Nat.pow 10 t : Nat) := by
    rw [tenTo_add, ← Rat.mul_assoc, hv, div_tenTo_mul, tenTo, ← Rat.intCast_natCast,
      ← Rat.intCast_mul, Tie.round_intCast]
  have hatS : (atScale? tie d.value s).isSome := by
    refine isSome_ofParts? hs ?_
    have := hround 0
    rw [Nat.add_zero] at this
    rw [this]
    simpa using hm
  obtain ⟨e, he⟩ := Option.isSome_iff_exists.1 (isSome_nearest?_of_atScale? hs hatS)
  obtain ⟨scale, -, hfound, hgreater⟩ := exists_scale_of_nearest? he
  have hle : s ≤ scale := by
    refine Nat.le_of_not_lt fun hlt => ?_
    rw [hgreater s hs hlt] at hatS
    cases hatS
  obtain ⟨t, rfl⟩ := Nat.exists_eq_add_of_le hle
  rw [he, Option.some_inj]
  refine eq_of_value_eq ?_
  rw [value_of_ofParts? hfound, hround, Rat.intCast_mul, Rat.intCast_natCast, hv]
  have h1 := tenTo_pos s
  have h2 := tenTo_pos t
  rw [tenTo_add]
  change m * tenTo t / (tenTo s * tenTo t) = m / tenTo s
  grind

/-- A number is a decimal just if it is not rounded. -/
theorem fits_iff_nearest? {x : Rat} :
    Fits x ↔ (nearest? .toEven x).map value = some x := by
  constructor
  · intro h
    exact congrArg (Option.map value) (nearest?_value .toEven ⟨x, h⟩)
  · intro h
    obtain ⟨d, -, rfl⟩ := Option.map_eq_some_iff.1 h
    exact d.fits

instance (x : Rat) : Decidable (Fits x) :=
  decidable_of_iff' _ fits_iff_nearest?

/-! ## Arithmetic -/

/-- The sum. -/
def add? (a b : Decimal) : Option Decimal :=
  nearest? .toEven (a.value + b.value)

/-- The difference. -/
def sub? (a b : Decimal) : Option Decimal :=
  nearest? .toEven (a.value - b.value)

/-- The product. -/
def mul? (a b : Decimal) : Option Decimal :=
  nearest? .toEven (a.value * b.value)

theorem value_zero : zero.value = 0 := by decide +kernel

theorem value_one : one.value = 1 := by decide +kernel

/-- A sum that is a decimal is exact. -/
theorem add?_of_value {a b c : Decimal} (h : a.value + b.value = c.value) : a.add? b = some c := by
  rw [add?, h, nearest?_value]

/-- A difference that is a decimal is exact. -/
theorem sub?_of_value {a b c : Decimal} (h : a.value - b.value = c.value) : a.sub? b = some c := by
  rw [sub?, h, nearest?_value]

/-- A product that is a decimal is exact. -/
theorem mul?_of_value {a b c : Decimal} (h : a.value * b.value = c.value) : a.mul? b = some c := by
  rw [mul?, h, nearest?_value]

theorem mul?_one (d : Decimal) : d.mul? one = some d :=
  mul?_of_value (by rw [value_one, Rat.mul_one])

/-! ## Percentages -/

theorem value_bounds (d : Decimal) :
    -(maxMantissa : Rat) ≤ d.value ∧ d.value ≤ (maxMantissa : Rat) := by
  obtain ⟨m, s, -, hm, hv⟩ := d.fits
  have hlow : -(maxMantissa : Rat) ≤ m := by
    have := Rat.intCast_le_intCast.2 (show -(maxMantissa : Int) ≤ m by omega)
    rwa [Rat.intCast_neg, Rat.intCast_natCast] at this
  have hhigh : (m : Rat) ≤ maxMantissa := by
    have := Rat.intCast_le_intCast.2 (show m ≤ (maxMantissa : Int) by omega)
    rwa [Rat.intCast_natCast] at this
  have hten : (1 : Rat) ≤ tenTo s := Rat.natCast_le_natCast.2 (Nat.pow_pos (by decide))
  have hmax : (0 : Rat) ≤ maxMantissa := Rat.natCast_nonneg
  have hgrow := Rat.mul_le_mul_of_nonneg_left hten hmax
  have hvs : d.value * tenTo s = m := by rw [hv, div_tenTo_mul]
  constructor <;> refine Rat.le_of_mul_le_mul_right ?_ (tenTo_pos s) <;> grind

/-- A hundredth of a decimal has a decimal. -/
theorem isSome_nearest?_hundredth (d : Decimal) : (nearest? .toEven (d.value / 100)).isSome := by
  have h := d.value_bounds
  refine isSome_nearest? (Tie.natAbs_round_le _ ?_ ?_) <;> grind

/-- A number of percent as a ratio: 5 is read as 0.05. -/
def percent (d : Decimal) : Decimal :=
  (nearest? .toEven (d.value / 100)).get d.isSome_nearest?_hundredth

theorem nearest?_hundredth (d : Decimal) : nearest? .toEven (d.value / 100) = some d.percent :=
  (Option.some_get _).symm

/-- A ratio that is a decimal is exact. -/
theorem percent_of_value {d c : Decimal} (h : d.value / 100 = c.value) : d.percent = c := by
  have hratio := d.nearest?_hundredth
  rw [h, nearest?_value, Option.some_inj] at hratio
  exact hratio.symm

theorem value_percent {d : Decimal} (h : Fits (d.value / 100)) : d.percent.value = d.value / 100 :=
  congrArg value (percent_of_value (c := ⟨_, h⟩) rfl)

/-- Whether a percentage is added to a number or taken from it. -/
inductive Adjustment
  | raise
  | lower
deriving DecidableEq

/-- A number raised or lowered by `rate` percent of itself: 200 raised by 10 is 220. -/
def adjust? (d : Decimal) (adjustment : Adjustment) (rate : Decimal) : Option Decimal := do
  let factor ← match adjustment with
    | .raise => one.add? rate.percent
    | .lower => one.sub? rate.percent
  d.mul? factor

end Decimal

end Rulebook
