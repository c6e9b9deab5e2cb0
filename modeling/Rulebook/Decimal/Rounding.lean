/-!
# Rounding to whole numbers

A number is rounded to the nearest whole number, and one half way between two
of them goes to the even one or away from zero.

* `Tie.round_intCast`: a whole number is kept.
* `Tie.round_le`, `Tie.le_round`: rounding passes no whole number.
* `Tie.round_near`: rounding moves a number by at most a half.
* `Tie.round_mono`: rounding keeps the order of two numbers.
* `Tie.round_neg`: numbers are rounded alike on both sides of zero.
-/

namespace Rulebook

/-- Where a number goes that is half way between two whole numbers. -/
inductive Tie
  | toEven
  | awayFromZero
deriving DecidableEq

namespace Tie

/-- Whether a number half way above the whole number `low` goes up from it. -/
def goesUp (tie : Tie) (low : Int) : Bool :=
  match tie with
  | .toEven => low % 2 != 0
  | .awayFromZero => 0 ≤ low

/-- The whole number nearest to `x`. -/
def round (tie : Tie) (x : Rat) : Int :=
  if 2 * (x - x.floor) < 1 then x.floor
  else if 1 < 2 * (x - x.floor) then x.floor + 1
  else if tie.goesUp x.floor then x.floor + 1 else x.floor

theorem floor_le_lt (x : Rat) : (x.floor : Rat) ≤ x ∧ x < (x.floor : Rat) + 1 := by
  have h := Rat.lt_floor_add_one x
  simp only [Rat.intCast_add, Rat.intCast_one] at h
  exact ⟨Rat.floor_le x, h⟩

/-- Rounding goes down to the whole number below or up to the one above. -/
theorem round_eq_or (tie : Tie) (x : Rat) :
    tie.round x = x.floor ∧ 2 * (x - x.floor) ≤ 1 ∨
      tie.round x = x.floor + 1 ∧ 1 ≤ 2 * (x - x.floor) := by
  unfold round
  split
  · exact .inl ⟨rfl, by grind⟩
  · split
    · exact .inr ⟨rfl, by grind⟩
    · split
      · exact .inr ⟨rfl, by grind⟩
      · exact .inl ⟨rfl, by grind⟩

/-- A whole number is kept. -/
theorem round_intCast (tie : Tie) (n : Int) : tie.round n = n := by
  rw [round, Rat.floor_intCast, if_pos]
  grind

/-- Rounding moves a number by at most a half. -/
theorem round_near (tie : Tie) (x : Rat) :
    2 * (tie.round x - x) ≤ 1 ∧ 2 * (x - tie.round x) ≤ 1 := by
  have hx := floor_le_lt x
  rcases round_eq_or tie x with ⟨h, hhalf⟩ | ⟨h, hhalf⟩
  · rw [h]
    constructor <;> grind
  · rw [h, Rat.intCast_add, Rat.intCast_one]
    constructor <;> grind

theorem round_le (tie : Tie) {x : Rat} {n : Int} (h : x ≤ n) : tie.round x ≤ n := by
  have hn : x.floor ≤ n := by
    have := Rat.floor_monotone h
    rwa [Rat.floor_intCast] at this
  rcases round_eq_or tie x with ⟨hr, -⟩ | ⟨hr, hhalf⟩
  · omega
  · have hne : x.floor ≠ n := fun he => by
      rw [he] at hhalf
      grind
    omega

theorem le_round (tie : Tie) {x : Rat} {n : Int} (h : n ≤ x) : n ≤ tie.round x := by
  have hn : n ≤ x.floor := Rat.le_floor_iff.2 h
  rcases round_eq_or tie x with ⟨hr, -⟩ | ⟨hr, -⟩ <;> omega

/-- Rounding keeps the order of two numbers. -/
theorem round_mono (tie : Tie) {x y : Rat} (h : x ≤ y) : tie.round x ≤ tie.round y := by
  have hy := floor_le_lt y
  by_cases hx : x ≤ y.floor
  · exact Int.le_trans (tie.round_le hx) (tie.le_round hy.1)
  · -- The same whole number is below both, so that the greater one is closer to the next.
    have hfloor : x.floor = y.floor := by
      have hle := Rat.floor_monotone h
      have hge : y.floor ≤ x.floor := Rat.le_floor_iff.2 (Rat.le_of_lt (Rat.not_le.1 hx))
      omega
    rw [round, round, hfloor]
    grind

/-- Numbers are rounded alike on both sides of zero. -/
theorem round_neg (tie : Tie) (x : Rat) : tie.round (-x) = -tie.round x := by
  by_cases hx : x = x.floor
  · rw [hx, ← Rat.intCast_neg, round_intCast, round_intCast]
  · have hfloor : (-x).floor = -x.floor - 1 := by
      have hbounds := floor_le_lt x
      have hneg := floor_le_lt (-x)
      have hhigh : (-x).floor < -x.floor := Rat.intCast_lt_intCast.1 (by grind)
      have hlow : -x.floor - 1 < (-x).floor + 1 := Rat.intCast_lt_intCast.1 (by grind)
      omega
    rw [round, round, hfloor]
    cases tie <;> simp only [goesUp] <;> grind

/-- A number between `-n` and `n` stays there. -/
theorem natAbs_round_le (tie : Tie) {x : Rat} {n : Nat} (hlow : -(n : Rat) ≤ x) (hhigh : x ≤ n) :
    (tie.round x).natAbs ≤ n := by
  have hle := tie.round_le (x := x) (n := (n : Int)) (by rwa [Rat.intCast_natCast])
  have hge := tie.le_round (x := x) (n := -(n : Int)) (by
    rwa [Rat.intCast_neg, Rat.intCast_natCast])
  omega

end Tie

end Rulebook
