import Mathlib.Algebra.BigOperators.Ring.List
import Mathlib.Algebra.Order.Field.Basic
import Mathlib.Algebra.Order.Field.Rat
import Mathlib.Algebra.Order.Ring.Cast

/-! Clocks that add durations rounded down. What each step loses is a remainder, so the
clock is behind by the sum of them. -/
namespace Control

/-- The clock behind steps of `x / d` each. -/
def ticks (d : Int) (xs : List Int) : Int := (xs.map (· / d)).sum

/-- What it has lost, in parts of `1 / d`. -/
def lag (d : Int) (xs : List Int) : Int := (xs.map (· % d)).sum

variable {d : Int} {xs ys : List Int}

theorem ticks_append : ticks d (xs ++ ys) = ticks d xs + ticks d ys := by
  rw [ticks, List.map_append, List.sum_append]
  rfl

/-- The clock and what it has lost make up the time. -/
theorem mul_ticks_add_lag (d : Int) (xs : List Int) : d * ticks d xs + lag d xs = xs.sum := by
  induction xs with
  | nil => simp [ticks, lag]
  | cons x xs ih =>
    have first := Int.mul_ediv_add_emod x d
    simp only [ticks, lag, List.map_cons, List.sum_cons, Int.mul_add] at ih ⊢
    omega

theorem lag_nonneg (positive : 0 < d) (xs : List Int) : 0 ≤ lag d xs := by
  induction xs with
  | nil => exact Int.le_refl 0
  | cons x xs ih =>
    have first := Int.emod_nonneg x positive.ne'
    rw [lag, List.map_cons, List.sum_cons]
    exact Int.add_nonneg first ih

/-- The clock is less than one tick off exactly when it has lost less than one. -/
theorem abs_ticks_sub_lt_one_iff (positive : 0 < d) (xs : List Int) :
    |(ticks d xs : ℚ) - xs.sum / d| < 1 ↔ lag d xs < d := by
  have scale : (0 : ℚ) < d := Int.cast_pos.mpr positive
  have whole : (xs.sum : ℚ) = d * ticks d xs + lag d xs := by
    rw [← mul_ticks_add_lag d xs, Int.cast_add, Int.cast_mul]
  have behind : (ticks d xs : ℚ) - xs.sum / d = -(lag d xs / d) := by
    rw [whole, add_div, mul_div_cancel_left₀ _ scale.ne', sub_add_cancel_left]
  have nonneg : (0 : ℚ) ≤ lag d xs / d :=
    div_nonneg (Int.cast_nonneg (lag_nonneg positive xs)) scale.le
  rw [behind, abs_neg, abs_of_nonneg nonneg, div_lt_one scale, Int.cast_lt]

end Control
