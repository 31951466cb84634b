import Mathlib.Algebra.BigOperators.Group.Finset.Basic
import Mathlib.Algebra.Order.BigOperators.Group.Finset

/-! Timers that count ticks and fire when the period of the present round is over,
each round with a period of its own. -/
namespace Control

open Finset

structure Timer where
  period : Nat → Nat
  pos (k : Nat) : 0 < period k

/-- The round, the ticks in it, and the lengths of the rounds before. -/
structure Timed where
  round : Nat
  elapsed : Nat
  gaps : List Nat

namespace Timer
variable (timer : Timer) {n k : Nat}

def tick (t : Timed) : Timed :=
  if timer.period t.round ≤ t.elapsed + 1 then ⟨t.round + 1, 0, t.gaps ++ [t.elapsed + 1]⟩
  else { t with elapsed := t.elapsed + 1 }

theorem tick_fires {t : Timed} (reached : timer.period t.round ≤ t.elapsed + 1) :
    timer.tick t = ⟨t.round + 1, 0, t.gaps ++ [t.elapsed + 1]⟩ := if_pos reached

theorem tick_waits {t : Timed} (within : t.elapsed + 1 < timer.period t.round) :
    timer.tick t = { t with elapsed := t.elapsed + 1 } := if_neg (Nat.not_le.mpr within)

def after : Nat → Timed
  | 0 => ⟨0, 0, []⟩
  | n + 1 => timer.tick (after n)

/-- When round `k` begins. -/
def start (k : Nat) : Nat := ∑ j ∈ range k, timer.period j

theorem start_succ (k : Nat) : timer.start (k + 1) = timer.start k + timer.period k :=
  sum_range_succ ..

theorem start_mono : Monotone timer.start :=
  monotone_nat_of_le_succ fun k => timer.start_succ k ▸ Nat.le_add_right ..

structure Kept (n : Nat) (t : Timed) : Prop where
  gaps : t.gaps = (List.range t.round).map timer.period
  elapsed : t.elapsed < timer.period t.round
  ticks : n = timer.start t.round + t.elapsed

theorem tick_kept {t : Timed} (kept : timer.Kept n t) : timer.Kept (n + 1) (timer.tick t) := by
  obtain ⟨gaps, elapsed, ticks⟩ := kept
  by_cases fires : timer.period t.round ≤ t.elapsed + 1
  · rw [timer.tick_fires fires]
    have whole : t.elapsed + 1 = timer.period t.round := by omega
    refine ⟨?_, timer.pos _, ?_⟩
    · rw [gaps, whole, List.range_succ, List.map_append]
      rfl
    · rw [timer.start_succ, ← whole]
      exact congrArg (· + 1) ticks
  · have within := Nat.not_le.mp fires
    rw [timer.tick_waits within]
    exact ⟨gaps, within, congrArg (· + 1) ticks⟩

theorem after_kept (n : Nat) : timer.Kept n (timer.after n) := by
  induction n with
  | zero => exact ⟨rfl, timer.pos 0, rfl⟩
  | succ n ih => exact timer.tick_kept ih

theorem after_round_lt : (timer.after n).round < k ↔ n < timer.start k := by
  obtain ⟨_, elapsed, ticks⟩ := timer.after_kept n
  have next := timer.start_succ (timer.after n).round
  constructor
  · intro before
    have later : timer.start ((timer.after n).round + 1) ≤ timer.start k :=
      timer.start_mono before
    omega
  · intro early
    by_contra reached
    have sooner := timer.start_mono (Nat.not_lt.mp reached)
    omega

end Timer
end Control
