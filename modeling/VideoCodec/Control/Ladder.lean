import Mathlib.Data.List.Forall2
import Mathlib.Order.Monotone.Defs
import Mathlib.Order.WithBot

/-! Controllers that climb after some good intervals in a row and fall at once on
a bad one. An interval is `⊥` when it was good, and otherwise how bad it was; the
better of two runs stays above the worse one, although it may climb later. -/
namespace Control

variable {α σ : Type*} [Preorder α] [Preorder σ]

structure Ladder (α σ : Type*) [Preorder α] [Preorder σ] where
  period : Nat
  climb : α → α
  fall : σ → α → α
  le_climb (x : α) : x ≤ climb x
  fall_le (s : σ) (x : α) : fall s x ≤ x
  climb_mono : Monotone climb
  fall_mono (s : σ) : Monotone (fall s)
  fall_anti (x : α) : Antitone fun s => fall s x

structure Rung (α : Type*) where
  level : α
  good : Nat

namespace Ladder
variable (l : Ladder α σ) {r s : Rung α} {i j : WithBot σ}

def next (r : Rung α) : WithBot σ → Rung α
  | none => if l.period ≤ r.good + 1 then ⟨l.climb r.level, 0⟩ else ⟨r.level, r.good + 1⟩
  | some severity => ⟨l.fall severity r.level, 0⟩

def run (r : Rung α) (intervals : List (WithBot σ)) : Rung α := intervals.foldl l.next r

/-- The lower one may be about to climb first, but not past the upper one. -/
structure Above (r s : Rung α) : Prop where
  level : s.level ≤ r.level
  climb : r.good < s.good → l.climb s.level ≤ r.level

theorem Above.of_level (level : s.level ≤ r.level) (good : s.good = 0) : l.Above r s where
  level
  climb behind := absurd behind (by omega)

theorem Above.refl (r : Rung α) : l.Above r r :=
  ⟨le_refl _, fun behind => absurd behind (lt_irrefl _)⟩

theorem le_next_good (r : Rung α) : r.level ≤ (l.next r ⊥).level := by
  change r.level ≤ (if l.period ≤ r.good + 1 then _ else _ : Rung α).level
  split
  · exact l.le_climb r.level
  · exact le_refl r.level

variable {l}

theorem Above.good (above : l.Above r s) : l.Above (l.next r ⊥) (l.next s ⊥) := by
  change l.Above (if l.period ≤ r.good + 1 then _ else _) (if l.period ≤ s.good + 1 then _ else _)
  by_cases first : l.period ≤ r.good + 1
  · rw [if_pos first]
    split
    · exact .of_level l (l.climb_mono above.level) rfl
    · exact ⟨above.level.trans (l.le_climb _), fun _ => l.climb_mono above.level⟩
  · rw [if_neg first]
    split
    · rename_i second
      exact .of_level l (above.climb (by omega)) rfl
    · exact ⟨above.level, fun behind => above.climb (by simpa using behind)⟩

theorem Above.next (above : l.Above r s) (worse : i ≤ j) : l.Above (l.next r i) (l.next s j) := by
  cases i with
  | bot =>
    cases j with
    | bot => exact above.good
    | coe t => exact .of_level l ((l.fall_le t _).trans (above.level.trans (l.le_next_good r))) rfl
  | coe u =>
    cases j with
    | bot => exact absurd worse (WithBot.not_coe_le_bot u)
    | coe t =>
      refine .of_level l ?_ rfl
      exact (l.fall_anti _ (WithBot.coe_le_coe.mp worse)).trans (l.fall_mono u above.level)

/-- Of two runs from the same rung, the one with the better intervals stays above. -/
theorem run_above (above : l.Above r s) {better worse : List (WithBot σ)}
    (pairs : List.Forall₂ (· ≤ ·) better worse) : l.Above (l.run r better) (l.run s worse) :=
  List.rel_foldl (fun _ _ above _ _ worse => above.next worse) above pairs

end Ladder
end Control
