import Mathlib.Data.List.Basic

/-! Gates: what is offered waits while the gate is down and passes once it is
lifted. A gate carries the fact that it holds back everything or nothing. -/
namespace Fifo

variable {α : Type*}

structure Gate (α : Type*) where
  lifted : Bool
  waiting : List α
  passed : List α
  shut : lifted = false → passed = []
  clear : lifted = true → waiting = []

inductive Move (α : Type*) where
  | offer (a : α)
  | lift

namespace Gate

def down : Gate α := ⟨false, [], [], fun _ => rfl, fun _ => rfl⟩

def offer (g : Gate α) (a : α) : Gate α where
  lifted := g.lifted
  waiting := if g.lifted then g.waiting else g.waiting ++ [a]
  passed := if g.lifted then g.passed ++ [a] else g.passed
  shut := by
    intro shut
    rw [shut]
    exact g.shut shut
  clear := by
    intro lifted
    rw [lifted]
    exact g.clear lifted

def lift (g : Gate α) : Gate α where
  lifted := true
  waiting := []
  passed := g.passed ++ g.waiting
  shut := fun shut => absurd shut (by decide)
  clear := fun _ => rfl

def move (g : Gate α) : Move α → Gate α
  | .offer a => g.offer a
  | .lift => g.lift

def run (g : Gate α) (moves : List (Move α)) : Gate α := moves.foldl move g

/-- What has passed and what waits, in the order it came. -/
def all (g : Gate α) : List α := g.passed ++ g.waiting

def offered : List (Move α) → List α
  | [] => []
  | .offer a :: moves => a :: offered moves
  | .lift :: moves => offered moves

section Order
variable (g : Gate α)

theorem offer_all (a : α) : (g.offer a).all = g.all ++ [a] := by
  by_cases lifted : g.lifted = true
  · simp [all, offer, lifted, g.clear lifted]
  · simp [all, offer, lifted]

theorem lift_all : g.lift.all = g.all := List.append_nil _

/-- Nothing is lost, repeated or reordered, whenever the gate is lifted. -/
theorem run_all (moves : List (Move α)) : (g.run moves).all = g.all ++ offered moves := by
  induction moves generalizing g with
  | nil => exact (List.append_nil _).symm
  | cons first moves ih =>
    refine (ih (g.move first)).trans ?_
    cases first with
    | offer a =>
      rw [move, offer_all, List.append_assoc]
      rfl
    | lift =>
      rw [move, lift_all]
      rfl

theorem run_append (first second : List (Move α)) :
    g.run (first ++ second) = (g.run first).run second :=
  List.foldl_append ..

theorem offered_append (first second : List (Move α)) :
    offered (first ++ second) = offered first ++ offered second := by
  induction first with
  | nil => rfl
  | cons move first ih =>
    cases move with
    | offer a => exact congrArg (a :: ·) ih
    | lift => exact ih

/-- Of each kind, too, all that was offered has passed or waits, in order. -/
theorem filterMap_all {β : Type*} (kind : α → Option β) :
    g.all.filterMap kind = g.passed.filterMap kind ++ g.waiting.filterMap kind :=
  List.filterMap_append

end Order

end Gate

end Fifo
