import Mathlib.Data.List.Basic

/-! Programs of threads as trees of atomic operations: a node asks one operation
and goes on with its answer, so that other threads may move between any two. -/
namespace Atomic

variable {Op : Type*} {S : Type*}

inductive Prog (Ans : Op → Type) (α : Type) where
  | done (result : α)
  | ask (op : Op) (next : Ans op → Prog Ans α)

namespace Prog
variable {Ans : Op → Type} {α β : Type}

def bind : Prog Ans α → (α → Prog Ans β) → Prog Ans β
  | .done result, continuation => continuation result
  | .ask op next, continuation => .ask op fun answer => (next answer).bind continuation

instance : Monad (Prog Ans) where
  pure := .done
  bind := bind

@[simp] theorem pure_eq (result : α) : (pure result : Prog Ans α) = .done result := rfl

@[simp] theorem done_bind (result : α) (continuation : α → Prog Ans β) :
    Prog.done result >>= continuation = continuation result := rfl

@[simp] theorem ask_bind (op : Op) (next : Ans op → Prog Ans α) (continuation : α → Prog Ans β) :
    Prog.ask op next >>= continuation = .ask op fun answer => next answer >>= continuation := rfl

/-- No bad operation is asked, whichever of the possible answers come. -/
def Avoids (bad : Op → Prop) (possible : (op : Op) → Ans op → Prop) : Prog Ans α → Prop
  | .done _ => True
  | .ask op next => ¬ bad op ∧ ∀ answer, possible op answer → (next answer).Avoids bad possible

/-- A run without other threads. -/
inductive Runs (perform : S → (op : Op) → Ans op → S → Prop) : S → Prog Ans α → S → α → Prop where
  | done (s) (result : α) : Runs perform s (.done result) s result
  | ask {next : Ans op → Prog Ans α} (first : perform s op answer t)
      (rest : Runs perform t (next answer) u result) : Runs perform s (.ask op next) u result

variable {perform : S → (op : Op) → Ans op → S → Prop} {s t u : S} {p : Prog Ans α}
  {continuation : α → Prog Ans β} {a : α} {b : β}

theorem Runs.bind (first : Runs perform s p t a) (rest : Runs perform t (continuation a) u b) :
    Runs perform s (p >>= continuation) u b := by
  induction first with
  | done => exact rest
  | ask first _ ih => exact .ask first (ih rest)

end Prog

end Atomic
