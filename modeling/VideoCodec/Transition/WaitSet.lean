import Mathlib.Init

/-! Threads and the condition variables they wait on. A parked thread leaves
the wait set only by a notification; it is then runnable and tests its
condition again. -/
namespace Transition

variable {α : Type*}

inductive Waiter (α : Type*) where
  | running
  | waiting (call : α)
  | notified (call : α)
  deriving DecidableEq, Repr

namespace Waiter

def isWaiting : Waiter α → Bool
  | .waiting _ => true
  | _ => false

/-- The call a parked or woken thread still has to finish. -/
def pending : Waiter α → Option α
  | .running => none
  | .waiting call | .notified call => some call

def notify : Waiter α → Waiter α
  | .waiting call => .notified call
  | w => w

def notifyIf (w : Waiter α) (signal : Bool) : Waiter α := if signal then w.notify else w

/-- No wake-up was lost: a parked thread still has to wait. -/
def Sound (ready : Bool) (w : Waiter α) : Prop := w.isWaiting = true → ready = false

@[simp] theorem notify_isWaiting (w : Waiter α) : w.notify.isWaiting = false := by
  cases w <;> rfl

@[simp] theorem notify_pending (w : Waiter α) : w.notify.pending = w.pending := by cases w <;> rfl

@[simp] theorem notifyIf_pending (w : Waiter α) (signal : Bool) :
    (w.notifyIf signal).pending = w.pending := by cases signal <;> simp [notifyIf]

theorem not_waiting_of_pending {w : Waiter α} (free : w.pending = none) : w.isWaiting = false := by
  cases w with
  | running => rfl
  | waiting | notified => contradiction

theorem sound_of_not_waiting {ready : Bool} {w : Waiter α} (awake : w.isWaiting = false) :
    w.Sound ready := by
  intro parked
  rw [awake] at parked
  contradiction

theorem sound_running (ready : Bool) : (running : Waiter α).Sound ready :=
  sound_of_not_waiting rfl

theorem sound_notify (ready : Bool) (w : Waiter α) : w.notify.Sound ready :=
  sound_of_not_waiting w.notify_isWaiting

/-- An operation keeps soundness when it notifies whenever it makes the
condition true. -/
theorem Sound.notifyIf {ready ready' signal : Bool} {w : Waiter α} (sound : w.Sound ready)
    (signals : ready' = true → ready = false → signal = true) :
    (w.notifyIf signal).Sound ready' := by
  cases signal with
  | true => exact sound_notify ready' w
  | false =>
    intro parked
    have before : ready = false := sound parked
    cases after : ready' with
    | false => rfl
    | true => exact absurd (signals after before) Bool.false_ne_true

/-- An operation that makes the condition true without a notification keeps
soundness exactly when nobody is parked. -/
theorem sound_true_iff {w : Waiter α} : w.Sound true ↔ w.isWaiting = false := by
  simp [Sound]

end Waiter
end Transition
