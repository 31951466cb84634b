import Mathlib.Logic.Function.Basic
import VideoCodec.Stream.Threads

/-! The user's status callback and the calls it makes. It runs on the thread that
reports: one of the backend, the caller's, or that of the reconnect worker, inside
`Connect` and `Disconnect` as well. Over its own sections each thread has a stack
of callbacks and of the calls of `Stop` made in them, and waits for it. The
callback of a call's last report needs no frame: what it calls is called where
that call returns. `Release` in a callback whose call goes on, and the reports of
the backend's destructor, are left out: what they run on is being destroyed. -/
namespace VideoCodec

open Transition

namespace Stream

inductive Thread where
  | caller
  | worker
  | backend (n : Nat)
  deriving DecidableEq, Repr

/-- A running callback, or the place of a `Stop` that the callback below it made. -/
inductive Frame where
  | callback
  | storeStop
  | storeDisarmed
  | join
  | disconnect
  | disconnecting
  | stopReport (st : Status)
  deriving DecidableEq, Repr

/-- What stays on the caller's stack behind a report that is not the last of its call. -/
def Caller.calls : Caller → List Frame
  | .startReport | .stopReport true _ => [.callback]
  | _ => []

theorem Caller.calls_cases (caller : Caller) : caller.calls = [] ∨ caller.calls = [.callback] := by
  unfold Caller.calls
  split
  · exact .inr rfl
  · exact .inr rfl
  · exact .inl rfl

def Worker.calls : Worker → List Frame
  | .reporting => [.callback]
  | _ => []

theorem Worker.calls_cases (worker : Worker) : worker.calls = [] ∨ worker.calls = [.callback] := by
  unfold Worker.calls
  split
  · exact .inr rfl
  · exact .inl rfl

theorem Worker.mem_calls {worker : Worker} {frame : Frame} (member : frame ∈ worker.calls) :
    worker = .reporting ∧ frame = .callback := by
  cases worker with
  | reporting => exact ⟨rfl, List.mem_singleton.mp member⟩
  | _ => contradiction

/-- What the history keeps of a report of the backend. -/
@[simp] def Sys.hears (s : Sys) (snapshot : StreamStatus) : Sys :=
  { s with
    dropping := s.dropping || snapshot.state = .kDisconnected
    dropped := s.dropped || (s.up && snapshot.state = .kDisconnected) }

structure Reentrant where
  sys : Sys
  frames : Thread → List Frame := fun _ => []

namespace Reentrant

def created (config : StreamConfig) : Reentrant := { sys := .created config }

/-- A thread goes on with another stack. -/
def goOn (s : Reentrant) (thread : Thread) (frames : List Frame) (sys : Sys) : Reentrant :=
  { sys, frames := Function.update s.frames thread frames }

section GoOn
variable (s : Reentrant) {thread other : Thread} (frames : List Frame) (sys : Sys)

@[simp] theorem goOn_sys : (s.goOn thread frames sys).sys = sys := rfl

@[simp] theorem goOn_self : (s.goOn thread frames sys).frames thread = frames :=
  Function.update_self ..

@[simp] theorem goOn_other (elsewhere : other ≠ thread) :
    (s.goOn thread frames sys).frames other = s.frames other := Function.update_of_ne elsewhere ..

end GoOn

/-- The stack with which the caller takes its next section; its `Disconnect` is
entered before it returns. -/
def entered (s : Reentrant) : List Frame :=
  match s.sys.caller with
  | .disconnect _ => if s.sys.impl.backend.isSome then [.disconnecting] else []
  | _ => []

/-- The thread is inside `Connect` or `Disconnect`. -/
def InBackend (s : Reentrant) (thread : Thread) : Prop :=
  match s.frames thread with
  | [] => thread = .caller ∧ s.sys.caller = .startConnecting ∨
      thread = .worker ∧ s.sys.worker = .connecting
  | frame :: _ => frame = .disconnecting

theorem inBackend_of_connecting {s : Reentrant} (own : s.frames .worker = [])
    (connecting : s.sys.worker = .connecting) : s.InBackend .worker := by
  rw [InBackend, own]
  exact .inr ⟨rfl, connecting⟩

inductive Label where
  | caller (l : CallerLabel)
  | worker (l : WorkerLabel)
  | send (l : SendLabel)
  | emit (snapshot : StreamStatus)
  | deliver (n index : Nat)
  | report (thread : Thread) (snapshot : StreamStatus)
  | init (thread : Thread)
  | start (thread : Thread)
  | updateConfig (thread : Thread) (config : StreamConfig)
  | stop (thread : Thread)
  | proceed (thread : Thread)
  | disconnectReturns (thread : Thread) (st : Status)
  | finish (thread : Thread)

/-- The threads' own sections, and the reports of the backend. -/
inductive OwnStep : Reentrant → Label → Reentrant → Prop where
  | caller {s : Reentrant} (own : s.frames .caller = s.entered) (step : CallerStep s.sys l t) :
      OwnStep s (.caller l) (s.goOn .caller s.sys.caller.calls t)
  | enters {s : Reentrant} (own : s.frames .caller = [])
      (disconnecting : s.sys.caller = .disconnect inRelease)
      (backend : s.sys.impl.backend.isSome = true) :
      OwnStep s (.proceed .caller)
        (s.goOn .caller [.disconnecting] { s.sys with disconnected := true })
  | worker {s : Reentrant} (own : s.frames .worker = []) (step : WorkerStep s.sys l t) :
      OwnStep s (.worker l) (s.goOn .worker s.sys.worker.calls t)
  | send {s : Reentrant} (step : SendStep s.sys l t) : OwnStep s (.send l) { s with sys := t }
  | emit {s : Reentrant} (snapshot : StreamStatus) (reported : snapshot.state.reported = true)
      (talking : s.sys.talking = true ∨ ∃ thread, .disconnecting ∈ s.frames thread) :
      OwnStep s (.emit snapshot)
        { s with
          sys := { s.sys.hears snapshot with inFlight := s.sys.inFlight ++ [snapshot] } }
  | deliver {s : Reentrant} (n index : Nat) (own : s.frames (.backend n) = [])
      (pending : s.sys.inFlight[index]? = some snapshot) :
      OwnStep s (.deliver n index)
        (s.goOn (.backend n) [.callback]
          { s.sys with
            impl := s.sys.impl.onBackendStatusChange snapshot
            inFlight := s.sys.inFlight.eraseIdx index })
  | report {s : Reentrant} (thread : Thread) (inside : s.InBackend thread)
      (snapshot : StreamStatus) (reported : snapshot.state.reported = true) :
      OwnStep s (.report thread snapshot)
        (s.goOn thread (.callback :: s.frames thread)
          { s.sys.hears snapshot with impl := s.sys.impl.onBackendStatusChange snapshot })

/-- What a callback calls: a call that its guard ends, or the sections of `Stop`. On the
worker's own thread `StopReconnectWorker` does not join. -/
inductive CallStep (thread : Thread) : Reentrant → Label → Reentrant → Prop where
  | init {s : Reentrant} (calling : s.frames thread = .callback :: rest)
      (guarded : s.sys.impl.initGuard = (some st, impl)) :
      CallStep thread s (.init thread) { s with sys := { s.sys with impl } }
  | start {s : Reentrant} (calling : s.frames thread = .callback :: rest)
      (guarded : s.sys.impl.startGuard = (some st, impl)) :
      CallStep thread s (.start thread) { s with sys := { s.sys with impl, started := true } }
  | updateConfig {s : Reentrant} (calling : s.frames thread = .callback :: rest)
      (updated : s.sys.impl.updateConfig config = (st, impl)) :
      CallStep thread s (.updateConfig thread config) { s with sys := { s.sys with impl } }
  | stopReturns {s : Reentrant} (calling : s.frames thread = .callback :: rest)
      (guarded : s.sys.impl.stopGuard = some st) : CallStep thread s (.stop thread) s
  | stopGoesOn {s : Reentrant} (calling : s.frames thread = .callback :: rest)
      (guarded : s.sys.impl.stopGuard = none) :
      CallStep thread s (.stop thread) (s.goOn thread (.storeStop :: .callback :: rest) s.sys)
  | storesStop {s : Reentrant} (storing : s.frames thread = .storeStop :: rest) :
      CallStep thread s (.proceed thread)
        (s.goOn thread (.storeDisarmed :: rest) { s.sys with impl := s.sys.impl.storeStop })
  | storesDisarmed {s : Reentrant} (storing : s.frames thread = .storeDisarmed :: rest) :
      CallStep thread s (.proceed thread)
        (s.goOn thread (.join :: rest) { s.sys with impl := s.sys.impl.storeDisarmed })
  | joins {s : Reentrant} (joining : s.frames thread = .join :: rest) (other : thread ≠ .worker)
      (ended : s.sys.worker = .exited ∨ s.sys.worker = .absent) :
      CallStep thread s (.proceed thread)
        (s.goOn thread (.disconnect :: rest)
          { s.sys with impl := s.sys.impl.resetHandler, worker := .absent })
  | skipsJoin {s : Reentrant} (joining : s.frames thread = .join :: rest)
      (own : thread = .worker) :
      CallStep thread s (.proceed thread)
        (s.goOn thread (.disconnect :: rest) { s.sys with impl := s.sys.impl.resetHandler })
  | enters {s : Reentrant} (disconnecting : s.frames thread = .disconnect :: rest)
      (backend : s.sys.impl.backend.isSome = true) :
      CallStep thread s (.proceed thread)
        (s.goOn thread (.disconnecting :: rest) { s.sys with disconnected := true })
  | disconnectsNothing {s : Reentrant} (disconnecting : s.frames thread = .disconnect :: rest)
      (backend : s.sys.impl.backend.isSome = false) :
      CallStep thread s (.proceed thread) (s.goOn thread (.stopReport .kOk :: rest) s.sys)
  | disconnects {s : Reentrant} (inside : s.frames thread = .disconnecting :: .callback :: rest)
      (st : Status) :
      CallStep thread s (.disconnectReturns thread st)
        (s.goOn thread (.stopReport st :: .callback :: rest) s.sys.leaveDisconnect)
  | stopReports {s : Reentrant} (reporting : s.frames thread = .stopReport st :: rest) :
      CallStep thread s (.proceed thread)
        (s.goOn thread (.callback :: rest)
          { s.sys with impl := s.sys.impl.updateStatus .kDisconnected })
  | finishes {s : Reentrant} (calling : s.frames thread = .callback :: rest) :
      CallStep thread s (.finish thread) (s.goOn thread rest s.sys)

inductive Step : Reentrant → Label → Reentrant → Prop where
  | own (step : OwnStep s l t) : Step s l t
  | call (step : CallStep thread s l t) : Step s l t

section Threads
variable {s t : Sys}

theorem goOn_goOn (s : Reentrant) (thread : Thread) (first second : List Frame) (sys other : Sys) :
    (s.goOn thread first sys).goOn thread second other = s.goOn thread second other := by
  simp only [goOn, Function.update_idem]

/-- A stack that is empty again. -/
theorem goOn_nil (thread : Thread) (sys : Sys) :
    ({ sys := s : Reentrant }.goOn thread [] sys) = { sys } := by
  simp only [goOn, Function.update_eq_self]

/-- A callback that calls nothing. -/
theorem run_calls {frames : List Frame} (thread : Thread)
    (short : frames = [] ∨ frames = [.callback]) :
    ∃ ms, Run Step ({ sys := s : Reentrant }.goOn thread frames t) ms { sys := t } := by
  rcases short with rfl | rfl
  · rw [goOn_nil]
    exact ⟨[], .refl _⟩
  · have finished : CallStep thread ({ sys := s : Reentrant }.goOn thread [.callback] t) _ _ :=
      .finishes (goOn_self ..)
    rw [goOn_goOn, goOn_nil] at finished
    exact ⟨_, .single (.call finished)⟩

theorem disconnects_cases {l : CallerLabel} (step : CallerStep s l t)
    (stands : s.caller = .disconnect inRelease) (backend : s.impl.backend.isSome = true) :
    ∃ st, l = .disconnectReturns st ∧
      t = (s.goOn (.stopReport inRelease st) s.impl).leaveDisconnect := by
  cases step with
  | init step => cases step <;> simp_all
  | start step => cases step <;> simp_all
  | stop step => cases step <;> simp_all
  | updateConfig => simp_all

theorem entered_of_disconnect {s : Reentrant} (stands : s.sys.caller = .disconnect inRelease)
    (backend : s.sys.impl.backend.isSome = true) : s.entered = [.disconnecting] := by
  simp only [entered, stands, backend, if_true]

theorem run_caller {l : CallerLabel} (step : CallerStep s l t) :
    ∃ ms, Run Step { sys := s } ms { sys := t } := by
  obtain ⟨ms, returns⟩ := run_calls (s := s) (t := t) .caller s.caller.calls_cases
  by_cases inside : ({ sys := s } : Reentrant).entered = []
  · have direct : OwnStep { sys := s } (.caller l) _ := .caller inside.symm step
    exact ⟨_, .next (.own direct) returns⟩
  · -- its `Disconnect` is entered first
    unfold entered at inside
    split at inside
    · rename_i inRelease stands
      split at inside
      · rename_i backend
        obtain ⟨st, rfl, rfl⟩ := disconnects_cases step stands backend
        let within : Reentrant :=
          ({ sys := s } : Reentrant).goOn .caller [.disconnecting] { s with disconnected := true }
        have enters : OwnStep { sys := s } (.proceed .caller) within := .enters rfl stands backend
        have left : CallerStep within.sys (.disconnectReturns st) _ :=
          .stop (.disconnects (s := within.sys) stands backend st)
        have leaves : OwnStep within (.caller (.disconnectReturns st)) _ :=
          .caller ((goOn_self ..).trans (entered_of_disconnect stands backend).symm) left
        rw [goOn_goOn] at leaves
        exact ⟨_, .next (.own enters) (.next (.own leaves) returns)⟩
      · contradiction
    · contradiction

theorem run_step {l : Stream.Label} (step : Stream.Step s l t) :
    ∃ ms, Run Step { sys := s } ms { sys := t } := by
  cases step with
  | caller step => exact run_caller step
  | worker step =>
    rename_i l
    obtain ⟨ms, returns⟩ := run_calls (s := s) (t := t) .worker s.worker.calls_cases
    have direct : OwnStep { sys := s } (.worker l) _ := .worker rfl step
    exact ⟨_, .next (.own direct) returns⟩
  | send step => exact ⟨_, .single (.own (.send step))⟩
  | backend step =>
    cases step with
    | emit talking snapshot reported =>
      exact ⟨_, .single (.own (.emit snapshot reported (.inl talking)))⟩
    | deliver index pending =>
      rename_i snapshot
      have delivers : OwnStep { sys := s } (.deliver 0 index) _ := .deliver 0 index rfl pending
      obtain ⟨ms, returns⟩ := run_calls (s := s) (.backend 0) (.inr rfl)
      exact ⟨_, .next (.own delivers) returns⟩

/-- Where every callback returns at once, the threads move as they do without any. -/
theorem run_threads {ls : List Stream.Label} (run : Run Stream.Step s ls t) :
    ∃ ms, Run Step { sys := s } ms { sys := t } := by
  induction run with
  | refl => exact ⟨[], .refl _⟩
  | next head tail ih =>
    obtain ⟨first, moves⟩ := run_step head
    obtain ⟨later, rest⟩ := ih
    exact ⟨_, moves.trans rest⟩

end Threads

end Reentrant

end Stream
end VideoCodec
