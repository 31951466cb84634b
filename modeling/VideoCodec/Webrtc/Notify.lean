import Mathlib.Data.List.InsertIdx
import VideoCodec.Stream.Threads
import VideoCodec.Transition.Handoff
import VideoCodec.Webrtc.Backend

/-! `NotifyStreamState` on any number of threads. Each call assigns the state and
copies a snapshot under one lock, and hands the snapshot to the stream under
another one. -/
namespace VideoCodec

open Transition

namespace Notify

inductive Thread where
  | peerConnection (session : Nat)
  | sender (number : Nat)
  | caller (number : Nat)
  deriving DecidableEq, Repr

/-- A call between its two locks. -/
structure Call where
  thread : Thread
  snapshot : StreamStatus
  deriving DecidableEq, Repr

/-- The backend, the snapshots on their way and the stream that receives them. -/
structure Sys where
  backend : WebrtcBackend
  stream : StreamImpl
  calls : Handoff Call := {}

inductive Label where
  | assign (thread : Thread) (state : StreamState)
  | deliver (index : Nat)
  | recordError (text : String)

inductive Step : Sys → Label → Sys → Prop where
  | assign {s : Sys} (thread : Thread) (state : StreamState) (known : state.reported = true)
      (free : ∀ item ∈ s.calls.pending, item.2.thread ≠ thread) :
      Step s (.assign thread state)
        { s with
          backend := s.backend.notifyStreamState state
          calls := s.calls.take ⟨thread, (s.backend.notifyStreamState state).status⟩ }
  | deliver {s : Sys} (index : Nat) (pending : s.calls.pending[index]? = some (order, call))
      (delivers : s.calls.deliver index = some calls) :
      Step s (.deliver index)
        { s with stream := s.stream.onBackendStatusChange call.snapshot, calls }
  | recordError {s : Sys} (text : String) :
      Step s (.recordError text) { s with backend := s.backend.withError text }

/-- The last snapshot delivered carries the state of the backend. -/
def Current (s : Sys) : Prop :=
  ∀ last, s.calls.delivered.getLast? = some last → last.2.snapshot.state = s.backend.status.state

/-- Steps that only let calls under way finish. -/
def Delivers (_ : Sys) (l : Label) : Prop := ∃ index, l = .deliver index

/-- However the calls under way finish, the snapshots arrive in the order of
assignment, and once none is under way the last one is current. -/
def InOrder (s : Sys) : Prop :=
  ∀ ls t, Run (Guarded Step Delivers) s ls t →
    t.calls.Ordered ∧ (t.calls.pending = [] → Current t)

/-- A call assigns while no other call is between its locks. -/
def Alone (s : Sys) (l : Label) : Prop :=
  ∀ thread state, l = .assign thread state → s.calls.pending = []

structure Inv (s : Sys) : Prop where
  sound : s.calls.Sound
  /-- The last call to assign still carries the state. -/
  newest : ∀ item ∈ s.calls.delivered ++ s.calls.pending,
    item.1 + 1 = s.calls.taken → item.2.snapshot.state = s.backend.status.state

section Steps
variable {s t : Sys} {l : Label} {ls : List Label}

theorem step_inv (inv : Inv s) (step : Step s l t) : Inv t := by
  obtain ⟨sound, newest⟩ := inv
  cases step with
  | assign thread state known free =>
    constructor
    · exact sound.take _
    intro item taken last
    simp only [Handoff.take, ← List.append_assoc] at taken last
    rcases List.mem_append.mp taken with old | new
    · have bound := sound.complete.mem_iff.mp (List.mem_map_of_mem old)
      have := List.mem_range.mp bound
      omega
    · rw [List.mem_singleton.mp new]
  | deliver index pending delivers =>
    constructor
    · exact sound.deliver delivers
    intro item taken last
    obtain ⟨moved, found, rfl⟩ := Handoff.deliver_cases delivers
    apply newest item _ last
    simp only [List.mem_append, List.mem_singleton] at taken ⊢
    rcases taken with (old | rfl) | waiting
    · exact .inl old
    · exact .inr (List.mem_of_getElem? found)
    · exact .inr (List.mem_of_mem_eraseIdx waiting)
  | recordError text => exact ⟨sound, newest⟩

/-- Finishing calls is draining the handoff. -/
theorem run_drains (run : Run (Guarded Step Delivers) s ls t) :
    Handoff.Drains s.calls t.calls ∧ t.backend = s.backend := by
  induction run with
  | refl s => exact ⟨.refl, rfl⟩
  | next head tail ih =>
    obtain ⟨step, index, rfl⟩ := head
    cases step with
    | deliver index pending delivers => exact ⟨.head ⟨index, delivers⟩ ih.1, ih.2⟩

theorem drains_run {calls : Handoff Call} (drains : Handoff.Drains s.calls calls) :
    ∃ ls t, Run (Guarded Step Delivers) s ls t ∧ t.calls = calls := by
  induction drains with
  | refl => exact ⟨[], s, .refl s, rfl⟩
  | tail _ delivers ih =>
    obtain ⟨ls, t, run, rfl⟩ := ih
    obtain ⟨index, delivers⟩ := delivers
    obtain ⟨⟨order, call⟩, pending, -⟩ := Handoff.deliver_cases delivers
    exact ⟨_, _, run.snoc ⟨.deliver index pending delivers, index, rfl⟩, rfl⟩

theorem inOrder_iff (inv : Inv s) : InOrder s ↔ s.calls.Orderly := by
  constructor
  · intro inOrder calls drains
    obtain ⟨ls, t, run, rfl⟩ := drains_run drains
    exact (inOrder ls t run).1
  · intro orderly ls t run
    have inv' : Inv t := run.of_guarded.invariant step_inv inv
    constructor
    · exact orderly _ (run_drains run).1
    intro empty last arrived
    have order := inv'.sound.order_of_ordered (orderly _ (run_drains run).1) empty
    have number := congrArg List.getLast? order
    rw [List.getLast?_map, arrived, Option.map_some, List.getLast?_range] at number
    refine inv'.newest last (List.mem_append_left _ (List.mem_of_getLast? arrived)) ?_
    split at number
    · contradiction
    · have := Option.some.inj number
      omega

theorem step_inOrder_iff (inv : Inv s) (inOrder : InOrder s) (step : Step s l t) :
    InOrder t ↔ Alone s l := by
  rw [inOrder_iff (step_inv inv step)]
  have orderly := (inOrder_iff inv).mp inOrder
  cases step with
  | assign thread state known free =>
    rw [Handoff.orderly_take_iff inv.sound orderly]
    constructor
    · intro empty _ _ _
      exact empty
    · intro alone
      exact alone thread state rfl
  | deliver index pending delivers =>
    exact iff_of_true (orderly.deliver delivers) (by simp [Alone])
  | recordError text => exact iff_of_true orderly (by simp [Alone])

end Steps

/-- A backend whose stream has just registered its callback. -/
def Sys.registered (backend : WebrtcBackend) (stream : StreamImpl) : Sys := { backend, stream }

theorem registered_inv (backend : WebrtcBackend) (stream : StreamImpl) :
    Inv (.registered backend stream) :=
  ⟨Handoff.sound_new, by simp [Sys.registered]⟩

/-- Snapshots arrive in the order of assignment, and the last one stays current,
exactly when each call assigns while no other call is between its locks. -/
theorem snapshots_inOrder_iff_alone (backend : WebrtcBackend) (stream : StreamImpl) :
    Run (Keeping Step InOrder) (.registered backend stream) ls s ↔
      Run (Guarded Step Alone) (.registered backend stream) ls s := by
  refine Run.keeping_iff_guarded (Q := Inv) step_inv step_inOrder_iff
    (registered_inv backend stream) ?_
  rw [inOrder_iff (registered_inv backend stream)]
  exact (Handoff.orderly_iff Handoff.sound_new).mpr ⟨by simp, by simp⟩

/-- A sender that just saw its first frame sent overtakes the report of a drop:
the backend is disconnected for good, the stream reads `kStreaming`. -/
theorem sender_overtakes_drop :
    ∃ s, Run Step
        (.registered { config := { backendType := "webrtc", remoteUrl := "http" } }
          (Stream.Sys.streaming { backendType := "webrtc", remoteUrl := "http" }).impl)
        [.assign (.sender 0) .kStreaming, .assign (.peerConnection 0) .kDisconnected,
          .deliver 1, .deliver 0] s ∧
      s.calls.pending = [] ∧ s.backend.status.state = .kDisconnected ∧
      s.stream.status.state = .kStreaming ∧ ¬s.calls.Ordered ∧ ¬Current s := by
  refine ⟨_, .next (.assign (.sender 0) .kStreaming rfl (by simp [Sys.registered])) <|
    .next (.assign (.peerConnection 0) .kDisconnected rfl (by simp [Sys.registered])) <|
    .next (.deliver 1 rfl rfl) <| .single (.deliver 0 rfl rfl),
    rfl, rfl, rfl, by decide, fun current => ?_⟩
  exact absurd (current _ rfl) (by decide)

section Refinement
variable {n n' : Sys} {s : Stream.Sys} {l : Label}

/-- The stream's threads see the calls as snapshots in flight. -/
structure Seen (n : Sys) (s : Stream.Sys) : Prop where
  impl : s.impl = n.stream
  inFlight : s.inFlight = n.calls.pending.map (·.2.snapshot)

end Refinement

end Notify
end VideoCodec
