import VideoCodec.Webrtc.FirstSession

/-! What the threads of a backend report: states that are a backend's to report,
from every handler, worker and send, whatever they are answered. -/
namespace VideoCodec

open Transition Atomic

namespace WebrtcBackend

/-- What an operation hands to the status callback. -/
def Op.report (b : WebrtcBackend) : Op → Option StreamStatus
  | .notify state => some (b.notifyStreamState state).status
  | _ => none

/-- An operation that reports what only the stream sets itself. -/
def Op.Foreign (op : Op) : Prop := ∃ state, op = .notify state ∧ state.reported = false

/-- Whatever the thread is answered, it reports a backend's states. -/
def Speaks (thread : Thread α) : Prop := thread.Avoids Op.Foreign fun _ _ => True

theorem Speaks.next {op : Op} {next : op.Ans → Thread α} (speaks : Speaks (.ask op next))
    (answer : op.Ans) : Speaks (next answer) :=
  speaks.2 answer trivial

theorem Speaks.bind {β : Type} {thread : Thread α} {continuation : α → Thread β}
    (first : Speaks thread) (rest : ∀ result, Speaks (continuation result)) :
    Speaks (thread >>= continuation) := by
  induction thread with
  | done result => exact rest result
  | ask op next ih => exact ⟨first.1, fun answer possible => ih answer (first.2 answer possible)⟩

theorem speaks_done (result : α) : Speaks (.done result : Thread α) := trivial

theorem speaks_ask {op : Op} (own : ¬op.Foreign) : Speaks (ask op) :=
  ⟨own, fun _ _ => trivial⟩

theorem not_foreign {op : Op} (silent : ∀ state, op ≠ .notify state) : ¬op.Foreign :=
  fun ⟨state, same, _⟩ => silent state same

theorem speaks_notify {state : StreamState} (known : state.reported = true) :
    Speaks (Thread.notify state) := by
  refine speaks_ask ?_
  rintro ⟨other, same, unknown⟩
  obtain rfl := Op.notify.inj same
  rw [known] at unknown
  contradiction

theorem speaks_store (flag : Flag) (value : Bool) : Speaks (Thread.store flag value) :=
  speaks_ask (not_foreign (by simp))

/-- A thread that goes on only where a check answers so. -/
theorem speaks_check {op : Op} (silent : ∀ state, op ≠ .notify state)
    {continuation : op.Ans → Thread α} (rest : ∀ answer, Speaks (continuation answer)) :
    Speaks (ask op >>= continuation) :=
  (speaks_ask (not_foreign silent)).bind rest

theorem tryMarkStreaming_speaks : Speaks Thread.tryMarkStreaming := by
  refine speaks_check (by simp) fun opened => ?_
  cases opened with
  | false => exact speaks_done ()
  | true =>
    refine speaks_check (by simp) fun sent => ?_
    cases sent with
    | false => exact speaks_done ()
    | true =>
      refine speaks_check (by simp) fun reported => ?_
      cases reported with
      | false => exact speaks_notify rfl
      | true => exact speaks_done ()

theorem onStateChange_speaks (gen : Nat) (state : PeerState) :
    Speaks (Thread.onStateChange gen state) := by
  refine speaks_check (by simp) fun current => ?_
  cases current with
  | false => exact speaks_done ()
  | true =>
    cases state with
    | new => exact speaks_done ()
    | connecting => exact speaks_notify rfl
    | connected => exact (speaks_store _ _).bind fun _ => speaks_notify rfl
    | disconnected =>
      exact (speaks_store _ _).bind fun _ => (speaks_store _ _).bind fun _ => speaks_notify rfl
    | failed | closed =>
      exact (speaks_store _ _).bind fun _ => (speaks_store _ _).bind fun _ =>
        (speaks_store _ _).bind fun _ => speaks_notify rfl

theorem claimOfferSend_speaks : Speaks Thread.claimOfferSend :=
  speaks_check (by simp) fun _ => speaks_done _

theorem onGatheringStateChange_speaks (gen : Nat) (state : GatheringState) :
    Speaks (Thread.onGatheringStateChange gen state) := by
  refine speaks_check (by simp) fun current => ?_
  cases current with
  | false => exact speaks_done ()
  | true =>
    by_cases complete : state = .complete
    · simp only [complete, Bool.not_true, Bool.false_eq_true, if_true, if_false]
      refine (speaks_store _ _).bind fun _ => claimOfferSend_speaks.bind fun claimed => ?_
      cases claimed with
      | false => exact speaks_done ()
      | true =>
        refine speaks_check (by simp) fun present => ?_
        cases present with
        | false => exact speaks_done ()
        | true =>
          refine speaks_check (by simp) fun described => ?_
          cases described with
          | false => exact speaks_done ()
          | true => exact speaks_ask (not_foreign (by simp))
    · simp only [complete, Bool.not_true, Bool.false_eq_true, if_false]
      exact speaks_store _ _

theorem handler_speaks (gen : Nat) (callback : Callback) : Speaks (callback.handler gen) := by
  cases callback with
  | stateChange state => exact onStateChange_speaks gen state
  | gatheringStateChange state => exact onGatheringStateChange_speaks gen state
  | localDescription =>
    refine speaks_check (by simp) fun current => ?_
    cases current with
    | false => exact speaks_done ()
    | true =>
      refine speaks_check (by simp) fun complete => ?_
      cases complete with
      | false => exact speaks_done ()
      | true =>
        refine claimOfferSend_speaks.bind fun claimed => ?_
        cases claimed with
        | false => exact speaks_done ()
        | true => exact speaks_ask (not_foreign (by simp))
  | trackOpen =>
    refine speaks_check (by simp) fun current => ?_
    cases current with
    | false => exact speaks_done ()
    | true => exact (speaks_store _ _).bind fun _ => tryMarkStreaming_speaks
  | trackClosed =>
    refine speaks_check (by simp) fun current => ?_
    cases current with
    | false => exact speaks_done ()
    | true => exact speaks_store _ _

theorem onWhipReady_speaks (gen : Nat) : Speaks (Thread.onWhipReady gen) := by
  refine speaks_check (by simp) fun current => ?_
  cases current with
  | false => exact speaks_done ()
  | true =>
    refine speaks_check (by simp) fun present => ?_
    cases present with
    | false => exact speaks_done ()
    | true =>
      refine speaks_check (by simp) fun thrown => ?_
      cases thrown <;> exact speaks_ask (not_foreign (by simp))

theorem onWhipError_speaks (gen : Nat) (error : String) :
    Speaks (Thread.onWhipError gen error) := by
  refine speaks_check (by simp) fun current => ?_
  cases current with
  | false => exact speaks_done ()
  | true => exact speaks_ask (not_foreign (by simp))

theorem whipCreateWorker_speaks (gen : Nat) : Speaks (Thread.whipCreateWorker gen) := by
  refine speaks_check (by simp) fun current => ?_
  cases current with
  | false => exact speaks_done ()
  | true =>
    refine speaks_check (by simp) fun created => ?_
    cases created with
    | ok answer => exact onWhipReady_speaks gen
    | error error =>
      refine (onWhipError_speaks gen error).bind fun _ => speaks_check (by simp) fun current => ?_
      cases current with
      | false => exact speaks_done ()
      | true => exact speaks_ask (not_foreign (by simp))

theorem sendTrack_speaks : Speaks Thread.sendTrack := by
  refine speaks_check (by simp) fun outcome => ?_
  cases outcome with
  | thrown what => exact speaks_check (by simp) fun _ => speaks_done _
  | refused => exact speaks_done _
  | sent =>
    exact (speaks_store _ _).bind fun _ => tryMarkStreaming_speaks.bind fun _ => speaks_done _

theorem sendVideo_speaks : Speaks Thread.sendVideo := by
  refine speaks_check (by simp) fun enabled => ?_
  cases enabled with
  | false => exact speaks_done _
  | true =>
    refine speaks_check (by simp) fun track => ?_
    cases track with
    | none => exact speaks_done _
    | some gen =>
      refine speaks_check (by simp) fun connected => ?_
      cases connected with
      | true => exact sendTrack_speaks
      | false =>
        refine speaks_check (by simp) fun opened => ?_
        cases opened with
        | false => exact speaks_done _
        | true => exact sendTrack_speaks

end WebrtcBackend

namespace Webrtc

open WebrtcBackend

/-- All threads of the backend report a backend's states. -/
structure Speaking (s : Race) : Prop where
  calls : ∀ call ∈ s.calls, Speaks call.rest
  worker : ∀ gen rest, s.worker = some (gen, rest) → Speaks rest

theorem created_speaking (config : StreamConfig) : Speaking (.created config) where
  calls _ member := absurd member List.not_mem_nil
  worker _ _ running := by contradiction

section Steps
variable {s t : Race} {l : RaceLabel}

/-- An operation of a call leaves the worker, or starts it. -/
theorem Speaking.perform (speaking : Speaking s) (gen : Option Nat) (op : Op) :
    Speaking (s.perform gen op) where
  calls := speaking.calls
  worker other rest running := by
    rw [Race.perform] at running
    dsimp only at running
    split at running
    · obtain ⟨_, -, pair⟩ := Option.map_eq_some_iff.mp running
      obtain ⟨-, rfl⟩ := Prod.mk.inj pair
      exact whipCreateWorker_speaks _
    · exact speaking.worker other rest running

theorem RaceStep.speaking (speaking : Speaking s) (step : RaceStep s l t) : Speaking t := by
  cases step with
  | caller step =>
    refine ⟨speaking.calls, fun gen rest running => ?_⟩
    dsimp only at running
    split at running
    · contradiction
    · exact speaking.worker gen rest running
  | clear | cleared => exact ⟨speaking.calls, speaking.worker⟩
  | arrive registered callback =>
    exact { speaking with
      calls := List.forall_mem_append.mpr
        ⟨speaking.calls, List.forall_mem_singleton.mpr (handler_speaks _ callback)⟩ }
  | send =>
    exact { speaking with
      calls := List.forall_mem_append.mpr ⟨speaking.calls,
        List.forall_mem_singleton.mpr (sendVideo_speaks.bind fun _ => speaks_done ())⟩ }
  | call running possible =>
    have calls := speaking.calls
    rw [running, List.forall_mem_append, List.forall_mem_cons] at calls
    obtain ⟨before, own, others⟩ := calls
    rename_i gen op answer next
    exact { speaking.perform gen op with
      calls := List.forall_mem_append.mpr
        ⟨before, List.forall_mem_cons.mpr ⟨own.next answer, others⟩⟩ }
  | work running possible =>
    have own := speaking.worker _ _ running
    rename_i gen op answer next
    exact { speaking.perform (some gen) op with
      worker := fun gen rest same => by
        obtain ⟨-, rfl⟩ := Prod.mk.inj (Option.some.inj same)
        exact own.next answer }

end Steps

/-- What an operation of a thread that speaks hands over is a backend's to report. -/
theorem reported_of_speaks {b : WebrtcBackend} {op : Op} {next : op.Ans → Thread α}
    (speaks : Speaks (.ask op next)) {snapshot : StreamStatus}
    (reports : op.report b = some snapshot) : snapshot.state.reported = true := by
  cases op with
  | notify state =>
    obtain rfl := Option.some.inj reports
    cases known : state.reported with
    | true => exact known
    | false => exact absurd ⟨state, rfl, known⟩ speaks.1
  | _ => contradiction

end Webrtc
end VideoCodec
