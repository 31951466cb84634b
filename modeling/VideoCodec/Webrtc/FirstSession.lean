import VideoCodec.Webrtc.Stale

/-! What a backend reports until a first `Connect` has succeeded. No packet passes
`SendVideo` before that, so that no session can report `kStreaming` yet, whatever
callbacks, sends, failed and repeated `Connect` calls come in between. -/
namespace VideoCodec

open Transition Atomic

namespace WebrtcBackend

/-- The operations on the way to `kStreaming`. -/
def streams : Op → Bool
  | .store .firstFrameSent value => value
  | .exchange .firstFrameSent => true
  | .notify state => state = .kStreaming
  | _ => false

/-- What an operation may answer as long as sends are disabled. -/
@[simp] def disabled : (op : Op) → op.Ans → Prop
  | .load .firstFrameSent, sent => sent = false
  | .loadSendEnabled, enabled => enabled = false
  | _, _ => True

/-- The thread does nothing towards `kStreaming` as long as sends are disabled. -/
def Quiet (thread : Thread α) : Prop := thread.Avoids (fun op => streams op = true) disabled

theorem Quiet.next {op : Op} {next : op.Ans → Thread α} (quiet : Quiet (.ask op next))
    {answer : op.Ans} (possible : disabled op answer) : Quiet (next answer) :=
  quiet.2 answer possible

theorem Quiet.bind {β : Type} {thread : Thread α} {continuation : α → Thread β}
    (first : Quiet thread) (rest : ∀ result, Quiet (continuation result)) :
    Quiet (thread >>= continuation) := by
  induction thread with
  | done result => exact rest result
  | ask op next ih => exact ⟨first.1, fun answer possible => ih answer (first.2 answer possible)⟩

/-- An operation is quiet in itself, unless it streams. -/
theorem ask_quiet {op : Op} (still : streams op = false) : Quiet (ask op) :=
  ⟨by simp [still], fun _ _ => trivial⟩

theorem tryMarkStreaming_quiet : Quiet Thread.tryMarkStreaming := by
  refine ask_quiet rfl |>.bind fun opened => ?_
  cases opened with
  | false => exact trivial
  | true =>
    refine ⟨by simp [streams], fun sent unsent => ?_⟩
    rw [show sent = false from unsent]
    exact trivial

theorem handler_quiet (gen : Nat) (callback : Callback) : Quiet (callback.handler gen) := by
  cases callback with
  | stateChange state =>
    cases state <;> simp [Callback.handler, Thread.onStateChange, Quiet, Prog.Avoids, streams]
  | localDescription =>
    simp [Callback.handler, Thread.onLocalDescription, Thread.claimOfferSend, Quiet, Prog.Avoids,
      streams]
  | gatheringStateChange state =>
    by_cases complete : state = .complete <;>
      simp [Callback.handler, Thread.onGatheringStateChange, Thread.claimOfferSend, Quiet,
        Prog.Avoids, streams, complete]
  | trackOpen =>
    refine (ask_quiet rfl).bind fun current => ?_
    cases current with
    | false => exact trivial
    | true => exact (ask_quiet rfl).bind fun _ => tryMarkStreaming_quiet
  | trackClosed =>
    simp [Callback.handler, Thread.onTrackClosed, Quiet, Prog.Avoids, streams]

theorem onWhipReady_quiet (gen : Nat) : Quiet (Thread.onWhipReady gen) := by
  refine (ask_quiet rfl).bind fun current => ?_
  cases current with
  | false => exact trivial
  | true =>
    refine (ask_quiet rfl).bind fun present => ?_
    cases present with
    | false => exact trivial
    | true =>
      refine (ask_quiet rfl).bind fun thrown => ?_
      cases thrown <;> exact ask_quiet rfl

theorem whipCreateWorker_quiet (gen : Nat) : Quiet (Thread.whipCreateWorker gen) := by
  refine (ask_quiet rfl).bind fun current => ?_
  cases current with
  | false => exact trivial
  | true =>
    refine (ask_quiet rfl).bind fun created => ?_
    cases created with
    | ok answer => exact onWhipReady_quiet gen
    | error error => simp [Thread.onWhipError, Quiet, Prog.Avoids, streams]

/-- A send that starts while sends are disabled ends at its first check. -/
theorem sendVideo_quiet : Quiet Thread.sendVideo := by
  refine ⟨by simp [streams], fun enabled off => ?_⟩
  rw [show enabled = false from off]
  exact trivial

/-- Sends are off, and nothing has been sent or reported since the creation. -/
structure Unsent (b : WebrtcBackend) : Prop where
  disabled : b.sendEnabled = false
  unsent : b.firstFrameSent = false
  unreported : b.status.state ≠ .kStreaming

theorem Unsent.effect {b : WebrtcBackend} {op : Op} (unsent : Unsent b)
    (still : streams op = false) : Unsent (op.effect b) := by
  obtain ⟨disabled, sent, unreported⟩ := unsent
  cases op with
  | store flag value =>
    cases flag with
    | firstFrameSent => exact ⟨disabled, still, unreported⟩
    | _ => exact ⟨disabled, sent, unreported⟩
  | exchange flag =>
    cases flag with
    | firstFrameSent => contradiction
    | _ => exact ⟨disabled, sent, unreported⟩
  | notify state => exact ⟨disabled, sent, of_decide_eq_false still⟩
  | sendOffer gen =>
    obtain ⟨thread, sent'⟩ := b.sendOfferToWhip_frame gen
    rw [Op.effect, sent']
    exact ⟨disabled, sent, unreported⟩
  | fail st error =>
    rw [Op.effect, failConnect]
    split <;> exact ⟨disabled, sent, unreported⟩
  | _ => exact ⟨disabled, sent, unreported⟩

/-- Sends that are disabled answer so. -/
theorem Unsent.answers {b : WebrtcBackend} {op : Op} {answer : op.Ans} (unsent : Unsent b)
    (possible : op.answers b answer) : WebrtcBackend.disabled op answer := by
  cases op with
  | load flag =>
    cases flag with
    | firstFrameSent => exact possible.trans unsent.unsent
    | _ => trivial
  | loadSendEnabled => exact possible.trans unsent.disabled
  | _ => trivial

end WebrtcBackend

namespace Webrtc

open WebrtcBackend

/-- No `Connect` succeeds: its last section, which enables sends, is not taken. -/
def NotConnected (s : Race) (l : RaceLabel) : Prop :=
  s.sys.place = .enables → ∀ label, l ≠ .caller label

structure Unstarted (s : Race) : Prop where
  backend : Unsent s.sys.backend
  resetting : ∀ access ∈ s.resetting, access ∈ resetSections
  calls : ∀ call ∈ s.calls, Quiet call.rest
  worker : ∀ gen rest, s.worker = some (gen, rest) → Quiet rest

theorem created_unstarted (config : StreamConfig) : Unstarted (.created config) where
  backend := ⟨rfl, rfl, nofun⟩
  resetting _ member := member
  calls _ member := nomatch member
  worker _ _ running := nomatch running

section Steps
variable {s t : Race} {l : RaceLabel}

theorem resetSections_unsent {b : WebrtcBackend} (unsent : Unsent b) :
    ∀ access ∈ resetSections, Unsent (access b) := by
  obtain ⟨disabled, sent, unreported⟩ := unsent
  rw [resetSections]
  simp only [List.forall_mem_cons]
  exact ⟨⟨disabled, sent, unreported⟩, ⟨disabled, sent, unreported⟩, ⟨disabled, sent, unreported⟩,
    ⟨disabled, sent, unreported⟩, ⟨disabled, sent, unreported⟩, ⟨disabled, sent, unreported⟩,
    ⟨disabled, rfl, unreported⟩, ⟨disabled, sent, unreported⟩, ⟨rfl, sent, unreported⟩,
    ⟨disabled, sent, unreported⟩, fun _ member => absurd member List.not_mem_nil⟩

theorem CallerStep.unsent {s t : Sys} {l : Label} (unsent : Unsent s.backend)
    (elsewhere : s.place ≠ .enables) (step : CallerStep s l t) : Unsent t.backend := by
  obtain ⟨disabled, sent, unreported⟩ := unsent
  cases step with
  | connect step =>
    cases step with
    | enables enabling => exact absurd enabling elsewhere
    | resets => exact ⟨rfl, rfl, unreported⟩
    | _ => exact ⟨disabled, sent, unreported⟩
  | disconnect step =>
    cases step with
    | reports => exact ⟨disabled, sent, nofun⟩
    | _ => exact ⟨disabled, sent, unreported⟩
  | teardown step =>
    cases step with
    | disables => exact ⟨rfl, sent, unreported⟩
    | joins joining =>
      rename_i after
      cases after <;> exact ⟨disabled, sent, unreported⟩
    | _ => exact ⟨disabled, sent, unreported⟩

/-- A thread takes an operation that is quiet, and goes on with what is. -/
theorem Unstarted.perform (unstarted : Unstarted s) (gen : Option Nat) {op : Op}
    (still : streams op = false) : Unstarted (s.perform gen op) where
  backend := unstarted.backend.effect still
  resetting := unstarted.resetting
  calls := unstarted.calls
  worker other rest running := by
    rw [Race.perform] at running
    dsimp only at running
    split at running
    · obtain ⟨_, -, pair⟩ := Option.map_eq_some_iff.mp running
      obtain ⟨-, rfl⟩ := Prod.mk.inj pair
      exact whipCreateWorker_quiet _
    · exact unstarted.worker other rest running

theorem RaceStep.unstarted (unstarted : Unstarted s)
    (step : Guarded RaceStep NotConnected s l t) : Unstarted t := by
  obtain ⟨step, pending⟩ := step
  cases step with
  | caller step =>
    have elsewhere : s.sys.place ≠ .enables := fun place => pending place _ rfl
    refine ⟨step.unsent unstarted.backend elsewhere, unstarted.resetting, unstarted.calls, ?_⟩
    intro gen rest running
    dsimp only at running
    split at running
    · contradiction
    · exact unstarted.worker gen rest running
  | clear resets more =>
    have known := more ▸ unstarted.resetting
    exact { unstarted with
      backend := resetSections_unsent unstarted.backend _ (known _ List.mem_cons_self)
      resetting := fun access later => known access (List.mem_cons_of_mem _ later) }
  | cleared resets last =>
    have known := last ▸ unstarted.resetting
    exact { unstarted with
      backend := resetSections_unsent unstarted.backend _ (known _ List.mem_cons_self)
      resetting := fun _ member => member }
  | arrive registered callback =>
    exact { unstarted with
      calls := List.forall_mem_append.mpr
        ⟨unstarted.calls, List.forall_mem_singleton.mpr (handler_quiet _ callback)⟩ }
  | send =>
    exact { unstarted with
      calls := List.forall_mem_append.mpr
        ⟨unstarted.calls, List.forall_mem_singleton.mpr (sendVideo_quiet.bind fun _ => trivial)⟩ }
  | call running possible =>
    have calls := unstarted.calls
    rw [running, List.forall_mem_append, List.forall_mem_cons] at calls
    obtain ⟨before, own, others⟩ := calls
    have next := own.next (unstarted.backend.answers possible)
    rename_i gen _ _ _
    exact { unstarted.perform gen (eq_false_of_ne_true own.1) with
      calls := List.forall_mem_append.mpr ⟨before, List.forall_mem_cons.mpr ⟨next, others⟩⟩ }
  | work running possible =>
    have own := unstarted.worker _ _ running
    rename_i gen _ _ _
    exact { unstarted.perform (some gen) (eq_false_of_ne_true own.1) with
      worker := fun gen rest same => by
        obtain ⟨-, rfl⟩ := Prod.mk.inj (Option.some.inj same)
        exact own.next (unstarted.backend.answers possible) }

end Steps

/-- Until a `Connect` has succeeded, the status is never `kStreaming`. -/
theorem not_streaming_before_connected (config : StreamConfig)
    (run : Run (Guarded RaceStep NotConnected) (.created config) ls s) :
    s.sys.backend.status.state ≠ .kStreaming :=
  have unstarted : Unstarted s :=
    run.invariant (fun held step => RaceStep.unstarted held step) (created_unstarted config)
  unstarted.backend.unreported

/-- A section of the caller that has not connected, with no worker to join. -/
theorem caller_unconnected {s : Race} {sys : Sys} {l : Label} (step : CallerStep s.sys l sys)
    (elsewhere : s.sys.place ≠ .resets ∧ s.sys.place ≠ .enables) (idle : s.worker = none) :
    Guarded RaceStep NotConnected s (.caller l) { s with sys } :=
  ⟨(caller_idle step elsewhere.1 idle).1, fun enabling => absurd enabling elsewhere.2⟩

/-- The one send under way finds sends disabled. -/
theorem refused_unconnected {s : Race}
    (running : s.calls = [⟨none, Thread.sendVideo >>= fun _ => pure ()⟩])
    (off : s.sys.backend.sendEnabled = false) :
    Guarded RaceStep NotConnected s .call
      { s.perform none .loadSendEnabled with calls := [⟨none, .done ()⟩] } :=
  ⟨(only_call .loadSendEnabled false running off.symm).1, fun _ _ => nofun⟩

/-- A send while the first `Connect` is under way ends at its first check. -/
theorem not_streaming_before_connected_send :
    ∃ s, Run (Guarded RaceStep NotConnected)
        (.created { backendType := "webrtc", remoteUrl := "http" })
        [.caller (.connect { backendType := "webrtc", remoteUrl := "http" }), .caller .proceed,
          .send, .call] s ∧ s.sys.place = .advances .connect ∧ s.calls = [⟨none, .done ()⟩] ∧
      s.sys.backend.status.state ≠ .kStreaming := by
  have entered := Run.single (caller_unconnected
    (s := .created { backendType := "webrtc", remoteUrl := "http" })
    (.connect (.connect rfl { backendType := "webrtc", remoteUrl := "http" })) (by decide) rfl)
  have accepted := entered.snoc (caller_unconnected (.connect (.accepts rfl rfl)) (by decide) rfl)
  have sending := accepted.snoc ⟨.send, fun _ _ => nofun⟩
  have refused := sending.snoc (refused_unconnected rfl rfl)
  exact ⟨_, refused, rfl, rfl, not_streaming_before_connected _ refused⟩

end Webrtc
end VideoCodec
