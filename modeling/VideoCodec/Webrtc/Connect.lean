import VideoCodec.Transition.Run
import VideoCodec.Webrtc.Backend

/-! `Connect` and `Disconnect` of one caller at a time, against the callbacks of
every session opened so far, which run as single steps, and sends on other
threads. `opened`, `session`, `marks` and `returned` record history that no
thread reads. -/
namespace VideoCodec

open Transition

namespace Webrtc

open WebrtcBackend

/-- What the caller goes on with behind `TeardownConnection`. -/
inductive After where
  | connect
  | fail (st : Status)
  | disconnect
  deriving DecidableEq, Repr

/-- Where the caller stands, between the sections of `Connect` and `Disconnect`. -/
inductive Place where
  | idle
  | checksUrl
  | advances (after : After)
  | disables (after : After)
  | drops (after : After)
  | joins (after : After)
  | resets
  | loads
  | creates (gen : Nat)
  | registers (gen : Nat)
  | adds (gen : Nat)
  | awaitsAnswer
  | awaitsIce
  | checksIce
  | enables
  | invalidated
  | clears
  | reports
  deriving DecidableEq, Repr

inductive Call where
  | connect (config : StreamConfig)
  | disconnect
  deriving DecidableEq, Repr

/-- What a session has seen. -/
inductive Mark where
  | answer (answer : Answer)
  | checked (connected : Bool)
  deriving DecidableEq, Repr

/-- The marks of one session, in order. -/
def marksOf (marks : List (Nat × Mark)) (gen : Nat) : List Mark :=
  (marks.filter (·.1 = gen)).map Prod.snd

structure Sys where
  backend : WebrtcBackend
  place : Place := .idle
  /-- `SendVideo` calls past their guard. -/
  sends : Nat := 0
  /-- Sessions whose callbacks were registered. -/
  opened : List Nat := []
  /-- Session of the last `Connect` that got as far as opening one. -/
  session : Nat := 0
  marks : List (Nat × Mark) := []
  /-- The caller's last call. -/
  call : Call := .disconnect
  /-- Its result, while the caller is idle. -/
  returned : Option Status := none

namespace Sys

def created (config : StreamConfig) : Sys := { backend := { config } }

@[simp] def goOn (s : Sys) (place : Place) (backend : WebrtcBackend) : Sys :=
  { s with place, backend }

@[simp] def ret (s : Sys) (st : Status) (backend : WebrtcBackend) : Sys :=
  { s with place := .idle, backend, returned := some st }

/-- Where `TeardownConnection` returns to. -/
@[simp] def tornDown (s : Sys) (backend : WebrtcBackend) : After → Sys
  | .connect => s.goOn .resets backend
  | .fail st => s.ret st backend
  | .disconnect => s.goOn .clears backend

/-- A callback of session `gen`. -/
def callback (s : Sys) (gen : Nat) (event : Event) : Sys :=
  { s with
    backend := s.backend.handle gen event
    marks :=
      s.marks ++ ((s.backend.answer gen event).map fun heard => (gen, .answer heard)).toList }

end Sys

inductive Label where
  | connect (config : StreamConfig)
  | disconnect
  | proceed
  | timeout
  | event (gen : Nat) (event : Event)
  | send
  | sent (outcome : SendOutcome)
  | sendAudio

/-- Sections of `TeardownConnection`. -/
inductive TeardownStep : Sys → Sys → Prop where
  | advances {s : Sys} (advancing : s.place = .advances after) :
      TeardownStep s (s.goOn (.disables after) s.backend.advanceSession)
  | disables {s : Sys} (disabling : s.place = .disables after) :
      TeardownStep s (s.goOn (.drops after) s.backend.disableSend)
  | drops {s : Sys} (dropping : s.place = .drops after) :
      TeardownStep s (s.goOn (.joins after) s.backend.dropHandles)
  | joins {s : Sys} (joining : s.place = .joins after) :
      TeardownStep s (s.tornDown s.backend.joinWhipWorker after)

/-- Sections of `Connect`. -/
inductive ConnectStep : Sys → Label → Sys → Prop where
  | connect {s : Sys} (idle : s.place = .idle) (config : StreamConfig) :
      ConnectStep s (.connect config)
        { s.goOn .checksUrl (s.backend.storeConfig config) with
          call := .connect config, returned := none }
  | refuses {s : Sys} (checking : s.place = .checksUrl)
      (empty : s.backend.config.remoteUrl.isEmpty = true) :
      ConnectStep s .proceed (s.ret .kInvalidArgument s.backend)
  | accepts {s : Sys} (checking : s.place = .checksUrl)
      (given : s.backend.config.remoteUrl.isEmpty = false) :
      ConnectStep s .proceed (s.goOn (.advances .connect) s.backend.storeEndpoint)
  | resets {s : Sys} (resetting : s.place = .resets) :
      ConnectStep s .proceed (s.goOn .loads s.backend.resetConnectState)
  | loads {s : Sys} (loading : s.place = .loads) :
      ConnectStep s .proceed
        { s.goOn (.creates s.backend.sessionGen) s.backend with session := s.backend.sessionGen }
  | creates {s : Sys} (creating : s.place = .creates gen) :
      ConnectStep s .proceed (s.goOn (.registers gen) (s.backend.storePc gen))
  | registers {s : Sys} (registering : s.place = .registers gen) :
      ConnectStep s .proceed { s.goOn (.adds gen) s.backend with opened := gen :: s.opened }
  | adds {s : Sys} (adding : s.place = .adds gen) :
      ConnectStep s .proceed (s.goOn .awaitsAnswer (s.backend.storeTrack gen))
  | answerTimeout {s : Sys} (waiting : s.place = .awaitsAnswer)
      (silent : s.backend.answerSignalled = false) :
      ConnectStep s .timeout (s.goOn (.advances (.fail .kTimeout)) s.backend)
  | answerFails {s : Sys} (waiting : s.place = .awaitsAnswer)
      (signalled : s.backend.answerSignalled = true) (failed : s.backend.answerFailure = some st) :
      ConnectStep s .proceed (s.goOn (.advances (.fail st)) s.backend)
  | answered {s : Sys} (waiting : s.place = .awaitsAnswer)
      (signalled : s.backend.answerSignalled = true) (answered : s.backend.answerFailure = none) :
      ConnectStep s .proceed (s.goOn .awaitsIce s.backend)
  | iceTimeout {s : Sys} (waiting : s.place = .awaitsIce)
      (silent : s.backend.iceSignalled = false) :
      ConnectStep s .timeout (s.goOn (.advances (.fail .kTimeout)) s.backend)
  | iceSignalled {s : Sys} (waiting : s.place = .awaitsIce)
      (signalled : s.backend.iceSignalled = true) :
      ConnectStep s .proceed (s.goOn .checksIce s.backend)
  | iceFails {s : Sys} (checking : s.place = .checksIce)
      (lost : s.backend.connectedState = false) :
      ConnectStep s .proceed
        { s.goOn (.advances (.fail .kNetworkError)) s.backend with
          marks := s.marks ++ [(s.session, .checked false)] }
  | iceConnected {s : Sys} (checking : s.place = .checksIce)
      (connected : s.backend.connectedState = true) :
      ConnectStep s .proceed
        { s.goOn .enables s.backend with marks := s.marks ++ [(s.session, .checked true)] }
  | enables {s : Sys} (enabling : s.place = .enables) :
      ConnectStep s .proceed (s.ret .kOk { s.backend with sendEnabled := true })

/-- Sections of `Disconnect`; the DELETE request touches none of the members kept. -/
inductive DisconnectStep : Sys → Label → Sys → Prop where
  | disconnect {s : Sys} (idle : s.place = .idle) :
      DisconnectStep s .disconnect
        { s.goOn .invalidated s.backend.advanceSession with call := .disconnect, returned := none }
  | deletes {s : Sys} (invalidated : s.place = .invalidated) :
      DisconnectStep s .proceed (s.goOn (.advances .disconnect) s.backend)
  | clears {s : Sys} (clearing : s.place = .clears) :
      DisconnectStep s .proceed (s.goOn .reports s.backend.clearConnected)
  | reports {s : Sys} (reporting : s.place = .reports) :
      DisconnectStep s .proceed (s.ret .kOk (s.backend.notifyStreamState .kDisconnected))

inductive Step : Sys → Label → Sys → Prop where
  | connect (step : ConnectStep s l t) : Step s l t
  | disconnect (step : DisconnectStep s l t) : Step s l t
  | teardown (step : TeardownStep s t) : Step s .proceed t
  | event {s : Sys} (gen : Nat) (event : Event) (opened : gen ∈ s.opened)
      (working : event.ofWorker = true → s.backend.whipThread = some gen) :
      Step s (.event gen event) (s.callback gen event)
  | send {s : Sys} (guarded : s.backend.sendVideoGuard = none) :
      Step s .send { s with sends := s.sends + 1 }
  | sent {s : Sys} (sending : s.sends ≠ 0) (outcome : SendOutcome) :
      Step s (.sent outcome)
        { s with backend := (s.backend.sendVideoDone outcome).2, sends := s.sends - 1 }
  | sendAudio {s : Sys} : Step s .sendAudio { s with backend := s.backend.sendAudio.2 }

end Webrtc
end VideoCodec
