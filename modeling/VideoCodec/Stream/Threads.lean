import VideoCodec.Stream.StreamImpl
import VideoCodec.Transition.Run

/-! The threads of a stream and one step for each critical section, atomic store
and backend call of theirs. One caller makes the lifecycle calls one after
another, and none in the user's status callback; any number of sends and of
events are under way besides the reconnect worker. `up`, `dropping`, `dropped`,
`disconnected`, `started`, `released`, `returned` and `log` record history that no
thread reads. -/
namespace VideoCodec

open Transition

namespace Stream

/-- The call that runs `StopReconnectWorker`; `Release` runs `Stop` first on an
active stream. -/
inductive Stopping where
  | stop (inRelease : Bool)
  | release
  deriving DecidableEq, Repr

/-- Where the caller stands. -/
inductive Caller where
  | idle
  | initCreate
  | initSpawn
  | initReport
  | startReport
  | startConnect
  | startConnecting
  | startFailed (st : Status)
  | startSchedule (st : Status)
  | startReconnecting (st : Status)
  | startSucceeded
  | startStreaming
  | releaseStop
  | storeStop (call : Stopping)
  | storeDisarmed (call : Stopping)
  | join (call : Stopping)
  | disconnect (inRelease : Bool)
  | stopReport (inRelease : Bool) (st : Status)
  | releaseMembers
  | releaseReport
  deriving DecidableEq, Repr

/-- Where the reconnect worker stands; `absent` when not joinable. -/
inductive Worker where
  | absent
  | asleep
  | awake
  | attempting
  | connecting
  | connected
  | disarmed
  | reporting
  | failed (st : Status)
  | exited
  deriving DecidableEq, Repr

/-- A send past its guard, before or after the backend's own send. -/
inductive Send where
  | guarded (media : Media)
  | forwarded (media : Media) (st : Status)
  deriving DecidableEq, Repr

/-- How a send call ended: refused by a guard, shed by back-pressure, or with
the status of the backend. -/
inductive Sent where
  | refused (media : Media) (st : Status)
  | shed
  | forwarded (media : Media) (st : Status)
  deriving DecidableEq, Repr

inductive Call where
  | init
  | start
  | stop
  | release
  | updateConfig
  deriving DecidableEq, Repr

structure Sys where
  impl : StreamImpl
  caller : Caller := .idle
  worker : Worker := .absent
  /-- Snapshots on their way to `OnBackendStatusChange`. -/
  inFlight : List StreamStatus := []
  sends : List Send := []
  /-- The session of the last successful `Connect` was not torn down. -/
  up : Bool := false
  /-- `kDisconnected` was reported since the last `Connect` was entered. -/
  dropping : Bool := false
  /-- The session of the last successful `Connect` reported `kDisconnected`. -/
  dropped : Bool := false
  /-- No `Connect` since the last `Disconnect`. -/
  disconnected : Bool := true
  /-- `Start` was called. -/
  started : Bool := false
  /-- `Release` has returned. -/
  released : Bool := false
  /-- The caller's last call and its result, while it is idle. -/
  returned : Option (Call × Status) := none
  log : List Sent := []

namespace Sys

def created (config : StreamConfig) : Sys := { impl := .new config }

/-- The caller returns from a call. -/
@[simp] def ret (s : Sys) (call : Call) (st : Status) (impl : StreamImpl) : Sys :=
  { s with impl, caller := .idle, returned := some (call, st) }

/-- The caller goes on to its next section. -/
@[simp] def goOn (s : Sys) (caller : Caller) (impl : StreamImpl) : Sys :=
  { s with impl, caller, returned := none }

/-- A `Connect` is entered, which tears the previous session down. -/
@[simp] def enterConnect (s : Sys) : Sys :=
  { s with up := false, dropping := false, disconnected := false }

/-- A `Connect` returns; if it succeeded, its session is up, or dropped already. -/
@[simp] def leaveConnect (s : Sys) (st : Status) : Sys :=
  { s with up := st = .kOk || s.up, dropped := if st = .kOk then s.dropping else s.dropped }

@[simp] def leaveDisconnect (s : Sys) : Sys :=
  { s with up := false, dropped := false, disconnected := true }

/-- The backend may call back. -/
def talking (s : Sys) : Bool :=
  s.up || s.caller = .startConnecting || s.worker = .connecting ||
    s.caller = .disconnect false || s.caller = .disconnect true

end Sys

/-- Continuation of `Stop` when it returns. -/
def Sys.stopReturns (s : Sys) (inRelease : Bool) (st : Status) (impl : StreamImpl) : Sys :=
  if inRelease then s.goOn (.storeStop .release) impl else s.ret .stop st impl

@[simp] theorem stopReturns_impl (s : Sys) (inRelease : Bool) (st : Status) (impl : StreamImpl) :
    (s.stopReturns inRelease st impl).impl = impl := by
  cases inRelease <;> rfl

@[simp] theorem stopReturns_log (s : Sys) (inRelease : Bool) (st : Status) (impl : StreamImpl) :
    (s.stopReturns inRelease st impl).log = s.log := by
  cases inRelease <;> rfl

inductive CallerLabel where
  | init
  | start
  | stop
  | release
  | updateConfig (config : StreamConfig)
  | createBackend (found : Bool)
  | proceed
  | connectReturns (st : Status)
  | disconnectReturns (st : Status)

inductive WorkerLabel where
  | wake
  | round
  | connect
  | connectReturns (st : Status)
  | disarm
  | succeed
  | report
  | fail

inductive BackendLabel where
  | emit (snapshot : StreamStatus)
  | deliver (index : Nat)

inductive SendLabel where
  | video
  | audio
  | forward (index : Nat) (st : Status)
  | finish (index : Nat) (stats : StreamStats)

inductive Label where
  | caller (l : CallerLabel)
  | worker (l : WorkerLabel)
  | backend (l : BackendLabel)
  | send (l : SendLabel)

/-- Sections of `Init`. -/
inductive InitStep : Sys → CallerLabel → Sys → Prop where
  | initReturns {s : Sys} (idle : s.caller = .idle) (guarded : s.impl.initGuard = (some st, impl)) :
      InitStep s .init (s.ret .init st impl)
  | initGoesOn {s : Sys} (idle : s.caller = .idle) (guarded : s.impl.initGuard = (none, impl)) :
      InitStep s .init (s.goOn .initCreate impl)
  | initFound {s : Sys} (creating : s.caller = .initCreate) :
      InitStep s (.createBackend true) (s.goOn .initSpawn s.impl.adoptBackend)
  | initMissed {s : Sys} (creating : s.caller = .initCreate) :
      InitStep s (.createBackend false) (s.ret .init .kBackendUnavailable s.impl.missBackend)
  | initSpawns {s : Sys} (spawning : s.caller = .initSpawn) (free : s.worker = .absent) :
      InitStep s .proceed { s.goOn .initReport s.impl.armWorker with worker := .asleep }
  | initKeepsWorker {s : Sys} (spawning : s.caller = .initSpawn) (joinable : s.worker ≠ .absent) :
      InitStep s .proceed (s.goOn .initReport s.impl)
  | initReports {s : Sys} (reporting : s.caller = .initReport) :
      InitStep s .proceed (s.ret .init .kOk (s.impl.updateStatus .kConfigured))

/-- Sections of `Start`. -/
inductive StartStep : Sys → CallerLabel → Sys → Prop where
  | startReturns {s : Sys} (idle : s.caller = .idle)
      (guarded : s.impl.startGuard = (some st, impl)) :
      StartStep s .start { s.ret .start st impl with started := true }
  | startGoesOn {s : Sys} (idle : s.caller = .idle) (guarded : s.impl.startGuard = (none, impl)) :
      StartStep s .start { s.goOn .startReport impl with started := true }
  | startReports {s : Sys} (reporting : s.caller = .startReport) :
      StartStep s .proceed (s.goOn .startConnect (s.impl.updateStatus .kConnecting))
  | startConnects {s : Sys} (connecting : s.caller = .startConnect)
      (backend : s.impl.backend.isSome = true) :
      StartStep s .proceed (s.goOn .startConnecting s.impl).enterConnect
  | startConnected {s : Sys} (connecting : s.caller = .startConnecting) (st : Status) :
      StartStep s (.connectReturns st)
        ((s.goOn (if st = .kOk then .startSucceeded else .startFailed st) s.impl).leaveConnect st)
  | startFails {s : Sys} (failed : s.caller = .startFailed st) :
      StartStep s .proceed (s.goOn (.startSchedule st) (s.impl.connectFailed st))
  | startSchedules {s : Sys} (scheduling : s.caller = .startSchedule st) :
      StartStep s .proceed (s.goOn (.startReconnecting st) s.impl.scheduleReconnect)
  | startReconnects {s : Sys} (reconnecting : s.caller = .startReconnecting st) :
      StartStep s .proceed (s.ret .start st (s.impl.updateStatus .kReconnecting))
  | startSucceeds {s : Sys} (succeeded : s.caller = .startSucceeded) :
      StartStep s .proceed (s.goOn .startStreaming s.impl.connectSucceeded)
  | startStreams {s : Sys} (streaming : s.caller = .startStreaming) :
      StartStep s .proceed (s.ret .start .kOk (s.impl.updateStatus .kStreaming))

/-- Sections of `Stop` and `Release`. -/
inductive StopStep : Sys → CallerLabel → Sys → Prop where
  | stopReturns {s : Sys} (idle : s.caller = .idle) (guarded : s.impl.stopGuard = some st) :
      StopStep s .stop (s.ret .stop st s.impl)
  | stopGoesOn {s : Sys} (idle : s.caller = .idle) (guarded : s.impl.stopGuard = none) :
      StopStep s .stop (s.goOn (.storeStop (.stop false)) s.impl)
  | releaseActive {s : Sys} (idle : s.caller = .idle) (active : s.impl.status.state.active = true) :
      StopStep s .release (s.goOn .releaseStop s.impl)
  | releaseInactive {s : Sys} (idle : s.caller = .idle)
      (inactive : s.impl.status.state.active = false) :
      StopStep s .release (s.goOn (.storeStop .release) s.impl)
  | releaseStopReturns {s : Sys} (stopping : s.caller = .releaseStop)
      (guarded : s.impl.stopGuard = some st) :
      StopStep s .proceed (s.stopReturns true st s.impl)
  | releaseStopGoesOn {s : Sys} (stopping : s.caller = .releaseStop)
      (guarded : s.impl.stopGuard = none) :
      StopStep s .proceed (s.goOn (.storeStop (.stop true)) s.impl)
  | storesStop {s : Sys} (storing : s.caller = .storeStop call) :
      StopStep s .proceed (s.goOn (.storeDisarmed call) s.impl.storeStop)
  | storesDisarmed {s : Sys} (storing : s.caller = .storeDisarmed call) :
      StopStep s .proceed (s.goOn (.join call) s.impl.storeDisarmed)
  | joinsForStop {s : Sys} (joining : s.caller = .join (.stop inRelease))
      (ended : s.worker = .exited ∨ s.worker = .absent) :
      StopStep s .proceed
        { s.goOn (.disconnect inRelease) s.impl.resetHandler with worker := .absent }
  | joinsForRelease {s : Sys} (joining : s.caller = .join .release)
      (ended : s.worker = .exited ∨ s.worker = .absent) :
      StopStep s .proceed { s.goOn .releaseMembers s.impl with worker := .absent }
  | disconnects {s : Sys} (disconnecting : s.caller = .disconnect inRelease)
      (backend : s.impl.backend.isSome = true) (st : Status) :
      StopStep s (.disconnectReturns st)
        (s.goOn (.stopReport inRelease st) s.impl).leaveDisconnect
  | disconnectsNothing {s : Sys} (disconnecting : s.caller = .disconnect inRelease)
      (backend : s.impl.backend.isSome = false) :
      StopStep s .proceed (s.goOn (.stopReport inRelease .kOk) s.impl)
  | stopReports {s : Sys} (reporting : s.caller = .stopReport inRelease st) :
      StopStep s .proceed (s.stopReturns inRelease st (s.impl.updateStatus .kDisconnected))
  | releasesMembers {s : Sys} (releasing : s.caller = .releaseMembers) :
      StopStep s .proceed (s.goOn .releaseReport s.impl.releaseMembers).leaveDisconnect
  | releaseReports {s : Sys} (reporting : s.caller = .releaseReport) :
      StopStep s .proceed
        { s.ret .release .kOk (s.impl.updateStatus .kDestroyed) with released := true }

inductive CallerStep : Sys → CallerLabel → Sys → Prop where
  | init (step : InitStep s l t) : CallerStep s l t
  | start (step : StartStep s l t) : CallerStep s l t
  | stop (step : StopStep s l t) : CallerStep s l t
  | updateConfig {s : Sys} (idle : s.caller = .idle)
      (updated : s.impl.updateConfig config = (st, impl)) :
      CallerStep s (.updateConfig config) (s.ret .updateConfig st impl)

inductive WorkerStep : Sys → WorkerLabel → Sys → Prop where
  | wakes {s : Sys} (asleep : s.worker = .asleep) (go : s.impl.reStop = false) :
      WorkerStep s .wake { s with worker := .awake }
  | exits {s : Sys} (asleep : s.worker = .asleep) (stop : s.impl.reStop = true) :
      WorkerStep s .wake { s with worker := .exited }
  | skips {s : Sys} (awake : s.worker = .awake) (ran : s.impl.workerRound = (false, impl)) :
      WorkerStep s .round { s with impl, worker := .asleep }
  | fires {s : Sys} (awake : s.worker = .awake) (ran : s.impl.workerRound = (true, impl)) :
      WorkerStep s .round { s with impl, worker := .attempting }
  | connects {s : Sys} (attempting : s.worker = .attempting)
      (backend : s.impl.backend.isSome = true) :
      WorkerStep s .connect { s.enterConnect with worker := .connecting }
  | connectsNothing {s : Sys} (attempting : s.worker = .attempting)
      (backend : s.impl.backend.isSome = false) :
      WorkerStep s .round { s with worker := .asleep }
  | connected {s : Sys} (connecting : s.worker = .connecting) (st : Status) :
      WorkerStep s (.connectReturns st)
        { s.leaveConnect st with worker := if st = .kOk then .connected else .failed st }
  | disarms {s : Sys} (connected : s.worker = .connected) :
      WorkerStep s .disarm { s with impl := s.impl.reconnected, worker := .disarmed }
  | succeeds {s : Sys} (disarmed : s.worker = .disarmed) :
      WorkerStep s .succeed { s with impl := s.impl.connectSucceeded, worker := .reporting }
  | reports {s : Sys} (reporting : s.worker = .reporting) :
      WorkerStep s .report { s with impl := s.impl.updateStatus .kStreaming, worker := .asleep }
  | fails {s : Sys} (failed : s.worker = .failed st) :
      WorkerStep s .fail { s with impl := s.impl.attemptFailed st, worker := .asleep }

inductive BackendStep : Sys → BackendLabel → Sys → Prop where
  | emit {s : Sys} (talking : s.talking = true) (snapshot : StreamStatus)
      (reported : snapshot.state.reported = true) :
      BackendStep s (.emit snapshot)
        { s with
          inFlight := s.inFlight ++ [snapshot]
          dropping := s.dropping || snapshot.state = .kDisconnected
          dropped := s.dropped || (s.up && snapshot.state = .kDisconnected) }
  | deliver {s : Sys} (index : Nat) (pending : s.inFlight[index]? = some snapshot) :
      BackendStep s (.deliver index)
        { s with
          impl := s.impl.onBackendStatusChange snapshot
          inFlight := s.inFlight.eraseIdx index }

inductive SendStep : Sys → SendLabel → Sys → Prop where
  | videoRefused {s : Sys} (guarded : s.impl.sendVideoGuard = some st) :
      SendStep s .video { s with log := s.log ++ [.refused .video st] }
  | videoGoesOn {s : Sys} (guarded : s.impl.sendVideoGuard = none) :
      SendStep s .video { s with sends := s.sends ++ [.guarded .video] }
  | audioRefused {s : Sys} (guarded : s.impl.sendAudioGuard = (some st, impl))
      (failed : st ≠ .kOk) :
      SendStep s .audio { s with impl, log := s.log ++ [.refused .audio st] }
  | audioShed {s : Sys} (guarded : s.impl.sendAudioGuard = (some .kOk, impl)) :
      SendStep s .audio { s with impl, log := s.log ++ [.shed] }
  | audioGoesOn {s : Sys} (guarded : s.impl.sendAudioGuard = (none, impl)) :
      SendStep s .audio { s with impl, sends := s.sends ++ [.guarded .audio] }
  | forward {s : Sys} (index : Nat) (pending : s.sends[index]? = some (.guarded media))
      (st : Status) :
      SendStep s (.forward index st) { s with sends := s.sends.set index (.forwarded media st) }
  | videoDone {s : Sys} (index : Nat) (pending : s.sends[index]? = some (.forwarded .video st))
      (stats : StreamStats) :
      SendStep s (.finish index stats)
        { s with
          impl := s.impl.sendVideoDone st stats
          sends := s.sends.eraseIdx index
          log := s.log ++ [.forwarded .video st] }
  | audioDone {s : Sys} (index : Nat) (pending : s.sends[index]? = some (.forwarded .audio st))
      (stats : StreamStats) :
      SendStep s (.finish index stats)
        { s with
          impl := s.impl.sendAudioDone st
          sends := s.sends.eraseIdx index
          log := s.log ++ [.forwarded .audio st] }

inductive Step : Sys → Label → Sys → Prop where
  | caller (step : CallerStep s l t) : Step s (.caller l) t
  | worker (step : WorkerStep s l t) : Step s (.worker l) t
  | backend (step : BackendStep s l t) : Step s (.backend l) t
  | send (step : SendStep s l t) : Step s (.send l) t

/-- `Init`, then `Start` with a `Connect` that succeeds, and nothing in between. -/
def startLabels : List Label :=
  [.caller .init, .caller (.createBackend true), .caller .proceed, .caller .proceed,
    .caller .start, .caller .proceed, .caller .proceed, .caller (.connectReturns .kOk),
    .caller .proceed, .caller .proceed]

/-- A stream that has just started. -/
def Sys.streaming (config : StreamConfig) : Sys where
  impl :=
    ((StreamImpl.new config).adoptBackend.armWorker.updateStatus .kConnecting).connectSucceeded
      |>.updateStatus .kStreaming
  worker := .asleep
  up := true
  disconnected := false
  started := true
  returned := some (.start, .kOk)

theorem starts {config : StreamConfig} (valid : StreamImpl.validateConfig config = .kOk) :
    Run Step (.created config) startLabels (.streaming config) := by
  have guarded : (StreamImpl.new config).initGuard = (none, StreamImpl.new config) := by
    have passes : ¬StreamState.kConfigured ≤ .kCreated ∧ ¬StreamState.kDestroyed ≤ .kCreated := by
      decide
    simp [StreamImpl.initGuard, StreamImpl.new, passes, valid]
  exact .next (.caller (.init (.initGoesOn rfl guarded))) <|
    .next (.caller (.init (.initFound rfl))) <| .next (.caller (.init (.initSpawns rfl rfl))) <|
    .next (.caller (.init (.initReports rfl))) <|
    .next (.caller (.start (.startGoesOn rfl rfl))) <|
    .next (.caller (.start (.startReports rfl))) <|
    .next (.caller (.start (.startConnects rfl rfl))) <|
    .next (.caller (.start (.startConnected rfl .kOk))) <|
    .next (.caller (.start (.startSucceeds rfl))) <| .single (.caller (.start (.startStreams rfl)))

end Stream
end VideoCodec
