import VideoCodec.Core.Types
import VideoCodec.Stream.AbrController
import VideoCodec.Stream.ReconnectHandler

/-! The critical sections of `StreamImpl` as functions on its members. A guard
returns the status it ends the call with, or nothing when the call goes on.
Which thread runs which section when is left to the threads. -/
namespace VideoCodec

structure StreamImpl where
  config : StreamConfig
  status : StreamStatus
  /-- The registered name whose factory built the backend. -/
  backend : Option String
  /-- The network options its constructor was given. -/
  backendNetwork : Option NetworkConfig := none
  abrController : Option AbrController
  /-- The initial bitrate its constructor was given. -/
  initialBitrateKbps : Option UInt32 := none
  reconnectHandler : Option ReconnectHandler
  backpressureBufferCount : UInt32
  reStop : Bool
  reconnectArmed : Bool
  deriving DecidableEq, Repr

namespace StreamImpl

def kBackpressureMaxPackets : UInt32 := 100

def new (config : StreamConfig) : StreamImpl :=
  { config, status := { state := .kCreated }, backend := none, abrController := none
    reconnectHandler := none, backpressureBufferCount := 0, reStop := false
    reconnectArmed := false }

def validateConfig (config : StreamConfig) : Status :=
  if config.backendType.isEmpty then .kInvalidArgument
  else if config.remoteUrl.isEmpty then .kInvalidArgument
  else if config.initialBitrateKbps = 0 then .kInvalidArgument
  else if config.resolutionWidth = 0 || config.resolutionHeight = 0 then .kInvalidArgument
  else if config.framerate = 0 then .kInvalidArgument
  else .kOk

@[simp] def withError (s : StreamImpl) (text : String) : StreamImpl :=
  { s with status := { s.status with lastError := text } }

/-- The critical section of `UpdateStatus`. -/
@[simp] def updateStatus (s : StreamImpl) (state : StreamState) : StreamImpl :=
  { s with status := { s.status with state } }

/-- First section of `Init`. -/
def initGuard (s : StreamImpl) : Option Status × StreamImpl :=
  if .kConfigured ≤ s.status.state then (some .kOk, s)
  else if .kDestroyed ≤ s.status.state then (some .kUnsupportedOperation, s)
  else
    match validateConfig s.config with
    | .kOk => (none, s)
    | validation => (some validation, (s.withError "invalid config").updateStatus .kDisconnected)

/-- `Init` once `CreateBackend` returned a backend. -/
@[simp] def adoptBackend (s : StreamImpl) : StreamImpl :=
  { s with
    backend := some s.config.backendType
    backendNetwork := some s.config.network
    abrController :=
      some (.new s.config.initialBitrateKbps s.config.minBitrateKbps s.config.maxBitrateKbps)
    initialBitrateKbps := some s.config.initialBitrateKbps
    reconnectHandler := some (.new s.config.reconnectMaxIntervalS s.config.bufferDurationS) }

/-- `Init` once `CreateBackend` returned null. -/
@[simp] def missBackend (s : StreamImpl) : StreamImpl :=
  { s with
      backend        := none
      backendNetwork := none }.withError ("backend not found: " ++ s.config.backendType)
    |>.updateStatus .kDisconnected

/-- What `StartReconnectWorker` stores before it spawns the thread. -/
@[simp] def armWorker (s : StreamImpl) : StreamImpl :=
  { s with reStop := false, reconnectArmed := false }

/-- First section of `Start`. -/
def startGuard (s : StreamImpl) : Option Status × StreamImpl :=
  match s.status.state with
  | .kConfigured => (none, s)
  | .kCreated => (some .kNotInitialized, s.withError "Init() must be called before Start()")
  | .kStreaming => (some .kOk, s)
  | .kReconnecting => (some .kOk, s)
  | _ => (some .kUnsupportedOperation, s.withError "invalid state transition")

/-- `Start` after its `Connect` failed. -/
@[simp] def connectFailed (s : StreamImpl) (st : Status) : StreamImpl :=
  s.withError ("Connect failed: " ++ st.toString)

def scheduleReconnect (s : StreamImpl) : StreamImpl :=
  if s.reStop then s else { s with reconnectArmed := true }

/-- `Start` and `AttemptReconnect` after a `Connect` that succeeded. -/
@[simp] def connectSucceeded (s : StreamImpl) : StreamImpl :=
  { s with abrController := s.abrController.map AbrController.reset }.withError ""

/-- First section of `Stop`. -/
def stopGuard (s : StreamImpl) : Option Status :=
  if s.status.state ≠ .kStreaming && s.status.state ≠ .kReconnecting then some .kOk else none

@[simp] def storeStop (s : StreamImpl) : StreamImpl := { s with reStop := true }

@[simp] def storeDisarmed (s : StreamImpl) : StreamImpl :=
  { s with reconnectArmed := false }

@[simp] def resetHandler (s : StreamImpl) : StreamImpl :=
  { s with reconnectHandler := s.reconnectHandler.map ReconnectHandler.reset }

/-- `Release` after the worker was joined. -/
@[simp] def releaseMembers (s : StreamImpl) : StreamImpl :=
  { s with
    reconnectHandler := none, backend := none, backendNetwork := none, abrController := none
    initialBitrateKbps := none }

def updateConfig (s : StreamImpl) (config : StreamConfig) : Status × StreamImpl :=
  if s.status.state = .kStreaming || s.status.state = .kReconnecting then
    (.kUnsupportedOperation, s.withError "cannot update config while streaming")
  else
    match validateConfig config with
    | .kOk => (.kOk, { s with config })
    | validation => (validation, s.withError "invalid config")

def onBackendStatusChange (s : StreamImpl) (reported : StreamStatus) : StreamImpl :=
  let wasActive := s.status.state = .kStreaming || s.status.state = .kReconnecting
  let replaced := { s with status := reported }
  if reported.state = .kDisconnected && wasActive && s.reconnectHandler.isSome && !s.reStop then
    { replaced with reconnectArmed := true }.updateStatus .kReconnecting
  else replaced

/-- Counters after a forwarded packet; `text` names the call. -/
def countSend (s : StreamImpl) (st : Status) (text : String) : StreamImpl :=
  if st = .kOk then
    { s with
      status := { s.status with framesSent := s.status.framesSent + 1 }
      backpressureBufferCount := 0 }
  else
    { s with
      status := { s.status with framesDropped := s.status.framesDropped + 1, lastError := text }
      backpressureBufferCount := s.backpressureBufferCount + 1 }

/-- First section of `SendVideo`, with the check of `backend_` behind it. -/
def sendVideoGuard (s : StreamImpl) : Option Status :=
  if ¬.kConfigured ≤ s.status.state then some .kNotInitialized
  else if s.backend.isNone then some .kNotInitialized
  else none

/-- While streaming, the statistics of the backend move the bitrate. -/
def adaptBitrate (s : StreamImpl) (stats : StreamStats) : StreamImpl :=
  match s.abrController with
  | some abr =>
    if s.status.state = .kStreaming then
      let adapted := abr.update stats.rttMs stats.packetLossPct
      { s with
        abrController := some adapted
        status := { s.status with bitrateKbps := adapted.currentBitrateKbps } }
    else s
  | none => s

/-- Last section of `SendVideo`. -/
def sendVideoDone (s : StreamImpl) (st : Status) (stats : StreamStats) : StreamImpl :=
  (s.countSend st "SendVideo failed").adaptBitrate stats

/-- First section of `SendAudio`; a full back-pressure buffer sheds the packet. -/
def sendAudioGuard (s : StreamImpl) : Option Status × StreamImpl :=
  if s.status.state ≠ .kStreaming then
    if ¬.kConfigured ≤ s.status.state then (some .kNotInitialized, s)
    else (some .kUnsupportedOperation, s.withError "stream not started")
  else if kBackpressureMaxPackets ≤ s.backpressureBufferCount then
    (some .kOk,
      { s with status := { s.status with framesDropped := s.status.framesDropped + 1 } })
  else (none, s)

/-- Last section of `SendAudio`. -/
def sendAudioDone (s : StreamImpl) (st : Status) : StreamImpl := s.countSend st "SendAudio failed"

/-- One round of the worker after its wait: whether it attempts a reconnect. -/
def workerRound (s : StreamImpl) : Bool × StreamImpl :=
  match s.reconnectArmed, s.reconnectHandler with
  | true, some handler =>
    let begun := if handler.reconnecting then handler else handler.onDisconnected
    (begun.tick.1, { s with reconnectHandler := some begun.tick.2 })
  | _, _ => (false, s)

/-- `AttemptReconnect` up to its store of `reconnect_armed_`. -/
@[simp] def reconnected (s : StreamImpl) : StreamImpl :=
  { s with
    reconnectHandler := s.reconnectHandler.map ReconnectHandler.onConnected
    reconnectArmed := false }

@[simp] def attemptFailed (s : StreamImpl) (st : Status) : StreamImpl :=
  s.withError ("reconnect failed: " ++ st.toString)

/-- What a successful `Init` leaves to the stream. -/
def Owns (s : StreamImpl) : Prop :=
  s.backend.isSome = true ∧ s.abrController.isSome = true ∧ s.reconnectHandler.isSome = true

section Sections
variable {s impl : StreamImpl}

theorem initGuard_cases {result : Option Status} (guarded : s.initGuard = (result, impl)) :
    (s.status.state ≠ .kCreated ∧ result = some .kOk ∧ impl = s) ∨
    (s.status.state = .kCreated ∧ validateConfig s.config ≠ .kOk ∧
      result = some (validateConfig s.config) ∧
      impl = (s.withError "invalid config").updateStatus .kDisconnected) ∨
    (s.status.state = .kCreated ∧ validateConfig s.config = .kOk ∧ result = none ∧ impl = s) := by
  by_cases new : s.status.state = .kCreated
  · have passes : ¬.kConfigured ≤ s.status.state ∧ ¬.kDestroyed ≤ s.status.state := by
      rw [new]
      decide
    simp only [initGuard, passes, if_false] at guarded
    split at guarded
    · rename_i valid
      cases guarded
      exact .inr (.inr ⟨new, valid, rfl, rfl⟩)
    · rename_i invalid
      cases guarded
      exact .inr (.inl ⟨new, invalid, rfl, rfl⟩)
  · have stops := (StreamState.configured_le_iff _).mpr new
    simp only [initGuard, stops, if_true, Prod.mk.injEq] at guarded
    exact .inl ⟨new, guarded.1.symm, guarded.2.symm⟩

/-- `Start` goes on from `kConfigured` only; elsewhere it changes the error text at most. -/
theorem startGuard_cases {result : Option Status} (guarded : s.startGuard = (result, impl)) :
    (s.status.state = .kConfigured ∧ result = none ∧ impl = s) ∨
    (s.status.state ≠ .kConfigured ∧ result ≠ none ∧ ∃ text, impl = s.withError text) := by
  rw [startGuard] at guarded
  split at guarded <;> cases guarded
  · exact .inl ⟨‹_›, rfl, rfl⟩
  · exact .inr ⟨by simp [*], by simp, _, rfl⟩
  · exact .inr ⟨by simp [*], by simp, s.status.lastError, rfl⟩
  · exact .inr ⟨by simp [*], by simp, s.status.lastError, rfl⟩
  · exact .inr ⟨by simpa using ‹_›, by simp, _, rfl⟩

theorem scheduleReconnect_cases (s : StreamImpl) :
    (s.reStop = true ∧ s.scheduleReconnect = s) ∨
      (s.reStop = false ∧ s.scheduleReconnect = { s with reconnectArmed := true }) := by
  cases stop : s.reStop <;> simp [scheduleReconnect, stop]

theorem stopGuard_eq_none : s.stopGuard = none ↔ s.status.state.active = true := by
  cases state : s.status.state <;> simp [stopGuard, StreamState.active, state]

theorem updateConfig_cases {config : StreamConfig} {st : Status}
    (updated : s.updateConfig config = (st, impl)) :
    ∃ kept text, impl = { s with config := kept }.withError text := by
  rw [updateConfig] at updated
  split at updated
  · cases updated
    exact ⟨s.config, _, rfl⟩
  · split at updated <;> cases updated
    · exact ⟨config, s.status.lastError, rfl⟩
    · exact ⟨s.config, _, rfl⟩

/-- A drop that finds the stream active arms the worker; every event replaces
the status. -/
theorem onBackendStatusChange_cases (s : StreamImpl) (reported : StreamStatus) :
    (reported.state = .kDisconnected ∧ s.status.state.active = true ∧
      s.reconnectHandler.isSome = true ∧ s.reStop = false ∧
      s.onBackendStatusChange reported =
        { s with status := { reported with state := .kReconnecting }, reconnectArmed := true }) ∨
    (¬(reported.state = .kDisconnected ∧ s.status.state.active = true ∧
        s.reconnectHandler.isSome = true ∧ s.reStop = false) ∧
      s.onBackendStatusChange reported = { s with status := reported }) := by
  by_cases drop : reported.state = .kDisconnected ∧ s.status.state.active = true ∧
      s.reconnectHandler.isSome = true ∧ s.reStop = false
  · refine .inl ⟨drop.1, drop.2.1, drop.2.2.1, drop.2.2.2, ?_⟩
    obtain ⟨state, active, handler, stop⟩ := drop
    simp only [StreamState.active, Bool.or_eq_true, decide_eq_true_eq] at active
    simp [onBackendStatusChange, updateStatus, state, active, handler, stop]
  · refine .inr ⟨drop, ?_⟩
    simp only [StreamState.active, Bool.or_eq_true, decide_eq_true_eq] at drop
    simp only [onBackendStatusChange]
    rw [if_neg]
    simpa [and_assoc] using drop

/-- Only an armed worker with a handler attempts a reconnect. -/
theorem workerRound_cases {fires : Bool} (ran : s.workerRound = (fires, impl)) :
    (∃ handler, impl = { s with reconnectHandler := handler } ∧
      handler.isSome = s.reconnectHandler.isSome) ∧
      (fires = true → s.reconnectArmed = true ∧ s.reconnectHandler.isSome = true) := by
  rw [workerRound] at ran
  split at ran
  · rename_i handler armed has
    cases ran
    exact ⟨⟨_, rfl, by simp [has]⟩, fun _ => ⟨armed, by simp [has]⟩⟩
  · cases ran
    exact ⟨⟨_, rfl, rfl⟩, fun fired => by contradiction⟩

theorem sendVideoGuard_eq_some {st : Status} (guarded : s.sendVideoGuard = some st) :
    st = .kNotInitialized := by
  rw [sendVideoGuard] at guarded
  split at guarded
  · exact (Option.some.inj guarded).symm
  · split at guarded
    · exact (Option.some.inj guarded).symm
    · contradiction

theorem sendAudioGuard_cases {result : Option Status}
    (guarded : s.sendAudioGuard = (result, impl)) :
    (∃ text, impl = s.withError text ∧ result ≠ some .kOk) ∨
    (result = some .kOk ∧ impl =
      { s with status := { s.status with framesDropped := s.status.framesDropped + 1 } }) := by
  rw [sendAudioGuard] at guarded
  split at guarded
  · split at guarded <;> cases guarded
    · exact .inl ⟨s.status.lastError, rfl, by simp⟩
    · exact .inl ⟨_, rfl, by simp⟩
  · split at guarded <;> cases guarded
    · exact .inr ⟨rfl, rfl⟩
    · exact .inl ⟨s.status.lastError, rfl, by simp⟩

theorem adaptBitrate_cases (s : StreamImpl) (stats : StreamStats) :
    ∃ abr kbps, s.adaptBitrate stats =
        { s with abrController := abr, status := { s.status with bitrateKbps := kbps } } ∧
      abr.isSome = s.abrController.isSome := by
  rw [adaptBitrate]
  split
  · rename_i abr has
    split
    · exact ⟨_, _, rfl, by simp [has]⟩
    · exact ⟨s.abrController, s.status.bitrateKbps, rfl, rfl⟩
  · exact ⟨s.abrController, s.status.bitrateKbps, rfl, rfl⟩

end Sections

end StreamImpl
end VideoCodec
