import VideoCodec.Core.Types
import VideoCodec.Stream.Types

/-! The members of `WebrtcBackend` and the sections of its methods as functions
on them. The objects of libdatachannel are opaque: a handle is the generation of
the session that built it. Who runs which section when is left to the threads. -/
namespace VideoCodec

/-- `rtc::PeerConnection::State`. -/
inductive PeerState where
  | new
  | connecting
  | connected
  | disconnected
  | failed
  | closed
  deriving DecidableEq, Repr

/-- `rtc::PeerConnection::GatheringState`. -/
inductive GatheringState where
  | new
  | inProgress
  | complete
  deriving DecidableEq, Repr

structure WebrtcBackend where
  config : StreamConfig
  whipEndpoint : String := ""
  status : StreamStatus := {}
  pc : Option Nat := none
  videoTrack : Option Nat := none
  rtpConfig : Option Nat := none
  rtcpSrReporter : Option Nat := none
  /-- Session whose WHIP worker is joinable. -/
  whipThread : Option Nat := none
  sessionGen : Nat := 0
  offerReady : Bool := false
  gatheringComplete : Bool := false
  answerReady : Bool := false
  connectedState : Bool := false
  trackOpen : Bool := false
  pcTerminal : Bool := false
  firstFrameSent : Bool := false
  streamingReported : Bool := false
  audioUnsupportedLogged : Bool := false
  sendEnabled : Bool := false
  connectResult : Status := .kOk
  deriving DecidableEq, Repr

namespace WebrtcBackend

/-- What the callbacks registered for a session report. `described` tells
whether the local description is available, `thrown` what
`setRemoteDescription` raised. -/
inductive Event where
  | stateChange (state : PeerState)
  | localDescription
  | gatheringStateChange (state : GatheringState) (described : Bool)
  | trackOpen
  | trackClosed
  | whipReady (thrown : Option String)
  | whipError (error : String)
  | createFailed
  deriving DecidableEq, Repr

/-- Events of the WHIP worker; the others come from libdatachannel. -/
def Event.ofWorker : Event → Bool
  | .whipReady _ | .whipError _ | .createFailed => true
  | _ => false

def withError (b : WebrtcBackend) (text : String) : WebrtcBackend :=
  { b with status := { b.status with lastError := text } }

/-- First section of `NotifyStreamState`; what it copies is the new `status_`. -/
def notifyStreamState (b : WebrtcBackend) (state : StreamState) : WebrtcBackend :=
  { b with status := { b.status with state } }

def tryMarkStreaming (b : WebrtcBackend) : WebrtcBackend :=
  if !b.trackOpen || !b.firstFrameSent then b
  else if b.streamingReported then b
  else { b with streamingReported := true }.notifyStreamState .kStreaming

def onStateChange (b : WebrtcBackend) : PeerState → WebrtcBackend
  | .new => b
  | .connecting => b.notifyStreamState .kConnecting
  | .connected => { b with connectedState := true }.notifyStreamState .kIceConnected
  | .disconnected =>
    { b with connectedState := false, trackOpen := false }.notifyStreamState .kDisconnected
  | .failed =>
    { b with connectedState := false, trackOpen := false, pcTerminal := true }.notifyStreamState
      .kDisconnected
  | .closed =>
    { b with connectedState := false, trackOpen := false, pcTerminal := true }.notifyStreamState
      .kDestroyed

def sendOfferToWhip (b : WebrtcBackend) (gen : Nat) : WebrtcBackend :=
  if gen ≠ b.sessionGen || b.whipThread.isSome then b else { b with whipThread := some gen }

/-- The offer goes out once; `ClaimOfferSend` picks the callback that sends it. -/
def onLocalDescription (b : WebrtcBackend) (gen : Nat) : WebrtcBackend :=
  if b.gatheringComplete && !b.offerReady then
    { b with offerReady := true }.sendOfferToWhip gen
  else b

def onGatheringStateChange (b : WebrtcBackend) (gen : Nat) (state : GatheringState)
    (described : Bool) : WebrtcBackend :=
  if state = .complete then
    let complete := { b with gatheringComplete := true }
    if b.offerReady then complete
    else
      let claimed := { complete with offerReady := true }
      if b.pc.isNone then claimed
      else if !described then claimed
      else claimed.sendOfferToWhip gen
  else { b with gatheringComplete := false }

def onTrackOpen (b : WebrtcBackend) : WebrtcBackend := { b with trackOpen := true }.tryMarkStreaming

def onTrackClosed (b : WebrtcBackend) : WebrtcBackend := { b with trackOpen := false }

/-- Only the first failure, and only before an answer, decides the result. -/
def failConnect (b : WebrtcBackend) (st : Status) (error : String) : WebrtcBackend :=
  let noted := b.withError error
  if b.answerReady then noted else { noted with connectResult := st, answerReady := true }

def onWhipReady (b : WebrtcBackend) (thrown : Option String) : WebrtcBackend :=
  if b.pc.isNone then b
  else
    match thrown with
    | some what => b.failConnect .kNetworkError ("setRemoteDescription failed: " ++ what)
    | none => { b with answerReady := true }

def onWhipError (b : WebrtcBackend) (error : String) : WebrtcBackend :=
  b.failConnect .kNetworkError error

/-- An event of session `gen`; every handler first asks `IsCurrentSession`. -/
def handle (b : WebrtcBackend) (gen : Nat) (event : Event) : WebrtcBackend :=
  if gen = b.sessionGen then
    match event with
    | .stateChange state => b.onStateChange state
    | .localDescription => b.onLocalDescription gen
    | .gatheringStateChange state described => b.onGatheringStateChange gen state described
    | .trackOpen => b.onTrackOpen
    | .trackClosed => b.onTrackClosed
    | .whipReady thrown => b.onWhipReady thrown
    | .whipError error => b.onWhipError error
    | .createFailed => b.failConnect .kNetworkError "WHIP Create failed"
  else b

/-- First section of `Connect`. -/
@[simp] def storeConfig (b : WebrtcBackend) (config : StreamConfig) : WebrtcBackend :=
  { b with config }

/-- `Connect` drops one trailing slash of the URL. -/
@[simp] def storeEndpoint (b : WebrtcBackend) : WebrtcBackend :=
  { b with
    whipEndpoint :=
      if b.config.remoteUrl.endsWith "/" then (b.config.remoteUrl.dropEnd 1).toString
      else b.config.remoteUrl }

@[simp] def advanceSession (b : WebrtcBackend) : WebrtcBackend :=
  { b with sessionGen := b.sessionGen + 1 }

@[simp] def disableSend (b : WebrtcBackend) : WebrtcBackend :=
  { b with sendEnabled := false }

/-- The section of `TeardownConnection` under its lock. -/
@[simp] def dropHandles (b : WebrtcBackend) : WebrtcBackend :=
  { b with pc := none, videoTrack := none, rtpConfig := none, rtcpSrReporter := none }

@[simp] def joinWhipWorker (b : WebrtcBackend) : WebrtcBackend :=
  { b with whipThread := none }

@[simp] def resetConnectState (b : WebrtcBackend) : WebrtcBackend :=
  { b with
    offerReady := false
    gatheringComplete := false
    answerReady := false
    connectedState := false
    trackOpen := false
    pcTerminal := false
    firstFrameSent := false
    streamingReported := false
    sendEnabled := false
    connectResult := .kOk }

@[simp] def storePc (b : WebrtcBackend) (gen : Nat) : WebrtcBackend :=
  { b with pc := some gen }

@[simp] def storeTrack (b : WebrtcBackend) (gen : Nat) : WebrtcBackend :=
  { b with videoTrack := some gen, rtpConfig := some gen, rtcpSrReporter := some gen }

/-- Wait condition for the WHIP answer. -/
def answerSignalled (b : WebrtcBackend) : Bool := b.answerReady || b.pcTerminal

/-- Wait condition for ICE. -/
def iceSignalled (b : WebrtcBackend) : Bool := b.connectedState || b.pcTerminal

/-- How `Connect` ends with a signalled answer, or nothing when it goes on. -/
def answerFailure (b : WebrtcBackend) : Option Status :=
  if b.connectResult ≠ .kOk then some b.connectResult
  else if !b.answerReady then some .kNetworkError
  else none

/-- How `track->send` ended. -/
inductive SendOutcome where
  | sent
  | refused
  | thrown (what : String)
  deriving DecidableEq, Repr

/-- `SendVideo` up to the packet. -/
def sendVideoGuard (b : WebrtcBackend) : Option Status :=
  if !b.sendEnabled then some .kNotInitialized
  else if b.videoTrack.isNone then some .kNotInitialized
  else if !b.connectedState && !b.trackOpen then some .kNotInitialized
  else none

/-- `SendVideo` behind `track->send`, with its result. -/
def sendVideoDone (b : WebrtcBackend) : SendOutcome → Status × WebrtcBackend
  | .sent => (.kOk, { b with firstFrameSent := true }.tryMarkStreaming)
  | .refused => (.kOk, b)
  | .thrown what => (.kEncodeFailed, b.withError what)

def sendAudio (b : WebrtcBackend) : Status × WebrtcBackend :=
  (.kUnsupportedOperation,
    if b.audioUnsupportedLogged then b
    else { b with audioUnsupportedLogged := true }.withError
      "audio not supported by webrtc backend")

/-- What `Disconnect` clears behind the teardown. -/
@[simp] def clearConnected (b : WebrtcBackend) : WebrtcBackend :=
  { b with connectedState := false, trackOpen := false }

/-- The members that only `Connect`, `Disconnect` and the teardown write. -/
structure SameSession (b c : WebrtcBackend) : Prop where
  config : c.config = b.config
  pc : c.pc = b.pc
  videoTrack : c.videoTrack = b.videoTrack
  rtpConfig : c.rtpConfig = b.rtpConfig
  rtcpSrReporter : c.rtcpSrReporter = b.rtcpSrReporter
  sessionGen : c.sessionGen = b.sessionGen
  sendEnabled : c.sendEnabled = b.sendEnabled

/-- What an event says about the answer to the offer. -/
inductive Answer where
  | answered
  | failed
  deriving DecidableEq, Repr

/-- Whether `setRemoteDescription` succeeds or a failure is recorded. -/
def answer (b : WebrtcBackend) (gen : Nat) : Event → Option Answer
  | .whipReady thrown =>
    if gen ≠ b.sessionGen || b.pc.isNone then none
    else if thrown.isSome then some .failed
    else some .answered
  | .whipError _ | .createFailed => if gen ≠ b.sessionGen then none else some .failed
  | _ => none

/-- What a callback did: the session is untouched, the first word on the answer
decides the result. -/
structure Handled (b c : WebrtcBackend) (heard : Option Answer) : Prop where
  same : SameSession b c
  ready : c.answerReady = (b.answerReady || heard.isSome)
  result : c.connectResult =
    if b.answerReady = false ∧ heard = some .failed then .kNetworkError else b.connectResult

section Sections
variable {b c : WebrtcBackend} {gen : Nat}

theorem SameSession.rest {whipEndpoint : String} {status : StreamStatus} {whipThread : Option Nat}
    {offerReady gatheringComplete answerReady connectedState trackOpen pcTerminal firstFrameSent
      streamingReported audioUnsupportedLogged : Bool} {connectResult : Status} :
    SameSession b
      { b with
        whipEndpoint, status, whipThread, offerReady, gatheringComplete, answerReady
        connectedState, trackOpen, pcTerminal, firstFrameSent, streamingReported
        audioUnsupportedLogged, connectResult } :=
  ⟨rfl, rfl, rfl, rfl, rfl, rfl, rfl⟩

theorem Handled.silent (same : SameSession b c) (ready : c.answerReady = b.answerReady)
    (result : c.connectResult = b.connectResult) : Handled b c none :=
  ⟨same, by simp [ready], by simp [result]⟩

theorem handle_stale (stale : gen ≠ b.sessionGen) (event : Event) : b.handle gen event = b := by
  simp [handle, stale]

theorem answer_stale (stale : gen ≠ b.sessionGen) (event : Event) : b.answer gen event = none := by
  cases event <;> simp [answer, stale]

theorem tryMarkStreaming_frame (b : WebrtcBackend) :
    ∃ status reported, b.tryMarkStreaming =
      { b with status, streamingReported := reported } := by
  rw [tryMarkStreaming]
  split
  · exact ⟨b.status, b.streamingReported, rfl⟩
  · split
    · exact ⟨b.status, b.streamingReported, rfl⟩
    · exact ⟨_, _, rfl⟩

theorem onStateChange_frame (b : WebrtcBackend) (state : PeerState) :
    ∃ status connected opened terminal, b.onStateChange state =
      { b with
        status
        connectedState := connected
        trackOpen := opened
        pcTerminal := terminal } := by
  cases state
  case new => exact ⟨b.status, b.connectedState, b.trackOpen, b.pcTerminal, rfl⟩
  all_goals exact ⟨_, _, _, _, rfl⟩

theorem sendOfferToWhip_frame (b : WebrtcBackend) (gen : Nat) :
    ∃ thread, b.sendOfferToWhip gen = { b with whipThread := thread } := by
  rw [sendOfferToWhip]
  split
  · exact ⟨b.whipThread, rfl⟩
  · exact ⟨_, rfl⟩

theorem onLocalDescription_frame (b : WebrtcBackend) (gen : Nat) :
    ∃ ready thread, b.onLocalDescription gen =
      { b with offerReady := ready, whipThread := thread } := by
  rw [onLocalDescription]
  split
  · obtain ⟨thread, sent⟩ := sendOfferToWhip_frame { b with offerReady := true } gen
    exact ⟨_, _, sent⟩
  · exact ⟨b.offerReady, b.whipThread, rfl⟩

theorem onGatheringStateChange_frame (b : WebrtcBackend) (gen : Nat) (state : GatheringState)
    (described : Bool) :
    ∃ ready complete thread, b.onGatheringStateChange gen state described =
      { b with offerReady := ready, gatheringComplete := complete, whipThread := thread } := by
  simp only [onGatheringStateChange]
  split
  · split
    · exact ⟨b.offerReady, _, b.whipThread, rfl⟩
    · split
      · exact ⟨_, _, b.whipThread, rfl⟩
      · split
        · exact ⟨_, _, b.whipThread, rfl⟩
        · obtain ⟨thread, sent⟩ :=
            sendOfferToWhip_frame { b with gatheringComplete := true, offerReady := true } gen
          exact ⟨_, _, _, sent⟩
  · exact ⟨b.offerReady, _, b.whipThread, rfl⟩

theorem failConnect_frame (b : WebrtcBackend) (st : Status) (error : String) :
    ∃ status, b.failConnect st error =
      { b with
        status
        answerReady := true
        connectResult := if b.answerReady then b.connectResult else st } := by
  refine ⟨{ b.status with lastError := error }, ?_⟩
  cases ready : b.answerReady <;> simp [failConnect, withError, ready]

theorem failConnect_handled (b : WebrtcBackend) (error : String) :
    Handled b (b.failConnect .kNetworkError error) (some .failed) := by
  obtain ⟨status, failed⟩ := failConnect_frame b .kNetworkError error
  rw [failed]
  refine ⟨.rest, by simp, ?_⟩
  cases b.answerReady <;> rfl

/-- What one event can do. -/
theorem handle_handled (b : WebrtcBackend) (gen : Nat) (event : Event) :
    Handled b (b.handle gen event) (b.answer gen event) := by
  by_cases current : gen = b.sessionGen
  case neg =>
    rw [handle_stale current, answer_stale current]
    exact .silent .rest rfl rfl
  subst current
  cases event with
  | stateChange state =>
    obtain ⟨status, connected, opened, terminal, handled⟩ := onStateChange_frame b state
    simp only [handle, if_true, handled]
    exact .silent .rest rfl rfl
  | localDescription =>
    obtain ⟨ready, thread, handled⟩ := onLocalDescription_frame b b.sessionGen
    simp only [handle, if_true, handled]
    exact .silent .rest rfl rfl
  | gatheringStateChange state described =>
    obtain ⟨ready, complete, thread, handled⟩ :=
      onGatheringStateChange_frame b b.sessionGen state described
    simp only [handle, if_true, handled]
    exact .silent .rest rfl rfl
  | trackOpen =>
    obtain ⟨status, reported, handled⟩ := tryMarkStreaming_frame { b with trackOpen := true }
    simp only [handle, if_true, onTrackOpen, handled]
    exact .silent .rest rfl rfl
  | trackClosed =>
    simp only [handle, if_true, onTrackClosed]
    exact .silent .rest rfl rfl
  | whipReady thrown =>
    by_cases absent : b.pc.isNone
    · simp only [handle, if_true, onWhipReady, absent, answer, Bool.or_true]
      exact .silent .rest rfl rfl
    · cases thrown with
      | none =>
        simp only [handle, if_true, onWhipReady, absent, answer]
        exact ⟨.rest, by simp, by simp⟩
      | some what =>
        simp only [handle, if_true, onWhipReady, absent, answer]
        simpa using failConnect_handled b ("setRemoteDescription failed: " ++ what)
  | whipError error =>
    simp only [handle, if_true, onWhipError, answer]
    simpa using failConnect_handled b error
  | createFailed =>
    simp only [handle, if_true, answer]
    simpa using failConnect_handled b "WHIP Create failed"

/-- `SendVideo` past its guard, like the handlers, leaves the session alone. -/
theorem sendVideoDone_handled (b : WebrtcBackend) (outcome : SendOutcome) :
    Handled b (b.sendVideoDone outcome).2 none := by
  cases outcome with
  | sent =>
    obtain ⟨status, reported, marked⟩ := tryMarkStreaming_frame { b with firstFrameSent := true }
    simp only [sendVideoDone, marked]
    exact .silent .rest rfl rfl
  | refused | thrown => exact .silent .rest rfl rfl

theorem sendAudio_handled (b : WebrtcBackend) : Handled b b.sendAudio.2 none := by
  rw [sendAudio]
  split
  · exact .silent .rest rfl rfl
  · exact .silent .rest rfl rfl

end Sections

end WebrtcBackend
end VideoCodec
