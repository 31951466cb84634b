import VideoCodec.Transition.Atomic
import VideoCodec.Webrtc.Backend

/-! The callbacks, the WHIP worker and `SendVideo` as programs whose operations
are single atomic accesses and critical sections. Run alone, each does what its
section in the model of whole callbacks says. -/
namespace VideoCodec

open Atomic

/-- The atomic flags that `ResetConnectState` clears. -/
inductive Flag where
  | offerReady
  | gatheringComplete
  | answerReady
  | connectedState
  | trackOpen
  | pcTerminal
  | firstFrameSent
  | streamingReported
  deriving DecidableEq, Repr

namespace WebrtcBackend

@[simp] def flag (b : WebrtcBackend) : Flag → Bool
  | .offerReady => b.offerReady
  | .gatheringComplete => b.gatheringComplete
  | .answerReady => b.answerReady
  | .connectedState => b.connectedState
  | .trackOpen => b.trackOpen
  | .pcTerminal => b.pcTerminal
  | .firstFrameSent => b.firstFrameSent
  | .streamingReported => b.streamingReported

@[simp] def setFlag (b : WebrtcBackend) (flag : Flag) (value : Bool) : WebrtcBackend :=
  match flag with
  | .offerReady => { b with offerReady := value }
  | .gatheringComplete => { b with gatheringComplete := value }
  | .answerReady => { b with answerReady := value }
  | .connectedState => { b with connectedState := value }
  | .trackOpen => { b with trackOpen := value }
  | .pcTerminal => { b with pcTerminal := value }
  | .firstFrameSent => { b with firstFrameSent := value }
  | .streamingReported => { b with streamingReported := value }

/-- An atomic access, a critical section, or a call that leaves the backend. -/
inductive Op where
  | isCurrent (gen : Nat)
  | load (flag : Flag)
  | store (flag : Flag) (value : Bool)
  /-- Sets a flag and answers what it was: `exchange(true)`, and for a flag that
  is set or not also `compare_exchange_strong(false, true)`. -/
  | exchange (flag : Flag)
  | notify (state : StreamState)
  | currentPeerConnection
  | localDescription
  | sendOffer (gen : Nat)
  | setRemoteDescription
  | storeAnswer
  | fail (st : Status) (error : String)
  | loadSendEnabled
  | captureTrack
  | sendTrack
  | storeError (what : String)
  | create
  deriving DecidableEq, Repr

namespace Op

/-- What an operation answers. -/
@[reducible] def Ans : Op → Type
  | .isCurrent _ | .load _ | .exchange _ => Bool
  | .currentPeerConnection | .localDescription | .loadSendEnabled => Bool
  | .setRemoteDescription => Option String
  | .captureTrack => Option Nat
  | .sendTrack => SendOutcome
  | .create => Except String String
  | .store .. | .notify _ | .sendOffer _ | .storeAnswer | .fail .. | .storeError _ => Unit

/-- What it may answer; libdatachannel and the server are free. -/
@[simp] def answers (b : WebrtcBackend) : (op : Op) → op.Ans → Prop
  | .isCurrent gen, current => current = decide (gen = b.sessionGen)
  | .load flag, value => value = b.flag flag
  | .exchange flag, was => was = b.flag flag
  | .currentPeerConnection, present => present = b.pc.isSome
  | .loadSendEnabled, enabled => enabled = b.sendEnabled
  | .captureTrack, track => track = b.videoTrack
  | _, _ => True

@[simp] def effect (b : WebrtcBackend) : Op → WebrtcBackend
  | .store flag value => b.setFlag flag value
  | .exchange flag => b.setFlag flag true
  | .notify state => b.notifyStreamState state
  | .sendOffer gen => b.sendOfferToWhip gen
  | .storeAnswer => { b with answerReady := true }
  | .fail st error => b.failConnect st error
  | .storeError what => b.withError what
  | _ => b

/-- The operations that write a flag. -/
@[simp] def sets : Op → Bool
  | .store .. | .exchange _ | .storeAnswer | .fail .. => true
  | _ => false

/-- What an operation may answer once session `gen` is over. -/
@[simp] def stale (gen : Nat) : (op : Op) → op.Ans → Prop
  | .isCurrent other, current => other = gen → current = false
  | _, _ => True

end Op

/-- A thread inside the backend. -/
abbrev Thread (α : Type) : Type := Prog Op.Ans α

@[simp] def ask (op : Op) : Thread op.Ans := .ask op .done

namespace Thread

@[simp] def isCurrentSession (gen : Nat) : Thread Bool := ask (.isCurrent gen)

@[simp] def load (flag : Flag) : Thread Bool := ask (.load flag)

@[simp] def store (flag : Flag) (value : Bool) : Thread Unit := ask (.store flag value)

@[simp] def exchange (flag : Flag) : Thread Bool := ask (.exchange flag)

@[simp] def notify (state : StreamState) : Thread Unit := ask (.notify state)

def tryMarkStreaming : Thread Unit := do
  if !(← load .trackOpen) then return
  if !(← load .firstFrameSent) then return
  if ← exchange .streamingReported then return
  notify .kStreaming

def onStateChange (gen : Nat) (state : PeerState) : Thread Unit := do
  if !(← isCurrentSession gen) then return
  match state with
  | .new => return
  | .connecting => notify .kConnecting
  | .connected =>
    store .connectedState true
    notify .kIceConnected
  | .disconnected =>
    store .connectedState false
    store .trackOpen false
    notify .kDisconnected
  | .failed =>
    store .connectedState false
    store .trackOpen false
    store .pcTerminal true
    notify .kDisconnected
  | .closed =>
    store .connectedState false
    store .trackOpen false
    store .pcTerminal true
    notify .kDestroyed

/-- `ClaimOfferSend`; the flag that it sets is claimed once. -/
def claimOfferSend : Thread Bool := do
  return !(← exchange .offerReady)

def onLocalDescription (gen : Nat) : Thread Unit := do
  if !(← isCurrentSession gen) then return
  if ← load .gatheringComplete then
    if ← claimOfferSend then
      ask (.sendOffer gen)

def onGatheringStateChange (gen : Nat) (state : GatheringState) : Thread Unit := do
  if !(← isCurrentSession gen) then return
  if state = .complete then
    store .gatheringComplete true
    if !(← claimOfferSend) then return
    if !(← ask .currentPeerConnection) then return
    if !(← ask .localDescription) then return
    ask (.sendOffer gen)
  else store .gatheringComplete false

def onTrackOpen (gen : Nat) : Thread Unit := do
  if !(← isCurrentSession gen) then return
  store .trackOpen true
  tryMarkStreaming

def onTrackClosed (gen : Nat) : Thread Unit := do
  if !(← isCurrentSession gen) then return
  store .trackOpen false

def onWhipReady (gen : Nat) : Thread Unit := do
  if !(← isCurrentSession gen) then return
  if !(← ask .currentPeerConnection) then return
  match ← ask .setRemoteDescription with
  | some what => ask (.fail .kNetworkError ("setRemoteDescription failed: " ++ what))
  | none => ask .storeAnswer

def onWhipError (gen : Nat) (error : String) : Thread Unit := do
  if !(← isCurrentSession gen) then return
  ask (.fail .kNetworkError error)

def whipCreateWorker (gen : Nat) : Thread Unit := do
  if !(← isCurrentSession gen) then return
  match ← ask .create with
  | .ok _ => onWhipReady gen
  | .error error =>
    onWhipError gen error
    if ← isCurrentSession gen then ask (.fail .kNetworkError "WHIP Create failed")

/-- `SendVideo` behind its checks. -/
def sendTrack : Thread Status := do
  match ← ask .sendTrack with
  | .thrown what =>
    ask (.storeError what)
    return .kEncodeFailed
  | .refused => return .kOk
  | .sent =>
    store .firstFrameSent true
    tryMarkStreaming
    return .kOk

def sendVideo : Thread Status := do
  if !(← ask .loadSendEnabled) then return .kNotInitialized
  if (← ask .captureTrack).isNone then return .kNotInitialized
  if !(← load .connectedState) then
    if !(← load .trackOpen) then return .kNotInitialized
  sendTrack

end Thread

/-- The callbacks that `Connect` registers. -/
inductive Callback where
  | stateChange (state : PeerState)
  | localDescription
  | gatheringStateChange (state : GatheringState)
  | trackOpen
  | trackClosed
  deriving DecidableEq, Repr

def Callback.handler (gen : Nat) : Callback → Thread Unit
  | .stateChange state => Thread.onStateChange gen state
  | .localDescription => Thread.onLocalDescription gen
  | .gatheringStateChange state => Thread.onGatheringStateChange gen state
  | .trackOpen => Thread.onTrackOpen gen
  | .trackClosed => Thread.onTrackClosed gen

/-- The event of a callback, by what it finds as local description. -/
def Callback.event (described : Bool) : Callback → Event
  | .stateChange state => .stateChange state
  | .localDescription => .localDescription
  | .gatheringStateChange state => .gatheringStateChange state described
  | .trackOpen => .trackOpen
  | .trackClosed => .trackClosed

def performs (b : WebrtcBackend) (op : Op) (answer : op.Ans) (c : WebrtcBackend) : Prop :=
  op.answers b answer ∧ c = op.effect b

/-- A thread that is not disturbed. -/
def Alone (b : WebrtcBackend) (thread : Thread α) (c : WebrtcBackend) (result : α) : Prop :=
  Prog.Runs performs b thread c result

section Alone
variable {b c d : WebrtcBackend} {α β : Type} {a : α} {thread : Thread α}

@[simp] theorem alone_done (b c : WebrtcBackend) (result a : α) :
    Alone b (.done result) c a ↔ c = b ∧ a = result := by
  constructor
  · intro run
    cases run
    exact ⟨rfl, rfl⟩
  · rintro ⟨rfl, rfl⟩
    exact .done _ _

@[simp] theorem alone_ask (op : Op) (next : op.Ans → Thread α) :
    Alone b (.ask op next) d a ↔
      ∃ answer, op.answers b answer ∧ Alone (op.effect b) (next answer) d a := by
  constructor
  · intro run
    cases run with
    | ask first rest =>
      obtain ⟨possible, rfl⟩ := first
      exact ⟨_, possible, rest⟩
  · rintro ⟨answer, possible, rest⟩
    exact .ask ⟨possible, rfl⟩ rest

theorem alone_bind {r : β} {continuation : α → Thread β} (first : Alone b thread c a)
    (rest : Alone c (continuation a) d r) : Alone b (thread >>= continuation) d r :=
  Prog.Runs.bind first rest

theorem isCurrentSession_alone (b : WebrtcBackend) :
    Alone b (Thread.isCurrentSession b.sessionGen) b true := by simp

theorem ask_alone (op : Op) (answer : op.Ans) (possible : op.answers b answer) :
    Alone b (ask op) (op.effect b) answer :=
  .ask ⟨possible, rfl⟩ (.done _ _)

theorem exchange_set (b : WebrtcBackend) (flag : Flag) (set : b.flag flag = true) :
    b.setFlag flag true = b := by
  cases flag <;> exact set ▸ rfl

theorem tryMarkStreaming_alone (b : WebrtcBackend) :
    Alone b Thread.tryMarkStreaming b.tryMarkStreaming () := by
  rw [Thread.tryMarkStreaming, tryMarkStreaming]
  cases opened : b.trackOpen with
  | false => simp [opened]
  | true =>
    cases first : b.firstFrameSent with
    | false => simp [opened, first]
    | true =>
      cases reported : b.streamingReported with
      | false => simp [opened, first, reported]
      | true =>
        have same := exchange_set b .streamingReported reported
        simp [opened, first, reported, -setFlag, same]

theorem onStateChange_alone (b : WebrtcBackend) (state : PeerState) :
    Alone b (Thread.onStateChange b.sessionGen state) (b.onStateChange state) () := by
  cases state <;> simp [Thread.onStateChange, onStateChange]

theorem onLocalDescription_alone (b : WebrtcBackend) :
    Alone b (Thread.onLocalDescription b.sessionGen) (b.onLocalDescription b.sessionGen) () := by
  rw [Thread.onLocalDescription, Thread.claimOfferSend, onLocalDescription]
  cases complete : b.gatheringComplete with
  | false => simp [complete]
  | true =>
    cases claimed : b.offerReady with
    | false => simp [complete, claimed]
    | true =>
      have same := exchange_set b .offerReady claimed
      simp [complete, claimed, -setFlag, same]

theorem onGatheringStateChange_alone (b : WebrtcBackend) (state : GatheringState)
    (described : Bool) :
    Alone b (Thread.onGatheringStateChange b.sessionGen state)
      (b.onGatheringStateChange b.sessionGen state described) () := by
  rw [Thread.onGatheringStateChange, Thread.claimOfferSend, onGatheringStateChange]
  by_cases complete : state = .complete
  · cases claimed : b.offerReady with
    | true =>
      have same := exchange_set { b with gatheringComplete := true } .offerReady claimed
      rw [setFlag] at same
      simp [complete, claimed, same]
    | false =>
      cases present : b.pc with
      | none => simp [complete, claimed, present]
      | some pc =>
        cases described with
        | true => simp [complete, claimed, present]
        | false => simp [complete, claimed, present]
  · simp [complete]

theorem onTrackOpen_alone (b : WebrtcBackend) :
    Alone b (Thread.onTrackOpen b.sessionGen) b.onTrackOpen () := by
  simpa [Thread.onTrackOpen, onTrackOpen] using
    tryMarkStreaming_alone { b with trackOpen := true }

theorem onTrackClosed_alone (b : WebrtcBackend) :
    Alone b (Thread.onTrackClosed b.sessionGen) b.onTrackClosed () := by
  simp [Thread.onTrackClosed, onTrackClosed]

theorem onWhipReady_alone (b : WebrtcBackend) (thrown : Option String) :
    Alone b (Thread.onWhipReady b.sessionGen) (b.onWhipReady thrown) () := by
  unfold Thread.onWhipReady onWhipReady
  cases present : b.pc with
  | none => simp [present]
  | some pc =>
    simp only [Thread.isCurrentSession, ask, Bool.not_eq_eq_eq_not, Bool.not_true, Prog.pure_eq,
      Prog.ask_bind, Prog.done_bind, Option.isNone_some, Bool.false_eq_true, ↓reduceIte, alone_ask,
      Op.answers, decide_true, Op.effect, exists_eq_left, Bool.true_eq_false, present,
      Option.isSome_some, true_and]
    cases thrown with
    | none => exact ⟨none, by simp [present]⟩
    | some what => exact ⟨some what, by simp⟩

theorem onWhipError_alone (b : WebrtcBackend) (error : String) :
    Alone b (Thread.onWhipError b.sessionGen error) (b.onWhipError error) () := by
  simp [Thread.onWhipError, onWhipError]

/-- A callback does what `handle` says. -/
theorem handler_alone (b : WebrtcBackend) (gen : Nat) (callback : Callback) (described : Bool) :
    Alone b (callback.handler gen) (b.handle gen (callback.event described)) () := by
  by_cases current : gen = b.sessionGen
  · subst current
    unfold handle
    rw [if_pos rfl]
    cases callback with
    | stateChange state => exact b.onStateChange_alone state
    | localDescription => exact b.onLocalDescription_alone
    | gatheringStateChange state => exact b.onGatheringStateChange_alone state described
    | trackOpen => exact b.onTrackOpen_alone
    | trackClosed => exact b.onTrackClosed_alone
  · rw [handle_stale current]
    cases callback with
    | stateChange state => simp [Callback.handler, Thread.onStateChange, current]
    | localDescription => simp [Callback.handler, Thread.onLocalDescription, current]
    | gatheringStateChange state =>
      simp [Callback.handler, Thread.onGatheringStateChange, current]
    | trackOpen => simp [Callback.handler, Thread.onTrackOpen, current]
    | trackClosed => simp [Callback.handler, Thread.onTrackClosed, current]

/-- A worker whose `Create` succeeds reports the answer. -/
theorem whipCreateWorker_alone_ok (b : WebrtcBackend) (gen : Nat) (thrown : Option String) :
    Alone b (Thread.whipCreateWorker gen) (b.handle gen (.whipReady thrown)) () := by
  by_cases current : gen = b.sessionGen
  · subst current
    rw [handle]
    rw [if_pos rfl]
    apply alone_bind b.isCurrentSession_alone
    apply alone_bind (ask_alone .create (.ok "") trivial)
    exact b.onWhipReady_alone thrown
  · simp [Thread.whipCreateWorker, handle_stale current, current]

/-- A worker whose `Create` fails reports that, and once more. -/
theorem whipCreateWorker_alone_error (b : WebrtcBackend) (gen : Nat) (error : String) :
    Alone b (Thread.whipCreateWorker gen)
      ((b.handle gen (.whipError error)).handle gen .createFailed) () := by
  by_cases current : gen = b.sessionGen
  · subst current
    have handled : (b.handle b.sessionGen (.whipError error)) = b.onWhipError error := by
      rw [handle, if_pos rfl]
    have gen : (b.onWhipError error).sessionGen = b.sessionGen := by
      obtain ⟨status, failed⟩ := failConnect_frame b .kNetworkError error
      rw [onWhipError, failed]
    have still := (b.onWhipError error).isCurrentSession_alone
    rw [gen] at still
    rw [handled, handle, if_pos gen.symm]
    apply alone_bind b.isCurrentSession_alone
    apply alone_bind (ask_alone .create (.error error) trivial)
    apply alone_bind (b.onWhipError_alone error)
    apply alone_bind still
    exact ask_alone (.fail .kNetworkError "WHIP Create failed") () trivial
  · simp [Thread.whipCreateWorker, handle_stale current, current]

theorem sendVideo_alone_refused {st : Status} (refused : b.sendVideoGuard = some st) :
    Alone b Thread.sendVideo b st := by
  rw [sendVideoGuard] at refused
  rw [Thread.sendVideo]
  cases enabled : b.sendEnabled with
  | false => simp_all
  | true =>
    cases track : b.videoTrack with
    | none => simp_all
    | some gen =>
      cases connected : b.connectedState with
      | true => simp_all
      | false => simp_all

theorem sendTrack_alone (b : WebrtcBackend) (outcome : SendOutcome) :
    Alone b Thread.sendTrack (b.sendVideoDone outcome).2 (b.sendVideoDone outcome).1 := by
  apply alone_bind (ask_alone .sendTrack outcome trivial)
  cases outcome with
  | refused => exact (alone_done ..).mpr ⟨rfl, rfl⟩
  | thrown what => simp [sendVideoDone]
  | sent =>
    apply alone_bind (ask_alone (.store .firstFrameSent true) () trivial)
    apply alone_bind (tryMarkStreaming_alone _)
    exact (alone_done ..).mpr ⟨rfl, rfl⟩

theorem sendVideo_alone (passes : b.sendVideoGuard = none) (outcome : SendOutcome) :
    Alone b Thread.sendVideo (b.sendVideoDone outcome).2 (b.sendVideoDone outcome).1 := by
  rw [sendVideoGuard] at passes
  cases enabled : b.sendEnabled with
  | false => simp [enabled] at passes
  | true =>
    cases track : b.videoTrack with
    | none => simp [enabled, track] at passes
    | some gen =>
      apply alone_bind (ask_alone .loadSendEnabled true enabled.symm)
      apply alone_bind (ask_alone .captureTrack (some gen) track.symm)
      cases connected : b.connectedState with
      | true =>
        apply alone_bind (ask_alone (.load .connectedState) true connected.symm)
        exact b.sendTrack_alone outcome
      | false =>
        apply alone_bind (ask_alone (.load .connectedState) false connected.symm)
        cases opened : b.trackOpen with
        | false => simp [enabled, track, connected, opened] at passes
        | true =>
          apply alone_bind (ask_alone (.load .trackOpen) true opened.symm)
          exact b.sendTrack_alone outcome

end Alone

end WebrtcBackend
end VideoCodec
