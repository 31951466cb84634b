import Mathlib.Data.Rat.Init

/-! What a stream is configured with and what it reports. Of the status only the
fields that the stream's own logic reads or writes are kept. -/
namespace VideoCodec

/-- Stream states in the order of their declaration, which the guards compare. -/
inductive StreamState where
  | kCreated
  | kConfigured
  | kConnecting
  | kStreaming
  | kReconnecting
  | kDisconnected
  | kDestroyed
  | kIceConnected
  deriving DecidableEq, Repr

namespace StreamState

/-- Value of the enumerator. -/
def value : StreamState → Nat
  | .kCreated => 0
  | .kConfigured => 1
  | .kConnecting => 2
  | .kStreaming => 3
  | .kReconnecting => 4
  | .kDisconnected => 5
  | .kDestroyed => 6
  | .kIceConnected => 7

instance : LE StreamState := ⟨fun a b => a.value ≤ b.value⟩

instance (a b : StreamState) : Decidable (a ≤ b) := inferInstanceAs (Decidable (a.value ≤ b.value))

/-- Where a drop or a stop finds something to do. -/
def active (state : StreamState) : Bool := state = .kStreaming || state = .kReconnecting

/-- What a backend reports through its status callback. -/
def reported : StreamState → Bool
  | .kConnecting | .kIceConnected | .kStreaming | .kDisconnected | .kDestroyed => true
  | _ => false

theorem configured_le_iff (state : StreamState) : kConfigured ≤ state ↔ state ≠ .kCreated := by
  cases state <;> decide

theorem active_ne {state : StreamState} (busy : state.active = true) :
    state ≠ .kCreated ∧ state ≠ .kConfigured := by
  cases state <;> simp_all [active]

theorem reported_ne {state : StreamState} (known : state.reported = true) :
    state ≠ .kCreated ∧ state ≠ .kConfigured := by
  cases state <;> simp_all [reported]

end StreamState

/-- Transport and security options of the signalling requests; times are in
milliseconds. -/
structure NetworkConfig where
  connectTimeoutMs : UInt32 := 5000
  readTimeoutMs : UInt32 := 0
  writeTimeoutMs : UInt32 := 0
  totalTimeoutMs : UInt32 := 10000
  followRedirects : Bool := false
  maxRedirects : Int32 := 20
  localAddress : String := ""
  localPort : UInt16 := 0
  proxyHost : String := ""
  proxyPort : UInt16 := 8080
  keepAliveMs : UInt32 := 0
  tlsVerify : Bool := true
  tlsCaFile : String := ""
  tlsCaPem : String := ""
  tlsClientCert : String := ""
  tlsClientKey : String := ""
  tlsSni : String := ""
  deriving DecidableEq, Repr

structure StreamConfig where
  backendType : String
  remoteUrl : String
  videoCodec : String := ""
  audioCodec : String := ""
  debug : Bool := false
  initialBitrateKbps : UInt32 := 2000
  maxBitrateKbps : UInt32 := 5000
  minBitrateKbps : UInt32 := 200
  resolutionWidth : UInt32 := 1280
  resolutionHeight : UInt32 := 720
  framerate : UInt32 := 30
  bufferDurationS : UInt32 := 30
  reconnectMaxIntervalS : UInt32 := 30
  network : NetworkConfig := {}
  stunServer : String := ""
  turnServer : String := ""
  deriving DecidableEq, Repr

structure StreamStatus where
  state : StreamState := .kCreated
  bitrateKbps : UInt32 := 0
  framesSent : Nat := 0
  framesDropped : Nat := 0
  lastError : String := ""
  deriving DecidableEq, Repr

/-- A single-precision value, finite ones by the rational they denote. -/
inductive Single where
  | finite (value : ℚ)
  | posInf
  | negInf
  | nan
  deriving DecidableEq

/-- `x > bound`; no comparison with a NaN holds. -/
def Single.exceeds : Single → ℚ → Bool
  | .finite value, bound => bound < value
  | .posInf, _ => true
  | .negInf, _ | .nan, _ => false

structure StreamStats where
  rttMs : UInt32 := 0
  packetLossPct : Single := .finite 0

end VideoCodec
