import Mathlib.Init

/-! Status codes, codecs and encoded packets shared by the codec and stream modules. -/
namespace VideoCodec

inductive Status where
  | kOk
  | kEmpty
  | kEos
  | kInvalidArgument
  | kNotInitialized
  | kEncodeFailed
  | kUnsupportedFormat
  | kBackendUnavailable
  | kPlatformUnsupported
  | kUnsupportedOperation
  | kNetworkError
  | kTimeout
  deriving DecidableEq, Repr

/-- `StatusToString`; the texts end up in `last_error`. -/
def Status.toString : Status → String
  | .kOk => "kOk"
  | .kEmpty => "kEmpty"
  | .kEos => "kEos"
  | .kInvalidArgument => "kInvalidArgument"
  | .kNotInitialized => "kNotInitialized"
  | .kEncodeFailed => "kEncodeFailed"
  | .kUnsupportedFormat => "kUnsupportedFormat"
  | .kBackendUnavailable => "kBackendUnavailable"
  | .kPlatformUnsupported => "kPlatformUnsupported"
  | .kUnsupportedOperation => "kUnsupportedOperation"
  | .kNetworkError => "kNetworkError"
  | .kTimeout => "kTimeout"

inductive AudioCodecType where
  | kNone
  | kAAC
  | kOpus
  deriving DecidableEq, Repr

/-- Encoded video output, Annex-B preferred; `keyframe` marks an IDR. -/
structure VideoPacket where
  data : List UInt8 := []
  ptsUs : Int := 0
  keyframe : Bool := false
  deriving DecidableEq, Repr, Inhabited

/-- Encoded audio output; the first packet carries the codec configuration. -/
structure AudioPacket where
  data : List UInt8 := []
  ptsUs : Int := 0
  keyframe : Bool := false
  codecConfig : List UInt8 := []
  deriving DecidableEq, Repr, Inhabited

/-- The two packet types, as the argument of the code that is a template in them. -/
inductive Media where
  | video
  | audio
  deriving DecidableEq, Repr

namespace Media

def Pkt : Media → Type
  | .video => VideoPacket
  | .audio => AudioPacket

instance : (m : Media) → Inhabited m.Pkt
  | .video => inferInstanceAs (Inhabited VideoPacket)
  | .audio => inferInstanceAs (Inhabited AudioPacket)

instance : (m : Media) → DecidableEq m.Pkt
  | .video => inferInstanceAs (DecidableEq VideoPacket)
  | .audio => inferInstanceAs (DecidableEq AudioPacket)

def other : Media → Media
  | .video => .audio
  | .audio => .video

/-- A packet of medium `m`, seen as the packets of medium `n`. -/
def only (m : Media) (pkt : m.Pkt) (n : Media) : List n.Pkt :=
  if same : m = n then [same ▸ pkt] else []

@[simp] theorem only_self (m : Media) (pkt : m.Pkt) : m.only pkt m = [pkt] := by simp [only]

theorem only_other {m n : Media} (different : m ≠ n) (pkt : m.Pkt) : m.only pkt n = [] := by
  simp [only, different]

theorem eq_or_eq_other (m n : Media) : n = m ∨ n = m.other := by
  cases m <;> cases n <;> simp [other]

end Media

end VideoCodec
