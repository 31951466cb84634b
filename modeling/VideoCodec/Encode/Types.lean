import VideoCodec.Core.Types

/-! The configuration of the encoder backends, the frames they are given and the
state machine they share. -/
namespace VideoCodec

inductive VideoCodecType where
  | kH264
  | kHEVC
  deriving DecidableEq, Repr

inductive PixelFormat where
  | kI420
  | kNV12
  | kRGBA
  deriving DecidableEq, Repr

inductive SampleFormat where
  | kS16
  | kF32
  | kS16Planar
  | kF32Planar
  deriving DecidableEq, Repr

structure VideoFrame where
  format : PixelFormat := .kNV12
  width : Int := 0
  height : Int := 0
  timestampUs : Int := 0
  /-- Y, U and V of I420, Y and UV of NV12, a single plane of RGBA. -/
  planes : Vector (List UInt8) 3 := #v[[], [], []]
  stride : Vector Int32 3 := #v[0, 0, 0]
  deriving DecidableEq, Repr

structure AudioFrame where
  format : SampleFormat := .kS16
  sampleRate : Int := 48000
  channels : Int := 2
  timestampUs : Int := 0
  /-- Interleaved PCM. -/
  data : List UInt8 := []
  deriving DecidableEq, Repr

structure VideoConfig where
  codec : VideoCodecType := .kH264
  width : Int := 0
  height : Int := 0
  fps : Int := 30
  bitrate : Int := 4000000
  gopSize : Int := 0
  inputFormat : PixelFormat := .kNV12
  inputSurface : Bool := false
  deriving DecidableEq, Repr

/-- The dimensions are set; a surface also needs them even, and H.264. -/
def VideoConfig.isValid (config : VideoConfig) : Bool :=
  if config.width ≤ 0 ∨ config.height ≤ 0 then false
  else if !config.inputSurface then true
  else config.codec = .kH264 ∧ config.width % 2 = 0 ∧ config.height % 2 = 0

structure AudioConfig where
  codec : AudioCodecType := .kAAC
  sampleRate : Int := 48000
  channels : Int := 2
  bitrate : Int := 128000
  deriving DecidableEq, Repr

def AudioConfig.isValid (config : AudioConfig) : Bool := config.sampleRate > 0 ∧ config.channels > 0

/-- `EncoderLifecycle`, which is no more than its state. -/
inductive EncoderLifecycle where
  | kCreated
  | kInitialized
  | kEncoding
  | kFlushed
  | kReleased
  deriving DecidableEq, Repr

namespace EncoderLifecycle

def init : EncoderLifecycle → Status × EncoderLifecycle
  | .kCreated | .kFlushed => (.kOk, .kInitialized)
  | state => (.kInvalidArgument, state)

def encode : EncoderLifecycle → Status × EncoderLifecycle
  | .kInitialized | .kEncoding => (.kOk, .kEncoding)
  | state => (.kNotInitialized, state)

def flush : EncoderLifecycle → Status × EncoderLifecycle
  | .kInitialized | .kEncoding | .kFlushed => (.kOk, .kFlushed)
  | state => (.kNotInitialized, state)

def release (_ : EncoderLifecycle) : EncoderLifecycle := .kReleased

def canInit (state : EncoderLifecycle) : Bool := state = .kCreated || state = .kFlushed

variable {state : EncoderLifecycle}

/-- Where the guard of a backend lets it begin, it can commit. -/
theorem init_of_canInit (can : state.canInit = true) : state.init = (.kOk, .kInitialized) := by
  cases state with
  | kCreated | kFlushed => rfl
  | kInitialized | kEncoding | kReleased => cases can

theorem encode_cases (state : EncoderLifecycle) :
    state.encode = (.kOk, .kEncoding) ∨ state.encode = (.kNotInitialized, state) := by
  cases state with
  | kInitialized | kEncoding => exact .inl rfl
  | kCreated | kFlushed | kReleased => exact .inr rfl

theorem flush_cases (state : EncoderLifecycle) :
    state.flush = (.kOk, .kFlushed) ∨ state.flush = (.kNotInitialized, state) := by
  cases state with
  | kInitialized | kEncoding | kFlushed => exact .inl rfl
  | kCreated | kReleased => exact .inr rfl

theorem ne_released_of_canInit (can : state.canInit = true) : state ≠ .kReleased := by
  rintro rfl
  cases can

end EncoderLifecycle

end VideoCodec
