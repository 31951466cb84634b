import VideoCodec.Encode.Types
import VideoCodec.Nal.AnnexB

/-! The MediaCodec encoders: their members and their calls as functions on them.
What the NDK and the sink answer is an argument. The calls log what they take from
the codec and what they push, which nothing reads. -/
namespace VideoCodec

namespace Android

def kColorFormatSurface : Nat := 0x7F000789

def colorFormatFor : PixelFormat → Nat
  | .kI420 => 19
  | .kNV12 => 21
  | .kRGBA => 0

def mimeFor : VideoCodecType → String
  | .kH264 => "video/avc"
  | .kHEVC => "video/hevc"

/-- `MimeFor` an audio codec. -/
def audioMimeFor : AudioCodecType → Option String
  | .kAAC => some "audio/mp4a-latm"
  | .kNone | .kOpus => none

def bufferSizeFor (width height : Int) (format : PixelFormat) : Nat :=
  if width ≤ 0 ∨ height ≤ 0 then 0
  else
    match format with
    | .kI420 | .kNV12 =>
      if width % 2 ≠ 0 ∨ height % 2 ≠ 0 then 0 else width.toNat * height.toNat * 3 / 2
    | .kRGBA => width.toNat * height.toNat * 4

end Android

namespace MediaCodec

structure BufferInfo where
  offset : Int := 0
  size : Int
  presentationTimeUs : Int := 0
  flags : UInt32 := 0
  deriving DecidableEq, Repr

/-- A buffer of the codec's output; what `info` describes lies in it. -/
structure OutputBuffer where
  info : BufferInfo
  raw : List UInt8
  bounds : 0 ≤ info.offset → 0 ≤ info.size → info.offset + info.size ≤ raw.length
  deriving DecidableEq, Repr

namespace OutputBuffer

def keyframe (b : OutputBuffer) : Bool := b.info.flags &&& 1 ≠ 0

def codecConfig (b : OutputBuffer) : Bool := b.info.flags &&& 2 ≠ 0

def endOfStream (b : OutputBuffer) : Bool := b.info.flags &&& 4 ≠ 0

/-- A negative offset or size. -/
def malformed (b : OutputBuffer) : Bool := b.info.offset < 0 || b.info.size < 0

def payload (b : OutputBuffer) : List UInt8 :=
  (b.raw.drop b.info.offset.toNat).take b.info.size.toNat

/-- A buffer that `Drain` captures. -/
def configures (b : OutputBuffer) : Bool := !b.malformed && b.codecConfig && 0 < b.info.size

/-- A buffer that `Drain` makes a packet of. -/
def frame (b : OutputBuffer) : Bool :=
  !b.malformed && !(b.codecConfig && 0 < b.info.size) && 0 < b.info.size

end OutputBuffer

/-- What `AMediaCodec_dequeueOutputBuffer` returns. `expired` tells whether the deadline
of the drain has passed, `answer` is what the sink returns to the packet. -/
inductive Dequeued where
  | tryAgain (expired : Bool := false)
  | formatChanged
  | buffersChanged
  | failed
  | buffer (b : OutputBuffer) (answer : Status := .kOk)
  deriving DecidableEq, Repr

/-- What the encoders do differently with the buffers of their codec. -/
structure Client (E P : Type) where
  sink : E → Option Nat
  /-- Keeps a buffer of codec configuration. -/
  capture : E → List UInt8 → E
  /-- Makes the packet of any other buffer. -/
  packet : E → OutputBuffer → P × E

/-- A drain under way. -/
structure Drained (E P : Type) where
  encoder : E
  out : P
  pushed : List P := []
  dequeued : List Dequeued := []

namespace Drained
variable {E P : Type} (client : Client E P)

/-- Pushes a packet or keeps it for the caller; whether the drain goes on. -/
def deliver (d : Drained E P) (b : OutputBuffer) (answer : Status) : Bool × Drained E P :=
  let (pkt, encoder) := client.packet d.encoder b
  if (client.sink d.encoder).isSome then
    (answer = .kOk, { d with encoder, pushed := d.pushed ++ [pkt] })
  else (true, { d with encoder, out := pkt })

/-- One round of `Drain`, and the result if it is the last one. A buffer of codec
configuration does not end the drain, whatever its other flags. -/
def turn (drainEof deadline : Bool) (d : Drained E P) :
    Dequeued → Option (Except Status P) × Drained E P
  | .tryAgain expired =>
    if drainEof && deadline && !expired then (none, d) else (some (.ok d.out), d)
  | .formatChanged | .buffersChanged => (none, d)
  | .failed => (some (.error .kEncodeFailed), d)
  | .buffer b answer =>
    if b.malformed then (none, d)
    else if b.codecConfig && 0 < b.info.size then
      (none, { d with encoder := client.capture d.encoder b.payload })
    else
      let (goesOn, delivered) := if 0 < b.info.size then d.deliver client b answer else (true, d)
      if !goesOn then (some (.error .kEncodeFailed), delivered)
      else if drainEof && b.endOfStream then (some (.ok delivered.out), delivered)
      else (none, delivered)

/-- `Drain`; behind the last answer `TRY_AGAIN_LATER` comes for good. -/
def drain (drainEof deadline : Bool) : List Dequeued → Drained E P → Except Status P × Drained E P
  | [], d => (.ok d.out, d)
  | dequeued :: rest, d =>
    let noted := { d with dequeued := d.dequeued ++ [dequeued] }
    match noted.turn client drainEof deadline dequeued with
    | (some result, d) => (result, d)
    | (none, d) => drain drainEof deadline rest d

section Turn
variable {client : Client E P} {b : OutputBuffer}

theorem turn_frame (frame : b.frame = true) (drainEof deadline : Bool) (answer : Status)
    (d : Drained E P) : d.turn client drainEof deadline (.buffer b answer) =
      let (goesOn, delivered) := d.deliver client b answer
      if !goesOn then (some (.error .kEncodeFailed), delivered)
      else if drainEof && b.endOfStream then (some (.ok delivered.out), delivered)
      else (none, delivered) := by
  simp only [OutputBuffer.frame, Bool.and_eq_true, Bool.not_eq_true', decide_eq_true_eq] at frame
  obtain ⟨⟨formed, noConfig⟩, nonempty⟩ := frame
  rw [turn, formed, noConfig, if_pos nonempty]
  rfl

/-- However the round ends, the packet has been delivered. -/
theorem turn_frame_snd (frame : b.frame = true) (drainEof deadline : Bool) (answer : Status)
    (d : Drained E P) : (d.turn client drainEof deadline (.buffer b answer)).2 =
      (d.deliver client b answer).2 := by
  rw [turn_frame frame]
  dsimp only
  split
  · rfl
  · split <;> rfl

theorem turn_config (configures : b.configures = true) (drainEof deadline : Bool)
    (answer : Status) (d : Drained E P) : d.turn client drainEof deadline (.buffer b answer) =
      (none, { d with encoder := client.capture d.encoder b.payload }) := by
  simp only [OutputBuffer.configures, Bool.and_eq_true, Bool.not_eq_true'] at configures
  obtain ⟨⟨formed, config⟩, nonempty⟩ := configures
  rw [turn, formed, config, nonempty]
  rfl

/-- Of any other buffer at most the end of the stream is noticed. -/
theorem turn_other (noConfig : b.configures = false) (noFrame : b.frame = false)
    (drainEof deadline : Bool) (answer : Status) (d : Drained E P) :
    d.turn client drainEof deadline (.buffer b answer) =
      if !b.malformed && (drainEof && b.endOfStream) then (some (.ok d.out), d) else (none, d) := by
  simp only [OutputBuffer.frame, OutputBuffer.configures] at noConfig noFrame
  rw [turn]
  cases formed : b.malformed with
  | true => rfl
  | false =>
    rw [formed] at noConfig noFrame
    rw [Bool.not_false, Bool.true_and] at noConfig noFrame
    rw [noConfig, Bool.not_false, Bool.true_and] at noFrame
    rw [noConfig, if_neg (of_decide_eq_false noFrame)]
    rfl

end Turn

end Drained

/-- A call that may drain, with what it has dequeued and pushed. -/
structure Call (E P : Type) where
  result : Except Status P
  encoder : E
  pushed : List P := []
  dequeued : List Dequeued := []

def Call.refused (st : Status) (e : E) : Call E P := { result := .error st, encoder := e }

def Call.draining (client : Client E P) (drainEof deadline : Bool) (dequeued : List Dequeued)
    (e : E) (empty : P) : Call E P :=
  let (result, d) := Drained.drain client drainEof deadline dequeued { encoder := e, out := empty }
  { result, encoder := d.encoder, pushed := d.pushed, dequeued := d.dequeued }

/-- Answers to `QueueInput`: whether a slot comes free, its size, and whether the codec
accepts the frame. -/
structure InputReply where
  slot : Bool := true
  size : Option Nat
  accepted : Bool := true
  deriving DecidableEq, Repr

/-- Answers to `Flush`: which of its attempts get a slot, whether the codec accepts the
end of the stream, and its output. -/
structure FlushReply where
  slots : List Bool := [true]
  accepted : Bool := true
  dequeued : List Dequeued := []
  deriving DecidableEq, Repr

/-- Whether the end-of-stream input is queued; the fifth attempt is not made. -/
def FlushReply.queuesEos (reply : FlushReply) : Bool :=
  (reply.slots.take 4).any id && reply.accepted

end MediaCodec

open MediaCodec

structure EncoderFormat where
  mime : String
  width : Int
  height : Int
  colorFormat : Nat
  bitRate : Int
  frameRate : Int
  iFrameInterval : Int
  deriving DecidableEq, Repr

/-- Answers of the NDK to `MediaCodecVideoEncoder::Init`. -/
structure MediaCodecVideoReply where
  codec : Bool := true
  configured : Bool := true
  surface : Option Nat := some 0
  started : Bool := true
  deriving DecidableEq, Repr

structure MediaCodecVideoEncoder where
  config : VideoConfig
  lifecycle : EncoderLifecycle := .kCreated
  /-- Whether `codec_` holds a codec. -/
  codec : Bool := false
  format : Option EncoderFormat := none
  sink : Option Nat := none
  surfaceWindow : Option Nat := none
  pts : Int := 0
  sps : List UInt8 := []
  pps : List UInt8 := []
  deriving DecidableEq, Repr

namespace MediaCodecVideoEncoder

def surfaceMode (e : MediaCodecVideoEncoder) : Bool := e.config.inputSurface

def fps (e : MediaCodecVideoEncoder) : Int := if e.config.fps > 0 then e.config.fps else 30

def release (e : MediaCodecVideoEncoder) : MediaCodecVideoEncoder :=
  { e with
    lifecycle := e.lifecycle.release
    sink := none, surfaceWindow := none, codec := false, format := none, sps := [], pps := [] }

def encoderFormat (e : MediaCodecVideoEncoder) (colorFormat : Nat) : EncoderFormat where
  mime := Android.mimeFor e.config.codec
  width := e.config.width
  height := e.config.height
  colorFormat
  bitRate := e.config.bitrate
  frameRate := e.fps
  iFrameInterval := if e.config.gopSize > 0 then e.config.gopSize else e.fps

/-- The color format that `Init` configures the codec with. -/
def colorFormat (e : MediaCodecVideoEncoder) : Nat :=
  if e.surfaceMode then Android.kColorFormatSurface else Android.colorFormatFor e.config.inputFormat

def init (e : MediaCodecVideoEncoder) (reply : MediaCodecVideoReply) :
    Status × MediaCodecVideoEncoder :=
  if !e.lifecycle.canInit then (.kInvalidArgument, e)
  else if !e.config.isValid then (.kInvalidArgument, e)
  else if !reply.codec then (.kPlatformUnsupported, { e with codec := false })
  else
    let created := { e with codec := true }
    if e.colorFormat = 0 then (.kUnsupportedFormat, created.release)
    else
      let formatted := { created with format := some (e.encoderFormat e.colorFormat) }
      if !reply.configured then (.kEncodeFailed, formatted.release)
      else if e.surfaceMode && reply.surface.isNone then
        (.kPlatformUnsupported, formatted.release)
      else
        let fed :=
          if e.surfaceMode then { formatted with surfaceWindow := reply.surface } else formatted
        if !reply.started then (.kEncodeFailed, fed.release)
        else
          match fed.lifecycle.init with
          | (.kOk, lifecycle) =>
            (.kOk,
              { fed with
                lifecycle := if e.surfaceMode then lifecycle.encode.2 else lifecycle })
          | _ => (.kInvalidArgument, fed.release)

/-- Checks of `QueueInput`: the size of the buffer that it goes on to fill. -/
def inputBuffer (e : MediaCodecVideoEncoder) (frame : VideoFrame) (reply : InputReply) :
    Option Nat :=
  if frame.width ≠ e.config.width ∨ frame.height ≠ e.config.height then none
  else if !reply.slot then none
  else
    match reply.size with
    | none => none
    | some size =>
      if size < Android.bufferSizeFor e.config.width e.config.height e.config.inputFormat then none
      else some size

/-- `QueueInput` without the pixels that it copies. -/
def queueInput (e : MediaCodecVideoEncoder) (frame : VideoFrame) (reply : InputReply) : Status :=
  if frame.width ≠ e.config.width ∨ frame.height ≠ e.config.height then .kInvalidArgument
  else if (e.inputBuffer frame reply).isNone then .kEncodeFailed
  else if reply.accepted then .kOk
  else .kEncodeFailed

/-- What `Drain` keeps of a buffer of codec configuration: its first unit and its second. -/
def capture (e : MediaCodecVideoEncoder) (payload : List UInt8) : MediaCodecVideoEncoder :=
  let (found, units) := Android.splitAnnexB payload
  if found then
    match units with
    | [] => e
    | [sps] => { e with sps }
    | sps :: pps :: _ => { e with sps, pps }
  else e

/-- The data of a packet: a keyframe that does not start with an SPS has its start code
replaced and the captured sets put before it. -/
def assemble (e : MediaCodecVideoEncoder) (keyframe : Bool) (payload : List UInt8) : List UInt8 :=
  if keyframe && !Android.startsWithNal payload 7 then
    Android.appendAnnexB keyframe e.sps e.pps
      (payload.drop (Android.startCodeLength payload)) []
  else payload

def client : Client MediaCodecVideoEncoder VideoPacket where
  sink := sink
  capture := capture
  packet e b :=
    (⟨e.assemble b.keyframe b.payload, b.info.presentationTimeUs, b.keyframe⟩, e)

/-- `Drain`. -/
def drain (e : MediaCodecVideoEncoder) (drainEof deadline : Bool) (dequeued : List Dequeued) :
    Call MediaCodecVideoEncoder VideoPacket :=
  .draining client drainEof deadline dequeued e {}

/-- `Encode`, whose `QueueInput` needs a codec to take a slot of. -/
def encode (e : MediaCodecVideoEncoder) (frame : VideoFrame) (input : InputReply)
    (dequeued : List Dequeued) : Call MediaCodecVideoEncoder VideoPacket :=
  if e.surfaceMode then .refused .kUnsupportedOperation e
  else
    match e.lifecycle.encode with
    | (.kOk, lifecycle) =>
      if !e.codec then .refused .kEncodeFailed { e with lifecycle }
      else
        match e.queueInput frame input with
        | .kOk =>
          { e with lifecycle, pts := e.pts + 1000000 / e.fps }.drain false false dequeued
        | _ => .refused .kEncodeFailed { e with lifecycle }
    | _ => .refused .kNotInitialized e

/-- `Poll`; its status is that of the drain, whose packet is dropped. -/
def poll (e : MediaCodecVideoEncoder) (dequeued : List Dequeued) :
    Status × MediaCodecVideoEncoder :=
  if !e.surfaceMode then (.kOk, e)
  else
    match e.lifecycle.encode with
    | (.kOk, lifecycle) =>
      if !e.codec then (.kEncodeFailed, { e with lifecycle })
      else
        let drained := { e with lifecycle }.drain false false dequeued
        match drained.result with
        | .ok _ => (.kOk, drained.encoder)
        | .error st => (st, drained.encoder)
    | _ => (.kNotInitialized, e)

def createInputSurface (e : MediaCodecVideoEncoder) : Option Nat := e.surfaceWindow

/-- `Flush`; behind the drain CPU mode calls `AMediaCodec_flush`. With no codec the NDK reads
through the null pointer: that call does not come back, and counts as failed here. -/
def flush (e : MediaCodecVideoEncoder) (reply : FlushReply) :
    Call MediaCodecVideoEncoder VideoPacket :=
  match e.lifecycle.flush with
  | (.kOk, lifecycle) =>
    if !e.codec then .refused .kEncodeFailed { e with lifecycle }
    else { e with lifecycle }.drain true e.surfaceMode reply.dequeued
  | _ => .refused .kNotInitialized e

def setOutputSink (e : MediaCodecVideoEncoder) (sink : Option Nat) :
    Status × MediaCodecVideoEncoder :=
  (.kOk, { e with sink })

end MediaCodecVideoEncoder

structure AudioEncoderFormat where
  mime : Option String
  sampleRate : Int
  channelCount : Int
  bitRate : Int
  maxInputSize : Nat := 16 * 1024
  deriving DecidableEq, Repr

/-- Answers of the NDK to `MediaCodecAudioEncoder::Init`. -/
structure MediaCodecAudioReply where
  codec : Bool := true
  configured : Bool := true
  started : Bool := true
  deriving DecidableEq, Repr

structure MediaCodecAudioEncoder where
  config : AudioConfig
  lifecycle : EncoderLifecycle := .kCreated
  codec : Bool := false
  format : Option AudioEncoderFormat := none
  sink : Option Nat := none
  pts : Int := 0
  asc : List UInt8 := []
  codecConfigSent : Bool := false
  deriving DecidableEq, Repr

namespace MediaCodecAudioEncoder

def release (e : MediaCodecAudioEncoder) : MediaCodecAudioEncoder :=
  { e with
    lifecycle := e.lifecycle.release
    sink := none, codec := false, format := none, asc := [], codecConfigSent := false }

def encoderFormat (e : MediaCodecAudioEncoder) : AudioEncoderFormat where
  mime := Android.audioMimeFor e.config.codec
  sampleRate := e.config.sampleRate
  channelCount := e.config.channels
  bitRate := e.config.bitrate

def init (e : MediaCodecAudioEncoder) (reply : MediaCodecAudioReply) :
    Status × MediaCodecAudioEncoder :=
  if !e.lifecycle.canInit then (.kInvalidArgument, e)
  else if !e.config.isValid then (.kInvalidArgument, e)
  else if e.config.codec ≠ .kAAC then (.kUnsupportedFormat, e)
  else if !reply.codec then (.kPlatformUnsupported, { e with codec := false })
  else
    let formatted := { e with codec := true, format := some e.encoderFormat }
    if !reply.configured || !reply.started then (.kEncodeFailed, formatted.release)
    else
      match formatted.lifecycle.init with
      | (.kOk, lifecycle) => (.kOk, { formatted with lifecycle })
      | _ => (.kInvalidArgument, formatted.release)

/-- `QueueInput` without the samples that it copies; the clock advances even when the
codec does not accept the frame. -/
def queueInput (e : MediaCodecAudioEncoder) (frame : AudioFrame) (reply : InputReply) :
    Status × MediaCodecAudioEncoder :=
  if frame.format ≠ .kS16 then (.kUnsupportedFormat, e)
  else if frame.sampleRate ≠ e.config.sampleRate ∨ frame.channels ≠ e.config.channels then
    (.kInvalidArgument, e)
  else if !reply.slot then (.kEncodeFailed, e)
  else
    match reply.size with
    | none => (.kEncodeFailed, e)
    | some size =>
      if size < frame.data.length then (.kEncodeFailed, e)
      else
        let samples := (frame.data.length : Int) / (e.config.channels * 2)
        let advanced := { e with pts := e.pts + samples * 1000000 / e.config.sampleRate }
        (if reply.accepted then .kOk else .kEncodeFailed, advanced)

def capture (e : MediaCodecAudioEncoder) (payload : List UInt8) : MediaCodecAudioEncoder :=
  { e with asc := payload }

def client : Client MediaCodecAudioEncoder AudioPacket where
  sink := sink
  capture := capture
  packet e b :=
    if e.asc ≠ [] && !e.codecConfigSent then
      ({ data := b.payload, ptsUs := b.info.presentationTimeUs, codecConfig := e.asc },
        { e with codecConfigSent := true })
    else ({ data := b.payload, ptsUs := b.info.presentationTimeUs }, e)

/-- `Drain`, which has no deadline. -/
def drain (e : MediaCodecAudioEncoder) (drainEof : Bool) (dequeued : List Dequeued) :
    Call MediaCodecAudioEncoder AudioPacket :=
  .draining client drainEof false dequeued e {}

def encode (e : MediaCodecAudioEncoder) (frame : AudioFrame) (input : InputReply)
    (dequeued : List Dequeued) : Call MediaCodecAudioEncoder AudioPacket :=
  match e.lifecycle.encode with
  | (.kOk, lifecycle) =>
    if !e.codec then .refused .kEncodeFailed { e with lifecycle }
    else
      match { e with lifecycle }.queueInput frame input with
      | (.kOk, queued) => queued.drain false dequeued
      | (_, failed) => .refused .kEncodeFailed failed
  | _ => .refused .kNotInitialized e

/-- `Flush`; behind the drain it calls `AMediaCodec_flush`. It needs the codec as that of
video does. -/
def flush (e : MediaCodecAudioEncoder) (reply : FlushReply) :
    Call MediaCodecAudioEncoder AudioPacket :=
  match e.lifecycle.flush with
  | (.kOk, lifecycle) =>
    if !e.codec then .refused .kEncodeFailed { e with lifecycle }
    else { e with lifecycle }.drain true reply.dequeued
  | _ => .refused .kNotInitialized e

def setOutputSink (e : MediaCodecAudioEncoder) (sink : Option Nat) :
    Status × MediaCodecAudioEncoder :=
  (.kOk, { e with sink })

end MediaCodecAudioEncoder

end VideoCodec
