import VideoCodec.Encode.Types

/-! The FFmpeg encoders: their members and their calls as functions on them. What
the libraries and the sink answer is an argument. A call logs what it receives
from the filter or the codec and what it pushes, which nothing reads. -/
namespace VideoCodec

namespace FFmpeg

/-- A packet of the codec or of the bitstream filter. -/
structure AVPacket where
  data : List UInt8
  pts : Int
  key : Bool := false
  deriving DecidableEq, Repr

/-- Why a receive call returns no packet: `EAGAIN`, `AVERROR_EOF` or any other error. -/
inductive ReceiveEnd where
  | again
  | eof
  | error
  deriving DecidableEq, Repr

/-- What happens to a packet of the codec in the bitstream filter. Each packet that
comes out stands with the answer of the sink to it. -/
inductive Filtering where
  | allocFailed
  | sendFailed
  | received (packets : List (AVPacket × Status)) (stop : ReceiveEnd)
  deriving DecidableEq, Repr

inductive Event (P : Type) where
  | output (packet : AVPacket)
  | push (pkt : P)
  /-- A receive call, the filter (or the packet for its output) or the sink has failed. -/
  | failure
  deriving DecidableEq, Repr

/-- A drain under way. -/
structure Drained (P : Type) where
  /-- What is returned in pull mode. -/
  out : P
  events : List (Event P) := []
  deriving DecidableEq, Repr

namespace Drained
variable {P : Type}

def event (d : Drained P) (event : Event P) : Drained P :=
  { d with events := d.events ++ [event] }

/-- Pushes a packet or keeps it for the caller; whether the drain goes on. -/
def deliver (d : Drained P) (attached : Bool) (packet : AVPacket) (pkt : P) (answer : Status) :
    Bool × Drained P :=
  let received := d.event (.output packet)
  if attached then
    let pushed := received.event (.push pkt)
    if answer = .kOk then (true, pushed) else (false, pushed.event .failure)
  else (true, { received with out := pkt })

/-- A loop over received packets, which a push that fails ends. -/
def deliverAll (attached : Bool) (make : AVPacket → P) :
    List (AVPacket × Status) → Drained P → Bool × Drained P
  | [], d => (true, d)
  | (packet, answer) :: rest, d =>
    match d.deliver attached packet (make packet) answer with
    | (true, d) => deliverAll attached make rest d
    | (false, d) => (false, d)

/-- How a drain ends when the codec has no more packets. -/
def finish (d : Drained P) : ReceiveEnd → Except Status P × Drained P
  | .again | .eof => (.ok d.out, d)
  | .error => (.error .kEncodeFailed, d.event .failure)

end Drained

/-- An `AVCodecContext` with its configuration. -/
structure CodecContext where
  /-- Whether `avcodec_open2` has succeeded. -/
  opened : Bool := false
  width : Int := 0
  height : Int := 0
  pixFmt : PixelFormat := .kI420
  bitRate : Int := 0
  /-- Denominator of the time base. -/
  rate : Int := 0
  gopSize : Int := 0
  baseline : Bool := false
  channels : Int := 0
  deriving DecidableEq, Repr

/-- What `avcodec_is_open` tells of `ctx_`. -/
def isOpen (ctx : Option CodecContext) : Bool := ctx.any CodecContext.opened

end FFmpeg

open FFmpeg

/-- Answers of the libraries to `FFmpegVideoEncoder::Init`. -/
structure FFmpegVideoReply where
  encoder : Bool := true
  context : Bool := true
  opened : Bool := true
  buffer : Bool := true
  filter : Bool := true
  bsf : Bool := true
  parIn : Bool := true
  bsfInit : Bool := true
  deriving DecidableEq, Repr

structure FFmpegVideoEncoder where
  config : VideoConfig
  lifecycle : EncoderLifecycle := .kCreated
  ctx : Option CodecContext := none
  /-- Whether `frame_`, `bsf_` and `pkt_` are allocated. -/
  frame : Bool := false
  bsf : Bool := false
  pkt : Bool := false
  sink : Option Nat := none
  pts : Int := 0
  deriving DecidableEq, Repr

namespace FFmpegVideoEncoder

/-- The formats that `ToAvPixFmt` accepts. -/
def acceptsPixFmt (format : PixelFormat) : Bool := format = .kI420 || format = .kNV12

def context (config : VideoConfig) : CodecContext where
  width := config.width
  height := config.height
  pixFmt := config.inputFormat
  bitRate := config.bitrate
  rate := if config.fps > 0 then config.fps else 30
  gopSize := if config.gopSize > 0 then config.gopSize else config.fps * 2
  baseline := config.codec = .kH264

def release (e : FFmpegVideoEncoder) : FFmpegVideoEncoder :=
  { e with
    lifecycle := e.lifecycle.release
    sink := none, bsf := false, pkt := false, frame := false, ctx := none }

def init (e : FFmpegVideoEncoder) (reply : FFmpegVideoReply) : Status × FFmpegVideoEncoder :=
  if !e.lifecycle.canInit then (.kInvalidArgument, e)
  else if !e.config.isValid then (.kInvalidArgument, e)
  else if !reply.encoder then (.kPlatformUnsupported, e)
  else if !reply.context then (.kEncodeFailed, { e with ctx := none })
  else if !acceptsPixFmt e.config.inputFormat then
    (.kUnsupportedFormat, { e with ctx := some {} })
  else
    let configured := { e with ctx := some (context e.config) }
    if !reply.opened then (.kEncodeFailed, configured)
    else
      let framed :=
        { configured with ctx := some { context e.config with opened := true }, frame := true }
      if !reply.buffer then (.kEncodeFailed, framed)
      else if !reply.filter || !reply.bsf then (.kEncodeFailed, framed)
      else
        let filtering := { framed with bsf := true }
        if !reply.parIn then (.kEncodeFailed, filtering)
        else if !reply.bsfInit then (.kEncodeFailed, filtering)
        else
          let ready := { filtering with pkt := true }
          match ready.lifecycle.init with
          | (.kOk, lifecycle) => (.kOk, { ready with lifecycle })
          | _ => (.kInvalidArgument, ready.release)

/-- `CopyFrame` without its pixels; `writable` is the answer of the frame. -/
def copyFrame (e : FFmpegVideoEncoder) (frame : VideoFrame) (writable : Bool) :
    Status × FFmpegVideoEncoder :=
  if frame.width ≠ e.config.width ∨ frame.height ≠ e.config.height then (.kInvalidArgument, e)
  else if !writable then (.kEncodeFailed, e)
  else (.kOk, { e with pts := e.pts + 1 })

/-- The packet made of one that the filter has output; `toUs` converts its timestamp
with the time base of the codec, in double arithmetic. -/
def toPacket (toUs : Int → Int) (packet : FFmpeg.AVPacket) : VideoPacket :=
  ⟨packet.data, toUs packet.pts, packet.key⟩

/-- `Drain`, over the packets of the codec. Why the filter has no more of them is not
looked at. -/
def drain (attached : Bool) (toUs : Int → Int) (stop : ReceiveEnd) :
    List Filtering → Drained VideoPacket → Except Status VideoPacket × Drained VideoPacket
  | [], d => d.finish stop
  | .allocFailed :: _, d | .sendFailed :: _, d => (.error .kEncodeFailed, d.event .failure)
  | .received packets filterStop :: rest, d =>
    match d.deliverAll attached (toPacket toUs) packets with
    | (false, d) => (.error .kEncodeFailed, d)
    | (true, d) =>
      drain attached toUs stop rest (if filterStop = .error then d.event .failure else d)

/-- The answers to `Encode` and to `Flush`. -/
structure Reply where
  writable : Bool := true
  send : Bool := true
  packets : List Filtering := []
  stop : ReceiveEnd := .again
  deriving DecidableEq, Repr

/-- `Encode`; a codec that is not open refuses the frame. -/
def encode (e : FFmpegVideoEncoder) (toUs : Int → Int) (frame : VideoFrame) (reply : Reply) :
    Except Status VideoPacket × List (Event VideoPacket) × FFmpegVideoEncoder :=
  match e.lifecycle.encode with
  | (.kOk, lifecycle) =>
    match { e with lifecycle }.copyFrame frame reply.writable with
    | (.kOk, copied) =>
      if !isOpen e.ctx || !reply.send then (.error .kEncodeFailed, [], copied)
      else
        let drained := drain e.sink.isSome toUs reply.stop reply.packets { out := {} }
        (drained.1, drained.2.events, copied)
    | (_, failed) => (.error .kInvalidArgument, [], failed)
  | _ => (.error .kNotInitialized, [], e)

/-- `Flush`; that the codec is already drained is no reason not to drain the filter. A codec
that is not open gives an error instead of packets, and with none at all libavcodec reads
through the null pointer: that call does not come back, and counts as failed here. -/
def flush (e : FFmpegVideoEncoder) (toUs : Int → Int) (reply : Reply) :
    Except Status VideoPacket × List (Event VideoPacket) × FFmpegVideoEncoder :=
  match e.lifecycle.flush with
  | (.kOk, lifecycle) =>
    if !isOpen e.ctx then (.error .kEncodeFailed, [], { e with lifecycle })
    else
      let drained := drain e.sink.isSome toUs reply.stop reply.packets { out := {} }
      (drained.1, drained.2.events, { e with lifecycle })
  | _ => (.error .kNotInitialized, [], e)

def setOutputSink (e : FFmpegVideoEncoder) (sink : Option Nat) : Status × FFmpegVideoEncoder :=
  (.kOk, { e with sink })

end FFmpegVideoEncoder

/-- Answers of the libraries to `FFmpegAudioEncoder::Init`; `frameSize` is that of the codec. -/
structure FFmpegAudioReply where
  encoder : Bool := true
  context : Bool := true
  opened : Bool := true
  frameSize : Int := 1024
  buffer : Bool := true
  deriving DecidableEq, Repr

structure FFmpegAudioEncoder where
  config : AudioConfig
  lifecycle : EncoderLifecycle := .kCreated
  ctx : Option CodecContext := none
  /-- The samples of `frame_`. -/
  frame : Option Int := none
  pkt : Bool := false
  sink : Option Nat := none
  pts : Int := 0
  deriving DecidableEq, Repr

namespace FFmpegAudioEncoder

def context (config : AudioConfig) : CodecContext :=
  { bitRate := config.bitrate, rate := config.sampleRate, channels := config.channels }

def release (e : FFmpegAudioEncoder) : FFmpegAudioEncoder :=
  { e with
    lifecycle := e.lifecycle.release
    sink := none, pkt := false, frame := none, ctx := none }

def init (e : FFmpegAudioEncoder) (reply : FFmpegAudioReply) : Status × FFmpegAudioEncoder :=
  if !e.lifecycle.canInit then (.kInvalidArgument, e)
  else if !e.config.isValid then (.kInvalidArgument, e)
  else if !reply.encoder then (.kPlatformUnsupported, e)
  else if !reply.context then (.kEncodeFailed, { e with ctx := none })
  else
    let configured := { e with ctx := some (context e.config) }
    if !reply.opened then (.kEncodeFailed, configured)
    else
      let framed :=
        { configured with
          ctx := some { context e.config with opened := true }
          frame := some (if reply.frameSize > 0 then reply.frameSize else 1024) }
      if !reply.buffer then (.kEncodeFailed, framed)
      else
        let ready := { framed with pkt := true }
        match ready.lifecycle.init with
        | (.kOk, lifecycle) => (.kOk, { ready with lifecycle })
        | _ => (.kInvalidArgument, ready.release)

def toPacket (toUs : Int → Int) (packet : FFmpeg.AVPacket) : AudioPacket :=
  { data := packet.data, ptsUs := toUs packet.pts }

/-- `Drain`, over the packets of the codec with the answers of the sink to them. -/
def drain (attached : Bool) (toUs : Int → Int) (stop : ReceiveEnd)
    (packets : List (FFmpeg.AVPacket × Status)) (d : Drained AudioPacket) :
    Except Status AudioPacket × Drained AudioPacket :=
  match d.deliverAll attached (toPacket toUs) packets with
  | (false, d) => (.error .kEncodeFailed, d)
  | (true, d) => d.finish stop

structure Reply where
  writable : Bool := true
  send : Bool := true
  packets : List (FFmpeg.AVPacket × Status) := []
  stop : ReceiveEnd := .again
  deriving DecidableEq, Repr

/-- `Encode`; each frame of the codec advances the clock by its samples. -/
def encode (e : FFmpegAudioEncoder) (toUs : Int → Int) (frame : AudioFrame) (reply : Reply) :
    Except Status AudioPacket × List (Event AudioPacket) × FFmpegAudioEncoder :=
  match e.lifecycle.encode with
  | (.kOk, lifecycle) =>
    let encoding := { e with lifecycle }
    if frame.data = [] then (.error .kInvalidArgument, [], encoding)
    else if !reply.writable then (.error .kEncodeFailed, [], encoding)
    else
      let filled := { encoding with pts := e.pts + e.frame.getD 0 }
      if !isOpen e.ctx || !reply.send then (.error .kEncodeFailed, [], filled)
      else
        let drained := drain e.sink.isSome toUs reply.stop reply.packets { out := {} }
        (drained.1, drained.2.events, filled)
  | _ => (.error .kNotInitialized, [], e)

/-- `Flush`, which needs the codec as that of video does. -/
def flush (e : FFmpegAudioEncoder) (toUs : Int → Int) (reply : Reply) :
    Except Status AudioPacket × List (Event AudioPacket) × FFmpegAudioEncoder :=
  match e.lifecycle.flush with
  | (.kOk, lifecycle) =>
    if !isOpen e.ctx then (.error .kEncodeFailed, [], { e with lifecycle })
    else
      let drained := drain e.sink.isSome toUs reply.stop reply.packets { out := {} }
      (drained.1, drained.2.events, { e with lifecycle })
  | _ => (.error .kNotInitialized, [], e)

def setOutputSink (e : FFmpegAudioEncoder) (sink : Option Nat) : Status × FFmpegAudioEncoder :=
  (.kOk, { e with sink })

end FFmpegAudioEncoder

end VideoCodec
