import VideoCodec.Mux.Types
import VideoCodec.Mux.Avcc

/-! `FFmpegMuxer`: its members and its calls as functions on them. libavformat
answers a call with what it asks of the sink in the meantime and its result, so
every failure of it and of the sink is some answer. -/
namespace VideoCodec

structure AVRational where
  num : Int
  den : Int
  deriving DecidableEq, Repr

/-- A stream with the parameters that the muxer sets. -/
structure AVStream where
  id : Int
  timeBase : AVRational
  codecType : Media
  width : Int := 0
  height : Int := 0
  sampleRate : Int := 0
  channels : Int := 0
  extradata : List UInt8 := []
  deriving DecidableEq, Repr

structure AVPacket where
  data : List UInt8
  streamIndex : Int
  pts : Int
  dts : Int
  duration : Int := 0
  key : Bool := false
  deriving DecidableEq, Repr

/-- A container with its I/O context, between a written header and its release. -/
structure AVFormatContext where
  format : String
  movflags : Option String
  streams : List AVStream
  deriving DecidableEq, Repr

/-- What the muxer uses of libavutil. -/
structure LibAV where
  rescaleQ : Int → AVRational → AVRational → Int

/-- A callback of the I/O context, with the answers of the sink if it is asked. -/
inductive AvioCall where
  | write (data : List UInt8) (accepted : Bool)
  | seek (offset whence tell : Int) (accepted : Bool) (position : Int)
  deriving DecidableEq, Repr

/-- A call into libavformat: the callbacks it makes, and its result. -/
structure AvReply where
  io : List AvioCall := []
  ret : Int := 0
  deriving DecidableEq, Repr

/-- Which call made the muxer speak to the sink. -/
inductive Origin where
  | header
  | frame
  | ioFlush
  | trailer
  | commit
  deriving DecidableEq, Repr

inductive SinkRequest where
  | write (data : List UInt8) (accepted : Bool)
  | seek (target : Int) (accepted : Bool)
  | flush (accepted : Bool)
  deriving DecidableEq, Repr

structure SinkEvent where
  sink : Nat
  origin : Origin
  request : SinkRequest
  deriving DecidableEq, Repr

/-- The answers while a container is opened; a stream gets the time base that
`avformat_write_header` chooses. -/
structure OpenReply where
  context : Bool := true
  videoStream : Bool := true
  videoExtradata : Bool := true
  audioStream : Bool := true
  audioExtradata : Bool := true
  ioBuffer : Bool := true
  avio : Bool := true
  header : AvReply := {}
  timeBase : Int → AVRational := fun _ => ⟨1, 1000000⟩

/-- The answers while a packet is handed over. -/
structure PacketReply where
  alloc : Bool := true
  data : Bool := true
  write : AvReply := {}
  deriving DecidableEq, Repr

/-- The answers to a push; a replayed packet without one succeeds. -/
structure PushReply where
  opening : OpenReply := {}
  replay : List PacketReply := []
  packet : PacketReply := {}
  ioFlush : List AvioCall := []
  commit : Bool := true

structure CloseReply where
  trailer : AvReply := {}
  ioFlush : List AvioCall := []
  commit : Bool := true
  deriving DecidableEq, Repr

/-- What the callbacks reach: the sink, and the bytes written to it. -/
structure Output where
  sink : Option Nat := none
  written : Int := 0
  /-- All that was asked of sinks. -/
  events : List SinkEvent := []
  deriving DecidableEq, Repr

structure FFmpegMuxer where
  config : MuxerConfig
  out : Output := {}
  /-- `fmt_`, and `opened_` while it is there. -/
  fmt : Option AVFormatContext := none
  streamIndex : Int := -1
  audioStreamIndex : Int := -1
  pendingAudio : List AudioPacket := []
  /-- The keyframe that the container was opened with. -/
  opener : VideoPacket := {}
  /-- The packets handed over since the container was opened. -/
  handed : List AVPacket := []
  deriving DecidableEq, Repr

namespace Output

/-- `AVERROR(EIO)`. -/
def ioError : Int := -5

def ask (out : Output) (origin : Origin) (sink : Nat) (request : SinkRequest) : Output :=
  { out with events := out.events ++ [⟨sink, origin, request⟩] }

def sinkWrite (out : Output) (origin : Origin) (data : List UInt8) (accepted : Bool) :
    Int × Output :=
  match out.sink with
  | none => (ioError, out)
  | some sink =>
    let asked := out.ask origin sink (.write data accepted)
    if accepted then (data.length, { asked with written := out.written + data.length })
    else (ioError, asked)

/-- Where a seek goes; `tell` is the position that the sink reports. -/
def seekTarget (out : Output) (offset whence tell : Int) : Option Int :=
  if whence = 0 then some offset
  else if whence = 1 then some (tell + offset)
  else if whence = 2 then some (out.written + offset)
  else none

def sinkSeek (out : Output) (origin : Origin) (offset whence tell : Int) (accepted : Bool)
    (position : Int) : Int × Output :=
  match out.sink, out.seekTarget offset whence tell with
  | some sink, some target =>
    if target < 0 then (-1, out)
    else
      let asked := out.ask origin sink (.seek target accepted)
      if accepted then (position, asked) else (-1, asked)
  | _, _ => (-1, out)

def callback (out : Output) (origin : Origin) : AvioCall → Int × Output
  | .write data accepted => out.sinkWrite origin data accepted
  | .seek offset whence tell accepted position =>
    out.sinkSeek origin offset whence tell accepted position

/-- The callbacks of one call into libavformat. -/
def serve (out : Output) (origin : Origin) (calls : List AvioCall) : Output :=
  calls.foldl (fun out call => (out.callback origin call).2) out

/-- `sink_->Flush()`, when there is a sink. -/
def flush (out : Output) (accepted : Bool) : Output :=
  match out.sink with
  | none => out
  | some sink => out.ask .commit sink (.flush accepted)

/-- `!sink_ || sink_->Flush()`. -/
def flushed (out : Output) (accepted : Bool) : Bool := out.sink.isNone || accepted

theorem sinkWrite_sink (out : Output) (origin : Origin) (data : List UInt8) (accepted : Bool) :
    (out.sinkWrite origin data accepted).2.sink = out.sink := by
  rw [sinkWrite]
  split
  · rfl
  · cases accepted <;> rfl

theorem sinkSeek_sink (out : Output) (origin : Origin) (offset whence tell : Int) (accepted : Bool)
    (position : Int) :
    (out.sinkSeek origin offset whence tell accepted position).2.sink = out.sink := by
  rw [sinkSeek]
  split
  · split
    · rfl
    · cases accepted <;> rfl
  · rfl

theorem callback_sink (out : Output) (origin : Origin) (call : AvioCall) :
    (out.callback origin call).2.sink = out.sink := by
  cases call with
  | write data accepted => exact out.sinkWrite_sink origin data accepted
  | seek offset whence tell accepted position =>
    exact out.sinkSeek_sink origin offset whence tell accepted position

@[simp] theorem serve_sink (out : Output) (origin : Origin) (calls : List AvioCall) :
    (out.serve origin calls).sink = out.sink := by
  induction calls generalizing out with
  | nil => rfl
  | cons call calls ih => exact (ih _).trans (out.callback_sink origin call)

@[simp] theorem flush_sink (out : Output) (accepted : Bool) :
    (out.flush accepted).sink = out.sink := by
  rw [flush]
  split <;> rfl

end Output

namespace FFmpegMuxer

def opened (m : FFmpegMuxer) : Bool := m.fmt.isSome

def muxFormatName : MuxFormat → String
  | .kMp4 => "mp4"

/-- A call into libavformat, for what it does to the sink. -/
def avio (m : FFmpegMuxer) (origin : Origin) (calls : List AvioCall) : FFmpegMuxer :=
  { m with out := m.out.serve origin calls }

/-- The commit point: the sink is flushed, and a failure is reported. -/
def commit (m : FFmpegMuxer) (accepted : Bool) : Status × FFmpegMuxer :=
  (if m.out.flushed accepted then .kOk else .kEncodeFailed,
    { m with out := m.out.flush accepted })

def setOutput (m : FFmpegMuxer) (sink : Option Nat) : Status × FFmpegMuxer :=
  (.kOk, { m with out := { m.out with sink } })

def videoStream (config : MuxerConfig) (extradata : List UInt8) : AVStream :=
  { id := 0
    timeBase := ⟨1, if config.fps > 0 then config.fps else 30⟩
    codecType := .video
    width := config.width
    height := config.height
    extradata }

def audioStream (config : MuxerConfig) (asc : List UInt8) : AVStream :=
  { id := 1
    timeBase := ⟨1, config.sampleRate⟩
    codecType := .audio
    sampleRate := config.sampleRate
    channels := config.channels
    extradata := asc }

/-- The video extradata; a keyframe without parameter sets leaves none, and only
a failed allocation stops the opening. -/
def videoExtradata (first : VideoPacket) (allocated : Bool) : Option (List UInt8) :=
  match buildExtradata first.data with
  | .ok extradata => if allocated then some extradata else none
  | .error _ => some []

/-- The optional AAC-LC track. -/
def audioStreams (config : MuxerConfig) (reply : OpenReply) : Option (List AVStream) :=
  if config.audioCodec = .kAAC then
    if !reply.audioStream then none
    else
      match buildAudioSpecificConfig config.sampleRate config.channels with
      | .ok asc => if reply.audioExtradata then some [audioStream config asc] else none
      | .error _ => none
  else some []

/-- The streams of a new container, numbered in the order they are made. -/
def openStreams (config : MuxerConfig) (first : VideoPacket) (reply : OpenReply) :
    Option (List AVStream) :=
  if !reply.context || !reply.videoStream then none
  else
    match videoExtradata first reply.videoExtradata, audioStreams config reply with
    | some extradata, some audio => some (videoStream config extradata :: audio)
    | _, _ => none

/-- The context behind `avformat_write_header`, which chooses the time bases. -/
def container (config : MuxerConfig) (streams : List AVStream) (reply : OpenReply) :
    AVFormatContext :=
  { format := muxFormatName config.format
    movflags := if config.fragmented then some "frag_keyframe" else none
    streams := streams.map fun st => { st with timeBase := reply.timeBase st.id } }

/-- `audio_stream_index_` once the streams are made. -/
def audioIndex (m : FFmpegMuxer) : Int :=
  if m.config.audioCodec = .kAAC then 1 else m.audioStreamIndex

def failOpen (m : FFmpegMuxer) : Status × FFmpegMuxer := (.kEncodeFailed, { m with fmt := none })

def openMuxer (m : FFmpegMuxer) (first : VideoPacket) (reply : OpenReply) : Status × FFmpegMuxer :=
  match openStreams m.config first reply with
  | none => m.failOpen
  | some streams =>
    let indexed := { m with audioStreamIndex := m.audioIndex }
    if !reply.ioBuffer || !reply.avio then indexed.failOpen
    else
      let asked := indexed.avio .header reply.header.io
      if reply.header.ret < 0 then asked.failOpen
      else
        (.kOk,
          { asked with
            fmt := some (container m.config streams reply)
            streamIndex := 0
            opener := first
            handed := [] })

/-- The time base of a stream of the open container. -/
def timeBase (m : FFmpegMuxer) (index : Int) : AVRational :=
  ((m.fmt.bind fun fmt => fmt.streams[index.toNat]?).map AVStream.timeBase).getD ⟨0, 1⟩

def hand (m : FFmpegMuxer) (avpkt : AVPacket) : FFmpegMuxer :=
  { m with handed := m.handed ++ [avpkt] }

/-- Microseconds on the clock of a stream. -/
def clock (av : LibAV) (m : FFmpegMuxer) (index ptsUs : Int) : Int :=
  av.rescaleQ ptsUs ⟨1, 1000000⟩ (m.timeBase index)

def audioSample (av : LibAV) (m : FFmpegMuxer) (pkt : AudioPacket) : AVPacket :=
  { data := pkt.data
    streamIndex := m.audioStreamIndex
    pts := clock av m m.audioStreamIndex pkt.ptsUs
    dts := clock av m m.audioStreamIndex pkt.ptsUs }

/-- Encode order is display order, and a sample lasts one tick. -/
def videoSample (av : LibAV) (m : FFmpegMuxer) (pkt : VideoPacket) : AVPacket :=
  { data := (annexBToAvcc pkt.data).2
    streamIndex := m.streamIndex
    pts := clock av m m.streamIndex pkt.ptsUs
    dts := clock av m m.streamIndex pkt.ptsUs
    duration := 1
    key := pkt.keyframe }

def writeAudioPacket (av : LibAV) (m : FFmpegMuxer) (pkt : AudioPacket) (reply : PacketReply) :
    Status × FFmpegMuxer :=
  if m.audioStreamIndex < 0 then (.kEncodeFailed, m)
  else if !reply.alloc || !reply.data then (.kEncodeFailed, m)
  else
    let sent := (m.hand (audioSample av m pkt)).avio .frame reply.write.io
    (if reply.write.ret < 0 then .kEncodeFailed else .kOk, sent)

/-- Audio from before the opening; a failure leaves the rest unwritten. -/
def replayAudio (av : LibAV) (m : FFmpegMuxer) :
    List AudioPacket → List PacketReply → Status × FFmpegMuxer
  | [], _ => (.kOk, m)
  | ap :: rest, replies =>
    let written := writeAudioPacket av m ap (replies.headD {})
    if written.1 ≠ .kOk then (.kEncodeFailed, written.2)
    else replayAudio av written.2 rest replies.tail

/-- The part of a video push behind the opening. -/
def writeVideoPacket (av : LibAV) (m : FFmpegMuxer) (pkt : VideoPacket) (reply : PushReply) :
    Status × FFmpegMuxer :=
  if (annexBToAvcc pkt.data).1 ≠ .kOk then (.kEncodeFailed, m)
  else if !reply.packet.alloc || !reply.packet.data then (.kEncodeFailed, m)
  else
    let sent := (m.hand (videoSample av m pkt)).avio .frame reply.packet.write.io
    if reply.packet.write.ret < 0 then (.kEncodeFailed, sent)
    else if m.config.fragmented && pkt.keyframe then
      (sent.avio .ioFlush reply.ioFlush).commit reply.commit
    else (.kOk, sent)

def pushVideo (av : LibAV) (m : FFmpegMuxer) (pkt : VideoPacket) (reply : PushReply) :
    Status × FFmpegMuxer :=
  if pkt.data = [] then (.kOk, m)
  else if m.out.sink.isNone then (.kInvalidArgument, m)
  else if m.opened then writeVideoPacket av m pkt reply
  else if !pkt.keyframe then (.kOk, m)
  else
    let opening := m.openMuxer pkt reply.opening
    if opening.1 ≠ .kOk then opening
    else
      let replayed := replayAudio av opening.2 m.pendingAudio reply.replay
      if replayed.1 ≠ .kOk then (.kEncodeFailed, replayed.2)
      else writeVideoPacket av { replayed.2 with pendingAudio := [] } pkt reply

def pushAudio (av : LibAV) (m : FFmpegMuxer) (pkt : AudioPacket) (reply : PacketReply) :
    Status × FFmpegMuxer :=
  if pkt.data = [] then (.kOk, m)
  else if m.out.sink.isNone then (.kInvalidArgument, m)
  else if m.config.audioCodec ≠ .kAAC then (.kUnsupportedOperation, m)
  else if !m.opened then (.kOk, { m with pendingAudio := m.pendingAudio ++ [pkt] })
  else writeAudioPacket av m pkt reply

def flush (m : FFmpegMuxer) : Status × FFmpegMuxer := (.kOk, { m with pendingAudio := [] })

/-- Trailer and release of the container; neither result is looked at. -/
def close (m : FFmpegMuxer) (reply : CloseReply) : FFmpegMuxer :=
  { (m.avio .trailer reply.trailer.io).avio .ioFlush reply.ioFlush with fmt := none }

def finish (m : FFmpegMuxer) (reply : CloseReply) : Status × FFmpegMuxer :=
  let cleared := { m with pendingAudio := [] }
  if m.opened then (cleared.close reply).commit reply.commit else (.kOk, cleared)

def release (m : FFmpegMuxer) (reply : CloseReply) : FFmpegMuxer :=
  let cleared := { m with pendingAudio := [] }
  let closed := if m.opened then ((cleared.close reply).commit reply.commit).2 else cleared
  { closed with out := { closed.out with sink := none } }

/-- A call on the muxer, with the answers it gets. -/
inductive Call where
  | setOutput (sink : Option Nat)
  | pushVideo (pkt : VideoPacket) (reply : PushReply)
  | pushAudio (pkt : AudioPacket) (reply : PacketReply)
  | flush
  | finish (reply : CloseReply)
  | release (reply : CloseReply)

def call (av : LibAV) (m : FFmpegMuxer) : Call → Status × FFmpegMuxer
  | .setOutput sink => m.setOutput sink
  | .pushVideo pkt reply => pushVideo av m pkt reply
  | .pushAudio pkt reply => pushAudio av m pkt reply
  | .flush => m.flush
  | .finish reply => m.finish reply
  | .release reply => (.kOk, m.release reply)

/-- A call as a step; every answer is some label. -/
def next (av : LibAV) (m : FFmpegMuxer) (c : Call) : Option FFmpegMuxer := some (call av m c).2

/-- The answers by which `avformat_write_header` is reached. -/
def asksHeader (config : MuxerConfig) (first : VideoPacket) (reply : OpenReply) : Bool :=
  (openStreams config first reply).isSome && (reply.ioBuffer && reply.avio)

/-- The answers by which it succeeds, and the container is open. -/
def opens (config : MuxerConfig) (first : VideoPacket) (reply : OpenReply) : Bool :=
  asksHeader config first reply && decide (0 ≤ reply.header.ret)

/-- The muxer behind a successful opening. -/
def openedWith (m : FFmpegMuxer) (first : VideoPacket) (reply : OpenReply)
    (streams : List AVStream) : FFmpegMuxer :=
  { m with
    out := m.out.serve .header reply.header.io
    fmt := some (container m.config streams reply)
    streamIndex := 0
    audioStreamIndex := m.audioIndex
    opener := first
    handed := [] }

/-- A video packet has a sample, and a buffer for it. -/
def handsOver (pkt : VideoPacket) (reply : PacketReply) : Bool :=
  decide ((annexBToAvcc pkt.data).1 = .kOk) && (reply.alloc && reply.data)

/-- Every waiting packet is written when the container opens. -/
def replays (index : Int) : List AudioPacket → List PacketReply → Bool
  | [], _ => true
  | _ :: rest, replies =>
    let reply := replies.headD {}
    decide (0 ≤ index) && (reply.alloc && reply.data) && decide (0 ≤ reply.write.ret) &&
      replays index rest replies.tail

section Effects
variable {av : LibAV} {m : FFmpegMuxer} {first : VideoPacket} {reply : OpenReply}

/-- An opening that fails leaves no container. -/
theorem openMuxer_failed (closed : opens m.config first reply = false) :
    ∃ index, m.openMuxer first reply =
      (.kEncodeFailed,
        { m with
          out :=
            if asksHeader m.config first reply then m.out.serve .header reply.header.io else m.out
          fmt := none
          audioStreamIndex := index }) ∧ (index = m.audioStreamIndex ∨ index = m.audioIndex) := by
  rw [openMuxer, asksHeader]
  rw [opens, asksHeader] at closed
  cases made : openStreams m.config first reply with
  | none => exact ⟨m.audioStreamIndex, rfl, .inl rfl⟩
  | some streams =>
    refine ⟨m.audioIndex, ?_, .inr rfl⟩
    rw [made] at closed
    cases buffered : reply.ioBuffer && reply.avio with
    | false =>
      have refused : (!reply.ioBuffer || !reply.avio) = true := by
        rw [← Bool.not_and, buffered, Bool.not_false]
      simp [refused, failOpen]
    | true =>
      have served : (!reply.ioBuffer || !reply.avio) = false := by
        rw [← Bool.not_and, buffered, Bool.not_true]
      have negative : reply.header.ret < 0 := by
        simpa [buffered] using closed
      simp [served, negative, failOpen, avio]

theorem openMuxer_opened (opened : opens m.config first reply = true) :
    ∃ streams, openStreams m.config first reply = some streams ∧
      m.openMuxer first reply = (.kOk, m.openedWith first reply streams) := by
  rw [openMuxer]
  rw [opens, asksHeader] at opened
  obtain ⟨asks, success⟩ := Bool.and_eq_true_iff.mp opened
  obtain ⟨made, buffered⟩ := Bool.and_eq_true_iff.mp asks
  obtain ⟨streams, made⟩ := Option.isSome_iff_exists.mp made
  refine ⟨streams, made, ?_⟩
  have served : (!reply.ioBuffer || !reply.avio) = false := by
    rw [← Bool.not_and, buffered, Bool.not_true]
  have positive : ¬ reply.header.ret < 0 := Int.not_lt.mpr (of_decide_eq_true success)
  simp [made, served, positive, avio, openedWith]

/-- A video packet is handed over when it has a sample and a buffer. -/
theorem writeVideoPacket_effect (av : LibAV) (m : FFmpegMuxer) (pkt : VideoPacket)
    (reply : PushReply) :
    ∃ out, (writeVideoPacket av m pkt reply).2 =
      { m with
        out
        handed :=
          m.handed ++ if handsOver pkt reply.packet then [videoSample av m pkt] else [] } := by
  rw [writeVideoPacket, handsOver]
  by_cases sample : (annexBToAvcc pkt.data).1 = .kOk
  · cases buffered : reply.packet.alloc && reply.packet.data with
    | false =>
      have refused : (!reply.packet.alloc || !reply.packet.data) = true := by
        rw [← Bool.not_and, buffered, Bool.not_false]
      exact ⟨m.out, by simp [sample, refused]⟩
    | true =>
      have served : (!reply.packet.alloc || !reply.packet.data) = false := by
        rw [← Bool.not_and, buffered, Bool.not_true]
      simp only [sample, served, ne_eq, not_true, if_false, Bool.false_eq_true, decide_true,
        Bool.and_self, if_true]
      split
      · exact ⟨_, rfl⟩
      · split
        · exact ⟨_, rfl⟩
        · exact ⟨_, rfl⟩
  · exact ⟨m.out, by simp [sample]⟩

/-- An audio packet needs a stream and a buffer; then it is handed over, whatever
libavformat makes of it. -/
theorem writeAudioPacket_cases (av : LibAV) (m : FFmpegMuxer) (pkt : AudioPacket)
    (reply : PacketReply) :
    (decide (0 ≤ m.audioStreamIndex) && (reply.alloc && reply.data)) = false ∧
        writeAudioPacket av m pkt reply = (.kEncodeFailed, m) ∨
      (decide (0 ≤ m.audioStreamIndex) && (reply.alloc && reply.data)) = true ∧
        writeAudioPacket av m pkt reply =
          (if reply.write.ret < 0 then .kEncodeFailed else .kOk,
            (m.hand (audioSample av m pkt)).avio .frame reply.write.io) := by
  rw [writeAudioPacket, ← Bool.not_and]
  by_cases absent : m.audioStreamIndex < 0
  · exact .inl ⟨by simp [absent], if_pos absent⟩
  · rw [if_neg absent, decide_eq_true (Int.not_lt.mp absent), Bool.true_and]
    cases buffered : reply.alloc && reply.data with
    | false => exact .inl ⟨rfl, rfl⟩
    | true => exact .inr ⟨rfl, rfl⟩

/-- Audio goes to the audio stream, when there is one. -/
theorem writeAudioPacket_effect (av : LibAV) (m : FFmpegMuxer) (pkt : AudioPacket)
    (reply : PacketReply) :
    ∃ out sent, (writeAudioPacket av m pkt reply).2 = { m with out, handed := m.handed ++ sent } ∧
      ∀ avpkt ∈ sent, avpkt.streamIndex = m.audioStreamIndex ∧ 0 ≤ m.audioStreamIndex := by
  rcases writeAudioPacket_cases av m pkt reply with ⟨_, refused⟩ | ⟨writable, handed⟩
  · rw [refused]
    exact ⟨m.out, [], by rw [List.append_nil], fun _ none => absurd none List.not_mem_nil⟩
  · rw [handed]
    refine ⟨_, [audioSample av m pkt], rfl, ?_⟩
    intro avpkt member
    obtain rfl := List.mem_singleton.mp member
    exact ⟨rfl, of_decide_eq_true (Bool.and_eq_true_iff.mp writable).1⟩

/-- What each packet keeps, the replay keeps. -/
theorem replayAudio_keeps {P : FFmpegMuxer → Prop}
    (writes : ∀ {m} pkt reply, P m → P (writeAudioPacket av m pkt reply).2)
    (pkts : List AudioPacket) (replies : List PacketReply) (initial : P m) :
    P (replayAudio av m pkts replies).2 := by
  induction pkts generalizing m replies with
  | nil => exact initial
  | cons pkt pkts ih =>
    have first := writes pkt (replies.headD {}) initial
    rw [replayAudio]
    split
    · exact first
    · exact ih _ first

theorem replayAudio_effect (av : LibAV) (m : FFmpegMuxer) (pkts : List AudioPacket)
    (replies : List PacketReply) :
    ∃ out sent, (replayAudio av m pkts replies).2 = { m with out, handed := m.handed ++ sent } ∧
      ∀ avpkt ∈ sent, avpkt.streamIndex = m.audioStreamIndex ∧ 0 ≤ m.audioStreamIndex := by
  refine replayAudio_keeps (P := fun n => ∃ out sent,
    n = { m with out, handed := m.handed ++ sent } ∧
      ∀ avpkt ∈ sent, avpkt.streamIndex = m.audioStreamIndex ∧ 0 ≤ m.audioStreamIndex)
    ?_ pkts replies ?_
  · rintro _ pkt reply ⟨out, sent, rfl, tagged⟩
    obtain ⟨out', sent', wrote, tagged'⟩ :=
      writeAudioPacket_effect av { m with out, handed := m.handed ++ sent } pkt reply
    refine ⟨out', sent ++ sent', ?_, List.forall_mem_append.mpr ⟨tagged, tagged'⟩⟩
    rw [wrote, List.append_assoc]
  · exact ⟨m.out, [], by rw [List.append_nil], fun _ none => absurd none List.not_mem_nil⟩

theorem writeAudioPacket_ok {pkt : AudioPacket} {reply : PacketReply} :
    (writeAudioPacket av m pkt reply).1 = .kOk ↔
      (decide (0 ≤ m.audioStreamIndex) && (reply.alloc && reply.data) &&
        decide (0 ≤ reply.write.ret)) = true := by
  rcases writeAudioPacket_cases av m pkt reply with ⟨unwritable, refused⟩ | ⟨writable, handed⟩
  · rw [unwritable, refused]
    simp
  · rw [writable, handed]
    by_cases failed : reply.write.ret < 0
    · simp [failed]
    · simp [failed, Int.not_lt.mp failed]

/-- The replay succeeds exactly when every waiting packet is written. -/
theorem replayAudio_ok (av : LibAV) (m : FFmpegMuxer) (pkts : List AudioPacket)
    (replies : List PacketReply) :
    (replayAudio av m pkts replies).1 = .kOk ↔ replays m.audioStreamIndex pkts replies = true := by
  induction pkts generalizing m replies with
  | nil => exact ⟨fun _ => rfl, fun _ => rfl⟩
  | cons pkt pkts ih =>
    obtain ⟨out, sent, wrote, _⟩ := writeAudioPacket_effect av m pkt (replies.headD {})
    have index : (writeAudioPacket av m pkt (replies.headD {})).2.audioStreamIndex =
        m.audioStreamIndex := by rw [wrote]
    unfold replayAudio replays
    dsimp only
    split
    · rename_i failed
      rw [ne_eq, writeAudioPacket_ok, Bool.not_eq_true] at failed
      rw [failed, Bool.false_and]
      simp
    · rename_i written
      rw [ne_eq, not_not, writeAudioPacket_ok] at written
      rw [ih, index, written, Bool.true_and]

theorem replayAudio_sink (av : LibAV) (m : FFmpegMuxer) (pkts : List AudioPacket)
    (replies : List PacketReply) : (replayAudio av m pkts replies).2.out.sink = m.out.sink := by
  refine replayAudio_keeps (P := fun n => n.out.sink = m.out.sink) ?_ pkts replies rfl
  intro n pkt reply same
  rcases writeAudioPacket_cases av n pkt reply with ⟨_, refused⟩ | ⟨_, handed⟩
  · rw [refused]
    exact same
  · rw [handed]
    exact (Output.serve_sink ..).trans same

end Effects

/-- The ways of a video push: nothing to do, on into the open container, or an
opening that succeeds or fails. -/
inductive VideoPush (m : FFmpegMuxer) (pkt : VideoPacket) (reply : PushReply) : Prop where
  | idle (nothing : pkt.data = [] ∨ m.out.sink = none ∨ (m.opened = false ∧ pkt.keyframe = false))
  | onward (data : pkt.data ≠ []) (sink : m.out.sink.isSome = true) (opened : m.opened = true)
  | opening (data : pkt.data ≠ []) (sink : m.out.sink.isSome = true) (closed : m.opened = false)
      (key : pkt.keyframe = true) (succeeds : opens m.config pkt reply.opening = true)
  | failing (data : pkt.data ≠ []) (sink : m.out.sink.isSome = true) (closed : m.opened = false)
      (key : pkt.keyframe = true) (fails : opens m.config pkt reply.opening = false)

section Pushes
variable {av : LibAV} {m : FFmpegMuxer} {pkt : VideoPacket} {reply : PushReply}

theorem videoPush (m : FFmpegMuxer) (pkt : VideoPacket) (reply : PushReply) :
    VideoPush m pkt reply := by
  by_cases data : pkt.data = []
  · exact .idle (.inl data)
  cases sink : m.out.sink with
  | none => exact .idle (.inr (.inl sink))
  | some id =>
    have attached : m.out.sink.isSome = true := by
      rw [sink]
      rfl
    cases opened : m.opened with
    | true => exact .onward data attached opened
    | false =>
      cases key : pkt.keyframe with
      | false => exact .idle (.inr (.inr ⟨opened, key⟩))
      | true =>
        cases opening : opens m.config pkt reply.opening with
        | true => exact .opening data attached opened key opening
        | false => exact .failing data attached opened key opening

/-- A push without data, sink or keyframe changes nothing. -/
theorem pushVideo_idle
    (idle : pkt.data = [] ∨ m.out.sink = none ∨ (m.opened = false ∧ pkt.keyframe = false)) :
    (pushVideo av m pkt reply).2 = m := by
  rw [pushVideo]
  rcases idle with empty | detached | ⟨closed, delta⟩
  · rw [if_pos empty]
  · split
    · rfl
    · rw [detached]
      rfl
  · split
    · rfl
    · split
      · rfl
      · rw [closed, delta]
        rfl

theorem pushVideo_onward (data : pkt.data ≠ []) (sink : m.out.sink.isSome = true)
    (opened : m.opened = true) :
    pushVideo av m pkt reply = writeVideoPacket av m pkt reply := by
  have attached : m.out.sink.isNone = false := Option.isNone_eq_false_iff.mpr sink
  rw [pushVideo]
  rw [if_neg data, attached, opened]
  rfl

/-- What a keyframe goes on with behind an opening. -/
theorem pushVideo_opening (av : LibAV) (data : pkt.data ≠ []) (sink : m.out.sink.isSome = true)
    (closed : m.opened = false) (key : pkt.keyframe = true)
    (opening : opens m.config pkt reply.opening = true) :
    ∃ streams, openStreams m.config pkt reply.opening = some streams ∧
      pushVideo av m pkt reply =
        let replayed :=
          replayAudio av (m.openedWith pkt reply.opening streams) m.pendingAudio reply.replay
        if replayed.1 ≠ .kOk then (.kEncodeFailed, replayed.2)
        else writeVideoPacket av { replayed.2 with pendingAudio := [] } pkt reply := by
  have attached : m.out.sink.isNone = false := Option.isNone_eq_false_iff.mpr sink
  obtain ⟨streams, made, begun⟩ := openMuxer_opened opening
  refine ⟨streams, made, ?_⟩
  rw [pushVideo, if_neg data, attached, closed, key, begun]
  simp

/-- A keyframe opens the container, the buffered audio is replayed into it, and
the keyframe follows unless something fails. -/
theorem pushVideo_opens (av : LibAV) (data : pkt.data ≠ []) (sink : m.out.sink.isSome = true)
    (closed : m.opened = false) (key : pkt.keyframe = true)
    (opening : opens m.config pkt reply.opening = true) :
    ∃ streams out pending sent own, openStreams m.config pkt reply.opening = some streams ∧
      (pushVideo av m pkt reply).2 =
        { m.openedWith pkt reply.opening streams with
          out
          pendingAudio := pending
          handed := sent ++ own } ∧
      (∀ avpkt ∈ sent, avpkt.streamIndex = m.audioIndex ∧ 0 ≤ m.audioIndex) ∧
      own =
        if (replays m.audioIndex m.pendingAudio reply.replay &&
          handsOver pkt reply.packet) = true then
          [videoSample av (pushVideo av m pkt reply).2 pkt]
        else [] := by
  obtain ⟨streams, made, pushed⟩ := pushVideo_opening av data sink closed key opening
  have played : (replayAudio av (m.openedWith pkt reply.opening streams) m.pendingAudio
      reply.replay).1 = .kOk ↔ replays m.audioIndex m.pendingAudio reply.replay = true :=
    replayAudio_ok av _ m.pendingAudio reply.replay
  rw [pushed]
  dsimp only
  obtain ⟨out, sent, replayed, tagged⟩ := replayAudio_effect av
    (m.openedWith pkt reply.opening streams) m.pendingAudio reply.replay
  refine ⟨streams, ?_⟩
  split
  · rename_i failed
    refine ⟨out, m.pendingAudio, sent, [], made, ?_, tagged, ?_⟩
    · rw [replayed, List.append_nil]
      rfl
    · rw [Bool.eq_false_iff.mpr (mt played.mpr failed)]
      rfl
  · rename_i ok
    rw [played.mp (not_not.mp ok), Bool.true_and, replayed]
    obtain ⟨out', wrote⟩ := writeVideoPacket_effect av
      { m.openedWith pkt reply.opening streams with
        out
        pendingAudio := []
        handed := sent } pkt reply
    refine ⟨out', [], sent, _, made, wrote, tagged, ?_⟩
    split
    · have own := congrArg (fun n => videoSample av n pkt) wrote
      exact congrArg (fun sample => [sample]) own.symm
    · rfl

theorem pushVideo_fails (av : LibAV) (data : pkt.data ≠ []) (sink : m.out.sink.isSome = true)
    (closed : m.opened = false) (key : pkt.keyframe = true)
    (failing : opens m.config pkt reply.opening = false) :
    ∃ index, pushVideo av m pkt reply =
      (.kEncodeFailed,
        { m with
          out :=
            if asksHeader m.config pkt reply.opening then
              m.out.serve .header reply.opening.header.io
            else m.out
          fmt := none
          audioStreamIndex := index }) ∧ (index = m.audioStreamIndex ∨ index = m.audioIndex) := by
  have attached : m.out.sink.isNone = false := Option.isNone_eq_false_iff.mpr sink
  obtain ⟨index, refused, either⟩ := openMuxer_failed failing
  refine ⟨index, ?_, either⟩
  rw [pushVideo]
  rw [if_neg data, attached, closed, key, refused]
  simp

end Pushes

/-- What a call other than a video push does to the container: it closes it, or
hands audio over. -/
inductive Untouched (m n : FFmpegMuxer) : Prop where
  | closed (fmt : n.fmt = none) (audio : n.audioStreamIndex = m.audioStreamIndex)
  | same {out : Output} {pending : List AudioPacket} {sent : List AVPacket}
      (eq : n = { m with out, pendingAudio := pending, handed := m.handed ++ sent })
      (tagged : ∀ avpkt ∈ sent,
        avpkt.streamIndex = m.audioStreamIndex ∧ 0 ≤ m.audioStreamIndex)

section Calls
variable {av : LibAV} {m : FFmpegMuxer}

theorem Untouched.quiet (m : FFmpegMuxer) (out : Output) (pending : List AudioPacket) :
    Untouched m { m with out, pendingAudio := pending } :=
  .same (by rw [List.append_nil]) fun _ none => absurd none List.not_mem_nil

/-- The ways of an audio push: nothing to do, into the buffer, or on into the open
container. -/
theorem pushAudio_cases (av : LibAV) (m : FFmpegMuxer) (pkt : AudioPacket) (reply : PacketReply) :
    (∃ st, pushAudio av m pkt reply = (st, m)) ∨
      m.opened = false ∧
        pushAudio av m pkt reply = (.kOk, { m with pendingAudio := m.pendingAudio ++ [pkt] }) ∨
      m.opened = true ∧ pushAudio av m pkt reply = writeAudioPacket av m pkt reply := by
  rw [pushAudio]
  split
  · exact .inl ⟨_, rfl⟩
  · split
    · exact .inl ⟨_, rfl⟩
    · split
      · exact .inl ⟨_, rfl⟩
      · cases m.opened with
        | false => exact .inr (.inl ⟨rfl, rfl⟩)
        | true => exact .inr (.inr ⟨rfl, rfl⟩)

theorem pushAudio_untouched (av : LibAV) (pkt : AudioPacket) (reply : PacketReply) :
    Untouched m (pushAudio av m pkt reply).2 := by
  rcases pushAudio_cases av m pkt reply with ⟨st, idle⟩ | ⟨_, waits⟩ | ⟨_, onward⟩
  · rw [idle]
    exact .quiet m m.out m.pendingAudio
  · rw [waits]
    exact .quiet m m.out (m.pendingAudio ++ [pkt])
  · rw [onward]
    obtain ⟨out, sent, wrote, tagged⟩ := writeAudioPacket_effect av m pkt reply
    exact .same wrote tagged

theorem finish_untouched (reply : CloseReply) : Untouched m (m.finish reply).2 := by
  unfold finish
  dsimp only
  split
  · exact .closed rfl rfl
  · exact .quiet m m.out []

theorem release_untouched (reply : CloseReply) : Untouched m (m.release reply) := by
  rw [release]
  dsimp only
  split
  · exact .closed rfl rfl
  · exact .quiet m { m.out with sink := none } []

end Calls

end FFmpegMuxer
end VideoCodec
