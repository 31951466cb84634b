import VideoCodec.Mux.Types
import VideoCodec.Nal.AnnexB

/-! `MediaCodecMuxer`: its members and its calls as functions on them. The NDK
writes through a temporary file, which is replayed to the sink at the end; the
answers of the NDK, of the C library and of the sink are arguments. -/
namespace VideoCodec

/-- A call on a sink, with its answer. -/
inductive FileRequest where
  | write (data : List UInt8) (accepted : Bool)
  | flush (accepted : Bool)
  deriving DecidableEq, Repr

structure PendingSample where
  track : Nat
  data : List UInt8
  ptsUs : Int
  keyframe : Bool
  deriving DecidableEq, Repr

/-- The format that a track is added with. -/
inductive MediaFormat where
  | avc (width height frameRate : Int) (csd0 csd1 : Option (List UInt8))
  | aac (sampleRate channelCount : Int) (csd0 : Option (List UInt8))
  deriving DecidableEq, Repr

/-- `std::tmpfile` with the descriptor it opens, and `AMediaMuxer_new`. -/
structure EnsureReply where
  tmpfile : Option Nat := some 3
  muxer : Bool := true
  deriving DecidableEq, Repr

/-- `AMediaMuxer_start`, the replayed samples, and the sample itself. -/
structure SampleReply where
  start : Bool := true
  replay : List Bool := []
  write : Bool := true
  deriving DecidableEq, Repr

/-- The answers to a push; `track` is the result of `AMediaMuxer_addTrack`. -/
structure MediaReply where
  ensure : EnsureReply := {}
  track : Int := 0
  sample : SampleReply := {}
  deriving DecidableEq, Repr

/-- The answers to `Finalize`: `content` is what can be read from the file. -/
structure FinalizeReply where
  stop : Bool := true
  fflush : Bool := true
  fseek : Bool := true
  content : List UInt8 := []
  writes : List Bool := []
  ferror : Bool := false
  flush : Bool := true
  deriving DecidableEq, Repr

structure MediaCodecMuxer where
  config : MuxerConfig
  sink : Option Nat := none
  /-- Whether `muxer_` holds an `AMediaMuxer`. -/
  muxer : Bool := false
  /-- The descriptor of `tmp_`. -/
  tmp : Option Nat := none
  started : Bool := false
  finished : Bool := false
  videoTrack : Int := -1
  audioTrack : Int := -1
  sps : List UInt8 := []
  pps : List UInt8 := []
  asc : List UInt8 := []
  pending : List PendingSample := []
  inFlight : List (List UInt8) := []
  /-- The samples passed to `AMediaMuxer_writeSampleData`. -/
  written : List PendingSample := []
  /-- The formats passed to `AMediaMuxer_addTrack`. -/
  tracks : List MediaFormat := []
  /-- The number of temporary files ever opened. -/
  files : Nat := 0
  /-- All that was asked of sinks. -/
  requests : List (Nat × FileRequest) := []
  deriving DecidableEq, Repr

namespace MediaCodecMuxer

def kReplayBufferSize : Nat := 64 * 1024

def setOutput (m : MediaCodecMuxer) (sink : Option Nat) : Status × MediaCodecMuxer :=
  (.kOk, { m with sink })

def ensureMuxer (m : MediaCodecMuxer) (reply : EnsureReply) : Status × MediaCodecMuxer :=
  if m.muxer then (.kOk, m)
  else if !m.config.isValid then (.kInvalidArgument, m)
  else
    match reply.tmpfile with
    | none => (.kEncodeFailed, { m with tmp := none })
    | some fd =>
      let filed := { m with tmp := some fd, files := m.files + 1 }
      if reply.muxer then (.kOk, { filed with muxer := true })
      else (.kEncodeFailed, { filed with tmp := none })

/-- What `CaptureVideoCsd` does with one unit. -/
def capture (m : MediaCodecMuxer) : List UInt8 → MediaCodecMuxer
  | [] => m
  | head :: rest =>
    let type := head &&& 0x1F
    let m := if type = 7 ∧ m.sps = [] then { m with sps := head :: rest } else m
    if type = 8 ∧ m.pps = [] then { m with pps := head :: rest } else m

def captureVideoCsd (m : MediaCodecMuxer) (pkt : VideoPacket) : Status × MediaCodecMuxer :=
  let split := Android.splitAnnexB pkt.data
  if !split.1 then (.kEncodeFailed, m)
  else
    let captured := split.2.foldl capture m
    (if captured.sps = [] ∨ captured.pps = [] then .kEncodeFailed else .kOk, captured)

/-- A parameter set as the NDK wants it, behind a start code. -/
def csd (unit : List UInt8) : Option (List UInt8) :=
  if unit = [] then none else some (Android.kStartCode ++ unit)

def addVideoTrack (m : MediaCodecMuxer) (track : Int) : MediaCodecMuxer :=
  { m with
    videoTrack := track
    tracks := m.tracks ++ [.avc m.config.width m.config.height
      (if m.config.fps > 0 then m.config.fps else 30) (csd m.sps) (csd m.pps)] }

def addAudioTrack (m : MediaCodecMuxer) (track : Int) : MediaCodecMuxer :=
  { m with
    audioTrack := track
    tracks := m.tracks ++ [.aac m.config.sampleRate m.config.channels
      (if m.asc = [] then none else some m.asc)] }

/-- Every configured track has been added. -/
def canStart (m : MediaCodecMuxer) : Bool :=
  if m.videoTrack < 0 then false
  else if m.config.audioCodec ≠ .kNone ∧ m.audioTrack < 0 then false
  else true

/-- `WriteSample` once the muxer is started; a private copy stays in flight. -/
def handOver (m : MediaCodecMuxer) (sample : PendingSample) (ok : Bool) :
    Status × MediaCodecMuxer :=
  (if ok then .kOk else .kEncodeFailed,
    { m with inFlight := m.inFlight ++ [sample.data], written := m.written ++ [sample] })

/-- The loop of `Start`, where `WriteSample` finds the muxer started. -/
def replayPending (m : MediaCodecMuxer) :
    List PendingSample → List Bool → Status × MediaCodecMuxer
  | [], _ => (.kOk, { m with pending := [] })
  | sample :: rest, answers =>
    let handed := m.handOver sample (answers.headD true)
    -- the rest is dropped: the writer thread owns what was handed over
    if handed.1 ≠ .kOk then (.kEncodeFailed, { handed.2 with pending := [] })
    else replayPending handed.2 rest answers.tail

def start (m : MediaCodecMuxer) (ok : Bool) (answers : List Bool) : Status × MediaCodecMuxer :=
  if m.started then (.kOk, m)
  else if !ok then (.kEncodeFailed, m)
  else replayPending { m with started := true } m.pending answers

def writeSample (m : MediaCodecMuxer) (sample : PendingSample) (reply : SampleReply) :
    Status × MediaCodecMuxer :=
  let ready := if !m.started && m.canStart then m.start reply.start reply.replay else (.kOk, m)
  if ready.1 ≠ .kOk then ready
  else if !ready.2.started then
    (.kOk, { ready.2 with pending := ready.2.pending ++ [sample] })
  else ready.2.handOver sample reply.write

/-- An access unit without its leading start code. -/
def withoutStartCode (data : List UInt8) : List UInt8 :=
  if [0, 0, 0, 1] <+: data then data.drop 4
  else if [0, 0, 1] <+: data then data.drop 3
  else data

def videoSample (m : MediaCodecMuxer) (pkt : VideoPacket) : PendingSample :=
  { track := m.videoTrack.toNat, data := withoutStartCode pkt.data, ptsUs := pkt.ptsUs
    keyframe := pkt.keyframe }

def audioSample (m : MediaCodecMuxer) (pkt : AudioPacket) : PendingSample :=
  { track := m.audioTrack.toNat, data := pkt.data, ptsUs := pkt.ptsUs, keyframe := false }

/-- The video track is there, or the first keyframe adds it. -/
def readyVideo (m : MediaCodecMuxer) (pkt : VideoPacket) (track : Int) :
    Option Status × MediaCodecMuxer :=
  if 0 ≤ m.videoTrack then (none, m)
  else if !pkt.keyframe then (some .kOk, m)
  else
    let captured := m.captureVideoCsd pkt
    if captured.1 ≠ .kOk then (some .kEncodeFailed, captured.2)
    else
      let added := captured.2.addVideoTrack track
      (if added.videoTrack < 0 then some .kEncodeFailed else none, added)

def pushVideo (m : MediaCodecMuxer) (pkt : VideoPacket) (reply : MediaReply) :
    Status × MediaCodecMuxer :=
  if pkt.data = [] then (.kOk, m)
  else if m.sink.isNone then (.kInvalidArgument, m)
  else
    let ensured := m.ensureMuxer reply.ensure
    if ensured.1 ≠ .kOk then ensured
    else
      match ensured.2.readyVideo pkt reply.track with
      | (some st, m) => (st, m)
      | (none, m) => m.writeSample (m.videoSample pkt) reply.sample

/-- The codec configuration of the audio track: what the encoder emitted, else
what the config gives. -/
def captureAsc (m : MediaCodecMuxer) (pkt : AudioPacket) : Option MediaCodecMuxer :=
  if pkt.codecConfig ≠ [] then some { m with asc := pkt.codecConfig }
  else if m.asc = [] then
    (Android.buildAudioSpecificConfig m.config.sampleRate m.config.channels).map
      fun asc => { m with asc }
  else some m

def readyAudio (m : MediaCodecMuxer) (pkt : AudioPacket) (track : Int) :
    Option Status × MediaCodecMuxer :=
  if 0 ≤ m.audioTrack then (none, m)
  else
    match m.captureAsc pkt with
    | none => (some .kEncodeFailed, m)
    | some captured =>
      let added := captured.addAudioTrack track
      (if added.audioTrack < 0 then some .kEncodeFailed else none, added)

def pushAudio (m : MediaCodecMuxer) (pkt : AudioPacket) (reply : MediaReply) :
    Status × MediaCodecMuxer :=
  if pkt.data = [] then (.kOk, m)
  else if m.sink.isNone then (.kInvalidArgument, m)
  else if m.config.audioCodec ≠ .kAAC then (.kUnsupportedOperation, m)
  else
    let ensured := m.ensureMuxer reply.ensure
    if ensured.1 ≠ .kOk then ensured
    else
      match ensured.2.readyAudio pkt reply.track with
      | (some st, m) => (st, m)
      | (none, m) => m.writeSample (m.audioSample pkt) reply.sample

def flush (m : MediaCodecMuxer) : Status × MediaCodecMuxer := (.kOk, m)

def ask (m : MediaCodecMuxer) (sink : Nat) (request : FileRequest) : MediaCodecMuxer :=
  { m with requests := m.requests ++ [(sink, request)] }

/-- The loop that copies the file to the sink; the fuel bounds its rounds. -/
def replayFile (sink : Nat) :
    Nat → MediaCodecMuxer → List UInt8 → List Bool → Status × MediaCodecMuxer
  | 0, m, _, _ => (.kOk, m)
  | fuel + 1, m, rest, answers =>
    let chunk := rest.take kReplayBufferSize
    let accepted := answers.headD true
    let asked := if chunk.length > 0 then m.ask sink (.write chunk accepted) else m
    if chunk.length > 0 ∧ accepted = false then (.kEncodeFailed, asked)
    else if chunk.length < kReplayBufferSize then (.kOk, asked)
    else replayFile sink fuel asked (rest.drop kReplayBufferSize) answers.tail

/-- The replay of the file to the sink. -/
def replayToSink (m : MediaCodecMuxer) (sink : Nat) (reply : FinalizeReply) :
    Status × MediaCodecMuxer :=
  if !reply.fflush || !reply.fseek then (.kEncodeFailed, m)
  else
    let copied := replayFile sink (reply.content.length + 1) m reply.content reply.writes
    if copied.1 ≠ .kOk then copied
    else if reply.ferror then (.kEncodeFailed, copied.2)
    else
      (if reply.flush then .kOk else .kEncodeFailed, copied.2.ask sink (.flush reply.flush))

/-- The writer thread is joined, and the copies it read are released. -/
def stop (m : MediaCodecMuxer) (ok : Bool) : Status × MediaCodecMuxer :=
  if !m.started then (.kEncodeFailed, m)
  else if m.muxer then (if ok then .kOk else .kEncodeFailed, { m with inFlight := [] })
  else (.kOk, m)

def finalize (m : MediaCodecMuxer) (reply : FinalizeReply) : Status × MediaCodecMuxer :=
  let stopped := m.stop reply.stop
  let replayed :=
    match stopped.2.sink with
    | some sink =>
      if stopped.1 = Status.kOk ∧ stopped.2.tmp.isSome then stopped.2.replayToSink sink reply
      else stopped
    | none => stopped
  (replayed.1, { replayed.2 with muxer := false, tmp := none, started := false, pending := [] })

def finish (m : MediaCodecMuxer) (reply : FinalizeReply) : Status × MediaCodecMuxer :=
  if m.finished then (.kOk, m)
  else
    let finalized := m.finalize reply
    (finalized.1, { finalized.2 with finished := true })

def release (m : MediaCodecMuxer) (reply : FinalizeReply) : MediaCodecMuxer :=
  let finalized := if m.finished then m else (m.finalize reply).2
  { finalized with finished := true, sink := none }

inductive Call where
  | setOutput (sink : Option Nat)
  | pushVideo (pkt : VideoPacket) (reply : MediaReply)
  | pushAudio (pkt : AudioPacket) (reply : MediaReply)
  | flush
  | finish (reply : FinalizeReply)
  | release (reply : FinalizeReply)
  deriving DecidableEq, Repr

def call (m : MediaCodecMuxer) : Call → Status × MediaCodecMuxer
  | .setOutput sink => m.setOutput sink
  | .pushVideo pkt reply => m.pushVideo pkt reply
  | .pushAudio pkt reply => m.pushAudio pkt reply
  | .flush => m.flush
  | .finish reply => m.finish reply
  | .release reply => (.kOk, m.release reply)

section Frames
variable (m : MediaCodecMuxer)

/-- The file and the NDK muxer behind a push. -/
theorem ensureMuxer_frame (reply : EnsureReply) :
    ∃ muxer tmp files, (m.ensureMuxer reply).2 = { m with muxer, tmp, files } := by
  rw [ensureMuxer]
  split
  · exact ⟨m.muxer, m.tmp, m.files, rfl⟩
  · split
    · exact ⟨m.muxer, m.tmp, m.files, rfl⟩
    · split
      · exact ⟨m.muxer, _, m.files, rfl⟩
      · split
        · exact ⟨_, _, _, rfl⟩
        · exact ⟨m.muxer, _, _, rfl⟩

theorem capture_frame (unit : List UInt8) :
    ∃ sps pps, m.capture unit = { m with sps, pps } := by
  unfold capture
  split
  · exact ⟨m.sps, m.pps, rfl⟩
  · dsimp only
    split
    · split
      · exact ⟨_, _, rfl⟩
      · exact ⟨_, m.pps, rfl⟩
    · split
      · exact ⟨m.sps, _, rfl⟩
      · exact ⟨m.sps, m.pps, rfl⟩

theorem captureAll_frame (units : List (List UInt8)) :
    ∃ sps pps, units.foldl capture m = { m with sps, pps } := by
  induction units generalizing m with
  | nil => exact ⟨m.sps, m.pps, rfl⟩
  | cons unit units ih =>
    obtain ⟨_, _, first⟩ := m.capture_frame unit
    obtain ⟨sps, pps, rest⟩ := ih (m.capture unit)
    refine ⟨sps, pps, rest.trans ?_⟩
    rw [first]

theorem captureVideoCsd_frame (pkt : VideoPacket) :
    ∃ sps pps, (m.captureVideoCsd pkt).2 = { m with sps, pps } := by
  rw [captureVideoCsd]
  dsimp only
  split
  · exact ⟨m.sps, m.pps, rfl⟩
  · exact m.captureAll_frame _

/-- What readies the video track: it is there, a keyframe adds it, or the push
ends here, with `kOk` only for a packet before the first keyframe. -/
inductive VideoReady (m : MediaCodecMuxer) (pkt : VideoPacket) :
    Option Status × MediaCodecMuxer → Prop where
  | there (present : 0 ≤ m.videoTrack) : VideoReady m pkt (none, m)
  | early (absent : ¬ 0 ≤ m.videoTrack) (delta : pkt.keyframe = false) :
      VideoReady m pkt (some .kOk, m)
  | failed {videoTrack : Int} {sps pps : List UInt8} {tracks : List MediaFormat}
      (absent : ¬ 0 ≤ m.videoTrack) (still : ¬ 0 ≤ videoTrack) :
      VideoReady m pkt (some .kEncodeFailed, { m with videoTrack, sps, pps, tracks })
  | added {videoTrack : Int} {sps pps : List UInt8} {tracks : List MediaFormat}
      (absent : ¬ 0 ≤ m.videoTrack) (key : pkt.keyframe = true) (present : 0 ≤ videoTrack) :
      VideoReady m pkt (none, { m with videoTrack, sps, pps, tracks })

theorem readyVideo_ready (pkt : VideoPacket) (track : Int) :
    VideoReady m pkt (m.readyVideo pkt track) := by
  obtain ⟨sps, pps, captured⟩ := m.captureVideoCsd_frame pkt
  rw [readyVideo]
  split
  · rename_i present
    exact .there present
  · rename_i absent
    cases key : pkt.keyframe with
    | false => exact .early absent key
    | true =>
      rw [Bool.not_true, if_neg Bool.false_ne_true]
      dsimp only
      rw [captured]
      split
      · exact .failed absent absent
      · split
        · rename_i negative
          exact .failed absent (Int.not_le.mpr negative)
        · rename_i present
          exact .added absent key (Int.not_lt.mp present)

/-- What readies the audio track. -/
inductive AudioReady (m : MediaCodecMuxer) : Option Status × MediaCodecMuxer → Prop where
  | there (present : 0 ≤ m.audioTrack) : AudioReady m (none, m)
  | failed {audioTrack : Int} {asc : List UInt8} {tracks : List MediaFormat}
      (absent : ¬ 0 ≤ m.audioTrack) (still : ¬ 0 ≤ audioTrack) :
      AudioReady m (some .kEncodeFailed, { m with audioTrack, asc, tracks })
  | added {audioTrack : Int} {asc : List UInt8} {tracks : List MediaFormat}
      (absent : ¬ 0 ≤ m.audioTrack) (present : 0 ≤ audioTrack) :
      AudioReady m (none, { m with audioTrack, asc, tracks })

theorem captureAsc_frame {n : MediaCodecMuxer} {pkt : AudioPacket}
    (captured : m.captureAsc pkt = some n) : ∃ asc, n = { m with asc } := by
  rw [captureAsc] at captured
  split at captured
  · exact ⟨_, (Option.some.inj captured).symm⟩
  · split at captured
    · obtain ⟨asc, _, rfl⟩ := Option.map_eq_some_iff.mp captured
      exact ⟨asc, rfl⟩
    · exact ⟨m.asc, (Option.some.inj captured).symm⟩

theorem readyAudio_ready (pkt : AudioPacket) (track : Int) :
    AudioReady m (m.readyAudio pkt track) := by
  rw [readyAudio]
  split
  · rename_i present
    exact .there present
  · rename_i absent
    cases captured : m.captureAsc pkt with
    | none => exact .failed absent absent
    | some n =>
      obtain ⟨asc, rfl⟩ := m.captureAsc_frame captured
      dsimp only
      split
      · rename_i negative
        exact .failed absent (Int.not_le.mpr negative)
      · rename_i present
        exact .added absent (Int.not_lt.mp present)

theorem replayPending_frame (samples : List PendingSample) (answers : List Bool) :
    ∃ pending inFlight written,
      (m.replayPending samples answers).2 = { m with pending, inFlight, written } := by
  induction samples generalizing m answers with
  | nil => exact ⟨_, m.inFlight, m.written, rfl⟩
  | cons sample samples ih =>
    rw [replayPending]
    dsimp only
    split
    · exact ⟨_, _, _, rfl⟩
    · obtain ⟨pending, inFlight, written, rest⟩ :=
        ih (m.handOver sample (answers.headD true)).2 answers.tail
      exact ⟨pending, inFlight, written, rest⟩

theorem start_frame (ok : Bool) (answers : List Bool) :
    ∃ started pending inFlight written,
      (m.start ok answers).2 = { m with started, pending, inFlight, written } := by
  rw [start]
  split
  · exact ⟨m.started, m.pending, m.inFlight, m.written, rfl⟩
  · split
    · exact ⟨m.started, m.pending, m.inFlight, m.written, rfl⟩
    · obtain ⟨pending, inFlight, written, replayed⟩ :=
        replayPending_frame { m with started := true } m.pending answers
      exact ⟨true, pending, inFlight, written, replayed⟩

/-- What becomes of a sample, whether it is handed over or kept. -/
theorem writeSample_frame (sample : PendingSample) (reply : SampleReply) :
    ∃ started pending inFlight written,
      (m.writeSample sample reply).2 = { m with started, pending, inFlight, written } := by
  have readied : ∃ started pending inFlight written,
      (if !m.started && m.canStart then m.start reply.start reply.replay else (.kOk, m)).2 =
        { m with started, pending, inFlight, written } := by
    split
    · exact m.start_frame _ _
    · exact ⟨m.started, m.pending, m.inFlight, m.written, rfl⟩
  rw [writeSample]
  generalize (if !m.started && m.canStart then m.start reply.start reply.replay
    else (.kOk, m)) = ready at readied
  obtain ⟨st, n⟩ := ready
  obtain ⟨started, pending, inFlight, written, rfl⟩ := readied
  dsimp only
  split
  · exact ⟨started, pending, inFlight, written, rfl⟩
  · split
    · exact ⟨_, _, inFlight, written, rfl⟩
    · exact ⟨_, pending, _, _, rfl⟩

end Frames

end MediaCodecMuxer
end VideoCodec
