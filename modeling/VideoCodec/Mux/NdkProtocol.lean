import VideoCodec.Transition.Protocol
import VideoCodec.Mux.Replay
import VideoCodec.Mux.Terminal

/-! What `MediaCodecMuxer` asks of the NDK: tracks are added before the start,
samples written to added tracks between start and stop, and the muxer deleted
once. The writer thread reads a sample until the stop, so what it was handed
must stay alive until then. -/
namespace VideoCodec

open Transition

namespace Ndk

/-- A call on an `AMediaMuxer`, with its answer. -/
inductive Call where
  | new (made : Bool)
  | addTrack (format : MediaFormat) (index : Int)
  | start (ok : Bool)
  | writeSampleData (sample : PendingSample) (ok : Bool)
  | stop (ok : Bool)
  | delete
  deriving DecidableEq, Repr

inductive Phase where
  | absent
  | configuring (tracks : List Nat)
  /-- The writer thread may read everything that was handed over. -/
  | writing (tracks : List Nat) (handed : List (List UInt8))
  | stopped
  deriving DecidableEq, Repr

/-- The calls allowed in a phase, and the phase they lead to. -/
def allows : Phase → Call → Option Phase
  | .absent, .new made => some (if made then .configuring [] else .absent)
  | .configuring tracks, .addTrack _ index =>
    some (.configuring (if 0 ≤ index then tracks ++ [index.toNat] else tracks))
  | .configuring tracks, .start ok =>
    if tracks = [] then none else some (if ok then .writing tracks [] else .configuring tracks)
  | .configuring _, .delete => some .absent
  | .writing tracks handed, .writeSampleData sample _ =>
    if sample.track ∈ tracks then some (.writing tracks (handed ++ [sample.data])) else none
  | .writing _ _, .stop _ => some .stopped
  | .stopped, .delete => some .absent
  | _, _ => none

def Call.sample : Call → Option PendingSample
  | .writeSampleData sample _ => some sample
  | _ => none

def Call.format : Call → Option MediaFormat
  | .addTrack format _ => some format
  | _ => none

end Ndk

namespace MediaCodecMuxer

open Ndk (Phase)

def ensureCalls (m : MediaCodecMuxer) (reply : EnsureReply) : List Ndk.Call :=
  if m.muxer || !m.config.isValid || reply.tmpfile.isNone then [] else [.new reply.muxer]

/-- The format of the video track, with the parameter sets captured. -/
def videoFormat (m : MediaCodecMuxer) : MediaFormat :=
  .avc m.config.width m.config.height (if m.config.fps > 0 then m.config.fps else 30) (csd m.sps)
    (csd m.pps)

def audioFormat (m : MediaCodecMuxer) : MediaFormat :=
  .aac m.config.sampleRate m.config.channels (if m.asc = [] then none else some m.asc)

/-- The loop of `Start`. -/
def replayCalls : List PendingSample → List Bool → List Ndk.Call
  | [], _ => []
  | sample :: rest, answers =>
    .writeSampleData sample (answers.headD true) ::
      if answers.headD true then replayCalls rest answers.tail else []

def startCalls (m : MediaCodecMuxer) (ok : Bool) (answers : List Bool) : List Ndk.Call :=
  if m.started then []
  else .start ok :: if ok then replayCalls m.pending answers else []

def writeSampleCalls (m : MediaCodecMuxer) (sample : PendingSample) (reply : SampleReply) :
    List Ndk.Call :=
  let starts := !m.started && m.canStart
  let ready := if starts then m.start reply.start reply.replay else (.kOk, m)
  (if starts then m.startCalls reply.start reply.replay else []) ++
    if ready.1 = .kOk ∧ ready.2.started = true then [.writeSampleData sample reply.write] else []

def readyVideoCalls (m : MediaCodecMuxer) (pkt : VideoPacket) (track : Int) : List Ndk.Call :=
  if 0 ≤ m.videoTrack || !pkt.keyframe then []
  else
    let captured := m.captureVideoCsd pkt
    if captured.1 ≠ .kOk then []
    else [.addTrack captured.2.videoFormat track]

def readyAudioCalls (m : MediaCodecMuxer) (pkt : AudioPacket) (track : Int) : List Ndk.Call :=
  if 0 ≤ m.audioTrack then []
  else
    match m.captureAsc pkt with
    | none => []
    | some captured => [.addTrack captured.audioFormat track]

def pushVideoCalls (m : MediaCodecMuxer) (pkt : VideoPacket) (reply : MediaReply) :
    List Ndk.Call :=
  if pkt.data = [] ∨ m.sink.isNone then []
  else
    let ensured := m.ensureMuxer reply.ensure
    m.ensureCalls reply.ensure ++
      if ensured.1 ≠ .kOk then []
      else
        ensured.2.readyVideoCalls pkt reply.track ++
          match ensured.2.readyVideo pkt reply.track with
          | (some _, _) => []
          | (none, m) => m.writeSampleCalls (m.videoSample pkt) reply.sample

def pushAudioCalls (m : MediaCodecMuxer) (pkt : AudioPacket) (reply : MediaReply) :
    List Ndk.Call :=
  if pkt.data = [] ∨ m.sink.isNone ∨ m.config.audioCodec ≠ .kAAC then []
  else
    let ensured := m.ensureMuxer reply.ensure
    m.ensureCalls reply.ensure ++
      if ensured.1 ≠ .kOk then []
      else
        ensured.2.readyAudioCalls pkt reply.track ++
          match ensured.2.readyAudio pkt reply.track with
          | (some _, _) => []
          | (none, m) => m.writeSampleCalls (m.audioSample pkt) reply.sample

/-- The stop of a started muxer, and its deletion. -/
def finalizeCalls (m : MediaCodecMuxer) (reply : FinalizeReply) : List Ndk.Call :=
  (if m.started && m.muxer then [.stop reply.stop] else []) ++ if m.muxer then [.delete] else []

/-- What a call asks of the NDK. -/
def ndkCalls (m : MediaCodecMuxer) : Call → List Ndk.Call
  | .pushVideo pkt reply => m.pushVideoCalls pkt reply
  | .pushAudio pkt reply => m.pushAudioCalls pkt reply
  | .finish reply | .release reply => if m.finished then [] else m.finalizeCalls reply
  | .setOutput _ | .flush => []

/-- What samples still refer to is among the tracks added. -/
structure Added (videoTrack audioTrack : Int) (pending : List PendingSample)
    (tracks : List Nat) : Prop where
  video : 0 ≤ videoTrack → videoTrack.toNat ∈ tracks
  audio : 0 ≤ audioTrack → audioTrack.toNat ∈ tracks
  pending : ∀ sample ∈ pending, sample.track ∈ tracks

/-- How the members fit the phase of the `AMediaMuxer`; behind `Finish` a muxer
that is gone leaves them as they were. -/
def Fits (m : MediaCodecMuxer) : Phase → Prop
  | .absent => m.muxer = false ∧ m.started = false ∧
      (m.finished = false → Added m.videoTrack m.audioTrack m.pending [] ∧ m.inFlight = [])
  | .configuring tracks => m.muxer = true ∧ m.started = false ∧ m.finished = false ∧
      Added m.videoTrack m.audioTrack m.pending tracks ∧ m.inFlight = []
  | .writing tracks handed => m.muxer = true ∧ m.started = true ∧ m.finished = false ∧
      Added m.videoTrack m.audioTrack m.pending tracks ∧ m.canStart = true ∧ m.inFlight = handed
  | .stopped => False

/-- The calls lead on wherever they start, and are those that the members record. -/
structure Does (m : MediaCodecMuxer) (calls : List Ndk.Call) (n : MediaCodecMuxer) : Prop
    extends Leads Ndk.allows Fits m calls n where
  written : n.written = m.written ++ calls.filterMap Ndk.Call.sample
  tracks : n.tracks = m.tracks ++ calls.filterMap Ndk.Call.format

section Steps
variable {m n o : MediaCodecMuxer} {p : Phase} {tracks : List Nat} {cs ds : List Ndk.Call}

theorem Does.silent (fits : ∀ {p}, m.Fits p → n.Fits p) (written : n.written = m.written)
    (tracks : n.tracks = m.tracks) : Does m [] n where
  toLeads := .silent fits
  written := by simp [written]
  tracks := by simp [tracks]

theorem Does.refl : Does m [] m := .silent id rfl rfl

theorem Does.trans (first : Does m cs n) (rest : Does n ds o) : Does m (cs ++ ds) o where
  toLeads := first.toLeads.trans rest.toLeads
  written := by rw [rest.written, first.written, List.filterMap_append, List.append_assoc]
  tracks := by rw [rest.tracks, first.tracks, List.filterMap_append, List.append_assoc]

/-- Parameter sets and codec configurations are no matter of the phase. -/
theorem Fits.captures {sps pps asc : List UInt8} (fits : m.Fits p) :
    Fits { m with sps, pps, asc } p := by
  cases p <;> exact fits

theorem ensure_frame (m : MediaCodecMuxer) (reply : EnsureReply) :
    (m.ensureMuxer reply).2.config = m.config ∧
      ((m.ensureMuxer reply).1 = .kOk → (m.ensureMuxer reply).2.muxer = true) := by
  rw [ensureMuxer]
  split
  · rename_i present
    exact ⟨rfl, fun _ => present⟩
  · split
    · exact ⟨rfl, fun failed => by contradiction⟩
    · split
      · exact ⟨rfl, fun failed => by contradiction⟩
      · split
        · exact ⟨rfl, fun _ => rfl⟩
        · exact ⟨rfl, fun failed => by contradiction⟩

theorem ensure_does (going : m.finished = false) (reply : EnsureReply) :
    Does m (m.ensureCalls reply) (m.ensureMuxer reply).2 := by
  rw [ensureCalls, ensureMuxer]
  cases present : m.muxer with
  | true => exact .refl
  | false =>
    -- without a muxer the phase is the first
    have start {p : Phase} (fits : m.Fits p) : p = .absent ∧ m.started = false ∧
        Added m.videoTrack m.audioTrack m.pending [] ∧ m.inFlight = [] := by
      cases p with
      | absent => exact ⟨rfl, fits.2.1, fits.2.2 going⟩
      | configuring | writing => exact Bool.noConfusion (present.symm.trans fits.1)
      | stopped => exact fits.elim
    cases m.config.isValid with
    | false => exact .refl
    | true =>
      cases reply.tmpfile with
      | none =>
        refine .silent (fun fits => ?_) rfl rfl
        obtain ⟨rfl, started, rest⟩ := start fits
        exact ⟨rfl, started, fun _ => rest⟩
      | some fd =>
        cases made : reply.muxer with
        | false =>
          refine ⟨⟨fun fits => ?_⟩, (List.append_nil _).symm, (List.append_nil _).symm⟩
          obtain ⟨rfl, started, rest⟩ := start fits
          exact ⟨.absent, rfl, rfl, started, fun _ => rest⟩
        | true =>
          refine ⟨⟨fun fits => ?_⟩, (List.append_nil _).symm, (List.append_nil _).symm⟩
          obtain ⟨rfl, started, rest⟩ := start fits
          exact ⟨.configuring [], rfl, rfl, started, going, rest⟩

/-- An added track joins those that samples may refer to. -/
theorem added_index (index : Int) (tracks : List Nat) :
    (0 ≤ index → index.toNat ∈ if 0 ≤ index then tracks ++ [index.toNat] else tracks) ∧
      ∀ track ∈ tracks, track ∈ if 0 ≤ index then tracks ++ [index.toNat] else tracks := by
  split
  · exact ⟨fun _ => by simp, fun track member => List.mem_append_left _ member⟩
  · rename_i negative
    exact ⟨fun present => absurd present negative, fun _ member => member⟩

theorem addVideo_does {track : Int} (absent : ¬0 ≤ m.videoTrack) (present : m.muxer = true) :
    Does m [.addTrack m.videoFormat track] (m.addVideoTrack track) := by
  refine ⟨⟨fun {p} fits => ?_⟩, (List.append_nil _).symm, rfl⟩
  cases p with
  | absent => exact nomatch present.symm.trans fits.1
  | configuring tracks =>
    obtain ⟨-, started, going, added, none⟩ := fits
    obtain ⟨own, others⟩ := added_index track tracks
    exact ⟨_, rfl, present, started, going,
      ⟨own, fun there => others _ (added.audio there),
        fun sample member => others _ (added.pending sample member)⟩, none⟩
  | writing =>
    obtain ⟨-, -, -, -, ready, -⟩ := fits
    rw [canStart, if_pos (Int.not_le.mp absent)] at ready
    contradiction
  | stopped => exact fits.elim

theorem addAudio_does {track : Int} (absent : ¬0 ≤ m.audioTrack)
    (coded : m.config.audioCodec = .kAAC) (present : m.muxer = true) :
    Does m [.addTrack m.audioFormat track] (m.addAudioTrack track) := by
  refine ⟨⟨fun {p} fits => ?_⟩, (List.append_nil _).symm, rfl⟩
  cases p with
  | absent => exact nomatch present.symm.trans fits.1
  | configuring tracks =>
    obtain ⟨-, started, going, added, none⟩ := fits
    obtain ⟨own, others⟩ := added_index track tracks
    exact ⟨_, rfl, present, started, going,
      ⟨fun there => others _ (added.video there), own,
        fun sample member => others _ (added.pending sample member)⟩, none⟩
  | writing =>
    obtain ⟨-, -, -, -, ready, -⟩ := fits
    have negative := Int.not_le.mp absent
    rw [canStart] at ready
    split at ready
    · contradiction
    · simp [coded, negative] at ready
  | stopped => exact fits.elim

/-- The sample belongs to a track that is there. -/
def Knows (m : MediaCodecMuxer) (sample : PendingSample) : Prop :=
  sample.track = m.videoTrack.toNat ∧ 0 ≤ m.videoTrack ∨
    sample.track = m.audioTrack.toNat ∧ 0 ≤ m.audioTrack

theorem Added.knows {sample : PendingSample} {pending : List PendingSample}
    (added : Added m.videoTrack m.audioTrack pending tracks) (known : m.Knows sample) :
    sample.track ∈ tracks := by
  rcases known with ⟨same, present⟩ | ⟨same, present⟩
  · exact same ▸ added.video present
  · exact same ▸ added.audio present

/-- A sample whose track was added goes to the writer thread. -/
theorem handOver_writes {sample : PendingSample} {handed : List (List UInt8)}
    (fits : m.Fits (.writing tracks handed)) (known : sample.track ∈ tracks) (ok : Bool) :
    Ndk.allows (.writing tracks handed) (.writeSampleData sample ok) =
        some (.writing tracks (handed ++ [sample.data])) ∧
      (m.handOver sample ok).2.Fits (.writing tracks (handed ++ [sample.data])) := by
  obtain ⟨present, started, going, added, ready, flight⟩ := fits
  exact ⟨if_pos known, present, started, going, added, ready,
    congrArg (· ++ [sample.data]) flight⟩

theorem handOver_does {sample : PendingSample} (started : m.started = true)
    (known : m.Knows sample) (ok : Bool) :
    Does m [.writeSampleData sample ok] (m.handOver sample ok).2 := by
  refine ⟨⟨fun {p} fits => ?_⟩, rfl, (List.append_nil _).symm⟩
  cases p with
  | absent | configuring => exact nomatch started.symm.trans fits.2.1
  | writing tracks handed =>
    obtain ⟨allowed, fits'⟩ := handOver_writes fits (fits.2.2.2.1.knows known) ok
    exact ⟨_, congrArg (Option.bind · some) allowed, fits'⟩
  | stopped => exact fits.elim

/-- A sample that waits for the start. -/
theorem keep_does {sample : PendingSample} (present : m.muxer = true) (waiting : m.started = false)
    (known : m.Knows sample) : Does m [] { m with pending := m.pending ++ [sample] } := by
  refine .silent (fun {p} fits => ?_) rfl rfl
  cases p with
  | absent => exact nomatch present.symm.trans fits.1
  | configuring tracks =>
    obtain ⟨-, -, going, added, none⟩ := fits
    refine ⟨present, waiting, going, ⟨added.video, added.audio, ?_⟩, none⟩
    exact List.forall_mem_append.mpr
      ⟨added.pending, List.forall_mem_singleton.mpr (added.knows known)⟩
  | writing => exact nomatch waiting.symm.trans fits.2.1
  | stopped => exact fits.elim

/-- The samples kept so far, replayed to a muxer that has just been started. -/
theorem replay_writes {handed : List (List UInt8)} (samples : List PendingSample)
    (answers : List Bool) (known : ∀ sample ∈ samples, sample.track ∈ tracks)
    (fits : m.Fits (.writing tracks handed)) :
    ∃ q, exec Ndk.allows (.writing tracks handed) (replayCalls samples answers) = some q ∧
      (m.replayPending samples answers).2.Fits q := by
  induction samples generalizing m answers handed with
  | nil =>
    obtain ⟨present, started, going, added, ready, flight⟩ := fits
    exact ⟨.writing tracks handed, rfl, present, started, going,
      ⟨added.video, added.audio, fun _ member => absurd member List.not_mem_nil⟩, ready, flight⟩
  | cons sample samples ih =>
    obtain ⟨allowed, fits⟩ := handOver_writes fits (known sample List.mem_cons_self)
      (answers.headD true)
    rw [replayCalls, replayPending, exec, allowed]
    cases ok : answers.headD true with
    | false =>
      rw [ok] at fits
      obtain ⟨present, started, going, added, ready, flight⟩ := fits
      exact ⟨_, rfl, present, started, going,
        ⟨added.video, added.audio, fun _ member => absurd member List.not_mem_nil⟩, ready, flight⟩
    | true =>
      rw [ok] at fits
      exact ih answers.tail (fun other later => known other (List.mem_cons_of_mem _ later)) fits

theorem replay_accounts (samples : List PendingSample) (answers : List Bool) :
    (m.replayPending samples answers).2.written =
        m.written ++ (replayCalls samples answers).filterMap Ndk.Call.sample ∧
      (m.replayPending samples answers).2.tracks =
        m.tracks ++ (replayCalls samples answers).filterMap Ndk.Call.format := by
  induction samples generalizing m answers with
  | nil => exact ⟨(List.append_nil _).symm, (List.append_nil _).symm⟩
  | cons sample samples ih =>
    rw [replayCalls, replayPending]
    cases ok : answers.headD true with
    | false => exact ⟨rfl, (List.append_nil _).symm⟩
    | true =>
      obtain ⟨written, tracks⟩ := ih (m := (m.handOver sample true).2) answers.tail
      exact ⟨written.trans (List.append_assoc ..), tracks⟩

theorem canStart_video (ready : m.canStart = true) : 0 ≤ m.videoTrack := by
  rw [canStart] at ready
  split at ready
  · contradiction
  · rename_i present
    exact Int.not_lt.mp present

theorem start_does (present : m.muxer = true) (waiting : m.started = false)
    (ready : m.canStart = true) (ok : Bool) (answers : List Bool) :
    Does m (m.startCalls ok answers) (m.start ok answers).2 := by
  -- a muxer that is there and not started is being configured, with a track
  have configured {p : Phase} (fits : m.Fits p) : ∃ tracks, p = .configuring tracks ∧
      tracks ≠ [] := by
    cases p with
    | absent => exact nomatch present.symm.trans fits.1
    | configuring tracks =>
      have added := fits.2.2.2.1.video (canStart_video ready)
      exact ⟨tracks, rfl, List.ne_nil_of_mem added⟩
    | writing => exact nomatch waiting.symm.trans fits.2.1
    | stopped => exact fits.elim
  rw [startCalls, start, waiting]
  cases ok with
  | false =>
    refine ⟨⟨fun fits => ?_⟩, (List.append_nil _).symm, (List.append_nil _).symm⟩
    obtain ⟨tracks, rfl, some⟩ := configured fits
    exact ⟨.configuring tracks, by simp [exec, Ndk.allows, some], fits⟩
  | true =>
    obtain ⟨written, formats⟩ := replay_accounts (m := { m with started := true }) m.pending answers
    refine ⟨⟨fun fits => ?_⟩, written, formats⟩
    obtain ⟨tracks, rfl, some⟩ := configured fits
    obtain ⟨-, -, going, added, none⟩ := fits
    have writing : Fits { m with started := true } (.writing tracks []) :=
      ⟨present, rfl, going, added, ready, none⟩
    obtain ⟨q, led, fits⟩ := replay_writes m.pending answers added.pending writing
    refine ⟨q, ?_, fits⟩
    simpa [exec, Ndk.allows, some] using led

/-- The start that a sample brings about, when every track is there. -/
theorem readied_does (reply : SampleReply) (present : m.muxer = true) :
    Does m (if !m.started && m.canStart then m.startCalls reply.start reply.replay else [])
      (if !m.started && m.canStart then m.start reply.start reply.replay else (.kOk, m)).2 := by
  split
  · rename_i starts
    obtain ⟨waiting, ready⟩ := Bool.and_eq_true_iff.mp starts
    exact start_does present (by simpa using waiting) ready reply.start reply.replay
  · exact .refl

/-- A sample for a track that was added. -/
theorem writeSample_does {sample : PendingSample} (reply : SampleReply) (present : m.muxer = true)
    (known : m.Knows sample) :
    Does m (m.writeSampleCalls sample reply) (m.writeSample sample reply).2 := by
  have readied := readied_does reply present
  have frame : ∃ started pending inFlight written,
      (if !m.started && m.canStart then m.start reply.start reply.replay else (.kOk, m)).2 =
        { m with started, pending, inFlight, written } := by
    split
    · exact m.start_frame _ _
    · exact ⟨m.started, m.pending, m.inFlight, m.written, rfl⟩
  rw [writeSampleCalls, writeSample]
  dsimp only
  generalize (if !m.started && m.canStart then m.start reply.start reply.replay
    else (.kOk, m)) = ready at readied frame
  refine readied.trans ?_
  obtain ⟨st, n⟩ := ready
  obtain ⟨started, pending, inFlight, written, rfl⟩ := frame
  by_cases ok : st = .kOk
  · cases started with
    | true =>
      simp only [ok, ne_eq, not_true_eq_false, and_self, if_true, if_false, Bool.not_true,
        Bool.false_eq_true]
      exact handOver_does (m := { m with started := true, pending, inFlight, written }) rfl known
        reply.write
    | false =>
      simp only [ok, ne_eq, not_true_eq_false, Bool.false_eq_true, and_false, if_false,
        Bool.not_false, if_true]
      exact keep_does present rfl known
  · simp only [ok, ne_eq, not_false_eq_true, false_and, if_true, if_false]
    exact .refl

/-- What readies the video track leads on, with the muxer there. -/
theorem readyVideo_does (pkt : VideoPacket) (track : Int) (present : m.muxer = true) :
    Does m (m.readyVideoCalls pkt track) (m.readyVideo pkt track).2 := by
  obtain ⟨sps, pps, captured⟩ := m.captureVideoCsd_frame pkt
  rw [readyVideoCalls, readyVideo]
  by_cases there : 0 ≤ m.videoTrack
  · simp only [there, if_true, decide_true, Bool.true_or]
    exact .refl
  cases key : pkt.keyframe with
  | false =>
    simp only [there, if_false, Bool.not_false, Bool.or_true, if_true]
    exact .refl
  | true =>
    simp only [there, if_false, Bool.not_true, Bool.or_false, decide_false, Bool.false_eq_true]
    rw [captured]
    split
    · exact .silent Fits.captures rfl rfl
    · have captures : Does m [] { m with sps, pps } := .silent Fits.captures rfl rfl
      exact captures.trans (addVideo_does there present)

theorem readyAudio_does (pkt : AudioPacket) (track : Int) (coded : m.config.audioCodec = .kAAC)
    (present : m.muxer = true) :
    Does m (m.readyAudioCalls pkt track) (m.readyAudio pkt track).2 := by
  rw [readyAudioCalls, readyAudio]
  by_cases there : 0 ≤ m.audioTrack
  · simp only [there, if_true]
    exact .refl
  simp only [there, if_false]
  cases captured : m.captureAsc pkt with
  | none => exact .refl
  | some n =>
    obtain ⟨asc, rfl⟩ := m.captureAsc_frame captured
    have captures : Does m [] { m with asc } := .silent Fits.captures rfl rfl
    exact captures.trans (addAudio_does there coded present)

theorem pushVideo_does (pkt : VideoPacket) (reply : MediaReply) (going : m.finished = false) :
    Does m (m.pushVideoCalls pkt reply) (m.pushVideo pkt reply).2 := by
  rw [pushVideoCalls, pushVideo]
  by_cases empty : pkt.data = []
  · simp only [empty, true_or, if_true]
    exact .refl
  by_cases detached : m.sink.isNone = true
  · simp only [empty, detached, or_true, if_true, if_false]
    exact .refl
  simp only [empty, detached, if_false]
  refine (ensure_does going reply.ensure).trans ?_
  by_cases ok : (m.ensureMuxer reply.ensure).1 = .kOk
  · have present := (m.ensure_frame reply.ensure).2 ok
    generalize (m.ensureMuxer reply.ensure).2 = n at present
    simp only [ok, ne_eq, not_true_eq_false, if_false]
    have readied := readyVideo_does pkt reply.track present
    have ready := n.readyVideo_ready pkt reply.track
    generalize n.readyVideo pkt reply.track = result at readied ready
    refine readied.trans ?_
    cases ready with
    | there known => exact writeSample_does reply.sample present (.inl ⟨rfl, known⟩)
    | early | failed => exact .refl
    | added absent key known => exact writeSample_does reply.sample present (.inl ⟨rfl, known⟩)
  · simp only [ok, ne_eq, not_false_eq_true, if_true]
    exact .refl

theorem pushAudio_does (pkt : AudioPacket) (reply : MediaReply) (going : m.finished = false) :
    Does m (m.pushAudioCalls pkt reply) (m.pushAudio pkt reply).2 := by
  rw [pushAudioCalls, pushAudio]
  by_cases empty : pkt.data = []
  · simp only [empty, true_or, if_true]
    exact .refl
  by_cases detached : m.sink.isNone = true
  · simp only [empty, detached, true_or, or_true, if_true, if_false]
    exact .refl
  by_cases coded : m.config.audioCodec = .kAAC
  · simp only [empty, detached, coded, ne_eq, not_true_eq_false, if_false]
    refine (ensure_does going reply.ensure).trans ?_
    obtain ⟨config, present⟩ := m.ensure_frame reply.ensure
    by_cases ok : (m.ensureMuxer reply.ensure).1 = .kOk
    · have present := present ok
      generalize (m.ensureMuxer reply.ensure).2 = n at present config
      simp only [ok, not_true_eq_false, if_false]
      have readied := readyAudio_does pkt reply.track (config ▸ coded) present
      have ready := n.readyAudio_ready pkt reply.track
      generalize n.readyAudio pkt reply.track = result at readied ready
      refine readied.trans ?_
      cases ready with
      | there known => exact writeSample_does reply.sample present (.inr ⟨rfl, known⟩)
      | failed => exact .refl
      | added absent known => exact writeSample_does reply.sample present (.inr ⟨rfl, known⟩)
    · simp only [ok, not_false_eq_true, if_true]
      exact .refl
  · simp only [empty, detached, coded, ne_eq, not_false_eq_true, or_true, if_true, if_false]
    exact .refl

/-- A started muxer is stopped before it is deleted. -/
theorem finalize_leads (fits : m.Fits p) (reply : FinalizeReply) :
    exec Ndk.allows p (m.finalizeCalls reply) = some .absent := by
  rw [finalizeCalls]
  cases p with
  | absent =>
    obtain ⟨absent, started, -⟩ := fits
    simp [absent, exec]
  | configuring | writing =>
    obtain ⟨present, started, -⟩ := fits
    simp [present, started, exec, Ndk.allows]
  | stopped => exact fits.elim

/-- What `Finish` and `Release` do to a muxer that is not finished. -/
theorem finalize_does (reply : FinalizeReply) (sink : Option Nat) :
    Does m (m.finalizeCalls reply) { (m.finalize reply).2 with finished := true, sink } := by
  obtain ⟨inFlight, requests, same⟩ := m.finalize_frame reply
  rw [same]
  refine ⟨⟨fun fits => ⟨.absent, finalize_leads fits reply, rfl, rfl, nofun⟩⟩, ?_, ?_⟩
  all_goals
    rw [finalizeCalls]
    cases m.muxer <;> cases m.started <;> simp [Ndk.Call.sample, Ndk.Call.format]

/-- Once finished, a muxer gets no push any more. -/
def Unfinished (m : MediaCodecMuxer) (c : Call) : Prop := m.finished = true → c.isPush = false

theorem call_does {c : Call} (admitted : Unfinished m c) : Does m (m.ndkCalls c) (m.call c).2 := by
  have going : c.isPush = true → m.finished = false := fun push =>
    eq_false_of_ne_true fun finished => Bool.noConfusion (push.symm.trans (admitted finished))
  cases c with
  | pushVideo pkt reply => exact pushVideo_does pkt reply (going rfl)
  | pushAudio pkt reply => exact pushAudio_does pkt reply (going rfl)
  | setOutput | flush => exact .silent (fun {p} fits => by cases p <;> exact fits) rfl rfl
  | finish reply =>
    rw [ndkCalls, call, finish]
    cases finished : m.finished with
    | true => exact .refl
    | false => exact finalize_does reply (m.finalize reply).2.sink
  | release reply =>
    rw [ndkCalls, call, release]
    cases finished : m.finished with
    | true =>
      refine .silent (fun {p} fits => ?_) rfl rfl
      cases p with
      | absent => exact ⟨fits.1, fits.2.1, fun going => Bool.noConfusion going⟩
      | configuring | writing => exact Bool.noConfusion (finished.symm.trans fits.2.2.1)
      | stopped => exact fits.elim
    | false => exact finalize_does reply none

end Steps

/-- A muxer with what it has asked of the NDK. -/
def tracedCall :
    Traced MediaCodecMuxer Ndk.Call → Call → Option (Traced MediaCodecMuxer Ndk.Call) :=
  Traced.next (fun m c => (m.call c).2) ndkCalls

/-- The calls on the NDK are the samples and formats that the members record. -/
theorem ndk_calls_recorded (config : MuxerConfig)
    (run : Run (Guarded (Takes tracedCall) fun t c => Unfinished t.system c)
      { system := { config } } cs t) :
    t.system.written = t.calls.filterMap Ndk.Call.sample ∧
      t.system.tracks = t.calls.filterMap Ndk.Call.format :=
  ⟨Traced.run_accounts (fun admitted => (call_does admitted).written) run rfl,
    Traced.run_accounts (fun admitted => (call_does admitted).tracks) run rfl⟩

/-- Without pushes behind `Finish` or `Release`, the calls on the NDK keep to its
protocol, the muxer is deleted exactly when there is none, what the writer thread may
still read is what is kept in flight, and the samples and formats of the calls are those
that the members record. -/
theorem ndk_protocol_kept (config : MuxerConfig)
    (run : Run (Guarded (Takes tracedCall) fun t c => Unfinished t.system c)
      { system := { config } } cs t) :
    (∃ phase, exec Ndk.allows .absent t.calls = some phase ∧
      (phase = .absent ↔ t.system.muxer = false) ∧ phase ≠ .stopped ∧
      ∀ tracks handed, phase = .writing tracks handed → t.system.inFlight = handed) ∧
    t.system.written = t.calls.filterMap Ndk.Call.sample ∧
      t.system.tracks = t.calls.filterMap Ndk.Call.format := by
  refine ⟨?_, ndk_calls_recorded config run⟩
  have start : Traced.Obeys Ndk.allows .absent Fits { system := { config } } :=
    ⟨.absent, rfl, rfl, rfl, fun _ => ⟨⟨nofun, nofun, nofun⟩, rfl⟩⟩
  obtain ⟨phase, led, fits⟩ := Traced.run_obeys
    (fun admitted => (call_does admitted).toLeads) run start
  refine ⟨phase, led, ?_⟩
  cases phase with
  | absent => exact ⟨iff_of_true rfl fits.1, nofun, nofun⟩
  | configuring => exact ⟨iff_of_false nofun (by simp [fits.1]), nofun, nofun⟩
  | writing tracks handed =>
    refine ⟨iff_of_false nofun (by simp [fits.1]), nofun, ?_⟩
    rintro _ _ ⟨⟩
    exact fits.2.2.2.2.2
  | stopped => exact fits.elim

/-- A keyframe and another frame, pushed to a muxer with a sink. -/
def twoFrames : List Call :=
  [.setOutput (some 0),
    .pushVideo ⟨[0, 0, 1, 0x67, 1, 0, 0, 1, 0x68, 2, 0, 0, 1, 0x65], 0, true⟩ {},
    .pushVideo ⟨[0, 0, 1, 0x41], 33, false⟩ {}]

/-- Both samples are in flight while the muxer is started. -/
theorem ndk_protocol_kept_two :
    ∃ t, Run (Guarded (Takes tracedCall) fun t c => Unfinished t.system c)
        { system := { config := { width := 2, height := 2 } } } twoFrames t ∧
      t.system.inFlight = [[0x67, 1, 0, 0, 1, 0x68, 2, 0, 0, 1, 0x65], [0x41]] ∧
      (∃ phase, exec Ndk.allows .absent t.calls = some phase ∧
        (phase = .absent ↔ t.system.muxer = false) ∧ phase ≠ .stopped ∧
        ∀ tracks handed, phase = .writing tracks handed → t.system.inFlight = handed) ∧
      t.system.written = t.calls.filterMap Ndk.Call.sample ∧
        t.system.tracks = t.calls.filterMap Ndk.Call.format := by
  have run : Run (Guarded (Takes tracedCall) fun t c => Unfinished t.system c)
      { system := { config := { width := 2, height := 2 } } } twoFrames _ :=
    .next ⟨rfl, nofun⟩ <| .next ⟨rfl, fun finished => absurd finished (by decide)⟩ <|
    .single ⟨rfl, fun finished => absurd finished (by decide)⟩
  exact ⟨_, run, by decide, ndk_protocol_kept _ run⟩

/-- A push behind `Finish` starts a muxer without a track. -/
theorem late_push_starts_trackless :
    ∃ t, Run (Takes tracedCall) { system := { config := { width := 2, height := 2 } } }
        (twoFrames ++ [.finish {}, .pushVideo ⟨[0, 0, 1, 0x41], 66, false⟩ {}]) t ∧
      exec Ndk.allows .absent t.calls = none :=
  ⟨_, exec_run rfl, by decide⟩

end MediaCodecMuxer
end VideoCodec
