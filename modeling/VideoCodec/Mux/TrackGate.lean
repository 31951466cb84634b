import VideoCodec.Fifo.Gate
import VideoCodec.Mux.MediaCodecMuxer

/-! Tracks appear lazily, and samples wait until every configured track is there:
while the NDK does not fail, the muxer is a gate that the last track lifts. -/
namespace VideoCodec.MediaCodecMuxer

open Fifo

/-- `AMediaMuxer_start` and `AMediaMuxer_writeSampleData` succeed. -/
structure SampleSucceeds (reply : SampleReply) : Prop where
  start : reply.start = true
  replay : ∀ ok ∈ reply.replay, ok = true
  write : reply.write = true

/-- A push by which the NDK takes every sample. -/
def Succeeds : Call → Prop
  | .pushVideo _ reply | .pushAudio _ reply => SampleSucceeds reply.sample
  | _ => False

/-- What a call pushes. -/
def pushed : Call → Option MuxPacket
  | .pushVideo pkt _ => some (.video pkt)
  | .pushAudio pkt _ => some (.audio pkt)
  | _ => none

def fresh (config : MuxerConfig) (sink : Nat) : MediaCodecMuxer := { config, sink := some sink }

def after (m : MediaCodecMuxer) (calls : List Call) : MediaCodecMuxer :=
  calls.foldl (fun m c => (m.call c).2) m

/-- The packets pushed, each with the status its push returned. -/
def outcomes (m : MediaCodecMuxer) : List Call → List (MuxPacket × Status)
  | [] => []
  | c :: calls =>
    ((pushed c).map (·, (m.call c).1)).toList ++ outcomes (m.call c).2 calls

/-- The accepted packets: their push returned `kOk`, they have data, and video
counts from the first keyframe among them on. -/
def accepted (live : Bool) : List (MuxPacket × Status) → List MuxPacket
  | [] => []
  | (p, st) :: rest =>
    if st = .kOk ∧ p.owed live = true then p :: accepted (live || p.isKey) rest
    else accepted live rest

/-- The sample of a packet: video loses its leading start code. -/
def sampleOf (m : MediaCodecMuxer) : MuxPacket → PendingSample
  | .video pkt => m.videoSample pkt
  | .audio pkt => m.audioSample pkt

/-- What data has behind its leading start code, or all of it where there is none. -/
inductive Stripped : List UInt8 → List UInt8 → Prop where
  | coded (code : Android.StartCode) (rest : List UInt8) : Stripped (code.bytes ++ rest) rest
  | bare {data : List UInt8} (absent : ∀ code : Android.StartCode, ¬code.bytes <+: data) :
      Stripped data data

/-- A sample on the track of a packet, with its bytes, its time and its flag. -/
def Carries (m : MediaCodecMuxer) : MuxPacket → PendingSample → Prop
  | .video pkt, s =>
    (s.track : Int) = m.videoTrack ∧ Stripped pkt.data s.data ∧ s.ptsUs = pkt.ptsUs ∧
      s.keyframe = pkt.keyframe
  | .audio pkt, s =>
    (s.track : Int) = m.audioTrack ∧ s.data = pkt.data ∧ s.ptsUs = pkt.ptsUs ∧ s.keyframe = false

/-- Every configured track has been added. -/
def HasTracks (m : MediaCodecMuxer) : Prop :=
  0 ≤ m.videoTrack ∧ (m.config.audioCodec ≠ .kNone → 0 ≤ m.audioTrack)

/-- The track of a packet has been added. -/
def tracked (m : MediaCodecMuxer) : MuxPacket → Prop
  | .video _ => 0 ≤ m.videoTrack
  | .audio _ => 0 ≤ m.audioTrack

/-- The muxer shows a gate: packets wait in `pending` and pass to the NDK. -/
structure Shows (m : MediaCodecMuxer) (g : Gate MuxPacket) : Prop where
  lifted : g.lifted = m.started
  waiting : m.pending = g.waiting.map m.sampleOf
  passed : m.written = g.passed.map m.sampleOf
  tracked : ∀ p ∈ g.all, m.tracked p
  running : m.started = true → m.canStart = true

/-- The NDK muxer is started as soon as it can be. -/
def Prompt (m : MediaCodecMuxer) : Prop := m.canStart = true → m.started = true

section Samples
variable {m n : MediaCodecMuxer} {g : Gate MuxPacket}

theorem canStart_iff : m.canStart = true ↔ m.HasTracks := by
  rw [canStart, HasTracks]
  by_cases video : m.videoTrack < 0
  · rw [if_pos video]
    exact iff_of_false nofun fun tracks => absurd video (Int.not_lt.mpr tracks.1)
  · rw [if_neg video, and_iff_right (Int.not_lt.mp video)]
    by_cases audio : m.config.audioCodec ≠ .kNone ∧ m.audioTrack < 0
    · rw [if_pos audio]
      exact iff_of_false nofun fun tracks => absurd audio.2 (Int.not_lt.mpr (tracks audio.1))
    · rw [if_neg audio]
      exact iff_of_true rfl fun coded => Int.not_lt.mp fun absent => audio ⟨coded, absent⟩

theorem withoutStartCode_stripped (data : List UInt8) : Stripped data (withoutStartCode data) := by
  rw [withoutStartCode]
  split
  · obtain ⟨rest, rfl⟩ := ‹[0, 0, 0, 1] <+: data›
    exact .coded .long rest
  · split
    · obtain ⟨rest, rfl⟩ := ‹[0, 0, 1] <+: data›
      exact .coded .short rest
    · refine .bare fun code => ?_
      cases code <;> assumption

theorem sampleOf_carries {p : MuxPacket} (tracked : m.tracked p) : m.Carries p (m.sampleOf p) := by
  cases p with
  | video pkt => exact ⟨Int.toNat_of_nonneg tracked, withoutStartCode_stripped pkt.data, rfl, rfl⟩
  | audio pkt => exact ⟨Int.toNat_of_nonneg tracked, rfl, rfl, rfl⟩

theorem sampleOf_same {p : MuxPacket} (video : n.videoTrack = m.videoTrack ∨ ¬ 0 ≤ m.videoTrack)
    (audio : n.audioTrack = m.audioTrack ∨ ¬ 0 ≤ m.audioTrack) (tracked : m.tracked p) :
    n.sampleOf p = m.sampleOf p := by
  cases p with
  | video pkt =>
    have same := video.resolve_right (not_not_intro tracked)
    simp only [sampleOf, videoSample, same]
  | audio pkt =>
    have same := audio.resolve_right (not_not_intro tracked)
    simp only [sampleOf, audioSample, same]

/-- A new track changes no sample that is there. -/
theorem Shows.retrack (shows : Shows m g) (started : n.started = m.started)
    (pending : n.pending = m.pending) (written : n.written = m.written)
    (video : n.videoTrack = m.videoTrack ∨ ¬ 0 ≤ m.videoTrack)
    (audio : n.audioTrack = m.audioTrack ∨ ¬ 0 ≤ m.audioTrack)
    (running : m.canStart = true → n.canStart = true) : Shows n g := by
  have same : ∀ p ∈ g.all, n.sampleOf p = m.sampleOf p :=
    fun p member => sampleOf_same video audio (shows.tracked p member)
  refine ⟨shows.lifted.trans started.symm, ?_, ?_, ?_, ?_⟩
  · rw [pending, shows.waiting]
    apply List.map_congr_left
    exact fun p member => (same p (List.mem_append_right _ member)).symm
  · rw [written, shows.passed]
    apply List.map_congr_left
    exact fun p member => (same p (List.mem_append_left _ member)).symm
  · intro p member
    have before := shows.tracked p member
    cases p with
    | video pkt =>
      have kept : n.videoTrack = m.videoTrack := video.resolve_right (not_not_intro before)
      change 0 ≤ n.videoTrack
      rw [kept]
      exact before
    | audio pkt =>
      have kept : n.audioTrack = m.audioTrack := audio.resolve_right (not_not_intro before)
      change 0 ≤ n.audioTrack
      rw [kept]
      exact before
  · intro up
    exact running (shows.running (started.symm.trans up))

/-- The replay of `Start` hands over what waits, in order. -/
theorem replayPending_succeeds (samples : List PendingSample) {answers : List Bool}
    (succeed : ∀ ok ∈ answers, ok = true) :
    ∃ inFlight, m.replayPending samples answers =
      (.kOk, { m with inFlight, written := m.written ++ samples, pending := [] }) := by
  induction samples generalizing m answers with
  | nil => exact ⟨m.inFlight, by rw [List.append_nil]; rfl⟩
  | cons sample samples ih =>
    have first : answers.headD true = true := by
      cases answers with
      | nil => rfl
      | cons ok answers => exact succeed ok List.mem_cons_self
    obtain ⟨inFlight, replayed⟩ := @ih
      { m with inFlight := m.inFlight ++ [sample.data], written := m.written ++ [sample] }
      answers.tail (fun ok member => succeed ok (List.mem_of_mem_tail member))
    refine ⟨inFlight, ?_⟩
    rw [replayPending, handOver]
    rw [first]
    simp only [if_true, ne_eq, not_true, if_false]
    rw [replayed, List.append_assoc]
    rfl

/-- An offered packet of a known track is tracked like those before. -/
theorem tracked_offer (shows : Shows m g) {p : MuxPacket} (known : m.tracked p)
    (moves : List (Move MuxPacket)) (offers : Gate.offered moves = [p]) :
    ∀ q ∈ (g.run moves).all, m.tracked q := by
  intro q member
  rw [Gate.run_all, offers] at member
  rcases List.mem_append.mp member with before | last
  · exact shows.tracked q before
  · obtain rfl := List.mem_singleton.mp last
    exact known

theorem writeSample_started (started : m.started = true) (sample : PendingSample)
    (reply : SampleReply) : m.writeSample sample reply = m.handOver sample reply.write := by
  simp [writeSample, started]

theorem writeSample_waits (stopped : m.started = false) (unable : m.canStart = false)
    (sample : PendingSample) (reply : SampleReply) :
    m.writeSample sample reply = (.kOk, { m with pending := m.pending ++ [sample] }) := by
  simp [writeSample, stopped, unable]

/-- The first sample behind the last track starts the muxer. -/
theorem writeSample_starts (stopped : m.started = false) (able : m.canStart = true)
    (sample : PendingSample) {reply : SampleReply} (succeeds : SampleSucceeds reply) :
    ∃ inFlight, m.writeSample sample reply =
      (.kOk,
        { m with
          started := true
          inFlight
          written := m.written ++ m.pending ++ [sample]
          pending := [] }) := by
  obtain ⟨inFlight, replayed⟩ := replayPending_succeeds (m := { m with started := true })
    m.pending succeeds.replay
  have begun : m.start reply.start reply.replay = (.kOk,
      { m with started := true, inFlight, written := m.written ++ m.pending, pending := [] }) := by
    rw [start, stopped, succeeds.start]
    exact replayed
  refine ⟨inFlight ++ [sample.data], ?_⟩
  rw [writeSample]
  rw [stopped, able, Bool.not_false, Bool.and_self, if_pos rfl, begun]
  simp [handOver, succeeds.write]

/-- A sample of a known track waits, or passes behind all that waited. -/
theorem writeSample_shows (shows : Shows m g) {p : MuxPacket} {reply : SampleReply}
    (known : m.tracked p) (succeeds : SampleSucceeds reply) :
    ∃ moves n, m.writeSample (m.sampleOf p) reply = (.kOk, n) ∧ Shows n (g.run moves) ∧
      Gate.offered moves = [p] ∧ Prompt n ∧ n.videoTrack = m.videoTrack ∧ n.sink = m.sink := by
  cases started : m.started with
  | true =>
    have up := shows.lifted.trans started
    have handed : m.handOver (m.sampleOf p) reply.write =
        (.kOk,
          { m with
            inFlight := m.inFlight ++ [(m.sampleOf p).data]
            written := m.written ++ [m.sampleOf p] }) := by
      rw [handOver, succeeds.write, if_pos rfl]
    rw [writeSample_started started]
    refine ⟨[.offer p], _, handed, ⟨shows.lifted, ?_, ?_, ?_, shows.running⟩, rfl,
      fun _ => started, rfl, rfl⟩
    · simp only [Gate.run, Gate.move, Gate.offer, up, if_true, List.foldl_cons, List.foldl_nil]
      exact shows.waiting
    · simp only [Gate.run, Gate.move, Gate.offer, up, if_true, List.foldl_cons, List.foldl_nil,
        List.map_append, shows.passed]
      rfl
    · exact tracked_offer shows known [.offer p] rfl
  | false =>
    have down := shows.lifted.trans started
    have none : m.written = [] := by
      rw [shows.passed, g.shut down]
      rfl
    cases able : m.canStart with
    | true =>
      obtain ⟨inFlight, wrote⟩ := writeSample_starts started able (m.sampleOf p) succeeds
      refine ⟨[.lift, .offer p], _, wrote, ⟨rfl, rfl, ?_, ?_, fun _ => able⟩, rfl,
        fun _ => rfl, rfl, rfl⟩
      · simp only [Gate.run, Gate.move, Gate.offer, Gate.lift, if_true, List.foldl_cons,
          List.foldl_nil, List.map_append, g.shut down, List.nil_append, shows.waiting, none]
        rfl
      · exact tracked_offer shows known [.lift, .offer p] rfl
    | false =>
      rw [writeSample_waits started able]
      refine ⟨[.offer p], _, rfl, ⟨shows.lifted, ?_, ?_, ?_, shows.running⟩, rfl, ?_, rfl, rfl⟩
      · simp only [Gate.run, Gate.move, Gate.offer, down, Bool.false_eq_true, if_false,
          List.foldl_cons, List.foldl_nil, List.map_append, shows.waiting]
        rfl
      · simp only [Gate.run, Gate.move, Gate.offer, down, Bool.false_eq_true, if_false,
          List.foldl_cons, List.foldl_nil]
        exact shows.passed
      · exact tracked_offer shows known [.offer p] rfl
      · exact fun can => absurd (able.symm.trans can) Bool.false_ne_true

end Samples

/-- Video is under way: its track is there. -/
def live (m : MediaCodecMuxer) : Bool := decide (0 ≤ m.videoTrack)

/-- The packet of a push, when the push accepts it. -/
def acceptedBy (m : MediaCodecMuxer) (p : MuxPacket) (st : Status) : List MuxPacket :=
  if st = .kOk ∧ p.owed m.live = true then [p] else []

/-- What a push leaves: the gate is moved by the packet it accepts. -/
structure Moved (m : MediaCodecMuxer) (g : Gate MuxPacket) (p : MuxPacket)
    (result : Status × MediaCodecMuxer) : Prop where
  shows : ∃ moves, Shows result.2 (g.run moves) ∧ Gate.offered moves = m.acceptedBy p result.1
  prompt : Prompt result.2
  sink : result.2.sink = m.sink
  live : result.2.live = (m.live || ((m.acceptedBy p result.1).any MuxPacket.isKey))

section Pushes
variable {m : MediaCodecMuxer} {g : Gate MuxPacket}

/-- A push that accepts nothing and leaves the samples alone. -/
theorem Moved.none {p : MuxPacket} {st : Status} {n : MediaCodecMuxer}
    (rejects : m.acceptedBy p st = []) (shows : Shows n g) (prompt : Prompt n)
    (sink : n.sink = m.sink) (live : n.live = m.live) : Moved m g p (st, n) := by
  refine ⟨⟨[], shows, rejects.symm⟩, prompt, sink, ?_⟩
  rw [rejects]
  exact live.trans (Bool.or_false _).symm

theorem acceptedBy_failed (p : MuxPacket) {st : Status} (failed : st ≠ .kOk) :
    m.acceptedBy p st = [] :=
  if_neg fun accepts => failed accepts.1

theorem acceptedBy_free {p : MuxPacket} (st : Status) (free : p.owed m.live = false) :
    m.acceptedBy p st = [] :=
  if_neg fun accepts => absurd (free.symm.trans accepts.2) Bool.false_ne_true

/-- A push that reaches `WriteSample` accepts its packet. -/
theorem Moved.wrote {n : MediaCodecMuxer} {p : MuxPacket} {reply : SampleReply}
    (shows : Shows n g) (known : n.tracked p) (succeeds : SampleSucceeds reply)
    (owes : p.owed m.live = true) (sink : n.sink = m.sink) (live : n.live = (m.live || p.isKey)) :
    Moved m g p (n.writeSample (n.sampleOf p) reply) := by
  obtain ⟨moves, last, wrote, shown, offers, prompt, track, sunk⟩ :=
    writeSample_shows shows known succeeds
  have accepts : m.acceptedBy p .kOk = [p] := if_pos ⟨rfl, owes⟩
  have lively : last.live = n.live := by
    unfold MediaCodecMuxer.live
    rw [track]
  rw [wrote]
  refine ⟨⟨moves, shown, offers.trans accepts.symm⟩, prompt, sunk.trans sink, ?_⟩
  rw [accepts, lively, live]
  simp

/-- The file and the NDK muxer are no part of what waits and passes. -/
theorem ensured (shows : Shows m g) (prompt : Prompt m) (reply : EnsureReply) :
    Shows (m.ensureMuxer reply).2 g ∧ Prompt (m.ensureMuxer reply).2 ∧
      (m.ensureMuxer reply).2.sink = m.sink ∧
      (m.ensureMuxer reply).2.videoTrack = m.videoTrack ∧
      (m.ensureMuxer reply).2.config = m.config := by
  obtain ⟨muxer, tmp, files, same⟩ := m.ensureMuxer_frame reply
  rw [same]
  exact ⟨shows.retrack rfl rfl rfl (.inl rfl) (.inl rfl) id, prompt, rfl, rfl, rfl⟩

theorem canStart_of_video (absent : ¬ 0 ≤ m.videoTrack) : m.canStart = false := by
  rw [canStart, if_pos (Int.not_le.mp absent)]

theorem canStart_of_audio (required : m.config.audioCodec ≠ .kNone)
    (absent : ¬ 0 ≤ m.audioTrack) : m.canStart = false := by
  rw [canStart]
  split
  · rfl
  · rw [if_pos ⟨required, Int.not_le.mp absent⟩]

theorem pushVideo_moved (shows : Shows m g) (prompt : Prompt m) (sink : m.sink.isSome = true)
    {pkt : VideoPacket} {reply : MediaReply} (succeeds : SampleSucceeds reply.sample) :
    Moved m g (.video pkt) (m.pushVideo pkt reply) := by
  rw [pushVideo]
  split
  · rename_i empty
    exact .none (acceptedBy_free _ (by simp [MuxPacket.owed, empty])) shows prompt rfl rfl
  rename_i data
  rw [Option.isNone_eq_false_iff.mpr sink, if_neg Bool.false_ne_true]
  obtain ⟨shows', prompt', sink', video', _⟩ := ensured shows prompt reply.ensure
  have live' : (m.ensureMuxer reply.ensure).2.live = m.live := by
    rw [live, video']
    rfl
  generalize m.ensureMuxer reply.ensure = ensured at *
  dsimp only
  split
  · rename_i failed
    exact .none (acceptedBy_failed _ failed) shows' prompt' sink' live'
  have ready := ensured.2.readyVideo_ready pkt reply.track
  generalize ensured.2.readyVideo pkt reply.track = readied at ready
  cases ready with
  | early absent delta =>
    refine .none (acceptedBy_free _ ?_) shows' prompt' sink' live'
    have idle : m.live = false := by
      rw [← live']
      exact decide_eq_false absent
    rw [MuxPacket.owed, idle, delta, Bool.or_self, Bool.and_false]
  | failed absent still =>
    refine .none (acceptedBy_failed _ (by decide)) ?_ ?_ sink' ?_
    · exact shows'.retrack rfl rfl rfl (.inr absent) (.inl rfl)
        fun can => absurd ((canStart_of_video absent).symm.trans can) Bool.false_ne_true
    · intro can
      exact absurd ((canStart_of_video still).symm.trans can) Bool.false_ne_true
    · rw [← live']
      exact (decide_eq_false still).trans (decide_eq_false absent).symm
  | there present =>
    have up : m.live = true := by
      rw [← live']
      exact decide_eq_true present
    refine Moved.wrote (p := .video pkt) shows' present succeeds ?_ sink' ?_
    · simp [MuxPacket.owed, data, up]
    · rw [live', up, Bool.true_or]
  | added absent key present =>
    refine Moved.wrote (p := .video pkt) ?_ present succeeds ?_ sink' ?_
    · exact shows'.retrack rfl rfl rfl (.inr absent) (.inl rfl)
        fun can => absurd ((canStart_of_video absent).symm.trans can) Bool.false_ne_true
    · simp [MuxPacket.owed, data, key]
    · rw [MuxPacket.isKey, key, Bool.or_true]
      exact decide_eq_true present

theorem pushAudio_moved (shows : Shows m g) (prompt : Prompt m) (sink : m.sink.isSome = true)
    {pkt : AudioPacket} {reply : MediaReply} (succeeds : SampleSucceeds reply.sample) :
    Moved m g (.audio pkt) (m.pushAudio pkt reply) := by
  rw [pushAudio]
  split
  · rename_i empty
    exact .none (acceptedBy_free _ (by simp [MuxPacket.owed, empty])) shows prompt rfl rfl
  rename_i data
  rw [Option.isNone_eq_false_iff.mpr sink, if_neg Bool.false_ne_true]
  split
  · exact .none (acceptedBy_failed _ (by simp)) shows prompt rfl rfl
  rename_i aac
  have required : m.config.audioCodec ≠ .kNone := by
    rw [not_not.mp aac]
    simp
  obtain ⟨shows', prompt', sink', video', config'⟩ := ensured shows prompt reply.ensure
  have live' : (m.ensureMuxer reply.ensure).2.live = m.live := by
    rw [live, video']
    rfl
  generalize m.ensureMuxer reply.ensure = ensured at *
  rw [← config'] at required
  dsimp only
  split
  · rename_i failed
    exact .none (acceptedBy_failed _ failed) shows' prompt' sink' live'
  have ready := ensured.2.readyAudio_ready pkt reply.track
  generalize ensured.2.readyAudio pkt reply.track = readied at ready
  have owes : MuxPacket.owed m.live (.audio pkt) = true := by
    simp [MuxPacket.owed, data]
  cases ready with
  | failed absent still =>
    refine .none (acceptedBy_failed _ (by decide)) ?_ ?_ sink' live'
    · exact shows'.retrack rfl rfl rfl (.inl rfl) (.inr absent)
        fun can => absurd ((canStart_of_audio required absent).symm.trans can) Bool.false_ne_true
    · intro can
      exact absurd (can.symm.trans (canStart_of_audio required still)) (by decide)
  | there present =>
    apply Moved.wrote (p := .audio pkt) shows' present succeeds owes sink'
    rw [live', MuxPacket.isKey, Bool.or_false]
  | added absent present =>
    refine Moved.wrote (p := .audio pkt) ?_ present succeeds owes sink' ?_
    · exact shows'.retrack rfl rfl rfl (.inl rfl) (.inr absent)
        fun can => absurd ((canStart_of_audio required absent).symm.trans can) Bool.false_ne_true
    · rw [MuxPacket.isKey, Bool.or_false]
      exact live'

theorem accepted_cons (p : MuxPacket) (st : Status) (rest : List (MuxPacket × Status)) :
    accepted m.live ((p, st) :: rest) =
      m.acceptedBy p st ++
        accepted (m.live || (m.acceptedBy p st).any MuxPacket.isKey) rest := by
  rw [accepted, acceptedBy]
  split
  · simp
  · simp

theorem push_moved (shows : Shows m g) (prompt : Prompt m) (sink : m.sink.isSome = true)
    {c : Call} (succeeds : Succeeds c) :
    ∃ p, pushed c = some p ∧ Moved m g p (m.call c) := by
  cases c with
  | pushVideo pkt reply => exact ⟨.video pkt, rfl, pushVideo_moved shows prompt sink succeeds⟩
  | pushAudio pkt reply => exact ⟨.audio pkt, rfl, pushAudio_moved shows prompt sink succeeds⟩
  | setOutput | flush | finish | release => exact succeeds.elim

/-- Over a run of pushes the gate is offered what they accept, in order. -/
theorem pushes_moved (shows : Shows m g) (prompt : Prompt m) (sink : m.sink.isSome = true)
    {calls : List Call} (succeed : ∀ c ∈ calls, Succeeds c) :
    ∃ moves, Shows (after m calls) (g.run moves) ∧
      Gate.offered moves = accepted m.live (outcomes m calls) ∧ Prompt (after m calls) := by
  induction calls generalizing m g with
  | nil => exact ⟨[], shows, rfl, prompt⟩
  | cons c calls ih =>
    obtain ⟨p, pushes, moved⟩ := push_moved shows prompt sink (succeed c List.mem_cons_self)
    obtain ⟨moves, shown, offers⟩ := moved.shows
    obtain ⟨rest, shown, later, prompted⟩ := ih shown moved.prompt
      (by rw [moved.sink]; exact sink) (fun c member => succeed c (List.mem_cons_of_mem _ member))
    refine ⟨moves ++ rest, ?_, ?_, prompted⟩
    · rw [Gate.run_append]
      exact shown
    · rw [Gate.offered_append, offers, later, moved.live, outcomes, pushes]
      exact (accepted_cons ..).symm

theorem fresh_shows (config : MuxerConfig) (sink : Nat) : Shows (fresh config sink) .down where
  lifted := rfl
  waiting := rfl
  passed := rfl
  tracked := fun _ none => absurd none List.not_mem_nil
  running := fun up => absurd up Bool.false_ne_true

end Pushes

/-- While the NDK takes every sample: what was handed to it and what waits are
the accepted packets in the order of their pushes, over both tracks; nothing is
handed over before every configured track is there, nothing waits behind the
start, and the muxer is started once every track is there. -/
theorem samples_in_order (config : MuxerConfig) (sink : Nat) {calls : List Call}
    (succeed : ∀ c ∈ calls, Succeeds c) :
    let m := after (fresh config sink) calls
    List.Forall₂ m.Carries (accepted false (outcomes (fresh config sink) calls))
      (m.written ++ m.pending) ∧
    (¬m.HasTracks → m.written = []) ∧
    (m.started = true → m.pending = []) ∧
    (m.HasTracks → m.started = true) := by
  intro m
  obtain ⟨moves, shows, offers, prompt⟩ := pushes_moved (fresh_shows config sink)
    (fun can => absurd can Bool.false_ne_true) rfl succeed
  have order : (Gate.run .down moves).all =
      accepted false (outcomes (fresh config sink) calls) :=
    (Gate.run_all .down moves).trans offers
  refine ⟨?_, ?_, ?_, fun tracks => prompt (canStart_iff.mpr tracks)⟩
  · rw [← order, shows.waiting, shows.passed, ← List.map_append, ← Gate.all,
      List.forall₂_map_right_iff, List.forall₂_same]
    exact fun p member => sampleOf_carries (shows.tracked p member)
  · intro trackless
    have stopped : m.started = false := by
      cases started : m.started with
      | false => rfl
      | true => exact absurd (canStart_iff.mp (shows.running started)) trackless
    rw [shows.passed, Gate.shut _ (shows.lifted.trans stopped)]
    rfl
  · intro started
    rw [shows.waiting, Gate.clear _ (shows.lifted.trans started)]
    rfl

/-- Audio comes first and waits; the keyframe adds the last track. -/
theorem samples_in_order_both :
    let m := after (fresh { width := 2, height := 2, audioCodec := .kAAC } 0)
      [.pushAudio { data := [1], ptsUs := 5 } { track := 0 },
        .pushVideo ⟨[0, 0, 0, 1, 0x67, 1, 0, 0, 1, 0x68, 2], 7, true⟩ { track := 1 }]
    m.written ++ m.pending =
      [⟨0, [1], 5, false⟩, ⟨1, [0x67, 1, 0, 0, 1, 0x68, 2], 7, true⟩] ∧
    List.Forall₂ m.Carries
      [.audio { data := [1], ptsUs := 5 },
        .video ⟨[0, 0, 0, 1, 0x67, 1, 0, 0, 1, 0x68, 2], 7, true⟩]
      (m.written ++ m.pending) := by
  intro m
  have ndk : SampleSucceeds {} := ⟨rfl, fun _ none => absurd none List.not_mem_nil, rfl⟩
  refine ⟨by decide, (samples_in_order _ 0 ?_).1⟩
  intro c member
  simp only [List.mem_cons, List.not_mem_nil, or_false] at member
  rcases member with rfl | rfl
  · exact ndk
  · exact ndk

end VideoCodec.MediaCodecMuxer
