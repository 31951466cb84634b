import VideoCodec.Mux.NdkProtocol
import VideoCodec.Mux.Recording
import VideoCodec.Mux.Replay
import VideoCodec.Mux.TrackGate

/-! The MediaCodec muxer as the sink of a queue. Nothing is assumed of the NDK: a push
that returns `kOk` has its sample with the writer, or among those that wait for the last
track, and `Finish` returns `kOk` only behind a replay of the whole file. -/
namespace VideoCodec.MediaCodecMuxer

open Fifo Transition
open FFmpegMuxer (fromKeyframe filter_map_select)

/-- What the NDK, the C library and the sink answer during one call; `fails` is where
the file can be read no further. -/
structure NdkReply where
  media : MediaReply := {}
  close : FinalizeReply := {}
  fails : Option Nat := none

/-- What the NDK makes of its tracks and their samples. -/
abbrev FileOf := List MediaFormat → List PendingSample → List UInt8

/-- `Finalize` reads the file back that the NDK has written. -/
def closing (file : FileOf) (m : MediaCodecMuxer) (reply : NdkReply) : FinalizeReply :=
  { reply.close with
    content :=
      match reply.fails with
      | none => file m.tracks m.written
      | some n => (file m.tracks m.written).take n
    ferror := reply.fails.isSome }

def packetSink (file : FileOf) : PacketSink MediaCodecMuxer NdkReply where
  pushVideo m pkt reply := m.pushVideo pkt reply.media
  pushAudio m pkt reply := m.pushAudio pkt reply.media
  finish m reply := m.finish (m.closing file reply)

/-- A recording that is closed: its samples are those of `order`, on tracks that are
there, and the sink has the file. -/
structure Recorded (file : FileOf) (sink : Nat) (m : MediaCodecMuxer) (order : List MuxPacket) :
    Prop where
  samples : m.written = order.map m.sampleOf
  tracked : ∀ p ∈ order, m.tracked p
  replayed : ∃ chunks : List (List UInt8), chunks.flatten = file m.tracks m.written ∧
    m.requests = (chunks.map (FileRequest.write · true) ++ [FileRequest.flush true]).map (sink, ·)

section Samples
variable {file : FileOf} {sink : Nat} {m : MediaCodecMuxer} {order : List MuxPacket}

theorem Recorded.video (recorded : Recorded file sink m order)
    (apart : m.videoTrack ≠ m.audioTrack) :
    m.written.filter (fun sample => (sample.track : Int) = m.videoTrack) =
      (order.filterMap MuxPacket.video?).map m.videoSample := by
  rw [recorded.samples]
  apply filter_map_select
  · rintro (pkt | pkt) member y selected
    · obtain rfl := Option.some.inj selected
      have there : 0 ≤ m.videoTrack := recorded.tracked _ member
      exact ⟨rfl, decide_eq_true (Int.toNat_of_nonneg there)⟩
    · contradiction
  · rintro (pkt | pkt) member selected
    · contradiction
    · have there : 0 ≤ m.audioTrack := recorded.tracked _ member
      refine decide_eq_false ?_
      change ¬((m.audioTrack.toNat : Nat) : Int) = m.videoTrack
      rw [Int.toNat_of_nonneg there]
      exact apart.symm

theorem Recorded.audio (recorded : Recorded file sink m order)
    (apart : m.videoTrack ≠ m.audioTrack) :
    m.written.filter (fun sample => (sample.track : Int) = m.audioTrack) =
      (order.filterMap MuxPacket.audio?).map m.audioSample := by
  rw [recorded.samples]
  apply filter_map_select
  · rintro (pkt | pkt) member y selected
    · contradiction
    · obtain rfl := Option.some.inj selected
      have there : 0 ≤ m.audioTrack := recorded.tracked _ member
      exact ⟨rfl, decide_eq_true (Int.toNat_of_nonneg there)⟩
  · rintro (pkt | pkt) member selected
    · have there : 0 ≤ m.videoTrack := recorded.tracked _ member
      refine decide_eq_false ?_
      change ¬((m.videoTrack.toNat : Nat) : Int) = m.audioTrack
      rw [Int.toNat_of_nonneg there]
      exact apart
    · contradiction

/-- What is cut off is the start code, of either length. -/
theorem withoutStartCode_eq (data : List UInt8) :
    withoutStartCode data = data.drop (Android.startCodeLength data) := by
  rw [withoutStartCode, Android.startCodeLength]
  split
  · rfl
  · split
    · rfl
    · rfl

end Samples

/-- Members that no sample shows; `heard` is what is known once there is an audio
track. -/
structure Stands (config : MuxerConfig) (sink : Nat) (heard : Prop) (m : MediaCodecMuxer) :
    Prop where
  config : m.config = config
  attached : m.sink = some sink
  going : m.finished = false
  silent : m.requests = []
  file : m.muxer = true → m.tmp.isSome = true
  running : m.started = true → m.muxer = true
  audio : 0 ≤ m.audioTrack → heard

section Answers
variable {m : MediaCodecMuxer} {sample : PendingSample} {reply : SampleReply}

/-- A replay that succeeds is one whose samples were all taken. -/
theorem replayPending_acknowledged {samples : List PendingSample} {answers : List Bool}
    (ok : (m.replayPending samples answers).1 = .kOk) :
    m.replayPending samples answers = m.replayPending samples [] := by
  induction samples generalizing m answers with
  | nil => rfl
  | cons sample samples ih =>
    rw [replayPending] at ok ⊢
    cases taken : answers.headD true with
    | false =>
      rw [taken] at ok
      contradiction
    | true =>
      rw [taken] at ok
      exact ih ok

theorem handOver_acknowledged {taken : Bool} (ok : (m.handOver sample taken).1 = .kOk) :
    taken = true := by
  cases taken with
  | true => rfl
  | false => contradiction

theorem start_acknowledged {begun : Bool} {answers : List Bool}
    (ok : (m.start begun answers).1 = .kOk) : m.start begun answers = m.start true [] := by
  rw [start] at ok ⊢
  rw [start]
  by_cases started : m.started = true
  · rw [if_pos started, if_pos started]
  · rw [if_neg started] at ok ⊢
    rw [if_neg started]
    cases begun with
    | false => contradiction
    | true => exact replayPending_acknowledged ok

/-- Of a sample that is acknowledged, nothing that was asked of the NDK has failed. -/
theorem writeSample_acknowledged (ok : (m.writeSample sample reply).1 = .kOk) :
    m.writeSample sample reply = m.writeSample sample {} := by
  have readied : (if !m.started && m.canStart then m.start reply.start reply.replay
      else (.kOk, m)).1 = .kOk := by
    by_contra failed
    rw [writeSample, if_pos failed] at ok
    exact failed ok
  have same : (if !m.started && m.canStart then m.start reply.start reply.replay
      else (.kOk, m)) = if !m.started && m.canStart then m.start true [] else (.kOk, m) := by
    split
    · rename_i starts
      rw [if_pos starts] at readied
      exact start_acknowledged readied
    · rfl
  rw [writeSample] at ok ⊢
  rw [writeSample]
  dsimp only at ok ⊢
  rw [same] at ok readied ⊢
  generalize (if !m.started && m.canStart then m.start true [] else (.kOk, m)) = ready at *
  rw [if_neg (not_not_intro readied)] at ok ⊢
  rw [if_neg (not_not_intro readied)]
  split
  · rfl
  · rename_i started
    rw [if_neg started] at ok
    rw [handOver_acknowledged ok]

theorem pushVideo_acknowledged {pkt : VideoPacket} {reply : MediaReply}
    (ok : (m.pushVideo pkt reply).1 = .kOk) :
    m.pushVideo pkt reply = m.pushVideo pkt { reply with sample := {} } := by
  rw [pushVideo] at ok ⊢
  rw [pushVideo]
  split
  · rfl
  · rename_i data
    rw [if_neg data] at ok
    split
    · rfl
    · rename_i attached
      rw [if_neg attached] at ok
      dsimp only at ok ⊢
      split
      · rfl
      · rename_i ensured
        rw [if_neg ensured] at ok
        generalize (m.ensureMuxer reply.ensure).2.readyVideo pkt reply.track = ready at *
        obtain ⟨_ | st, n⟩ := ready
        · exact writeSample_acknowledged ok
        · rfl

theorem pushAudio_acknowledged {pkt : AudioPacket} {reply : MediaReply}
    (ok : (m.pushAudio pkt reply).1 = .kOk) :
    m.pushAudio pkt reply = m.pushAudio pkt { reply with sample := {} } := by
  rw [pushAudio] at ok ⊢
  rw [pushAudio]
  split
  · rfl
  · rename_i data
    rw [if_neg data] at ok
    split
    · rfl
    · rename_i attached
      rw [if_neg attached] at ok
      split
      · rfl
      · rename_i coded
        rw [if_neg coded] at ok
        dsimp only at ok ⊢
        split
        · rfl
        · rename_i ensured
          rw [if_neg ensured] at ok
          generalize (m.ensureMuxer reply.ensure).2.readyAudio pkt reply.track = ready at *
          obtain ⟨_ | st, n⟩ := ready
          · exact writeSample_acknowledged ok
          · rfl

end Answers

/-- A push that is acknowledged is one whose samples the NDK took. -/
theorem succeeds_default : SampleSucceeds {} where
  start := rfl
  replay := fun _ none => absurd none List.not_mem_nil
  write := rfl

section Standing
variable {m n : MediaCodecMuxer} {config : MuxerConfig} {sink : Nat} {heard : Prop}

theorem fresh_stands (config : MuxerConfig) (sink : Nat) :
    Stands config sink False (fresh config sink) where
  config := rfl
  attached := rfl
  going := rfl
  silent := rfl
  file := fun present => absurd present Bool.false_ne_true
  running := fun started => absurd started Bool.false_ne_true
  audio := fun track => absurd track (show ¬(0 : Int) ≤ -1 by decide)

theorem Stands.ensured (stands : Stands config sink heard m) (reply : EnsureReply) :
    Stands config sink heard (m.ensureMuxer reply).2 := by
  rw [ensureMuxer]
  by_cases present : m.muxer = true
  · rw [if_pos present]
    exact stands
  · rw [if_neg present]
    have absent {tmp : Option Nat} : m.muxer = true → tmp.isSome = true := fun there =>
      absurd there present
    split
    · exact stands
    · split
      · exact { stands with file := absent }
      · split
        · exact { stands with file := fun _ => rfl, running := fun _ => rfl }
        · exact { stands with file := absent }

/-- A sample is written by a muxer that is there. -/
theorem Stands.wrote (stands : Stands config sink heard m) (present : m.muxer = true)
    (sample : PendingSample) (reply : SampleReply) :
    Stands config sink heard (m.writeSample sample reply).2 := by
  obtain ⟨started, pending, inFlight, written, same⟩ := m.writeSample_frame sample reply
  rw [same]
  exact { stands with running := fun _ => present }

theorem Stands.pushVideo (stands : Stands config sink heard m) (pkt : VideoPacket)
    (reply : MediaReply) : Stands config sink heard (m.pushVideo pkt reply).2 := by
  rw [MediaCodecMuxer.pushVideo]
  split
  · exact stands
  split
  · exact stands
  have ensured := stands.ensured reply.ensure
  have present := (m.ensure_frame reply.ensure).2
  generalize m.ensureMuxer reply.ensure = result at ensured present
  dsimp only
  split
  · exact ensured
  rename_i ok
  have there := present (not_not.mp ok)
  have ready := result.2.readyVideo_ready pkt reply.track
  generalize result.2.readyVideo pkt reply.track = readied at ready
  cases ready with
  | early => exact ensured
  | failed => exact { ensured with }
  | there => exact ensured.wrote there _ _
  | added =>
    refine Stands.wrote ?_ ?_ _ _
    · exact { ensured with }
    · exact there

/-- There is an audio track only behind an audio packet with data. -/
theorem Stands.pushAudio (stands : Stands config sink heard m) (pkt : AudioPacket)
    (reply : MediaReply) :
    Stands config sink (heard ∨ pkt.data ≠ []) (m.pushAudio pkt reply).2 := by
  have weaker : Stands config sink (heard ∨ pkt.data ≠ []) m :=
    { stands with audio := fun track => .inl (stands.audio track) }
  rw [MediaCodecMuxer.pushAudio]
  split
  · exact weaker
  rename_i data
  split
  · exact weaker
  split
  · exact weaker
  have ensured := weaker.ensured reply.ensure
  have present := (m.ensure_frame reply.ensure).2
  generalize m.ensureMuxer reply.ensure = result at ensured present
  dsimp only
  split
  · exact ensured
  rename_i ok
  have there := present (not_not.mp ok)
  have ready := result.2.readyAudio_ready pkt reply.track
  generalize result.2.readyAudio pkt reply.track = readied at ready
  cases ready with
  | failed => exact { ensured with audio := fun _ => .inr data }
  | there => exact ensured.wrote there _ _
  | added =>
    refine Stands.wrote ?_ ?_ _ _
    · exact { ensured with audio := fun _ => .inr data }
    · exact there

theorem Stands.mono {known : Prop} (stands : Stands config sink heard m)
    (implies : heard → known) : Stands config sink known m :=
  { stands with audio := fun track => implies (stands.audio track) }

end Standing

section Recordings
variable {file : FileOf} {m n : MediaCodecMuxer} {g : Gate MuxPacket} {c : SinkCall}
  {cs : List SinkCall} {ls : List Delivery.Label} {config : MuxerConfig} {sink : Nat}
  {heard : Prop}

theorem serves_acknowledged (shows : Shows m g) (prompt : Prompt m)
    (stands : Stands config sink heard m) (serves : (packetSink file).Serves m c n)
    (isPush : c.IsPush) (ok : c.status = .kOk) :
    ∃ p, c.packet? = some p ∧ Moved m g p (.kOk, n) ∧
      Stands config sink (heard ∨ audioOf [p] ≠ []) n := by
  have attached : m.sink.isSome = true := by rw [stands.attached]; rfl
  cases serves with
  | finish => exact isPush.elim
  | push medium pkt reply =>
    cases medium with
    | video =>
      change (m.pushVideo pkt reply.media).1 = .kOk at ok
      have moved : Moved m g (.video pkt)
          (m.pushVideo pkt { reply.media with sample := {} }) :=
        pushVideo_moved shows prompt attached succeeds_default
      rw [← pushVideo_acknowledged ok] at moved
      refine ⟨.video pkt, rfl, ?_, (stands.pushVideo pkt reply.media).mono .inl⟩
      rw [← ok]
      exact moved
    | audio =>
      change (m.pushAudio pkt reply.media).1 = .kOk at ok
      have moved : Moved m g (.audio pkt)
          (m.pushAudio pkt { reply.media with sample := {} }) :=
        pushAudio_moved shows prompt attached succeeds_default
      rw [← pushAudio_acknowledged ok] at moved
      refine ⟨.audio pkt, rfl, ?_, (stands.pushAudio pkt reply.media).mono ?_⟩
      · rw [← ok]
        exact moved
      · rintro (before | data)
        · exact .inl before
        · right
          rw [show audioOf [.audio pkt] = [pkt] from List.filter_cons_of_pos (decide_eq_true data)]
          exact List.cons_ne_nil _ _

/-- Pushes that are acknowledged move the gate by what they owe the container. -/
theorem run_acknowledged (shows : Shows m g) (prompt : Prompt m)
    (stands : Stands config sink heard m) (run : Run (packetSink file).Serves m cs n)
    (clean : ∀ c ∈ cs, c.IsPush ∧ c.status = .kOk) :
    (∃ moves, Shows n (g.run moves) ∧ Gate.offered moves = owedOf m.live (packets cs)) ∧
      n.live = (m.live || (owedOf m.live (packets cs)).any MuxPacket.isKey) ∧
      Stands config sink (heard ∨ audioOf (packets cs) ≠ []) n := by
  induction run generalizing g heard with
  | refl => exact ⟨⟨[], shows, rfl⟩, (Bool.or_false _).symm, stands.mono .inl⟩
  | @next m c m' cs n head tail ih =>
    obtain ⟨⟨isPush, ok⟩, later⟩ := List.forall_mem_cons.mp clean
    obtain ⟨p, packet, moved, stood⟩ := serves_acknowledged shows prompt stands head isPush ok
    obtain ⟨moves, shown, offers⟩ := moved.shows
    obtain ⟨⟨rest, last, owed⟩, live, ended⟩ := ih shown moved.prompt stood later
    have all : packets (c :: cs) = p :: packets cs := by
      rw [packets, List.filterMap_cons_some packet, ← packets]
    have accepts : m.acceptedBy p .kOk = if p.owed m.live then [p] else [] := by
      rw [acceptedBy]
      simp only [true_and]
    have lively : m'.live = (m.live || (p.owed m.live && p.isKey)) := by
      have lives := moved.live
      rw [accepts] at lives
      rw [show m'.live = _ from lives]
      cases p.owed m.live <;> simp
    rw [all, owedOf, ← lively]
    refine ⟨⟨moves ++ rest, ?_, ?_⟩, ?_, ended.mono ?_⟩
    · rw [Gate.run_append]
      exact last
    · rw [Gate.offered_append, offers, owed, accepts]
    · rw [live, List.any_append, ← Bool.or_assoc, ← accepts]
      exact congrArg (· || _) moved.live
    · have both : audioOf (p :: packets cs) = audioOf [p] ++ audioOf (packets cs) := by
        simp only [audioOf, ← List.filter_append, ← List.filterMap_append, List.singleton_append]
      rw [both]
      rintro ((before | first) | rest)
      · exact .inl before
      · exact .inr (List.append_ne_nil_of_left_ne_nil first _)
      · exact .inr (List.append_ne_nil_of_right_ne_nil _ rest)

/-- `Finish` that returns `kOk` finds the muxer started and has replayed its file. -/
theorem finish_acknowledged {reply : FinalizeReply} {content : List UInt8}
    (stands : Stands config sink heard m) (reads : reply.Reads content)
    (ok : (m.finish reply).1 = .kOk) :
    m.started = true ∧ ∃ chunks : List (List UInt8), chunks.flatten = content ∧
      (m.finish reply).2.requests =
        (chunks.map (FileRequest.write · true) ++ [FileRequest.flush true]).map (sink, ·) := by
  have finalized : m.finish reply =
      ((m.finalize reply).1, { (m.finalize reply).2 with finished := true }) := by
    rw [finish, stands.going]
    rfl
  rw [finalized] at ok ⊢
  by_cases started : m.started = true
  rotate_left
  · have idle : m.stop reply.stop = (.kEncodeFailed, m) := by
      rw [stop, if_pos (by simpa using started)]
    simp [finalize, idle, stands.attached] at ok
  have present := stands.running started
  cases stopped : reply.stop with
  | false =>
    have incomplete : m.stop reply.stop = (.kEncodeFailed, { m with inFlight := [] }) := by
      rw [stop, started, present, stopped]
      rfl
    simp [finalize, incomplete, stands.attached] at ok
  | true =>
    have joined : m.stop reply.stop = (.kOk, { m with inFlight := [] }) := by
      rw [stop, started, present, stopped]
      rfl
    have replayed :
        (m.finalize reply).1 = (replayToSink { m with inFlight := [] } sink reply).1 ∧
        (m.finalize reply).2.requests =
          (replayToSink { m with inFlight := [] } sink reply).2.requests := by
      rw [finalize, joined]
      dsimp only
      rw [stands.attached, stands.file present]
      exact ⟨rfl, rfl⟩
    obtain ⟨asked, requests, outcome⟩ :=
      replayToSink_outcome { m with inFlight := [] } sink reads
    obtain ⟨chunks, asks, whole⟩ := outcome.whole (replayed.1.symm.trans ok)
    refine ⟨started, chunks, whole, ?_⟩
    refine replayed.2.trans ((congrArg MediaCodecMuxer.requests requests).trans ?_)
    rw [MediaCodecMuxer.asks, asks, stands.silent]
    rfl

theorem closing_reads (file : FileOf) (m : MediaCodecMuxer) (reply : NdkReply) :
    (m.closing file reply).Reads (file m.tracks m.written) := by
  rw [closing]
  cases fails : reply.fails with
  | none => exact ⟨List.prefix_rfl, fun _ => rfl⟩
  | some n => exact ⟨List.take_prefix _ _, fun whole => absurd whole (by simp)⟩

theorem serves_finish (stands : Stands config sink heard m)
    (serves : (packetSink file).Serves m (.finish .kOk) n) (order : List MuxPacket)
    (samples : m.started = true → m.written = order.map m.sampleOf)
    (tracked : ∀ p ∈ order, m.tracked p) : m.started = true ∧ Recorded file sink n order := by
  obtain ⟨reply, result⟩ := serves.finished
  change m.finish (m.closing file reply) = (.kOk, n) at result
  have ok : (m.finish (m.closing file reply)).1 = .kOk := by rw [result]
  obtain ⟨started, replayed⟩ := finish_acknowledged stands (closing_reads file m reply) ok
  obtain ⟨inFlight, requests, same⟩ := m.finalize_frame (m.closing file reply)
  have kept : n =
      { m with
        inFlight, requests
        muxer := false, tmp := none, started := false, pending := [], finished := true } := by
    have last := congrArg Prod.snd result
    rw [finish, stands.going] at last
    rw [← show _ = n from last]
    exact congrArg (fun k : MediaCodecMuxer => { k with finished := true }) same
  rw [result] at replayed
  refine ⟨started, ?_⟩
  subst kept
  exact ⟨samples started, tracked, replayed⟩

theorem canStart_audio (can : m.canStart = true) (configured : m.config.audioCodec ≠ .kNone) :
    0 ≤ m.audioTrack := by
  by_contra absent
  exact absurd (can.symm.trans (canStart_of_audio configured absent)) (by decide)

/-- A keyframe that is owed is video from the first keyframe on. -/
theorem videoOf_of_key {packets : List MuxPacket}
    (key : (owedOf false packets).any MuxPacket.isKey = true) : videoOf packets ≠ [] := by
  obtain ⟨p, member, isKey⟩ := List.any_eq_true.mp key
  cases p with
  | audio pkt => exact absurd isKey Bool.false_ne_true
  | video pkt =>
    rw [← owedOf_video]
    exact List.ne_nil_of_mem (List.mem_filterMap.mpr ⟨_, member, rfl⟩)

/-- A recording behind acknowledged pushes and a `Finish` that returns `kOk`. -/
theorem run_recorded {pushes : List SinkCall}
    (run : Run (packetSink file).Serves (fresh config sink) (pushes ++ [.finish .kOk]) m)
    (clean : ∀ c ∈ pushes, c.IsPush ∧ c.status = .kOk) :
    fromKeyframe (handed .video pushes) ≠ [] ∧
    (config.audioCodec ≠ .kNone →
      (handed .audio pushes).filter (AudioPacket.data · ≠ []) ≠ []) ∧
    ∃ order, Recorded file sink m order ∧
      order.filterMap MuxPacket.video? = fromKeyframe (handed .video pushes) ∧
      order.filterMap MuxPacket.audio? =
        (handed .audio pushes).filter (AudioPacket.data · ≠ []) := by
  obtain ⟨u, pushed, finished⟩ := run.split
  obtain ⟨⟨moves, shows, offers⟩, live, stands⟩ := run_acknowledged (fresh_shows config sink)
    (fun can => absurd can Bool.false_ne_true) (fresh_stands config sink) pushed clean
  have idle : (fresh config sink).live = false := by
    exact decide_eq_false (show ¬(0 : Int) ≤ -1 by decide)
  rw [idle] at offers live
  have order : (Gate.run .down moves).all = owedOf false (packets pushes) :=
    (Gate.run_all .down moves).trans offers
  have samples : u.started = true →
      u.written = (owedOf false (packets pushes)).map u.sampleOf := by
    intro started
    rw [← order, Gate.all, Gate.clear _ (shows.lifted.trans started), List.append_nil]
    exact shows.passed
  obtain ⟨started, recorded⟩ : u.started = true ∧
      Recorded file sink m (owedOf false (packets pushes)) := by
    cases finished with
    | next head tail =>
      cases tail
      exact serves_finish stands head _ samples fun p member =>
        shows.tracked p (by rwa [order])
  have video : videoOf (packets pushes) = fromKeyframe (handed .video pushes) := by
    rw [videoOf, packets_video]
    rfl
  have audio : audioOf (packets pushes) =
      (handed .audio pushes).filter (AudioPacket.data · ≠ []) := by
    rw [audioOf, packets_audio]
  have can := shows.running started
  refine ⟨?_, fun configured => ?_, _, recorded, ?_, ?_⟩
  · rw [← video]
    apply videoOf_of_key
    rw [Bool.false_or] at live
    rw [← live]
    exact decide_eq_true (canStart_video can)
  · rw [← audio]
    rw [← stands.config] at configured
    exact (stands.audio (canStart_audio can configured)).resolve_left False.elim
  · rw [owedOf_video, video]
  · rw [owedOf_audio, audio]

/-- A recording through the NDK, whatever it answered: `Await` returns `kOk` only where
there is a keyframe, and audio with data where audio is configured. The samples are then
those of all accepted video with data from the first keyframe on and of all accepted audio
with data, in the order in which they were pushed, and the sink has the whole file. -/
theorem ndk_recording (file : FileOf) (config : MuxerConfig) (sink : Nat) {capacity : Capacity}
    {policy : Backpressure} {deadlineUs : Int} {t : Piped.Sys MediaCodecMuxer}
    (keeps : policy ≠ .kLatest)
    (run : Run (Piped.Step (packetSink file) deadlineUs)
      ⟨.new capacity policy, fresh config sink⟩ ls t)
    (place : t.queue.await.place = .returned .kOk) :
    fromKeyframe (Delivery.accepted .video ls) ≠ [] ∧
    (config.audioCodec ≠ .kNone →
      (Delivery.accepted .audio ls).filter (AudioPacket.data · ≠ []) ≠ []) ∧
    ∃ order, Recorded file sink t.sink order ∧
      order.filterMap MuxPacket.video? = fromKeyframe (Delivery.accepted .video ls) ∧
      order.filterMap MuxPacket.audio? =
        (Delivery.accepted .audio ls).filter (AudioPacket.data · ≠ []) := by
  obtain ⟨queue, serves⟩ := Piped.run_serves run
  obtain ⟨pushes, calls, clean, all⟩ := Piped.returned_delivers keeps queue place
  rw [calls] at serves
  rw [← all .video, ← all .audio]
  exact run_recorded serves clean

/-- A keyframe with its parameter sets. -/
def keyframe : VideoPacket :=
  ⟨[0, 0, 1, 0x67, 1, 0, 0, 1, 0x68, 2, 0, 0, 1, 0x65], 0, true⟩

/-- The keyframe starts the muxer, and `Finish` closes its file. -/
theorem keyframe_serves :
    ∃ pushed finished,
      (packetSink fun _ _ => [1, 2]).Serves (fresh { width := 2, height := 2 } 0)
        (.push .video keyframe .kOk) pushed ∧
      (packetSink fun _ _ => [1, 2]).Serves pushed (.finish .kOk) finished ∧
      finished.videoTrack ≠ finished.audioTrack ∧
      finished.written = [⟨0, [0x67, 1, 0, 0, 1, 0x68, 2, 0, 0, 1, 0x65], 0, true⟩] := by
  let data : List UInt8 := [0x67, 1, 0, 0, 1, 0x68, 2, 0, 0, 1, 0x65]
  let pushed : MediaCodecMuxer :=
    { fresh { width := 2, height := 2 } 0 with
      muxer      := true
      tmp        := some 3
      started    := true
      videoTrack := 0
      sps        := [0x67, 1]
      pps        := [0x68, 2]
      inFlight   := [data]
      written    := [⟨0, data, 0, true⟩]
      tracks     := [.avc 2 2 30 (some [0, 0, 0, 1, 0x67, 1]) (some [0, 0, 0, 1, 0x68, 2])]
      files      := 1 }
  exact ⟨pushed, _, .push _ .video keyframe ({} : NdkReply), .finish _ ({} : NdkReply),
    by decide, rfl⟩

/-- The keyframe comes between the two updates of `MarkEos`. -/
theorem one_keyframe :
    ∃ t, Run (Piped.Step (packetSink fun _ _ => [1, 2]) 1000)
        ⟨.new ⟨1, by decide⟩ .kBlock, fresh { width := 2, height := 2 } 0⟩
        [.push .video keyframe true, .markVideo, .pull .video .kOk (some keyframe),
          .sinkPush .video keyframe .kOk, .markAudio, .pull .audio .kEos none,
          .pull .video .kEos none, .sinkFinish .kOk] t ∧
      t.queue.await.place = .returned .kOk ∧ t.sink.videoTrack ≠ t.sink.audioTrack ∧
      t.sink.written = [⟨0, [0x67, 1, 0, 0, 1, 0x68, 2, 0, 0, 1, 0x65], 0, true⟩] := by
  obtain ⟨pushed, finished, serves, finishes, apart, written⟩ := keyframe_serves
  exact ⟨_, .next (.aside rfl (.push none (.pushEnter rfl))) <| .next (.aside rfl .markVideo) <|
    .next (.aside rfl (.pull rfl (.popEnter rfl))) <|
    .next (.calls rfl (.deliver rfl .kOk) serves) <|
    .next (.aside rfl (.markAudio Nat.one_pos)) <|
    .next (.aside rfl (.pull rfl (.popEnter rfl))) <|
    .next (.aside rfl (.pull rfl (.popEnter rfl))) <|
    .single (.calls rfl (.finish rfl .kOk) finishes), rfl, apart, written⟩

/-- One keyframe on the track of its recording. -/
theorem ndk_recording_keyframe :
    ∃ t : Piped.Sys MediaCodecMuxer,
      t.sink.written = [⟨0, [0x67, 1, 0, 0, 1, 0x68, 2, 0, 0, 1, 0x65], 0, true⟩] ∧
      ∃ order, Recorded (fun _ _ => [1, 2]) 0 t.sink order ∧
        order.filterMap MuxPacket.audio? = [] := by
  obtain ⟨t, run, place, -, written⟩ := one_keyframe
  obtain ⟨-, -, order, recorded, -, audio⟩ := ndk_recording _ _ 0 (by decide) run place
  exact ⟨t, written, order, recorded, audio⟩

end Recordings
end VideoCodec.MediaCodecMuxer
