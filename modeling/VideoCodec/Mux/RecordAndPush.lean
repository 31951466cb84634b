import VideoCodec.Io.FileConsumer
import VideoCodec.Mux.Recording

/-! The sink of the example that records and pushes: each packet goes to a stream, then
to an MP4 file and a raw H.264 file beside it. -/
namespace VideoCodec

open Transition

namespace PacketSink
variable {σ ρ α π : Type}

/-- `RecordAndPushSink` over any stream, which may be null; what `SendVideo` and
`SendAudio` return is not looked at. -/
def recordAndPush (k : PacketSink σ ρ) (send : α → MuxPacket → π → Status × α) :
    PacketSink (Option α × σ) (π × ρ) where
  pushVideo s pkt reply :=
    let pushed := k.pushVideo s.2 pkt reply.2
    (pushed.1, s.1.map fun stream => (send stream (.video pkt) reply.1).2, pushed.2)
  pushAudio s pkt reply :=
    let pushed := k.pushAudio s.2 pkt reply.2
    (pushed.1, s.1.map fun stream => (send stream (.audio pkt) reply.1).2, pushed.2)
  finish s reply :=
    let finished := k.finish s.2 reply.2
    (finished.1, s.1, finished.2)

/-- A packet given to the stream, if there is one. -/
def Sends (send : α → MuxPacket → π → Status × α) (s : Option α) (p : MuxPacket)
    (t : Option α) : Prop :=
  ∃ reply, t = s.map fun stream => (send stream p reply).2

section Streams
variable {k : PacketSink σ ρ} {send : α → MuxPacket → π → Status × α} {s t : Option α × σ}
  {c : SinkCall} {cs : List SinkCall}

theorem recordAndPush_serves (serves : (recordAndPush k send).Serves s c t) :
    k.Serves s.2 c t.2 ∧ Run (Sends send) s.1 c.packet?.toList t.1 := by
  cases serves with
  | push m pkt reply =>
    cases m with
    | video => exact ⟨.push s.2 .video pkt reply.2, .single ⟨reply.1, rfl⟩⟩
    | audio => exact ⟨.push s.2 .audio pkt reply.2, .single ⟨reply.1, rfl⟩⟩
  | finish reply => exact ⟨.finish s.2 reply.2, .refl _⟩

/-- The stream is sent every packet, in order, also the one that the recording fails
at; and the recording goes as it would without the stream. -/
theorem recordAndPush_run (run : Run (recordAndPush k send).Serves s cs t) :
    Run k.Serves s.2 cs t.2 ∧ Run (Sends send) s.1 (packets cs) t.1 := by
  induction run with
  | refl => exact ⟨.refl _, .refl _⟩
  | @next s c s' cs t head tail ih =>
    obtain ⟨serves, sends⟩ := recordAndPush_serves head
    obtain ⟨rest, later⟩ := ih
    refine ⟨.next serves rest, ?_⟩
    have all : packets (c :: cs) = c.packet?.toList ++ packets cs := by
      rw [packets, List.filterMap_cons, ← packets]
      cases c.packet? <;> rfl
    rw [all]
    exact sends.trans later

end Streams
end PacketSink

namespace FFmpegMuxer
open Android (nalUnits kStartCode)

/-- The bytes of the video samples are the carried units, each behind its length. -/
theorem sample_bytes (av : LibAV) (base : Int → AVRational) (order : List MuxPacket) :
    ((order.map (sampleOf av base)).filter (·.streamIndex = 0)).flatMap AVPacket.data =
      (((order.filterMap MuxPacket.video?).flatMap fun pkt => nalUnits pkt.data).filter
        carried).flatMap (Framing.frame 4) := by
  rw [samples_video, List.flatMap_map, List.filter_flatMap, List.flatMap_assoc]
  exact List.flatMap_congr fun pkt _ => annexBToAvcc_sample pkt.data

theorem units_with_data (pkts : List VideoPacket) :
    ((pkts.filter (·.data ≠ [])).flatMap fun pkt => nalUnits pkt.data) =
      pkts.flatMap fun pkt => nalUnits pkt.data := by
  induction pkts with
  | nil => rfl
  | cons pkt pkts ih =>
    by_cases empty : pkt.data = []
    · rw [List.filter_cons_of_neg (by simp [empty]), ih, List.flatMap_cons, empty]
      rfl
    · rw [List.filter_cons_of_pos (by simp [empty]), List.flatMap_cons, ih, List.flatMap_cons]

section Recordings
variable {ls : List Delivery.Label}

/-- What the pushing example does with packets: the stream is sent all that is handed
on, up to the one that a recording fails at; once `Await` has returned `kOk` the raw file
holds all accepted video, and the video of the MP4 file is read back as the units of the
raw file without the parameter sets, if the video begins with a keyframe. -/
theorem record_and_push (av : LibAV) (config : MuxerConfig) (sink : Nat) {α π : Type}
    (send : α → MuxPacket → π → Status × α) (stream : Option α) {capacity : Capacity}
    {policy : Backpressure} {deadlineUs : Int}
    {t : Piped.Sys (Option α × FFmpegMuxer × RawH264Sink)} (keeps : policy ≠ .kLatest)
    (run : Run (Piped.Step (.recordAndPush (.tee (packetSink av) RawH264Sink.packetSink) send)
        deadlineUs)
      ⟨.new capacity policy, stream, fresh config sink, ⟨some { isOpen := true }⟩⟩ ls t) :
    Run (PacketSink.Sends send) stream (packets t.queue.await.calls) t.sink.1 ∧
    (t.queue.await.place = .returned .kOk →
      t.sink.2.2.disk = (Delivery.accepted .video ls).flatMap Media.video.data ∧
      ((∀ pkt ∈ Delivery.accepted .video ls, VideoPacket.data pkt ≠ [] →
          kStartCode <+: VideoPacket.data pkt) →
        (∀ pkt ∈ Delivery.accepted .video ls, ∀ unit ∈ nalUnits (VideoPacket.data pkt),
          unit.length < 2 ^ 32) →
        fromKeyframe (Delivery.accepted .video ls) =
          (Delivery.accepted .video ls).filter (VideoPacket.data · ≠ []) →
        Framing.parse 4 ((t.sink.2.1.handed.filter (·.streamIndex = 0)).flatMap AVPacket.data) =
          some ((nalUnits t.sink.2.2.disk).filter carried))) := by
  obtain ⟨queue, serves⟩ := Piped.run_serves run
  obtain ⟨recorded, sends⟩ := PacketSink.recordAndPush_run serves
  refine ⟨sends, fun place => ?_⟩
  obtain ⟨pushes, calls, clean, all⟩ := Piped.returned_delivers keeps queue place
  rw [calls] at recorded
  obtain ⟨u, pushed, finished⟩ := recorded.split
  obtain ⟨ds, es, muxed, stored, left, right⟩ := PacketSink.tee_run pushed
  have ended : t.sink.2.1.handed = u.1.handed ∧ t.sink.2.2.disk = u.2.taken := by
    cases finished with
    | next head tail =>
      cases tail
      obtain ⟨closes, flushes⟩ := PacketSink.tee_finishes head
      exact ⟨(serves_finish closes).2, RawH264Sink.finish_disk flushes⟩
  have raw : t.sink.2.2.disk = (Delivery.accepted .video ls).flatMap Media.video.data := by
    obtain ⟨-, took⟩ :=
      RawH264Sink.storing.run_takes stored (PacketSink.clean_shared right clean) rfl
    rw [ended.2, ← all .video, ← packets_video, ← PacketSink.packets_shared right, packets_video]
    exact took
  refine ⟨raw, fun coded fits whole => ?_⟩
  obtain ⟨without, samples⟩ := run_samples muxed (PacketSink.clean_shared left clean)
  rw [PacketSink.packets_shared left] at without samples
  have video : videoOf (packets pushes) =
      (Delivery.accepted .video ls).filter (VideoPacket.data · ≠ []) := by
    rw [← whole, videoOf, packets_video, all .video]
    rfl
  have units : nalUnits t.sink.2.2.disk =
      (Delivery.accepted .video ls).flatMap fun pkt => nalUnits (VideoPacket.data pkt) := by
    rw [raw]
    exact nalUnits_packets coded
  have kept : ((videoOf (packets pushes)).flatMap fun pkt => nalUnits pkt.data) =
      (Delivery.accepted .video ls).flatMap fun pkt => nalUnits (VideoPacket.data pkt) := by
    rw [video]
    exact units_with_data _
  have bytes : (t.sink.2.1.handed.filter (·.streamIndex = 0)).flatMap AVPacket.data =
      ((nalUnits t.sink.2.2.disk).filter carried).flatMap (Framing.frame 4) := by
    rw [ended.1, units, ← kept]
    by_cases none : videoOf (packets pushes) = []
    · rw [without none, none]
      rfl
    · rw [samples none, sample_bytes, owedOf_video]
  rw [bytes]
  apply Framing.parse_frames
  · intro unit member
    have among := List.mem_of_mem_filter member
    rw [units] at among
    obtain ⟨pkt, accepted, within⟩ := List.mem_flatMap.mp among
    exact fits pkt accepted unit within
  · decide

/-- One keyframe into both files, and to a stream that notes down what it is sent. -/
theorem record_and_push_keyframe :
    ∃ t : Piped.Sys (Option (List MuxPacket) × FFmpegMuxer × RawH264Sink),
      t.sink.1 = some [.video ⟨[0, 0, 0, 1, 0x65], 0, true⟩] ∧
      Framing.parse 4 ((t.sink.2.1.handed.filter (·.streamIndex = 0)).flatMap AVPacket.data) =
        some ((nalUnits t.sink.2.2.disk).filter carried) := by
  let frame : VideoPacket := ⟨[0, 0, 0, 1, 0x65], 0, true⟩
  let send (log : List MuxPacket) (p : MuxPacket) (_ : Unit) := (Status.kOk, log ++ [p])
  let replies : Unit × MuxReply × FileReply := ((), {}, { taken := 5, stored := 4 })
  have run : Run (Piped.Step (.recordAndPush
        (.tee (packetSink ⟨fun pts _ _ => pts⟩) RawH264Sink.packetSink) send) 1000)
      ⟨.new ⟨1, by decide⟩ .kBlock, some [], fresh { width := 2, height := 2 } 0,
        ⟨some { isOpen := true }⟩⟩
      [.push .video frame true, .markVideo, .pull .video .kOk (some frame),
        .sinkPush .video frame .kOk, .markAudio, .pull .audio .kEos none,
        .pull .video .kEos none, .sinkFinish .kOk] _ :=
    .next (.aside rfl (.push none (.pushEnter rfl))) <| .next (.aside rfl .markVideo) <|
      .next (.aside rfl (.pull rfl (.popEnter rfl))) <|
      .next (.calls rfl (.deliver rfl .kOk) (.push _ .video frame replies)) <|
      .next (.aside rfl (.markAudio Nat.one_pos)) <|
      .next (.aside rfl (.pull rfl (.popEnter rfl))) <|
      .next (.aside rfl (.pull rfl (.popEnter rfl))) <|
      .single (.calls rfl (.finish rfl .kOk) (.finish _ replies))
  have recorded := record_and_push _ _ 0 send _ (by decide) run
  exact ⟨_, rfl, (recorded.2 rfl).2 (by decide) (by decide) rfl⟩

end Recordings
end FFmpegMuxer
end VideoCodec
