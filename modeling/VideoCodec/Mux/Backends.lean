import Mathlib.Data.List.Forall2
import VideoCodec.Mux.NdkRecording

/-! The two muxer backends beside one another. What they are pushed is the same, and so
is what their recordings hold: the one frames units by their lengths and leaves parameter
sets to its header, the other keeps start codes. -/
namespace VideoCodec

open Android (nalUnits kStartCode startCodeLength)
open Fifo Transition

/-- Two samples of one video packet. The NDK reads a sample as if a start code stood
before it. -/
structure SameVideo (av : LibAV) (base : AVRational)
    (a : AVPacket) (s : PendingSample) : Prop where
  units : Framing.parse 4 a.data =
    some ((nalUnits (kStartCode ++ s.data)).filter FFmpegMuxer.carried)
  pts : a.pts = av.rescaleQ s.ptsUs ⟨1, 1000000⟩ base
  key : a.key = s.keyframe

/-- Two samples of one audio packet. -/
structure SameAudio (av : LibAV) (base : AVRational)
    (a : AVPacket) (s : PendingSample) : Prop where
  data : a.data = s.data
  pts : a.pts = av.rescaleQ s.ptsUs ⟨1, 1000000⟩ base

theorem sameVideo (av : LibAV) (base : Int → AVRational) (m : MediaCodecMuxer) {pkt : VideoPacket}
    (coded : startCodeLength pkt.data ≠ 0)
    (fits : ∀ unit ∈ nalUnits pkt.data, unit.length < 2 ^ 32) :
    SameVideo av (base 0) (FFmpegMuxer.sampleOf av base (.video pkt)) (m.videoSample pkt) where
  units := by
    change Framing.parse 4 (FFmpegMuxer.annexBToAvcc pkt.data).2 =
      some ((nalUnits (kStartCode ++ MediaCodecMuxer.withoutStartCode pkt.data)).filter _)
    rw [MediaCodecMuxer.withoutStartCode_eq, Android.nalUnits_strip coded,
      FFmpegMuxer.annexBToAvcc_sample]
    exact Framing.parse_frames (fun unit member => fits unit (List.mem_of_mem_filter member))
      (by decide)
  pts := rfl
  key := rfl

/-- Two recordings of the same accepted packets, one with each backend, of any queues and
however producers and drains ran: once both have succeeded, the samples of each medium are
the same one for one, with the units of a video sample but for the parameter sets, the
times on the clock of the container, the keyframe flags and the bytes of the audio. -/
theorem backends_agree (av : LibAV) (file : MediaCodecMuxer.FileOf) {config : MuxerConfig}
    {ls ks : List Delivery.Label} {f : Piped.Sys FFmpegMuxer} {n : Piped.Sys MediaCodecMuxer}
    {sink sink' : Nat} {capacity capacity' : Capacity} {policy policy' : Backpressure}
    {deadlineUs deadlineUs' : Int} (keeps : policy ≠ .kLatest) (keeps' : policy' ≠ .kLatest)
    (ffmpeg : Run (Piped.Step (FFmpegMuxer.packetSink av) deadlineUs)
      ⟨.new capacity policy, FFmpegMuxer.fresh config sink⟩ ls f)
    (android : Run (Piped.Step (MediaCodecMuxer.packetSink file) deadlineUs')
      ⟨.new capacity' policy', MediaCodecMuxer.fresh config sink'⟩ ks n)
    (place : f.queue.await.place = .returned .kOk) (place' : n.queue.await.place = .returned .kOk)
    (same : ∀ m, Delivery.accepted m ls = Delivery.accepted m ks)
    (coded : ∀ pkt ∈ Delivery.accepted .video ls, VideoPacket.data pkt ≠ [] →
      startCodeLength (VideoPacket.data pkt) ≠ 0)
    (fits : ∀ pkt ∈ Delivery.accepted .video ls, ∀ unit ∈ nalUnits (VideoPacket.data pkt),
      unit.length < 2 ^ 32)
    (apart : n.sink.videoTrack ≠ n.sink.audioTrack) :
    ∃ base : Int → AVRational,
      List.Forall₂ (SameVideo av (base 0)) (f.sink.handed.filter (·.streamIndex = 0))
        (n.sink.written.filter fun sample => (sample.track : Int) = n.sink.videoTrack) ∧
      List.Forall₂ (SameAudio av (base 1)) (f.sink.handed.filter (·.streamIndex = 1))
        (n.sink.written.filter fun sample => (sample.track : Int) = n.sink.audioTrack) := by
  obtain ⟨queue, serves⟩ := Piped.run_serves ffmpeg
  obtain ⟨pushes, calls, clean, all⟩ := Piped.returned_delivers keeps queue place
  rw [calls] at serves
  obtain ⟨queue', serves'⟩ := Piped.run_serves android
  obtain ⟨pushes', calls', clean', all'⟩ := Piped.returned_delivers keeps' queue' place'
  rw [calls'] at serves'
  have delivered : ∀ m, handed m pushes' = handed m pushes := fun m =>
    (all' m).trans ((same m).symm.trans (all m).symm)
  obtain ⟨keyed, -, order', recorded, video', audio'⟩ :=
    MediaCodecMuxer.run_recorded serves' clean'
  rw [delivered] at keyed video' audio'
  obtain ⟨-, -, samples⟩ := FFmpegMuxer.run_recorded serves clean
  obtain ⟨base, order, handed, video, audio⟩ := samples keyed
  refine ⟨base, ?_, ?_⟩
  · rw [handed, FFmpegMuxer.samples_video, recorded.video apart, video, video',
      List.forall₂_map_left_iff, List.forall₂_map_right_iff, List.forall₂_same]
    intro pkt member
    have among := List.mem_filter.mp ((List.dropWhile_suffix _).mem member)
    rw [all .video] at among
    have nonempty := of_decide_eq_true among.2
    exact sameVideo av base n.sink (coded pkt among.1 nonempty) (fits pkt among.1)
  · rw [handed, FFmpegMuxer.samples_audio, recorded.audio apart, audio, audio',
      List.forall₂_map_left_iff, List.forall₂_map_right_iff, List.forall₂_same]
    exact fun pkt _ => ⟨rfl, rfl⟩

open MediaCodecMuxer (keyframe one_keyframe) in
/-- One keyframe with its parameter sets, recorded by both. -/
theorem backends_agree_keyframe :
    ∃ (f : Piped.Sys FFmpegMuxer) (n : Piped.Sys MediaCodecMuxer) (base : AVRational),
      (f.sink.handed.map AVPacket.data = [[0, 0, 0, 1, 0x65]]) ∧
      List.Forall₂ (SameVideo ⟨fun pts _ _ => pts⟩ base)
        (f.sink.handed.filter (·.streamIndex = 0))
        (n.sink.written.filter fun sample => (sample.track : Int) = n.sink.videoTrack) := by
  obtain ⟨n, android, place, apart, -⟩ := one_keyframe
  have ffmpeg : Run (Piped.Step (FFmpegMuxer.packetSink ⟨fun pts _ _ => pts⟩) 1000)
      ⟨.new ⟨1, by decide⟩ .kBlock, FFmpegMuxer.fresh { width := 2, height := 2 } 0⟩
      [.push .video keyframe true, .markVideo, .pull .video .kOk (some keyframe),
        .sinkPush .video keyframe .kOk, .markAudio, .pull .audio .kEos none,
        .pull .video .kEos none, .sinkFinish .kOk] _ :=
    .next (.aside rfl (.push none (.pushEnter rfl))) <| .next (.aside rfl .markVideo) <|
      .next (.aside rfl (.pull rfl (.popEnter rfl))) <|
      .next (.calls rfl (.deliver rfl .kOk)
        (.push _ .video keyframe ({} : FFmpegMuxer.MuxReply))) <|
      .next (.aside rfl (.markAudio Nat.one_pos)) <|
      .next (.aside rfl (.pull rfl (.popEnter rfl))) <|
      .next (.aside rfl (.pull rfl (.popEnter rfl))) <|
      .single (.calls rfl (.finish rfl .kOk) (.finish _ ({} : FFmpegMuxer.MuxReply)))
  obtain ⟨base, video, -⟩ := backends_agree _ _ (by decide) (by decide) ffmpeg android rfl place
    (fun _ => rfl) (by decide) (by decide) apart
  exact ⟨_, _, base 0, by decide, video⟩

end VideoCodec
