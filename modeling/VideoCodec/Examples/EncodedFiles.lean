import VideoCodec.Examples.EncodeFile
import VideoCodec.Io.FileConsumer
import VideoCodec.Mux.NdkRecording

/-! The files that `encode_file` writes, from what comes out of the codecs: a raw one, and a
container of either backend. -/
namespace VideoCodec.EncodeFile

open SmpteBars Transition

section Files
variable {api : Encoders} {o : Options} {deadlineUs : Int} {video : api.Video}
  {audio : Option api.Audio} {pace : AudioPace} {capacity : Capacity}
  {labels : List (Option Delivery.Label)}

/-- With `--raw` the file is at any moment a prefix of the coded video, and once `Await` has
succeeded all of it but what `fclose` failed to write; if it wrote all, the file is read as
the units of the packets, one packet after the other, where these begin as such files do. -/
theorem raw_file {opened : Media → Bool} {t : Sys api FileConsumer}
    (run : Run (Step o FileConsumer.packetSink deadlineUs)
      (start video none pace capacity (.new (· = .video) opened)) labels t) :
    t.pipe.sink.disk .video <+: (t.main.coded .video).flatMap VideoPacket.data ∧
    (t.pipe.queue.await.place = .returned .kOk →
      t.pipe.sink.disk .video ++ t.pipe.sink.lost .video =
        (t.main.coded .video).flatMap VideoPacket.data ∧
      (t.pipe.sink.lost .video = [] →
        (∀ pkt ∈ t.main.coded .video, VideoPacket.data pkt ≠ [] →
          Android.kStartCode <+: VideoPacket.data pkt) →
        Android.nalUnits (t.pipe.sink.disk .video) =
          (t.main.coded .video).flatMap fun pkt => Android.nalUnits (VideoPacket.data pkt))) := by
  have inv := run_inv (start_inv video none pace capacity _) run
  have piped := run_pipe run
  have keeps : Backpressure.kBlock ≠ .kLatest := by decide
  refine ⟨?_, fun place => ?_⟩
  · apply (FileConsumer.disk_prefix keeps piped .video).trans
    exact (inv.accepted_prefix .video).flatMap Media.video.data
  · have joined := (inv.finished (Piped.run_queue piped) place).1
    have whole := FileConsumer.taken_video keeps piped place
    rw [inv.joined joined, FileConsumer.returned_closed keeps piped place] at whole
    refine ⟨whole, fun wrote coded => ?_⟩
    rw [wrote, List.append_nil] at whole
    rw [whole]
    exact nalUnits_packets coded

/-- One frame in a raw file, of which `fclose` writes the last two bytes. -/
theorem raw_file_frame :
    ∃ t : Sys (FFmpeg.encoders id id) FileConsumer,
      t.pipe.sink.disk .video = [0, 0, 0, 1, 0x65] := by
  let frame : VideoPacket := ⟨[0, 0, 0, 1, 0x65], 0, true⟩
  let replies : Media → FileReply := fun _ => { taken := 5, stored := 3 }
  have serves : FileConsumer.packetSink.Serves (.new (· = .video) fun _ => true)
      (.push .video frame .kOk) _ := .push _ .video frame replies
  obtain ⟨o, video, pace, capacity, labels, t, run, place, finished, coded⟩ :=
    ffmpeg_frame serves (.finish _ replies)
  have whole := ((raw_file run).2 place).1
  have wrote : t.pipe.sink.lost .video = [] := by
    rw [finished]
    rfl
  rw [coded, wrote, List.append_nil] at whole
  exact ⟨t, whole⟩

open FFmpegMuxer in
/-- Without `--raw` the container is closed once `Await` has succeeded, and has the samples
of all coded video with data from the first keyframe on and of all coded audio with data,
each medium in the order in which it was coded; without a keyframe it has none. -/
theorem mp4_file (av : LibAV) {config : MuxerConfig} {sink : Nat} {t : Sys api FFmpegMuxer}
    (run : Run (Step o (FFmpegMuxer.packetSink av) deadlineUs)
      (start video audio pace capacity (fresh config sink)) labels t)
    (place : t.pipe.queue.await.place = .returned .kOk) :
    t.pipe.sink.opened = false ∧
    (fromKeyframe (t.main.coded .video) = [] → t.pipe.sink.handed = []) ∧
    (fromKeyframe (t.main.coded .video) ≠ [] →
      ∃ (base : Int → AVRational) (order : List MuxPacket),
      t.pipe.sink.handed = order.map (sampleOf av base) ∧
      order.filterMap MuxPacket.video? = fromKeyframe (t.main.coded .video) ∧
      order.filterMap MuxPacket.audio? =
        (t.main.coded .audio).filter (AudioPacket.data · ≠ [])) := by
  obtain ⟨pushes, serves, clean, all⟩ := run_served run place
  rw [← all .video, ← all .audio]
  exact run_recorded serves clean

open FFmpegMuxer in
/-- One keyframe in a container. -/
theorem mp4_file_keyframe :
    ∃ t : Sys (FFmpeg.encoders id id) FFmpegMuxer, t.pipe.sink.opened = false ∧
      ∃ (base : Int → AVRational) (order : List MuxPacket),
        t.pipe.sink.handed = order.map (sampleOf ⟨fun pts _ _ => pts⟩ base) ∧
        order.filterMap MuxPacket.video? = [⟨[0, 0, 0, 1, 0x65], 0, true⟩] := by
  let frame : VideoPacket := ⟨[0, 0, 0, 1, 0x65], 0, true⟩
  have serves : (FFmpegMuxer.packetSink ⟨fun pts _ _ => pts⟩).Serves
      (fresh { width := 2, height := 2 } 0) (.push .video frame .kOk) _ :=
    .push _ .video frame ({} : MuxReply)
  obtain ⟨o, video, pace, capacity, labels, t, run, place, -, coded⟩ :=
    ffmpeg_frame serves (.finish _ ({} : MuxReply))
  obtain ⟨closed, -, samples⟩ := mp4_file ⟨fun pts _ _ => pts⟩ run place
  rw [coded] at samples
  obtain ⟨base, order, handed, kept, -⟩ := samples (by decide)
  exact ⟨t, closed, base, order, handed, kept⟩

open MediaCodecMuxer in
open FFmpegMuxer (fromKeyframe) in
/-- So it is with the NDK's muxer, whatever it answered; there `Await` has not succeeded
without a keyframe, nor without audio where that is configured, and the sink has got the
whole file that the NDK wrote. -/
theorem ndk_file (file : FileOf) {config : MuxerConfig} {sink : Nat} {t : Sys api MediaCodecMuxer}
    (run : Run (Step o (MediaCodecMuxer.packetSink file) deadlineUs)
      (start video audio pace capacity (fresh config sink)) labels t)
    (place : t.pipe.queue.await.place = .returned .kOk) :
    fromKeyframe (t.main.coded .video) ≠ [] ∧
    (config.audioCodec ≠ .kNone →
      (t.main.coded .audio).filter (AudioPacket.data · ≠ []) ≠ []) ∧
    ∃ order, MediaCodecMuxer.Recorded file sink t.pipe.sink order ∧
      order.filterMap MuxPacket.video? = fromKeyframe (t.main.coded .video) ∧
      order.filterMap MuxPacket.audio? =
        (t.main.coded .audio).filter (AudioPacket.data · ≠ []) := by
  obtain ⟨pushes, serves, clean, all⟩ := run_served run place
  rw [← all .video, ← all .audio]
  exact run_recorded serves clean

/-- A codec's output with the flag of a keyframe. -/
def keyframeBuffer : MediaCodec.OutputBuffer :=
  ⟨{ size := 14, flags := 1 }, MediaCodecMuxer.keyframe.data, by decide⟩

open MediaCodecMuxer in
/-- A keyframe that the codec makes of a rendered frame. -/
theorem ndk_file_surface :
    ∃ t : Sys MediaCodec.encoders MediaCodecMuxer, t.main.coded .video = [keyframe] ∧
      ∃ order, MediaCodecMuxer.Recorded (fun _ _ => [1, 2]) 0 t.pipe.sink order ∧
        order.filterMap MuxPacket.video? = [keyframe] := by
  let config : VideoConfig :=
    { width := 2, height := 2, inputFormat := .kI420, inputSurface := true }
  let e : MediaCodecVideoEncoder :=
    { (({ config } : MediaCodecVideoEncoder).init {}).2 with sink := some 0 }
  have created : CodecFactory.createAndroidVideo config (some 0) {} = .ok e := rfl
  let video : MediaCodec.encoders.Video :=
    ⟨e, CodecFactory.create_attached (fun _ _ => rfl) created⟩
  let out : MediaCodec.CodecReply :=
    { input := { size := none }, dequeued := [.buffer keyframeBuffer .kOk, .tryAgain false] }
  let o : Options := ⟨1, 2, 2, 30, true, fun _ => (0, 0, 0), fun _ _ => 0⟩
  let next := MediaCodec.encoders.poll video out
  have turned : Main.turn o ⟨.video 0, video, none, ⟨{}, 30, 0, 0⟩, [], fun _ => []⟩
      ⟨true, out, out⟩ = some ⟨.audio 0, next.encoder, none, ⟨{}, 30, 0, 0⟩,
        [⟨.video, keyframe, .kOk⟩], Function.update (fun _ => []) .video [keyframe]⟩ := rfl
  let idle : Reply MediaCodec.encoders := ⟨true, out, out⟩
  have flushed : (MediaCodec.encoders.flush next.encoder idle.video).pushed = [] := rfl
  obtain ⟨pushed, finished, serves, finishes, -⟩ := keyframe_serves
  obtain ⟨labels, t, run, place, -, coded⟩ := one_frame turned flushed serves finishes
  obtain ⟨-, -, order, recorded, kept, -⟩ := ndk_file (fun _ _ => [1, 2]) run place
  rw [coded] at kept
  exact ⟨t, coded, order, recorded, kept⟩

end Files
end VideoCodec.EncodeFile
