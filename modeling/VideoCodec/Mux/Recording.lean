import Mathlib.Data.List.TakeWhile
import VideoCodec.Mux.Interleaving
import VideoCodec.Queue.PacketSink

/-! The FFmpeg muxer as the sink of a queue. Nothing is assumed of libav: what a push
that returns `kOk` acknowledges is in the container, or waits for it to be opened. -/
namespace VideoCodec.FFmpegMuxer

open Fifo Transition

/-- What the libraries answer during one call. -/
structure MuxReply where
  video : PushReply := {}
  audio : PacketReply := {}
  close : CloseReply := {}

def packetSink (av : LibAV) : PacketSink FFmpegMuxer MuxReply where
  pushVideo m pkt reply := pushVideo av m pkt reply.video
  pushAudio m pkt reply := pushAudio av m pkt reply.audio
  finish m reply := m.finish reply.close

/-- The sample of a packet on the clocks of its container: video is stream 0, audio
stream 1. -/
def sampleOf (av : LibAV) (base : Int → AVRational) : MuxPacket → AVPacket
  | .video pkt =>
    { data := (annexBToAvcc pkt.data).2
      streamIndex := 0
      pts := av.rescaleQ pkt.ptsUs ⟨1, 1000000⟩ (base 0)
      dts := av.rescaleQ pkt.ptsUs ⟨1, 1000000⟩ (base 0)
      duration := 1
      key := pkt.keyframe }
  | .audio pkt =>
    { data := pkt.data
      streamIndex := 1
      pts := av.rescaleQ pkt.ptsUs ⟨1, 1000000⟩ (base 1)
      dts := av.rescaleQ pkt.ptsUs ⟨1, 1000000⟩ (base 1) }

/-- Of what becomes of a list, the part that comes from the elements selected. -/
theorem filter_map_select {α β γ : Type} {select : α → Option β} {f : α → γ} {g : β → γ}
    {p : γ → Bool} {xs : List α}
    (selected : ∀ x ∈ xs, ∀ y, select x = some y → f x = g y ∧ p (f x) = true)
    (others : ∀ x ∈ xs, select x = none → p (f x) = false) :
    (xs.map f).filter p = (xs.filterMap select).map g := by
  induction xs with
  | nil => rfl
  | cons x xs ih =>
    have rest := ih (fun y member => selected y (List.mem_cons_of_mem _ member))
      fun y member => others y (List.mem_cons_of_mem _ member)
    rw [List.map_cons]
    cases chosen : select x with
    | none =>
      rw [List.filter_cons_of_neg (by simp [others x List.mem_cons_self chosen]),
        List.filterMap_cons_none chosen]
      exact rest
    | some y =>
      obtain ⟨same, kept⟩ := selected x List.mem_cons_self y chosen
      rw [List.filter_cons_of_pos kept, List.filterMap_cons_some chosen, List.map_cons, rest, same]

/-- The samples of stream 0 are those of the video packets. -/
theorem samples_video (av : LibAV) (base : Int → AVRational) (order : List MuxPacket) :
    (order.map (sampleOf av base)).filter (·.streamIndex = 0) =
      (order.filterMap MuxPacket.video?).map fun pkt => sampleOf av base (.video pkt) := by
  apply filter_map_select
  · rintro (pkt | pkt) - y chosen
    · obtain rfl := Option.some.inj chosen
      exact ⟨rfl, rfl⟩
    · contradiction
  · rintro (pkt | pkt) - chosen
    · contradiction
    · rfl

theorem samples_audio (av : LibAV) (base : Int → AVRational) (order : List MuxPacket) :
    (order.map (sampleOf av base)).filter (·.streamIndex = 1) =
      (order.filterMap MuxPacket.audio?).map fun pkt => sampleOf av base (.audio pkt) := by
  apply filter_map_select
  · rintro (pkt | pkt) - y chosen
    · contradiction
    · obtain rfl := Option.some.inj chosen
      exact ⟨rfl, rfl⟩
  · rintro (pkt | pkt) - chosen
    · rfl
    · contradiction

/-- The muxer holds what a gate lets through, and what waits before it. -/
structure Holds (av : LibAV) (m : FFmpegMuxer) (g : Gate MuxPacket) : Prop where
  sink : m.out.sink.isSome = true
  lifted : g.lifted = m.opened
  video : m.opened = true → m.streamIndex = 0
  audio : m.audioStreamIndex = 1 ∨ m.audioStreamIndex < 0
  waiting : g.waiting = m.pendingAudio.map .audio
  passed : m.handed = g.passed.map (sampleOf av m.timeBase)

section Acknowledged
variable {av : LibAV} {m n : FFmpegMuxer} {g : Gate MuxPacket} {pkt : VideoPacket}
  {ap : AudioPacket} {reply : PacketReply} {push : PushReply}

theorem fresh_holds (av : LibAV) (config : MuxerConfig) (sink : Nat) :
    Holds av (fresh config sink) .down where
  sink := rfl
  lifted := rfl
  video := fun opened => absurd opened Bool.false_ne_true
  audio := .inr (show (-1 : Int) < 0 by decide)
  waiting := rfl
  passed := rfl

/-- Audio that is acknowledged was handed to an audio stream. -/
theorem writeAudio_acknowledged (ok : (writeAudioPacket av m ap reply).1 = .kOk)
    (index : m.audioStreamIndex = 1 ∨ m.audioStreamIndex < 0) :
    m.audioStreamIndex = 1 ∧ ∃ out : Output, out.sink = m.out.sink ∧
      writeAudioPacket av m ap reply =
        (.kOk, { m with out, handed := m.handed ++ [sampleOf av m.timeBase (.audio ap)] }) := by
  rcases writeAudioPacket_cases av m ap reply with ⟨-, refused⟩ | ⟨writable, handed⟩
  · rw [refused] at ok
    contradiction
  · have present := of_decide_eq_true (Bool.and_eq_true_iff.mp writable).1
    have stream : m.audioStreamIndex = 1 := by omega
    refine ⟨stream, m.out.serve .frame reply.write.io, Output.serve_sink .., ?_⟩
    rw [handed] at ok ⊢
    have written : ¬ reply.write.ret < 0 := by
      intro failed
      simp [failed] at ok
    have sample : audioSample av m ap = sampleOf av m.timeBase (.audio ap) := by
      simp [audioSample, sampleOf, clock, stream]
    rw [if_neg written, sample]
    rfl

theorem replayAudio_acknowledged {pkts : List AudioPacket} {replies : List PacketReply}
    (ok : (replayAudio av m pkts replies).1 = .kOk)
    (index : m.audioStreamIndex = 1 ∨ m.audioStreamIndex < 0) :
    ∃ out : Output, out.sink = m.out.sink ∧ replayAudio av m pkts replies =
      (.kOk,
        { m with out, handed := m.handed ++ (pkts.map .audio).map (sampleOf av m.timeBase) }) := by
  induction pkts generalizing m replies with
  | nil => exact ⟨m.out, rfl, by rw [List.map_nil, List.map_nil, List.append_nil]; rfl⟩
  | cons ap pkts ih =>
    rw [replayAudio] at ok ⊢
    by_cases first : (writeAudioPacket av m ap (replies.headD {})).1 = .kOk
    · obtain ⟨-, out, same, wrote⟩ := writeAudio_acknowledged first index
      simp only [first, ne_eq, not_true_eq_false, if_false] at ok ⊢
      rw [wrote] at ok ⊢
      obtain ⟨out', same', rest⟩ := ih ok index
      refine ⟨out', same'.trans same, rest.trans ?_⟩
      rw [List.append_assoc]
      rfl
    · rw [if_pos first] at ok
      contradiction

theorem writeVideo_acknowledged (ok : (writeVideoPacket av m pkt push).1 = .kOk)
    (index : m.streamIndex = 0) :
    ∃ out : Output, out.sink = m.out.sink ∧ writeVideoPacket av m pkt push =
      (.kOk, { m with out, handed := m.handed ++ [sampleOf av m.timeBase (.video pkt)] }) := by
  have sample : videoSample av m pkt = sampleOf av m.timeBase (.video pkt) := by
    simp [videoSample, sampleOf, clock, index]
  rw [writeVideoPacket] at ok ⊢
  by_cases converted : (annexBToAvcc pkt.data).1 = .kOk
  rotate_left
  · rw [if_pos converted] at ok
    contradiction
  rw [if_neg (not_not_intro converted)] at ok ⊢
  cases buffered : !push.packet.alloc || !push.packet.data with
  | true =>
    rw [buffered, if_pos rfl] at ok
    contradiction
  | false =>
    rw [buffered, if_neg Bool.false_ne_true] at ok
    rw [if_neg Bool.false_ne_true]
    by_cases failed : push.packet.write.ret < 0
    · rw [if_pos failed] at ok
      contradiction
    rw [if_neg failed] at ok ⊢
    cases committed : m.config.fragmented && pkt.keyframe with
    | true =>
      rw [committed, if_pos rfl] at ok
      refine ⟨((m.out.serve .frame push.packet.write.io).serve .ioFlush push.ioFlush).flush
        push.commit, ?_, ?_⟩
      · rw [Output.flush_sink, Output.serve_sink, Output.serve_sink]
      · rw [if_pos rfl]
        refine Prod.ext ok ?_
        rw [commit, hand, avio, avio, sample]
    | false =>
      refine ⟨m.out.serve .frame push.packet.write.io, Output.serve_sink .., ?_⟩
      rw [if_neg Bool.false_ne_true, hand, avio, sample]

/-- What a gate passes or keeps back when it is offered a packet. -/
theorem gate_offer (p : MuxPacket) :
    (g.run [.offer p]).lifted = g.lifted ∧
      (g.run [.offer p]).waiting = (if g.lifted then g.waiting else g.waiting ++ [p]) ∧
      (g.run [.offer p]).passed = if g.lifted then g.passed ++ [p] else g.passed :=
  ⟨rfl, rfl, rfl⟩

theorem pushAudio_acknowledged (holds : Holds av m g) (ok : (pushAudio av m ap reply).1 = .kOk) :
    (pushAudio av m ap reply).2.opened = m.opened ∧
      Holds av (pushAudio av m ap reply).2 (g.run (moves m.opened (.audio ap))) := by
  by_cases data : ap.data = []
  · have unchanged : pushAudio av m ap reply = (.kOk, m) := if_pos data
    rw [unchanged, moves_none (by simp [MuxPacket.owed, data])]
    exact ⟨rfl, holds⟩
  have attached : m.out.sink.isNone = false := Option.isNone_eq_false_iff.mpr holds.sink
  rw [moves_offer (by simp [MuxPacket.owed, data]) (.inr rfl)]
  obtain ⟨lifted, waiting, passed⟩ := @gate_offer g (.audio ap)
  rw [pushAudio, if_neg data, attached, if_neg Bool.false_ne_true] at ok ⊢
  by_cases aac : m.config.audioCodec = .kAAC
  rotate_left
  · rw [if_pos aac] at ok
    contradiction
  rw [if_neg (not_not_intro aac)] at ok ⊢
  cases opened : m.opened with
  | false =>
    have down := holds.lifted.trans opened
    refine ⟨opened, holds.sink, lifted.trans holds.lifted, holds.video, holds.audio, ?_, ?_⟩
    · rw [waiting, down, holds.waiting]
      simp
    · rw [passed, down, if_neg Bool.false_ne_true]
      exact holds.passed
  | true =>
    have up := holds.lifted.trans opened
    rw [opened] at ok
    obtain ⟨-, out, same, wrote⟩ := writeAudio_acknowledged ok holds.audio
    rw [Bool.not_true, if_neg Bool.false_ne_true, wrote]
    refine ⟨opened, ?_, lifted.trans holds.lifted, holds.video, holds.audio, ?_, ?_⟩
    · rw [same]
      exact holds.sink
    · rw [waiting, up, if_pos rfl]
      exact holds.waiting
    · rw [passed, up, if_pos rfl, List.map_append]
      exact congrArg (· ++ [sampleOf av m.timeBase (.audio ap)]) holds.passed

theorem pushVideo_acknowledged (holds : Holds av m g) (ok : (pushVideo av m pkt push).1 = .kOk) :
    (pushVideo av m pkt push).2.opened =
        (m.opened || (MuxPacket.owed m.opened (.video pkt) && pkt.keyframe)) ∧
      Holds av (pushVideo av m pkt push).2 (g.run (moves m.opened (.video pkt))) := by
  cases videoPush m pkt push with
  | idle none =>
    have free : MuxPacket.owed m.opened (.video pkt) = false := by
      rcases none with empty | detached | ⟨closed, delta⟩
      · simp [MuxPacket.owed, empty]
      · have sink := holds.sink
        rw [detached] at sink
        contradiction
      · simp [MuxPacket.owed, closed, delta]
    rw [pushVideo_idle none, moves_none free, free, Bool.false_and, Bool.or_false]
    exact ⟨rfl, holds⟩
  | onward data sink opened =>
    have owes : MuxPacket.owed m.opened (.video pkt) = true := by
      simp [MuxPacket.owed, data, opened]
    have up := holds.lifted.trans opened
    rw [pushVideo_onward data sink opened] at ok ⊢
    obtain ⟨out, same, wrote⟩ := writeVideo_acknowledged ok (holds.video opened)
    obtain ⟨lifted, waiting, passed⟩ := @gate_offer g (.video pkt)
    rw [wrote, moves_offer owes (.inl opened), opened, Bool.true_or]
    refine ⟨opened, ?_, lifted.trans holds.lifted, holds.video, holds.audio, ?_, ?_⟩
    · rw [same]
      exact holds.sink
    · rw [waiting, up, if_pos rfl]
      exact holds.waiting
    · rw [passed, up, if_pos rfl, List.map_append]
      exact congrArg (· ++ [sampleOf av m.timeBase (.video pkt)]) holds.passed
  | opening data sink closed key succeeds =>
    have owes : MuxPacket.owed m.opened (.video pkt) = true := by
      simp [MuxPacket.owed, data, key]
    have down := holds.lifted.trans closed
    obtain ⟨streams, -, pushed⟩ := pushVideo_opening av data sink closed key succeeds
    rw [pushed] at ok ⊢
    dsimp only at ok ⊢
    have index : (m.openedWith pkt push.opening streams).audioStreamIndex = 1 ∨
        (m.openedWith pkt push.opening streams).audioStreamIndex < 0 := by
      change m.audioIndex = 1 ∨ m.audioIndex < 0
      rw [audioIndex]
      split
      · exact .inl rfl
      · exact holds.audio
    by_cases replayed : (replayAudio av (m.openedWith pkt push.opening streams) m.pendingAudio
        push.replay).1 = .kOk
    rotate_left
    · rw [if_pos replayed] at ok
      contradiction
    obtain ⟨out, same, replay⟩ := replayAudio_acknowledged replayed index
    rw [replay, if_neg (not_not_intro rfl)] at ok ⊢
    obtain ⟨out', same', wrote⟩ := writeVideo_acknowledged ok rfl
    rw [wrote, moves_lift owes closed key, owes, key, Bool.and_self, Bool.or_true]
    refine ⟨rfl, ?_, rfl, fun _ => rfl, index, rfl, ?_⟩
    · rw [same']
      change out.sink.isSome = true
      rw [same]
      exact (congrArg Option.isSome (Output.serve_sink ..)).trans holds.sink
    · have empty := g.shut down
      simp only [Gate.run, Gate.move, Gate.offer, Gate.lift, if_true, List.foldl_cons,
        List.foldl_nil, empty, List.nil_append, holds.waiting, List.map_append]
      rfl
  | failing data sink closed key fails =>
    obtain ⟨index, failed, -⟩ := pushVideo_fails av data sink closed key fails
    rw [failed] at ok
    contradiction

end Acknowledged

/-- The video packets that belong in a container: those with data, from the first
keyframe on. -/
def fromKeyframe (pkts : List VideoPacket) : List VideoPacket :=
  (pkts.filter (·.data ≠ [])).dropWhile (!·.keyframe)

section Recordings
variable {av : LibAV} {m n : FFmpegMuxer} {g : Gate MuxPacket} {c : SinkCall}
  {cs : List SinkCall} {ls : List Delivery.Label}

theorem serves_acknowledged (holds : Holds av m g) (serves : (packetSink av).Serves m c n)
    (isPush : c.IsPush) (ok : c.status = .kOk) :
    ∃ p, c.packet? = some p ∧ n.opened = (m.opened || (p.owed m.opened && p.isKey)) ∧
      Holds av n (g.run (moves m.opened p)) := by
  cases serves with
  | finish => exact isPush.elim
  | push medium pkt reply =>
    cases medium with
    | video => exact ⟨.video pkt, rfl, pushVideo_acknowledged holds ok⟩
    | audio =>
      obtain ⟨opened, holds⟩ := pushAudio_acknowledged holds ok
      refine ⟨.audio pkt, rfl, opened.trans ?_, holds⟩
      change m.opened = (m.opened || (_ && false))
      rw [Bool.and_false, Bool.or_false]

/-- Pushes that are acknowledged move the gate, and only a keyframe with data opens
the container. -/
theorem run_acknowledged (holds : Holds av m g) (run : Run (packetSink av).Serves m cs n)
    (clean : ∀ c ∈ cs, c.IsPush ∧ c.status = .kOk) :
    Holds av n (g.run (movesOf m.opened (packets cs))) ∧
      (n.opened = true → m.opened = true ∨
        ∃ pkt, .video pkt ∈ packets cs ∧ pkt.data ≠ [] ∧ pkt.keyframe = true) := by
  induction run generalizing g with
  | refl => exact ⟨holds, .inl⟩
  | @next m c m' cs n head tail ih =>
    obtain ⟨⟨isPush, ok⟩, later⟩ := List.forall_mem_cons.mp clean
    obtain ⟨p, packet, opened, held⟩ := serves_acknowledged holds head isPush ok
    obtain ⟨rest, lives⟩ := ih held later
    have all : packets (c :: cs) = p :: packets cs := by
      rw [packets, List.filterMap_cons_some packet, ← packets]
    rw [all, movesOf, Gate.run_append, ← opened]
    refine ⟨rest, fun up => ?_⟩
    rcases lives up with before | ⟨pkt, member, data, key⟩
    · rw [opened, Bool.or_eq_true, Bool.and_eq_true] at before
      rcases before with earlier | ⟨owes, key⟩
      · exact .inl earlier
      · right
        cases p with
        | audio pkt => contradiction
        | video pkt =>
          refine ⟨pkt, List.mem_cons_self, ?_, key⟩
          rintro empty
          simp [MuxPacket.owed, empty] at owes
    · exact .inr ⟨pkt, List.mem_cons_of_mem _ member, data, key⟩

/-- The container behind acknowledged pushes: what belongs in it, in the order in which
it was pushed, or nothing without a keyframe. -/
theorem run_samples {config : MuxerConfig} {sink : Nat}
    (run : Run (packetSink av).Serves (fresh config sink) cs m)
    (clean : ∀ c ∈ cs, c.IsPush ∧ c.status = .kOk) :
    (videoOf (packets cs) = [] → m.handed = []) ∧
    (videoOf (packets cs) ≠ [] →
      m.handed = (owedOf false (packets cs)).map (sampleOf av m.timeBase)) := by
  obtain ⟨holds, lives⟩ := run_acknowledged (fresh_holds av config sink) run clean
  have order : (Gate.run .down (movesOf false (packets cs))).all = owedOf false (packets cs) := by
    rw [Gate.run_all, offered_movesOf]
    rfl
  change Holds av m (Gate.run .down (movesOf false (packets cs))) at holds
  generalize Gate.run .down (movesOf false (packets cs)) = g at order holds
  refine ⟨fun none => ?_, fun some => ?_⟩
  · -- a container that had opened would have a keyframe
    have shut : m.opened = false := by
      by_contra up
      rcases lives (by simpa using up) with before | ⟨pkt, member, data, key⟩
      · contradiction
      · have among : pkt ∈ ((packets cs).filterMap MuxPacket.video?).filter (·.data ≠ []) :=
          List.mem_filter.mpr ⟨List.mem_filterMap.mpr ⟨_, member, rfl⟩, decide_eq_true data⟩
        have dropped := List.dropWhile_eq_nil_iff.mp none pkt among
        simp [key] at dropped
    rw [holds.passed, g.shut (holds.lifted.trans shut)]
    rfl
  · have up : m.opened = true := by
      by_contra shut
      have down := holds.lifted.trans (by simpa using shut)
      apply some
      rw [← owedOf_video, ← order, Gate.all, g.shut down, List.nil_append, holds.waiting,
        filterMap_video_map]
    rw [holds.passed, ← order, Gate.all, g.clear (holds.lifted.trans up), List.append_nil]

/-- `Finish` closes the container and forgets no sample. -/
theorem finish_closes (m : FFmpegMuxer) (reply : CloseReply) :
    (m.finish reply).2.opened = false ∧ (m.finish reply).2.handed = m.handed := by
  rw [finish]
  cases opened : m.opened with
  | true => exact ⟨rfl, rfl⟩
  | false => exact ⟨opened, rfl⟩

theorem serves_finish (serves : (packetSink av).Serves m (.finish status) n) :
    n.opened = false ∧ n.handed = m.handed := by
  obtain ⟨reply, result⟩ := serves.finished
  have closes := finish_closes m reply.close
  rwa [show m.finish reply.close = (status, n) from result] at closes

/-- The container behind acknowledged pushes and `Finish`. -/
theorem run_recorded {config : MuxerConfig} {sink : Nat} {pushes : List SinkCall}
    (run : Run (packetSink av).Serves (fresh config sink) (pushes ++ [.finish status]) m)
    (clean : ∀ c ∈ pushes, c.IsPush ∧ c.status = .kOk) :
    m.opened = false ∧
    (fromKeyframe (VideoCodec.handed .video pushes) = [] → m.handed = []) ∧
    (fromKeyframe (VideoCodec.handed .video pushes) ≠ [] →
      ∃ (base : Int → AVRational) (order : List MuxPacket),
      m.handed = order.map (sampleOf av base) ∧
      order.filterMap MuxPacket.video? = fromKeyframe (VideoCodec.handed .video pushes) ∧
      order.filterMap MuxPacket.audio? =
        (VideoCodec.handed .audio pushes).filter (AudioPacket.data · ≠ [])) := by
  obtain ⟨u, pushed, finished⟩ := run.split
  obtain ⟨without, samples⟩ := run_samples pushed clean
  have closed : m.opened = false ∧ m.handed = u.handed := by
    cases finished with
    | next head tail =>
      cases tail
      exact serves_finish head
  have video : videoOf (packets pushes) = fromKeyframe (VideoCodec.handed .video pushes) := by
    rw [videoOf, packets_video]
    rfl
  rw [video] at without samples
  rw [closed.2]
  refine ⟨closed.1, without, fun some => ⟨_, _, samples some, ?_, ?_⟩⟩
  · rw [owedOf_video, video]
  · rw [owedOf_audio, audioOf, packets_audio]

/-- What a muxed recording holds, whatever the libraries answered: once `Await` has
returned `kOk` the container is closed and has the samples of all accepted video with
data from the first keyframe on and of all accepted audio with data, in the order in
which they were pushed. Without a keyframe nothing was recorded, audio included. -/
theorem mp4_recording (av : LibAV) (config : MuxerConfig) (sink : Nat) {capacity : Capacity}
    {policy : Backpressure} {deadlineUs : Int} {t : Piped.Sys FFmpegMuxer}
    (keeps : policy ≠ .kLatest)
    (run : Run (Piped.Step (packetSink av) deadlineUs)
      ⟨.new capacity policy, fresh config sink⟩ ls t)
    (place : t.queue.await.place = .returned .kOk) :
    t.sink.opened = false ∧
    (fromKeyframe (Delivery.accepted .video ls) = [] → t.sink.handed = []) ∧
    (fromKeyframe (Delivery.accepted .video ls) ≠ [] →
      ∃ (base : Int → AVRational) (order : List MuxPacket),
      t.sink.handed = order.map (sampleOf av base) ∧
      order.filterMap MuxPacket.video? = fromKeyframe (Delivery.accepted .video ls) ∧
      order.filterMap MuxPacket.audio? =
        (Delivery.accepted .audio ls).filter (AudioPacket.data · ≠ [])) := by
  obtain ⟨queue, serves⟩ := Piped.run_serves run
  obtain ⟨pushes, calls, clean, all⟩ := Piped.returned_delivers keeps queue place
  rw [calls] at serves
  rw [← all .video, ← all .audio]
  exact run_recorded serves clean

/-- One keyframe between the two updates of `MarkEos`. -/
theorem mp4_recording_keyframe :
    ∃ t : Piped.Sys FFmpegMuxer, t.sink.opened = false ∧
      t.sink.handed.map AVPacket.data = [[0, 0, 0, 1, 0x65]] ∧
      (fromKeyframe [⟨[0, 0, 1, 0x65], 0, true⟩] ≠ [] →
        ∃ (base : Int → AVRational) (order : List MuxPacket),
          t.sink.handed = order.map (sampleOf ⟨fun pts _ _ => pts⟩ base) ∧
          order.filterMap MuxPacket.video? = fromKeyframe [⟨[0, 0, 1, 0x65], 0, true⟩] ∧
          order.filterMap MuxPacket.audio? = []) := by
  let frame : VideoPacket := ⟨[0, 0, 1, 0x65], 0, true⟩
  have run : Run (Piped.Step (packetSink ⟨fun pts _ _ => pts⟩) 1000)
      ⟨.new ⟨1, by decide⟩ .kBlock, fresh { width := 2, height := 2 } 0⟩
      [.push .video frame true, .markVideo, .pull .video .kOk (some frame),
        .sinkPush .video frame .kOk, .markAudio, .pull .audio .kEos none,
        .pull .video .kEos none, .sinkFinish .kOk] _ :=
    .next (.aside rfl (.push none (.pushEnter rfl))) <| .next (.aside rfl .markVideo) <|
      .next (.aside rfl (.pull rfl (.popEnter rfl))) <|
      .next (.calls rfl (.deliver rfl .kOk) (.push _ .video frame ({} : MuxReply))) <|
      .next (.aside rfl (.markAudio Nat.one_pos)) <|
      .next (.aside rfl (.pull rfl (.popEnter rfl))) <|
      .next (.aside rfl (.pull rfl (.popEnter rfl))) <|
      .single (.calls rfl (.finish rfl .kOk) (.finish _ ({} : MuxReply)))
  have recorded := mp4_recording _ _ 0 (by decide) run rfl
  exact ⟨_, recorded.1, by decide, recorded.2.2⟩

end Recordings
end VideoCodec.FFmpegMuxer
