import VideoCodec.Fifo.Gate
import VideoCodec.Mux.Opening

/-! Where nothing fails, the container gets every packet that belongs in it: the
muxer is a gate that the first keyframe lifts. -/
namespace VideoCodec.FFmpegMuxer

open Fifo

/-- No call into libav fails. -/
structure PacketSucceeds (reply : PacketReply) : Prop where
  alloc : reply.alloc = true
  data : reply.data = true
  write : 0 ≤ reply.write.ret

structure OpenSucceeds (reply : OpenReply) : Prop where
  context : reply.context = true
  videoStream : reply.videoStream = true
  videoExtradata : reply.videoExtradata = true
  audioStream : reply.audioStream = true
  audioExtradata : reply.audioExtradata = true
  ioBuffer : reply.ioBuffer = true
  avio : reply.avio = true
  header : 0 ≤ reply.header.ret

structure LibSucceeds (reply : PushReply) : Prop where
  opening : OpenSucceeds reply.opening
  replay : ∀ each ∈ reply.replay, PacketSucceeds each
  packet : PacketSucceeds reply.packet

/-- Nor does the sink fail to flush. -/
structure PushSucceeds (reply : PushReply) : Prop extends LibSucceeds reply where
  commit : reply.commit = true

/-- A push by which libav does not fail. -/
def AvSucceeds : Call → Prop
  | .pushVideo _ reply => LibSucceeds reply
  | .pushAudio _ reply => PacketSucceeds reply
  | _ => False

/-- A push by which nothing fails. -/
def Succeeds : Call → Prop
  | .pushVideo _ reply => PushSucceeds reply
  | .pushAudio _ reply => PacketSucceeds reply
  | _ => False

/-- What a call pushes. -/
def pushed : Call → Option MuxPacket
  | .pushVideo pkt _ => some (.video pkt)
  | .pushAudio pkt _ => some (.audio pkt)
  | _ => none

/-- Every video packet from the first keyframe on has a unit that is no SPS or PPS. -/
def Carry (calls : List Call) : Prop :=
  ∀ pkt ∈ videoOf (calls.filterMap pushed),
    ∃ unit ∈ Android.nalUnits pkt.data, carried unit = true

instance (calls : List Call) : Decidable (Carry calls) :=
  inferInstanceAs (Decidable (∀ pkt ∈ _, _))

/-- A config whose audio track the container can describe. -/
structure Representable (config : MuxerConfig) : Prop where
  aac : config.audioCodec = .kAAC
  asc : ∃ asc, buildAudioSpecificConfig config.sampleRate config.channels = .ok asc

def fresh (config : MuxerConfig) (sink : Nat) : FFmpegMuxer :=
  { config, out := { sink := some sink } }

def after (av : LibAV) (m : FFmpegMuxer) (calls : List Call) : FFmpegMuxer :=
  calls.foldl (fun m c => (call av m c).2) m

def statuses (av : LibAV) (m : FFmpegMuxer) : List Call → List Status
  | [] => []
  | c :: calls => (call av m c).1 :: statuses av (call av m c).2 calls

def audioHanded (m : FFmpegMuxer) : List AVPacket :=
  m.handed.filter fun avpkt => avpkt.streamIndex = m.audioStreamIndex

/-- The sample of a packet in the open container. -/
def form (av : LibAV) (m : FFmpegMuxer) : MuxPacket → AVPacket
  | .video pkt => videoSample av m pkt
  | .audio pkt => audioSample av m pkt

/-- What a push does to the gate. -/
def moves (live : Bool) (p : MuxPacket) : List (Move MuxPacket) :=
  if p.owed live then
    if !live && p.isKey then [.lift, .offer p] else [.offer p]
  else []

/-- The muxer shows a gate: packets wait in `pendingAudio` and pass into the container. -/
structure Shows (av : LibAV) (m : FFmpegMuxer) (g : Gate MuxPacket) : Prop where
  representable : Representable m.config
  sink : m.out.sink.isSome = true
  lifted : g.lifted = m.opened
  video : m.opened = true → m.streamIndex = 0
  audio : m.opened = true → m.audioStreamIndex = 1
  waiting : g.waiting = m.pendingAudio.map .audio
  passed : m.handed = g.passed.map (form av m)

section Moves
variable {live : Bool} {p : MuxPacket}

theorem moves_none (free : p.owed live = false) : moves live p = [] := by
  rw [moves, free, if_neg Bool.false_ne_true]

theorem moves_offer (owes : p.owed live = true) (steady : live = true ∨ p.isKey = false) :
    moves live p = [.offer p] := by
  rw [moves, owes, if_pos rfl, if_neg]
  rcases steady with rfl | delta
  · simp
  · simp [delta]

theorem moves_lift (owes : p.owed live = true) (closed : live = false) (key : p.isKey = true) :
    moves live p = [.lift, .offer p] := by
  rw [moves, owes, closed, key]
  rfl

end Moves

section Successes
variable {av : LibAV} {m : FFmpegMuxer}

theorem writeAudioPacket_succeeds (av : LibAV) (pkt : AudioPacket) {reply : PacketReply}
    (succeeds : PacketSucceeds reply) (present : 0 ≤ m.audioStreamIndex) :
    ∃ out : Output, out.sink = m.out.sink ∧ writeAudioPacket av m pkt reply =
      (.kOk, { m with out, handed := m.handed ++ [audioSample av m pkt] }) := by
  refine ⟨m.out.serve .frame reply.write.io, Output.serve_sink .., ?_⟩
  rcases writeAudioPacket_cases av m pkt reply with ⟨unwritable, _⟩ | ⟨_, handed⟩
  · rw [decide_eq_true present, succeeds.alloc, succeeds.data] at unwritable
    exact absurd unwritable.symm Bool.false_ne_true
  · rw [handed, if_neg (Int.not_lt.mpr succeeds.write)]
    rfl

theorem replayAudio_succeeds (av : LibAV) (pkts : List AudioPacket) {replies : List PacketReply}
    (succeed : ∀ reply ∈ replies, PacketSucceeds reply) (present : 0 ≤ m.audioStreamIndex) :
    ∃ out : Output, out.sink = m.out.sink ∧ replayAudio av m pkts replies =
      (.kOk, { m with out, handed := m.handed ++ pkts.map (audioSample av m) }) := by
  induction pkts generalizing m replies with
  | nil => exact ⟨m.out, rfl, by rw [List.map_nil, List.append_nil]; rfl⟩
  | cons pkt pkts ih =>
    have first : PacketSucceeds (replies.headD {}) := by
      cases replies with
      | nil => exact ⟨rfl, rfl, Int.le_refl _⟩
      | cons reply replies => exact succeed reply List.mem_cons_self
    obtain ⟨out, same, wrote⟩ := writeAudioPacket_succeeds av pkt first present
    obtain ⟨out', same', replayed⟩ :=
      @ih { m with out, handed := m.handed ++ [audioSample av m pkt] } replies.tail
        (fun reply member => succeed reply (List.mem_of_mem_tail member))
        present
    refine ⟨out', same'.trans same, ?_⟩
    rw [replayAudio]
    rw [wrote]
    dsimp only
    rw [if_neg (by decide), replayed, List.append_assoc]
    rfl

theorem writeVideoPacket_succeeds (av : LibAV) {pkt : VideoPacket} {reply : PushReply}
    (succeeds : PushSucceeds reply) (sample : (annexBToAvcc pkt.data).1 = .kOk) :
    ∃ out : Output, out.sink = m.out.sink ∧ writeVideoPacket av m pkt reply =
      (.kOk, { m with out, handed := m.handed ++ [videoSample av m pkt] }) := by
  rw [writeVideoPacket]
  rw [sample, succeeds.packet.alloc, succeeds.packet.data]
  dsimp only
  rw [if_neg (by decide), if_neg (by decide), if_neg (Int.not_lt.mpr succeeds.packet.write)]
  split
  · refine ⟨((m.out.serve .frame reply.packet.write.io).serve .ioFlush reply.ioFlush).flush
      reply.commit, ?_, ?_⟩
    · rw [Output.flush_sink, Output.serve_sink, Output.serve_sink]
    · rw [commit, succeeds.commit, Output.flushed, Bool.or_true, if_pos rfl]
      rfl
  · exact ⟨_, Output.serve_sink .., rfl⟩

theorem opens_succeeds {config : MuxerConfig} (first : VideoPacket) {reply : OpenReply}
    (representable : Representable config) (succeeds : OpenSucceeds reply) :
    opens config first reply = true := by
  obtain ⟨asc, built⟩ := representable.asc
  have audio : audioStreams config reply = some [audioStream config asc] := by
    rw [audioStreams]
    rw [if_pos representable.aac, succeeds.audioStream, built, succeeds.audioExtradata]
    rfl
  have video : ∃ extradata, videoExtradata first reply.videoExtradata = some extradata := by
    rw [videoExtradata]
    rw [succeeds.videoExtradata]
    split
    · exact ⟨_, rfl⟩
    · exact ⟨_, rfl⟩
  obtain ⟨extradata, video⟩ := video
  rw [opens, asksHeader, openStreams]
  rw [succeeds.context, succeeds.videoStream, video, audio, succeeds.ioBuffer, succeeds.avio]
  exact decide_eq_true succeeds.header

/-- A keyframe opens the container, the waiting audio goes in, and the keyframe. -/
theorem pushVideo_lifts (av : LibAV) {pkt : VideoPacket} {reply : PushReply} (data : pkt.data ≠ [])
    (sink : m.out.sink.isSome = true) (closed : m.opened = false) (key : pkt.keyframe = true)
    (representable : Representable m.config) (succeeds : PushSucceeds reply)
    (sample : (annexBToAvcc pkt.data).1 = .kOk) :
    ∃ n : FFmpegMuxer, pushVideo av m pkt reply = (.kOk, n) ∧ n.config = m.config ∧
      n.out.sink = m.out.sink ∧ n.opened = true ∧ n.streamIndex = 0 ∧ n.audioStreamIndex = 1 ∧
      n.pendingAudio = [] ∧
      n.handed = m.pendingAudio.map (audioSample av n) ++ [videoSample av n pkt] := by
  obtain ⟨streams, _, pushed⟩ := pushVideo_opening av data sink closed key
    (opens_succeeds pkt representable succeeds.opening)
  have index : m.audioIndex = 1 := if_pos representable.aac
  have present : 0 ≤ (m.openedWith pkt reply.opening streams).audioStreamIndex := by
    change 0 ≤ m.audioIndex
    omega
  obtain ⟨out, same, replayed⟩ := replayAudio_succeeds av m.pendingAudio succeeds.replay
    present
  obtain ⟨out', same', wrote⟩ := writeVideoPacket_succeeds av
    (m := { m.openedWith pkt reply.opening streams with
      out
      pendingAudio := []
      handed :=
        [] ++ m.pendingAudio.map (audioSample av (m.openedWith pkt reply.opening streams)) })
    succeeds sample
  refine ⟨_, Eq.trans ?_ wrote, rfl, ?_, rfl, rfl, index, rfl, rfl⟩
  · rw [pushed, replayed]
    rfl
  · exact (same'.trans same).trans (Output.serve_sink ..)

end Successes

section Pushes
variable {av : LibAV} {m : FFmpegMuxer} {g : Gate MuxPacket}

theorem fresh_shows (av : LibAV) {config : MuxerConfig} (representable : Representable config)
    (sink : Nat) :
    Shows av (fresh config sink) .down where
  representable := representable
  sink := rfl
  lifted := rfl
  video := fun opened => absurd opened Bool.false_ne_true
  audio := fun opened => absurd opened Bool.false_ne_true
  waiting := rfl
  passed := rfl

/-- Audio waits for the opening, and goes straight in behind it. -/
theorem pushAudio_shows (shows : Shows av m g) (pkt : AudioPacket) {reply : PacketReply}
    (succeeds : PacketSucceeds reply) :
    ∃ n, pushAudio av m pkt reply = (.kOk, n) ∧ n.opened = m.opened ∧
      Shows av n (g.run (moves m.opened (.audio pkt))) := by
  have attached : m.out.sink.isNone = false := Option.isNone_eq_false_iff.mpr shows.sink
  have aac := shows.representable.aac
  by_cases data : pkt.data = []
  · refine ⟨m, if_pos data, rfl, ?_⟩
    rw [moves_none (by simp [MuxPacket.owed, data])]
    exact shows
  rw [moves_offer (by simp [MuxPacket.owed, data]) (.inr rfl)]
  rw [pushAudio]
  rw [if_neg data, attached, if_neg Bool.false_ne_true, if_neg (not_not_intro aac)]
  cases opened : m.opened with
  | false =>
    refine ⟨_, rfl, opened, shows.representable, shows.sink, shows.lifted,
      fun opened' => absurd (opened.symm.trans opened') Bool.false_ne_true,
      fun opened' => absurd (opened.symm.trans opened') Bool.false_ne_true, ?_, ?_⟩
    · have down := shows.lifted.trans opened
      simp [Gate.run, Gate.move, Gate.offer, down, shows.waiting]
    · have down := shows.lifted.trans opened
      have passed := shows.passed
      rw [g.shut down] at passed
      simp [Gate.run, Gate.move, Gate.offer, down, g.shut down, passed]
  | true =>
    have present : 0 ≤ m.audioStreamIndex := by
      rw [shows.audio opened]
      decide
    obtain ⟨out, same, wrote⟩ := writeAudioPacket_succeeds av pkt succeeds present
    refine ⟨_, wrote, opened, shows.representable, ?_, shows.lifted, shows.video, shows.audio,
      ?_, ?_⟩
    · rw [same]
      exact shows.sink
    · have up := shows.lifted.trans opened
      simp [Gate.run, Gate.move, Gate.offer, up, shows.waiting]
    · have up := shows.lifted.trans opened
      simp only [Gate.run, Gate.move, Gate.offer, up, if_true, List.foldl_cons, List.foldl_nil,
        List.map_append, shows.passed]
      rfl

/-- The first keyframe lifts the gate, and later video follows. -/
theorem pushVideo_shows (shows : Shows av m g) {pkt : VideoPacket} {reply : PushReply}
    (succeeds : PushSucceeds reply)
    (sample : MuxPacket.owed m.opened (.video pkt) = true → (annexBToAvcc pkt.data).1 = .kOk) :
    ∃ n, pushVideo av m pkt reply = (.kOk, n) ∧
      n.opened = (m.opened || (MuxPacket.owed m.opened (.video pkt) && pkt.keyframe)) ∧
      Shows av n (g.run (moves m.opened (.video pkt))) := by
  cases videoPush m pkt reply with
  | idle none =>
    have attached : m.out.sink.isNone = false := Option.isNone_eq_false_iff.mpr shows.sink
    have free : MuxPacket.owed m.opened (.video pkt) = false := by
      rcases none with empty | detached | ⟨closed, delta⟩
      · simp [MuxPacket.owed, empty]
      · rw [detached] at attached
        cases attached
      · simp [MuxPacket.owed, closed, delta]
    refine ⟨m, ?_, by rw [free, Bool.false_and, Bool.or_false], ?_⟩
    · rw [pushVideo]
      rcases none with empty | detached | ⟨closed, delta⟩
      · exact if_pos empty
      · rw [detached] at attached
        cases attached
      · rw [attached, closed, delta]
        simp
    · rw [moves_none free]
      exact shows
  | onward data sink opened =>
    have owes : MuxPacket.owed m.opened (.video pkt) = true := by
      simp [MuxPacket.owed, data, opened]
    obtain ⟨out, same, wrote⟩ :=
      writeVideoPacket_succeeds av (m := m) succeeds (sample owes)
    rw [pushVideo_onward data sink opened, moves_offer owes (.inl opened)]
    have up := shows.lifted.trans opened
    refine ⟨_, wrote, ?_, shows.representable, ?_, shows.lifted, shows.video, shows.audio, ?_, ?_⟩
    · rw [opened, Bool.true_or]
      exact opened
    · rw [same]
      exact shows.sink
    · simp [Gate.run, Gate.move, Gate.offer, up, shows.waiting]
    · simp only [Gate.run, Gate.move, Gate.offer, up, if_true, List.foldl_cons, List.foldl_nil,
        List.map_append, shows.passed]
      rfl
  | opening data sink closed key succeeds' =>
    have owes : MuxPacket.owed m.opened (.video pkt) = true := by
      simp [MuxPacket.owed, data, key]
    obtain ⟨n, pushed, config, out, opened, video, audio, pending, handed⟩ :=
      pushVideo_lifts av data sink closed key shows.representable succeeds (sample owes)
    have down := shows.lifted.trans closed
    rw [moves_lift owes closed key]
    refine ⟨n, pushed, ?_, ?_, ?_, ?_, fun _ => video, fun _ => audio, ?_, ?_⟩
    · rw [opened, owes, key, Bool.and_self, Bool.or_true]
    · rw [config]
      exact shows.representable
    · rw [out]
      exact sink
    · rw [opened]
      rfl
    · rw [pending]
      rfl
    · rw [handed]
      simp only [Gate.run, Gate.move, Gate.offer, Gate.lift, if_true, List.foldl_cons,
        List.foldl_nil, g.shut down, List.nil_append, shows.waiting, List.map_append, List.map_map]
      rfl
  | failing data sink closed key fails =>
    have opening := opens_succeeds pkt shows.representable succeeds.opening
    exact absurd (fails.symm.trans opening) Bool.false_ne_true

/-- What a sequence of pushes does to the gate. -/
def movesOf (live : Bool) : List MuxPacket → List (Move MuxPacket)
  | [] => []
  | p :: rest => moves live p ++ movesOf (live || (p.owed live && p.isKey)) rest

theorem filterMap_audio_map (pkts : List AudioPacket) :
    (pkts.map MuxPacket.audio).filterMap MuxPacket.audio? = pkts := by
  rw [List.filterMap_map]
  exact List.filterMap_some

theorem filterMap_video_map (pkts : List AudioPacket) :
    (pkts.map MuxPacket.audio).filterMap MuxPacket.video? = [] := by
  rw [List.filterMap_map]
  exact List.filterMap_none pkts

theorem offered_movesOf (live : Bool) (packets : List MuxPacket) :
    Gate.offered (movesOf live packets) = owedOf live packets := by
  induction packets generalizing live with
  | nil => rfl
  | cons p rest ih =>
    rw [movesOf, owedOf, Gate.offered_append, ih]
    congr 1
    rw [moves]
    cases p.owed live with
    | false => rfl
    | true => cases !live && p.isKey <;> rfl

/-- One push moves the gate as its packet says. -/
theorem push_shows (shows : Shows av m g) {c : Call} {p : MuxPacket} (succeeds : Succeeds c)
    (pushes : pushed c = some p)
    (sample : ∀ pkt, p = .video pkt → p.owed m.opened = true → (annexBToAvcc pkt.data).1 = .kOk) :
    (call av m c).1 = .kOk ∧
      (call av m c).2.opened = (m.opened || (p.owed m.opened && p.isKey)) ∧
      Shows av (call av m c).2 (g.run (moves m.opened p)) := by
  cases c with
  | pushVideo pkt reply =>
    obtain rfl := Option.some.inj pushes
    obtain ⟨n, result, opened, shows⟩ := pushVideo_shows shows succeeds (sample pkt rfl)
    rw [call, result]
    exact ⟨rfl, opened, shows⟩
  | pushAudio pkt reply =>
    obtain rfl := Option.some.inj pushes
    obtain ⟨n, result, opened, shows⟩ := pushAudio_shows shows pkt succeeds
    rw [call, result]
    refine ⟨rfl, ?_, shows⟩
    rw [MuxPacket.isKey, Bool.and_false, Bool.or_false]
    exact opened
  | setOutput | flush | finish | release => cases pushes

theorem pushed_of_succeeds {c : Call} (succeeds : Succeeds c) : ∃ p, pushed c = some p := by
  cases c with
  | pushVideo pkt reply => exact ⟨.video pkt, rfl⟩
  | pushAudio pkt reply => exact ⟨.audio pkt, rfl⟩
  | setOutput | flush | finish | release => exact succeeds.elim

/-- Pushes by which nothing fails all return `kOk` and move the gate. -/
theorem pushes_show (shows : Shows av m g) {calls : List Call} (succeed : ∀ c ∈ calls, Succeeds c)
    (samples : ∀ pkt, .video pkt ∈ owedOf m.opened (calls.filterMap pushed) →
      (annexBToAvcc pkt.data).1 = .kOk) :
    (∀ st ∈ statuses av m calls, st = .kOk) ∧
      Shows av (after av m calls) (g.run (movesOf m.opened (calls.filterMap pushed))) := by
  induction calls generalizing m g with
  | nil => exact ⟨fun _ none => absurd none List.not_mem_nil, shows⟩
  | cons c calls ih =>
    obtain ⟨p, pushes⟩ := pushed_of_succeeds (succeed c List.mem_cons_self)
    rw [List.filterMap_cons_some pushes, owedOf] at samples
    obtain ⟨ok, opened, shows⟩ := push_shows shows (succeed c List.mem_cons_self) pushes (by
      rintro pkt rfl owes
      apply samples pkt
      rw [owes]
      exact List.mem_append_left _ List.mem_cons_self)
    obtain ⟨oks, shows⟩ := ih shows (fun c later => succeed c (List.mem_cons_of_mem _ later)) (by
      intro pkt member
      rw [opened] at member
      exact samples pkt (List.mem_append_right _ member))
    constructor
    · intro st member
      rcases List.mem_cons.mp member with rfl | later
      · exact ok
      · exact oks st later
    · rw [List.filterMap_cons_some pushes, movesOf, Gate.run_append, ← opened]
      exact shows

/-- In the open container, samples of one medium are the packets of that medium. -/
theorem Shows.handed_audio (shows : Shows av m g) (opened : m.opened = true) :
    m.audioHanded = (g.passed.filterMap MuxPacket.audio?).map (audioSample av m) := by
  have video := shows.video opened
  have audio := shows.audio opened
  rw [audioHanded]
  rw [shows.passed]
  induction g.passed with
  | nil => rfl
  | cons p rest ih =>
    rw [List.map_cons]
    cases p with
    | video pkt =>
      have apart : ¬ (form av m (.video pkt)).streamIndex = m.audioStreamIndex := by
        change ¬ m.streamIndex = m.audioStreamIndex
        omega
      rw [List.filter_cons_of_neg (by simpa using apart), ih]
      rfl
    | audio pkt =>
      rw [List.filter_cons_of_pos (by exact decide_eq_true rfl), ih]
      rfl

theorem Shows.handed_video (shows : Shows av m g) (opened : m.opened = true) :
    m.videoHanded = (g.passed.filterMap MuxPacket.video?).map (videoSample av m) := by
  have video := shows.video opened
  have audio := shows.audio opened
  rw [videoHanded]
  rw [shows.passed]
  induction g.passed with
  | nil => rfl
  | cons p rest ih =>
    rw [List.map_cons]
    cases p with
    | audio pkt =>
      have apart : ¬ (form av m (.audio pkt)).streamIndex = m.streamIndex := by
        change ¬ m.audioStreamIndex = m.streamIndex
        omega
      rw [List.filter_cons_of_neg (by simpa using apart), ih]
      rfl
    | video pkt =>
      rw [List.filter_cons_of_pos (by exact decide_eq_true rfl), ih]
      rfl

end Pushes

/-- With an audio track that can be described, and where nothing fails: every
push returns `kOk`; audio written and audio waiting are all audio with data in
order; nothing is written before the container is open, and nothing waits once
it is; video written is all video with data from the first keyframe on. -/
theorem pushes_interleave (av : LibAV) {config : MuxerConfig} (sink : Nat) {calls : List Call}
    (representable : Representable config) (succeed : ∀ c ∈ calls, Succeeds c)
    (carry : Carry calls) :
    let m := after av (fresh config sink) calls
    (∀ st ∈ statuses av (fresh config sink) calls, st = .kOk) ∧
    (∃ written, written ++ m.pendingAudio = audioOf (calls.filterMap pushed) ∧
      m.audioHanded = written.map (audioSample av m)) ∧
    (m.opened = false → m.handed = []) ∧
    (m.opened = true → m.pendingAudio = []) ∧
    m.videoHanded = (videoOf (calls.filterMap pushed)).map (videoSample av m) := by
  intro m
  obtain ⟨oks, shows⟩ := pushes_show (fresh_shows av representable sink) succeed (by
    intro pkt member
    rw [annexBToAvcc_status]
    have owes : pkt ∈ videoOf (calls.filterMap pushed) := by
      rw [← owedOf_video]
      exact List.mem_filterMap.mpr ⟨.video pkt, member, rfl⟩
    obtain ⟨unit, among, carries⟩ := carry pkt owes
    exact List.ne_nil_of_mem (List.mem_filter.mpr ⟨among, carries⟩))
  have shows : Shows av m (Gate.run .down (movesOf false (calls.filterMap pushed))) := shows
  have order : (Gate.run .down (movesOf false (calls.filterMap pushed))).all =
      owedOf false (calls.filterMap pushed) := by
    rw [Gate.run_all, offered_movesOf]
    rfl
  generalize Gate.run .down (movesOf false (calls.filterMap pushed)) = g at order shows
  have audio : g.passed.filterMap MuxPacket.audio? ++ m.pendingAudio =
      audioOf (calls.filterMap pushed) := by
    rw [← owedOf_audio false, ← order, Gate.filterMap_all, shows.waiting, filterMap_audio_map]
  have video : g.passed.filterMap MuxPacket.video? = videoOf (calls.filterMap pushed) := by
    rw [← owedOf_video, ← order, Gate.filterMap_all, shows.waiting, filterMap_video_map,
      List.append_nil]
  refine ⟨oks, ?_⟩
  rw [← video]
  cases opened : m.opened with
  | false =>
    have empty : g.passed = [] := g.shut (shows.lifted.trans opened)
    have handed : m.handed = [] := by
      rw [shows.passed, empty]
      rfl
    rw [empty] at audio ⊢
    refine ⟨⟨[], audio, ?_⟩, fun _ => handed, fun up => absurd up Bool.false_ne_true, ?_⟩
    · rw [audioHanded, handed]
      rfl
    · rw [videoHanded, handed]
      rfl
  | true =>
    have clear : m.pendingAudio = [] := by
      have waiting := shows.waiting
      rw [g.clear (shows.lifted.trans opened)] at waiting
      exact List.map_eq_nil_iff.mp waiting.symm
    exact ⟨⟨_, audio, shows.handed_audio opened⟩, fun down => absurd down.symm Bool.false_ne_true,
      fun _ => clear, shows.handed_video opened⟩

/-- Audio before and behind the keyframe, then more video. -/
theorem pushes_interleave_both :
    (statuses ⟨fun pts _ _ => pts⟩ (fresh { width := 2, height := 2, audioCodec := .kAAC } 0)
      [.pushAudio { data := [1] } {},
        .pushVideo ⟨[0, 0, 1, 0x67, 1, 2, 3, 0, 0, 1, 0x68, 1, 2, 3, 0, 0, 1, 0x65], 0, true⟩ {},
        .pushAudio { data := [2] } {},
        .pushVideo ⟨[0, 0, 1, 0x41], 33333, false⟩ {}]).all (· = .kOk) = true := by
  have packet : PacketSucceeds {} := ⟨rfl, rfl, Int.le_refl _⟩
  have push : PushSucceeds {} :=
    ⟨⟨⟨rfl, rfl, rfl, rfl, rfl, rfl, rfl, Int.le_refl _⟩,
      fun _ none => absurd none List.not_mem_nil, packet⟩, rfl⟩
  apply List.all_eq_true.mpr
  intro st member
  apply decide_eq_true
  refine (pushes_interleave _ 0 ⟨rfl, _, rfl⟩ ?_ (by decide)).1 st member
  intro c member
  simp only [List.mem_cons, List.not_mem_nil, or_false] at member
  rcases member with rfl | rfl | rfl | rfl
  · exact packet
  · exact push
  · exact packet
  · exact push

/-- Neither condition can be left out: a sample rate without an index never lets
the container open, and in fragmented mode a failed flush of the sink is returned. -/
theorem push_fails_without_rate_or_flush :
    (¬ ∀ (av : LibAV) (config : MuxerConfig) (calls : List Call), config.audioCodec = .kAAC →
      (∀ c ∈ calls, Succeeds c) → Carry calls →
        ∀ st ∈ statuses av (fresh config 0) calls, st = .kOk) ∧
    ¬ ∀ (av : LibAV) (config : MuxerConfig) (calls : List Call), Representable config →
      (∀ c ∈ calls, AvSucceeds c) → Carry calls →
        ∀ st ∈ statuses av (fresh config 0) calls, st = .kOk := by
  have lib : LibSucceeds {} :=
    ⟨⟨rfl, rfl, rfl, rfl, rfl, rfl, rfl, Int.le_refl _⟩,
      fun _ none => absurd none List.not_mem_nil, rfl, rfl, Int.le_refl _⟩
  constructor
  · intro always
    have ok := always ⟨fun pts _ _ => pts⟩
      { width := 2, height := 2, audioCodec := .kAAC, sampleRate := 44000 }
      [.pushVideo ⟨[0, 0, 1, 0x65], 0, true⟩ {}] rfl
      (fun c member => by
        obtain rfl := List.mem_singleton.mp member
        exact ⟨lib, rfl⟩)
      (by decide)
    exact absurd ok (by decide)
  · intro always
    have ok := always ⟨fun pts _ _ => pts⟩ { width := 2, height := 2, audioCodec := .kAAC }
      [.pushVideo ⟨[0, 0, 1, 0x65], 0, true⟩ { commit := false }] ⟨rfl, _, rfl⟩
      (fun c member => by
        obtain rfl := List.mem_singleton.mp member
        exact ⟨lib.opening, lib.replay, lib.packet⟩)
      (by decide)
    exact absurd ok (by decide)

end VideoCodec.FFmpegMuxer
