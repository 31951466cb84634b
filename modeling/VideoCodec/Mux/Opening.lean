import VideoCodec.Transition.Run
import VideoCodec.Mux.FFmpegMuxer

/-! What a container is opened with: the parameter sets of a keyframe, and that
keyframe as its first video sample, whatever fails on the way. -/
namespace VideoCodec.FFmpegMuxer

open Transition

theorem opened_eq (m : FFmpegMuxer) : m.opened = m.fmt.isSome := rfl

/-- The video samples of the open container. -/
def videoHanded (m : FFmpegMuxer) : List AVPacket :=
  m.handed.filter fun avpkt => avpkt.streamIndex = m.streamIndex

/-- The video stream of the open container. -/
def openVideo (m : FFmpegMuxer) : Option AVStream :=
  m.fmt.bind fun fmt => fmt.streams[m.streamIndex.toNat]?

/-- The first unit of each parameter-set type is there. -/
def hasSets (data : List UInt8) : Prop := ∃ extradata, buildExtradata data = .ok extradata

/-- The extradata is the avcC record of a packet's SPS and PPS. -/
def Records (extradata data : List UInt8) : Prop :=
  ∃ sps pps : ParameterSet, firstSet 7 data = some sps.nal ∧ firstSet 8 data = some pps.nal ∧
    extradata = avcC sps pps

/-- The container carries the parameter sets of the keyframe it was opened with,
and begins with that keyframe. -/
structure Keyed (av : LibAV) (m : FFmpegMuxer) : Prop where
  keyframe : m.opener.keyframe = true
  extradata : ∃ st, m.openVideo = some st ∧ Records st.extradata m.opener.data
  first : ∀ sample ∈ m.videoHanded.head?, sample = videoSample av m m.opener

def OpenedByKey (av : LibAV) (m : FFmpegMuxer) : Prop := m.opened = true → Keyed av m

/-- A muxer with what its calls have been given and answered: whether the push that opened
the container stopped before its keyframe, and no packet has gone in since. -/
structure Tracked where
  muxer : FFmpegMuxer
  lost : Bool := false

namespace Tracked

/-- A keyframe is lost where the audio before it, its conversion or its packet fails. -/
def loses (t : Tracked) : Call → Bool
  | .pushVideo pkt reply =>
    if pkt.data = [] ∨ t.muxer.out.sink.isNone then t.lost
    else if t.muxer.opened then t.lost && !handsOver pkt reply.packet
    else if pkt.keyframe && opens t.muxer.config pkt reply.opening then
      !(replays t.muxer.audioIndex t.muxer.pendingAudio reply.replay && handsOver pkt reply.packet)
    else t.lost
  | _ => t.lost

def next (av : LibAV) (t : Tracked) (c : Call) : Option Tracked :=
  some { muxer := (call av t.muxer c).2, lost := t.loses c }

end Tracked

/-- A keyframe that opens a container carries its parameter sets; and where the opening push
has lost its keyframe, a packet that goes in instead gives the same sample. -/
def KeyMeets (av : LibAV) (t : Tracked) : Call → Prop
  | .pushVideo pkt reply =>
    pkt.data ≠ [] → t.muxer.out.sink.isSome = true →
      (t.muxer.opened = false → pkt.keyframe = true →
        opens t.muxer.config pkt reply.opening = true → hasSets pkt.data) ∧
      (t.muxer.opened = true → t.lost = true → handsOver pkt reply.packet = true →
        videoSample av t.muxer pkt = videoSample av t.muxer t.muxer.opener)
  | _ => True

/-- The stream numbers, and the keyframe behind an open container. -/
structure Numbered (m : FFmpegMuxer) : Prop where
  audio : m.audioStreamIndex = -1 ∨ m.audioStreamIndex = 1
  video : m.opened = true → m.streamIndex = 0
  keyframe : m.opened = true → m.opener.keyframe = true

/-- An open container lacks video exactly while its keyframe is lost. -/
structure Tracked.Sound (t : Tracked) : Prop where
  numbered : Numbered t.muxer
  lost : t.muxer.opened = true → t.lost = t.muxer.videoHanded.isEmpty

section Steps
variable {av : LibAV} {m : FFmpegMuxer} {t : Tracked}

/-- Handing over more keeps what a container was opened with; the first video
sample counts when there was none. -/
theorem keyed_append_iff (keyed : Keyed av m) (out : Output) (more : List AVPacket) :
    Keyed av { m with out, handed := m.handed ++ more } ↔
      (m.videoHanded = [] →
        ∀ sample ∈ (more.filter fun avpkt => avpkt.streamIndex = m.streamIndex).head?,
          sample = videoSample av m m.opener) := by
  have appended : videoHanded { m with out, handed := m.handed ++ more } =
      m.videoHanded ++ more.filter fun avpkt => avpkt.streamIndex = m.streamIndex :=
    List.filter_append ..
  constructor
  · intro after none sample member
    apply after.first
    rw [appended, none, List.nil_append]
    exact member
  · intro fits
    refine ⟨keyed.keyframe, keyed.extradata, ?_⟩
    intro sample member
    rw [appended] at member
    cases handed : m.videoHanded with
    | nil =>
      rw [handed, List.nil_append] at member
      exact fits handed sample member
    | cons first rest =>
      rw [handed] at member
      exact keyed.first sample (by rw [handed]; exact member)

/-- Audio has a number of its own. -/
theorem no_video_sent (numbered : Numbered m) (opened : m.opened = true) {sent : List AVPacket}
    (tagged : ∀ avpkt ∈ sent, avpkt.streamIndex = m.audioStreamIndex ∧ 0 ≤ m.audioStreamIndex) :
    (sent.filter fun avpkt => avpkt.streamIndex = m.streamIndex) = [] := by
  apply List.filter_eq_nil_iff.mpr
  intro avpkt member same
  obtain ⟨audio, present⟩ := tagged avpkt member
  have video := numbered.video opened
  have equal : m.audioStreamIndex = m.streamIndex := audio.symm.trans (of_decide_eq_true same)
  rcases numbered.audio with none | one
  · omega
  · omega

theorem openStreams_video {config : MuxerConfig} {first : VideoPacket} {reply : OpenReply}
    {streams : List AVStream} (made : openStreams config first reply = some streams) :
    ∃ extradata audio, videoExtradata first reply.videoExtradata = some extradata ∧
      streams = videoStream config extradata :: audio := by
  rw [openStreams] at made
  split at made
  · cases made
  · split at made
    · rename_i extradata audio allocated _
      exact ⟨extradata, audio, allocated, (Option.some.inj made).symm⟩
    · cases made

/-- The extradata of a new container records a packet that has both sets. -/
theorem records_iff {first : VideoPacket} {allocated : Bool} {extradata : List UInt8}
    (made : videoExtradata first allocated = some extradata) :
    Records extradata first.data ↔ hasSets first.data := by
  rw [videoExtradata] at made
  cases built : buildExtradata first.data with
  | ok bytes =>
    rw [built] at made
    have same : bytes = extradata := by
      dsimp only at made
      split at made
      · exact Option.some.inj made
      · cases made
    subst same
    exact ⟨fun _ => ⟨bytes, built⟩, fun _ => buildExtradata_ok_iff.mp built⟩
  | error status =>
    constructor
    · intro records
      exact ⟨extradata, buildExtradata_ok_iff.mpr records⟩
    · rintro ⟨bytes, ok⟩
      rw [built] at ok
      cases ok

/-- The audio of a new container is no video. -/
theorem no_video_replayed (numbered : Numbered m) {sent : List AVPacket}
    (tagged : ∀ avpkt ∈ sent, avpkt.streamIndex = m.audioIndex ∧ 0 ≤ m.audioIndex) :
    (sent.filter fun avpkt => avpkt.streamIndex = 0) = [] := by
  apply List.filter_eq_nil_iff.mpr
  intro avpkt member zero
  obtain ⟨audio, _⟩ := tagged avpkt member
  have equal : m.audioIndex = 0 := audio.symm.trans (of_decide_eq_true zero)
  have index := numbered.audio
  rw [audioIndex] at equal
  split at equal <;> omega

/-- The pushes that reach a new container. -/
theorem opened_keyed_iff {pkt : VideoPacket} {reply : PushReply} (numbered : Numbered m)
    (data : pkt.data ≠ []) (sink : m.out.sink.isSome = true) (closed : m.opened = false)
    (key : pkt.keyframe = true) (opening : opens m.config pkt reply.opening = true) :
    OpenedByKey av (pushVideo av m pkt reply).2 ↔ hasSets pkt.data := by
  obtain ⟨streams, out, pending, sent, own, made, pushed, tagged, owned⟩ :=
    pushVideo_opens av data sink closed key opening
  obtain ⟨extradata, audio, allocated, rfl⟩ := openStreams_video made
  have noVideo := no_video_replayed numbered tagged
  rw [← records_iff allocated]
  rw [pushed] at owned ⊢
  constructor
  · intro kept
    obtain ⟨st, video, records⟩ := (kept rfl).extradata
    obtain rfl := Option.some.inj video
    exact records
  · intro records _
    refine ⟨key, ⟨_, rfl, records⟩, ?_⟩
    intro sample first
    have among : sample ∈ own := by
      have member : sample ∈ (sent ++ own).filter fun avpkt => avpkt.streamIndex = 0 :=
        List.mem_of_head? first
      rw [List.filter_append, noVideo, List.nil_append] at member
      exact List.mem_of_mem_filter member
    rw [owned] at among
    split at among
    · exact List.mem_singleton.mp among
    · exact absurd among List.not_mem_nil

/-- A video push keeps the rule exactly when it meets the condition. -/
theorem pushVideo_keyed_iff (sound : t.Sound) (kept : OpenedByKey av t.muxer) (pkt : VideoPacket)
    (reply : PushReply) :
    OpenedByKey av (pushVideo av t.muxer pkt reply).2 ↔ KeyMeets av t (.pushVideo pkt reply) := by
  cases videoPush t.muxer pkt reply with
  | idle none =>
    rw [pushVideo_idle none]
    refine ⟨fun _ data sink => ?_, fun _ => kept⟩
    rcases none with empty | detached | ⟨closed, delta⟩
    · exact absurd empty data
    · rw [detached] at sink
      cases sink
    · constructor
      · intro _ key
        exact absurd (delta.symm.trans key) Bool.false_ne_true
      · intro opened
        exact absurd (closed.symm.trans opened) Bool.false_ne_true
  | onward data sink opened =>
    rw [pushVideo_onward data sink opened]
    obtain ⟨out, wrote⟩ := writeVideoPacket_effect av t.muxer pkt reply
    have keyed := keyed_append_iff (kept opened) out
      (if handsOver pkt reply.packet then [videoSample av t.muxer pkt] else [])
    have video : t.muxer.streamIndex = (videoSample av t.muxer pkt).streamIndex := rfl
    have lost : t.lost = true ↔ t.muxer.videoHanded = [] := by
      rw [sound.lost opened, List.isEmpty_iff]
    rw [wrote]
    constructor
    · intro after _ _
      refine ⟨fun closed => absurd (closed.symm.trans opened) Bool.false_ne_true, ?_⟩
      intro _ lacks hands
      apply keyed.mp (after opened) (lost.mp lacks)
      rw [if_pos hands, video]
      simp
    · intro meets _
      apply keyed.mpr
      intro none sample first
      split at first
      · rename_i hands
        rw [video] at first
        obtain rfl : videoSample av t.muxer pkt = sample := by simpa using first
        exact (meets data sink).2 opened (lost.mpr none) hands
      · cases first
  | opening data sink closed key succeeds =>
    rw [opened_keyed_iff sound.numbered data sink closed key succeeds]
    constructor
    · intro sets _ _
      refine ⟨fun _ _ _ => sets, fun opened => ?_⟩
      exact absurd (closed.symm.trans opened) Bool.false_ne_true
    · exact fun meets => (meets data sink).1 closed key succeeds
  | failing data sink closed key fails =>
    obtain ⟨index, failed, _⟩ := pushVideo_fails av data sink closed key fails
    rw [failed]
    constructor
    · intro _ _ _
      constructor
      · intro _ _ succeeds
        exact absurd (fails.symm.trans succeeds) Bool.false_ne_true
      · intro opened
        exact absurd (closed.symm.trans opened) Bool.false_ne_true
    · exact fun _ opened => absurd opened Bool.false_ne_true

theorem Untouched.keyed {n : FFmpegMuxer} (untouched : Untouched m n) (numbered : Numbered m)
    (kept : OpenedByKey av m) : OpenedByKey av n := by
  cases untouched with
  | closed fmt audio =>
    intro opened
    rw [opened_eq, fmt] at opened
    cases opened
  | @same out pending sent eq tagged =>
    intro opened
    rw [eq] at opened ⊢
    have keyed := (keyed_append_iff (kept opened) out sent).mpr fun _ sample first => by
      rw [no_video_sent numbered opened tagged] at first
      cases first
    exact ⟨keyed.keyframe, keyed.extradata, keyed.first⟩

/-- Every call keeps the rule exactly when it meets the condition. -/
theorem call_keyed_iff (sound : t.Sound) (kept : OpenedByKey av t.muxer) (c : Call) :
    OpenedByKey av (call av t.muxer c).2 ↔ KeyMeets av t c := by
  have numbered := sound.numbered
  cases c with
  | pushVideo pkt reply => exact pushVideo_keyed_iff sound kept pkt reply
  | setOutput sink =>
    exact ⟨fun _ => trivial, fun _ => (Untouched.quiet _ _ _).keyed numbered kept⟩
  | flush => exact ⟨fun _ => trivial, fun _ => (Untouched.quiet _ _ []).keyed numbered kept⟩
  | pushAudio pkt reply =>
    exact ⟨fun _ => trivial, fun _ => (pushAudio_untouched av pkt reply).keyed numbered kept⟩
  | finish reply => exact ⟨fun _ => trivial, fun _ => (finish_untouched reply).keyed numbered kept⟩
  | release reply =>
    exact ⟨fun _ => trivial, fun _ => (release_untouched reply).keyed numbered kept⟩

theorem Untouched.numbered {n : FFmpegMuxer} (untouched : Untouched m n) (numbered : Numbered m) :
    Numbered n := by
  cases untouched with
  | closed fmt audio =>
    refine ⟨by rw [audio]; exact numbered.audio, ?_, ?_⟩
    all_goals
      intro opened
      rw [opened_eq, fmt] at opened
      cases opened
  | same eq tagged =>
    rw [eq]
    exact ⟨numbered.audio, numbered.video, numbered.keyframe⟩

theorem audioIndex_numbered (numbered : Numbered m) : m.audioIndex = -1 ∨ m.audioIndex = 1 := by
  rw [audioIndex]
  split
  · exact .inr rfl
  · exact numbered.audio

theorem pushVideo_numbered (numbered : Numbered m) (pkt : VideoPacket) (reply : PushReply) :
    Numbered (pushVideo av m pkt reply).2 := by
  cases videoPush m pkt reply with
  | idle none =>
    rw [pushVideo_idle none]
    exact numbered
  | onward data sink opened =>
    rw [pushVideo_onward data sink opened]
    obtain ⟨out, wrote⟩ := writeVideoPacket_effect av m pkt reply
    rw [wrote]
    exact ⟨numbered.audio, numbered.video, numbered.keyframe⟩
  | opening data sink closed key succeeds =>
    obtain ⟨streams, out, pending, sent, own, _, pushed, _⟩ :=
      pushVideo_opens av data sink closed key succeeds
    rw [pushed]
    exact ⟨audioIndex_numbered numbered, fun _ => rfl, fun _ => key⟩
  | failing data sink closed key fails =>
    obtain ⟨index, failed, either⟩ := pushVideo_fails av data sink closed key fails
    rw [failed]
    refine ⟨?_, fun opened => absurd opened Bool.false_ne_true,
      fun opened => absurd opened Bool.false_ne_true⟩
    rcases either with rfl | rfl
    · exact numbered.audio
    · exact audioIndex_numbered numbered

theorem call_numbered (numbered : Numbered m) (c : Call) : Numbered (call av m c).2 := by
  cases c with
  | pushVideo pkt reply => exact pushVideo_numbered numbered pkt reply
  | setOutput sink => exact (Untouched.quiet m _ m.pendingAudio).numbered numbered
  | flush => exact (Untouched.quiet m m.out []).numbered numbered
  | pushAudio pkt reply => exact (pushAudio_untouched av pkt reply).numbered numbered
  | finish reply => exact (finish_untouched reply).numbered numbered
  | release reply => exact (release_untouched reply).numbered numbered

/-- What a push gives and is answered tells whether the container has video then. -/
theorem pushVideo_lost (sound : t.Sound) (pkt : VideoPacket) (reply : PushReply)
    (opened : (pushVideo av t.muxer pkt reply).2.opened = true) :
    t.loses (.pushVideo pkt reply) = (pushVideo av t.muxer pkt reply).2.videoHanded.isEmpty := by
  have passes (data : pkt.data ≠ []) (sink : t.muxer.out.sink.isSome = true) :
      ¬(pkt.data = [] ∨ t.muxer.out.sink.isNone = true) := by
    rw [Option.isNone_eq_false_iff.mpr sink]
    exact fun either => either.elim data nofun
  cases videoPush t.muxer pkt reply with
  | idle none =>
    rw [pushVideo_idle none] at opened ⊢
    rw [← sound.lost opened, Tracked.loses]
    rcases none with empty | detached | ⟨closed, -⟩
    · exact if_pos (.inl empty)
    · rw [detached]
      exact if_pos (.inr rfl)
    · exact absurd (closed.symm.trans opened) Bool.false_ne_true
  | onward data sink was =>
    rw [pushVideo_onward data sink was]
    obtain ⟨out, wrote⟩ := writeVideoPacket_effect av t.muxer pkt reply
    rw [wrote, Tracked.loses, if_neg (passes data sink), if_pos was, sound.lost was, videoHanded,
      videoHanded, List.filter_append]
    cases handsOver pkt reply.packet with
    | false => simp
    | true =>
      have video : (videoSample av t.muxer pkt).streamIndex = t.muxer.streamIndex := rfl
      simp [video]
  | opening data sink closed key succeeds =>
    obtain ⟨streams, out, pending, sent, own, -, pushed, tagged, owned⟩ :=
      pushVideo_opens av data sink closed key succeeds
    have video : (pushVideo av t.muxer pkt reply).2.videoHanded =
        own.filter fun avpkt => avpkt.streamIndex = 0 := by
      rw [pushed]
      change (sent ++ own).filter (fun avpkt => avpkt.streamIndex = 0) = _
      rw [List.filter_append, no_video_replayed sound.numbered tagged, List.nil_append]
    have index : (videoSample av (pushVideo av t.muxer pkt reply).2 pkt).streamIndex = 0 := by
      rw [pushed]
      rfl
    rw [video, owned, Tracked.loses, if_neg (passes data sink), closed, if_neg Bool.false_ne_true,
      key, succeeds, Bool.true_and, if_pos rfl]
    cases replays t.muxer.audioIndex t.muxer.pendingAudio reply.replay &&
      handsOver pkt reply.packet with
    | false => rfl
    | true => simp [index]
  | failing data sink closed key fails =>
    obtain ⟨_, failed, _⟩ := pushVideo_fails av data sink closed key fails
    rw [failed] at opened
    cases opened

/-- Other calls hand over no video. -/
theorem Untouched.lost {n : FFmpegMuxer} (untouched : Untouched t.muxer n) (sound : t.Sound)
    (opened : n.opened = true) : t.lost = n.videoHanded.isEmpty := by
  cases untouched with
  | closed fmt audio =>
    rw [opened_eq, fmt] at opened
    cases opened
  | same eq tagged =>
    rw [eq] at opened ⊢
    rw [sound.lost opened, videoHanded, videoHanded, List.filter_append,
      no_video_sent sound.numbered opened tagged, List.append_nil]

theorem call_sound (sound : t.Sound) (c : Call) :
    Tracked.Sound { muxer := (call av t.muxer c).2, lost := t.loses c } where
  numbered := call_numbered sound.numbered c
  lost := by
    cases c with
    | pushVideo pkt reply => exact pushVideo_lost sound pkt reply
    | setOutput sink => exact (Untouched.quiet _ _ _).lost sound
    | flush => exact (Untouched.quiet _ _ []).lost sound
    | pushAudio pkt reply => exact (pushAudio_untouched av pkt reply).lost sound
    | finish reply => exact (finish_untouched reply).lost sound
    | release reply => exact (release_untouched reply).lost sound

end Steps

/-- In a run of calls every container is opened by a keyframe with its parameter sets and
begins with it, exactly when every keyframe that opens one carries its sets, and where the
opening push has lost its keyframe no other sample becomes the first one. -/
theorem opened_by_key_iff_meets (av : LibAV) (config : MuxerConfig) (calls : List Call)
    (t : Tracked) :
    Run (Keeping (Takes (Tracked.next av)) fun t => OpenedByKey av t.muxer)
        { muxer := { config } } calls t ↔
      Run (Guarded (Takes (Tracked.next av)) (KeyMeets av)) { muxer := { config } } calls t := by
  apply Run.keeping_iff_guarded (Q := Tracked.Sound)
  · intro s c t sound step
    obtain rfl := Option.some.inj step
    exact call_sound sound c
  · intro s c t sound kept step
    obtain rfl := Option.some.inj step
    exact call_keyed_iff sound kept c
  · exact ⟨⟨.inl rfl, fun opened => absurd opened Bool.false_ne_true,
      fun opened => absurd opened Bool.false_ne_true⟩,
      fun opened => absurd opened Bool.false_ne_true⟩
  · exact fun opened => absurd opened Bool.false_ne_true

/-- A keyframe that has lost its parameter sets opens a container without them. -/
theorem keyframe_without_sets_opens :
    ∃ m, Run (Takes (next ⟨fun pts _ _ => pts⟩)) { config := { width := 2, height := 2 } }
        [.setOutput (some 0), .pushVideo ⟨[0, 0, 0, 1, 0x65, 0x88], 0, true⟩ {}] m ∧
      ¬ OpenedByKey ⟨fun pts _ _ => pts⟩ m := by
  refine ⟨_, exec_run rfl, fun kept => ?_⟩
  obtain ⟨st, video, sps, pps, found, _⟩ := (kept (by decide)).extradata
  have none : firstSet 7 [0, 0, 0, 1, 0x65, 0x88] = none := by decide
  exact Option.some_ne_none _ (found.symm.trans none)

end VideoCodec.FFmpegMuxer
