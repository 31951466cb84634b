import VideoCodec.Transition.Protocol
import VideoCodec.Mux.FFmpegMuxer

/-! What `FFmpegMuxer` asks of libavformat: the order of its calls, that every context,
I/O context and packet it gets is given back on every path, whatever fails, and that
the buffer of an I/O context is not. -/
namespace VideoCodec

open Transition

namespace Av

/-- A call on libavformat or its allocators, with its answer. -/
inductive Call where
  | allocContext (made : Bool)
  | newStream (made : Bool)
  | allocBuffer (made : Bool)
  /-- `av_free` of the I/O buffer, which is `AVIOContext.buffer` once a context has it. -/
  | freeBuffer
  | allocIo (made : Bool)
  | writeHeader (ok : Bool)
  | allocPacket (made : Bool)
  | newPacket (made : Bool)
  | writeFrame (index : Int) (ok : Bool)
  | flushIo
  | freePacket
  | writeTrailer
  | freeIo
  | freeContext
  deriving DecidableEq, Repr

/-- The packet in use: none, one without data, or one to write. -/
inductive Packet where
  | none
  | empty
  | filled
  deriving DecidableEq, Repr

/-- What is held of libavformat, and what may be done with it. -/
inductive Phase where
  | absent
  | building (streams : Nat)
  /-- The I/O buffer is there, without a context around it. -/
  | buffered (streams : Nat)
  | wired (streams : Nat)
  | writing (streams : Nat) (packet : Packet)
  /-- The header failed, or the trailer is written. -/
  | ended
  /-- The I/O buffer is freed, and its context is not. -/
  | drained
  | detached
  deriving DecidableEq, Repr

def allows : Phase → Call → Option Phase
  | .absent, .allocContext made => some (if made then .building 0 else .absent)
  | .building n, .newStream made => some (.building (if made then n + 1 else n))
  | .building n, .allocBuffer made => some (if made then .buffered n else .building n)
  | .building _, .freeContext => some .absent
  | .buffered n, .allocIo made => some (if made then .wired n else .buffered n)
  | .buffered n, .freeBuffer => some (.building n)
  | .wired n, .writeHeader ok => some (if ok then .writing n .none else .ended)
  | .writing n .none, .allocPacket made => some (.writing n (if made then .empty else .none))
  | .writing n .empty, .newPacket made => some (.writing n (if made then .filled else .empty))
  | .writing n .filled, .writeFrame index _ =>
    if 0 ≤ index ∧ index < n then some (.writing n .filled) else none
  | .writing n .filled, .flushIo => some (.writing n .filled)
  | .writing n .empty, .freePacket | .writing n .filled, .freePacket => some (.writing n .none)
  | .writing _ .none, .writeTrailer => some .ended
  | .ended, .flushIo => some .ended
  | .ended, .freeBuffer => some .drained
  -- `avio_context_free` does not free the buffer
  | .ended, .freeIo | .drained, .freeIo => some .detached
  | .detached, .freeContext => some .absent
  | _, _ => none

/-- The I/O buffers that a phase holds. -/
def Phase.buffers : Phase → Nat
  | .buffered _ | .wired _ | .writing _ _ | .ended => 1
  | _ => 0

/-- The I/O buffers whose context is freed before them: nothing knows them any more. -/
def leaked : Phase → List Call → Nat
  | _, [] => 0
  | p, c :: cs =>
    (if p = .ended ∧ c = .freeIo then 1 else 0) +
      match allows p c with
      | some q => leaked q cs
      | none => 0

/-- The protocol of a client that never frees the buffer of an I/O context. -/
def spares (p : Phase) (c : Call) : Option Phase :=
  if p = .ended ∧ c = .freeBuffer then none else allows p c

section Buffers
variable {p q : Phase} {c : Call} {cs : List Call}

theorem step_buffers (allowed : allows p c = some q) :
    [c].count (.allocBuffer true) + p.buffers =
      [c].count .freeBuffer + (if p = .ended ∧ c = .freeIo then 1 else 0) + q.buffers := by
  rw [allows.eq_def] at allowed
  split at allowed
  case h_1 | h_3 | h_5 | h_7 =>
    rename_i answer
    cases allowed
    cases answer <;> rfl
  case h_10 =>
    split at allowed
    · cases allowed
      rfl
    · contradiction
  all_goals cases allowed
  all_goals rfl

/-- Each I/O buffer is freed, leaked or still held. -/
theorem buffers_balance (led : exec allows p cs = some q) :
    cs.count (.allocBuffer true) + p.buffers =
      cs.count .freeBuffer + leaked p cs + q.buffers := by
  induction cs generalizing p with
  | nil =>
    obtain rfl := Option.some.inj led
    simp [leaked]
  | cons c cs ih =>
    obtain ⟨r, allowed, rest⟩ := Option.bind_eq_some_iff.mp led
    have balance := ih rest
    have step := step_buffers allowed
    rw [← List.singleton_append, List.count_append, List.count_append, List.singleton_append,
      leaked, allowed]
    dsimp only
    omega

theorem spares_allowed (spared : spares p c = some q) :
    allows p c = some q ∧ ¬(p = .ended ∧ c = .freeBuffer) := by
  rw [spares] at spared
  split at spared
  · contradiction
  · exact ⟨spared, ‹_›⟩

/-- Only the `av_free` of its buffer leads to an I/O context without one. -/
theorem ne_drained (allowed : allows p c = some q) (kept : ¬(p = .ended ∧ c = .freeBuffer)) :
    q ≠ .drained := by
  rintro rfl
  rw [allows.eq_def] at allowed
  split at allowed
  case h_10 => split at allowed <;> cases allowed
  case h_1 | h_3 | h_5 | h_7 =>
    rename_i answer
    cases answer <;> cases allowed
  all_goals first
    | exact kept ⟨rfl, rfl⟩
    | cases allowed

/-- A client that never frees the buffer of an I/O context leaks one with every context. -/
theorem spares_leaks (led : exec spares p cs = some q) (held : p ≠ .drained) :
    exec allows p cs = some q ∧ leaked p cs = cs.count .freeIo := by
  induction cs generalizing p with
  | nil => exact ⟨led, rfl⟩
  | cons c cs ih =>
    obtain ⟨r, spared, rest⟩ := Option.bind_eq_some_iff.mp led
    obtain ⟨allowed, kept⟩ := spares_allowed spared
    obtain ⟨onward, leaks⟩ := ih rest (ne_drained allowed kept)
    refine ⟨Option.bind_eq_some_iff.mpr ⟨r, allowed, onward⟩, ?_⟩
    rw [leaked, allowed, ← List.singleton_append, List.count_append, ← leaks]
    dsimp only
    congr 1
    by_cases frees : c = .freeIo
    · subst frees
      have closing : p = .ended := by
        cases p with
        | ended => rfl
        | drained => exact absurd rfl held
        | writing n packet => cases packet <;> cases allowed
        | _ => cases allowed
      rw [closing]
      rfl
    · rw [if_neg fun both => frees both.2, List.count_singleton, if_neg (by simpa using frees)]

end Buffers

end Av

namespace FFmpegMuxer

open Av (Phase)

/-- `OpenMuxer` from the I/O buffer on. -/
def ioCalls (reply : OpenReply) : List Av.Call :=
  if !reply.ioBuffer then [.allocBuffer false, .freeContext]
  else
    .allocBuffer true ::
      if !reply.avio then [.allocIo false, .freeBuffer, .freeContext]
      else
        .allocIo true :: .writeHeader (0 ≤ reply.header.ret) ::
          if reply.header.ret < 0 then [.freeIo, .freeContext] else []

/-- `OpenMuxer` from the optional audio track on. -/
def audioStreamCalls (config : MuxerConfig) (reply : OpenReply) : List Av.Call :=
  if config.audioCodec = .kAAC then
    if !reply.audioStream then [.newStream false, .freeContext]
    else
      .newStream true ::
        match buildAudioSpecificConfig config.sampleRate config.channels with
        | .ok _ => if reply.audioExtradata then ioCalls reply else [.freeContext]
        | .error _ => [.freeContext]
  else ioCalls reply

def openCalls (config : MuxerConfig) (first : VideoPacket) (reply : OpenReply) : List Av.Call :=
  if !reply.context then [.allocContext false]
  else
    .allocContext true ::
      if !reply.videoStream then [.newStream false, .freeContext]
      else
        .newStream true ::
          match videoExtradata first reply.videoExtradata with
          | some _ => audioStreamCalls config reply
          | none => [.freeContext]

/-- A packet from its allocation on; `flush` comes behind the write. -/
def packetCalls (index : Int) (reply : PacketReply) (flush : Bool) : List Av.Call :=
  if !reply.alloc then [.allocPacket false]
  else
    .allocPacket true ::
      if !reply.data then [.newPacket false, .freePacket]
      else
        .newPacket true :: .writeFrame index (0 ≤ reply.write.ret) ::
          if flush then [.flushIo, .freePacket] else [.freePacket]

def writeAudioCalls (m : FFmpegMuxer) (reply : PacketReply) : List Av.Call :=
  if m.audioStreamIndex < 0 then [] else packetCalls m.audioStreamIndex reply false

/-- The loop over the audio from before the opening. -/
def replayAudioCalls (av : LibAV) (m : FFmpegMuxer) :
    List AudioPacket → List PacketReply → List Av.Call
  | [], _ => []
  | ap :: rest, replies =>
    let written := writeAudioPacket av m ap (replies.headD {})
    m.writeAudioCalls (replies.headD {}) ++
      if written.1 ≠ .kOk then [] else replayAudioCalls av written.2 rest replies.tail

def writeVideoCalls (m : FFmpegMuxer) (pkt : VideoPacket) (reply : PushReply) : List Av.Call :=
  if (annexBToAvcc pkt.data).1 ≠ .kOk then []
  else
    packetCalls m.streamIndex reply.packet
      (decide (0 ≤ reply.packet.write.ret) && m.config.fragmented && pkt.keyframe)

def pushVideoCalls (av : LibAV) (m : FFmpegMuxer) (pkt : VideoPacket) (reply : PushReply) :
    List Av.Call :=
  if pkt.data = [] ∨ m.out.sink.isNone then []
  else if m.opened then m.writeVideoCalls pkt reply
  else if !pkt.keyframe then []
  else
    let opening := m.openMuxer pkt reply.opening
    let replayed := replayAudio av opening.2 m.pendingAudio reply.replay
    openCalls m.config pkt reply.opening ++
      if opening.1 ≠ .kOk then []
      else
        replayAudioCalls av opening.2 m.pendingAudio reply.replay ++
          if replayed.1 ≠ .kOk then [] else replayed.2.writeVideoCalls pkt reply

def pushAudioCalls (m : FFmpegMuxer) (pkt : AudioPacket) (reply : PacketReply) : List Av.Call :=
  if pkt.data = [] ∨ m.out.sink.isNone ∨ m.config.audioCodec ≠ .kAAC then []
  else if m.opened then m.writeAudioCalls reply else []

def closeCalls : List Av.Call := [.writeTrailer, .flushIo, .freeIo, .freeContext]

/-- What a call asks of libavformat. -/
def avCalls (av : LibAV) (m : FFmpegMuxer) : Call → List Av.Call
  | .pushVideo pkt reply => pushVideoCalls av m pkt reply
  | .pushAudio pkt reply => m.pushAudioCalls pkt reply
  | .finish _ | .release _ => if m.opened then closeCalls else []
  | .setOutput _ | .flush => []

/-- The streams of an open container. -/
def streamCount (config : MuxerConfig) : Nat := if config.audioCodec = .kAAC then 2 else 1

/-- An audio stream is known once there was one to open. -/
def Indexed (m : FFmpegMuxer) : Prop :=
  m.audioStreamIndex = -1 ∨ m.config.audioCodec = .kAAC ∧ m.audioStreamIndex = 1

/-- How the members fit the phase: between two calls there is an open container
without a packet in use, or nothing. -/
def Fits (m : FFmpegMuxer) : Phase → Prop
  | .absent => m.opened = false ∧ m.Indexed
  | .writing streams .none =>
    m.opened = true ∧ m.Indexed ∧ m.streamIndex = 0 ∧ streams = streamCount m.config
  | _ => False

/-- The calls lead from the phase that the muxer is in. -/
abbrev Asks (m : FFmpegMuxer) (calls : List Av.Call) (n : FFmpegMuxer) : Prop :=
  Leads Av.spares Fits m calls n

section Steps
variable {av : LibAV} {m n o : FFmpegMuxer} {p : Phase} {cs ds : List Av.Call}

/-- A packet is freed on every path, and what it is written to is there. -/
theorem packet_leads {index : Int} {streams : Nat} (within : 0 ≤ index ∧ index < streams)
    (reply : PacketReply) (flush : Bool) :
    exec Av.spares (.writing streams .none) (packetCalls index reply flush) =
      some (.writing streams .none) := by
  rw [packetCalls]
  cases reply.alloc with
  | false => rfl
  | true =>
    cases reply.data with
    | false => rfl
    | true => cases flush <;> simp [exec, Av.spares, Av.allows, within]

/-- From the I/O buffer on, an opening ends with an open container or with nothing. -/
theorem io_leads (streams : Nat) (reply : OpenReply) :
    exec Av.spares (.building streams) (ioCalls reply) =
      some (if (reply.ioBuffer && reply.avio && decide (0 ≤ reply.header.ret)) = true then
        .writing streams .none else .absent) := by
  rw [ioCalls]
  cases reply.ioBuffer with
  | false => rfl
  | true =>
    cases reply.avio with
    | false => rfl
    | true =>
      by_cases failed : reply.header.ret < 0
      · have negative : ¬0 ≤ reply.header.ret := Int.not_le.mpr failed
        simp [exec, Av.spares, Av.allows, failed, negative]
      · have positive : 0 ≤ reply.header.ret := Int.not_lt.mp failed
        simp [exec, Av.spares, Av.allows, failed, positive]

/-- From the audio track on, with the video stream there. -/
theorem audioStream_leads (config : MuxerConfig) (reply : OpenReply) :
    exec Av.spares (.building 1) (audioStreamCalls config reply) =
      some (if ((audioStreams config reply).isSome && (reply.ioBuffer && reply.avio) &&
        decide (0 ≤ reply.header.ret)) = true then .writing (streamCount config) .none
        else .absent) := by
  rw [audioStreamCalls, audioStreams, streamCount]
  by_cases coded : config.audioCodec = .kAAC
  · rw [if_pos coded, if_pos coded, if_pos coded]
    cases reply.audioStream with
    | false => rfl
    | true =>
      cases buildAudioSpecificConfig config.sampleRate config.channels with
      | error => rfl
      | ok asc =>
        cases reply.audioExtradata with
        | false => rfl
        | true => exact io_leads 2 reply
  · rw [if_neg coded, if_neg coded, if_neg coded]
    exact io_leads 1 reply

theorem open_leads (config : MuxerConfig) (first : VideoPacket) (reply : OpenReply) :
    exec Av.spares .absent (openCalls config first reply) =
      some (if opens config first reply = true then .writing (streamCount config) .none
        else .absent) := by
  rw [openCalls, opens, asksHeader, openStreams]
  cases reply.context with
  | false => rfl
  | true =>
    cases reply.videoStream with
    | false => rfl
    | true =>
      cases videoExtradata first reply.videoExtradata with
      | none => rfl
      | some extradata =>
        have led := audioStream_leads config reply
        cases streams : audioStreams config reply with
        | none => rw [streams] at led; exact led
        | some audio => rw [streams] at led; exact led

theorem openMuxer_leads (closed : m.opened = false) (first : VideoPacket) (reply : OpenReply) :
    Asks m (openCalls m.config first reply) (m.openMuxer first reply).2 := by
  refine ⟨fun {p} fits => ?_⟩
  have start : p = .absent ∧ m.Indexed := by
    cases p with
    | absent => exact ⟨rfl, fits.2⟩
    | writing streams packet =>
      cases packet with
      | none => exact nomatch closed.symm.trans fits.1
      | _ => exact fits.elim
    | _ => exact fits.elim
  obtain ⟨rfl, indexed⟩ := start
  have index : m.audioIndex = -1 ∨ m.config.audioCodec = .kAAC ∧ m.audioIndex = 1 := by
    rw [audioIndex]
    split
    · rename_i coded
      exact .inr ⟨coded, rfl⟩
    · exact indexed
  refine ⟨_, open_leads m.config first reply, ?_⟩
  cases succeeds : opens m.config first reply with
  | true =>
    obtain ⟨streams, -, opened⟩ := openMuxer_opened succeeds
    rw [opened]
    exact ⟨rfl, index, rfl, rfl⟩
  | false =>
    obtain ⟨audio, failed, known⟩ := openMuxer_failed succeeds
    rw [failed]
    refine ⟨rfl, ?_⟩
    rcases known with rfl | rfl
    · exact indexed
    · exact index

/-- What a packet changes is no matter of the phase. -/
theorem Fits.keeps {out : Output} {handed : List AVPacket} {pendingAudio : List AudioPacket}
    (fits : m.Fits p) : Fits { m with out, handed, pendingAudio } p := by
  cases p with
  | writing streams packet => cases packet <;> exact fits
  | _ => exact fits

theorem writeAudio_leads (av : LibAV) (opened : m.opened = true) (pkt : AudioPacket)
    (reply : PacketReply) :
    Asks m (m.writeAudioCalls reply) (writeAudioPacket av m pkt reply).2 := by
  refine ⟨fun {p} fits => ?_⟩
  obtain ⟨out, sent, same, -⟩ := writeAudioPacket_effect av m pkt reply
  rw [same, writeAudioCalls]
  split
  · exact ⟨p, rfl, fits.keeps⟩
  · rename_i present
    cases p with
    | writing streams packet =>
      cases packet with
      | none =>
        obtain ⟨-, indexed, video, rfl⟩ := fits
        refine ⟨_, packet_leads ?_ reply false, Fits.keeps ⟨opened, indexed, video, rfl⟩⟩
        rcases indexed with absent | ⟨coded, index⟩
        · rw [absent] at present
          exact absurd (by decide) present
        · rw [index, streamCount, if_pos coded]
          decide
      | _ => exact fits.elim
    | absent => exact nomatch opened.symm.trans fits.1
    | _ => exact fits.elim

theorem writeAudio_opened (av : LibAV) (pkt : AudioPacket) (reply : PacketReply) :
    (writeAudioPacket av m pkt reply).2.opened = m.opened := by
  obtain ⟨out, sent, same, -⟩ := writeAudioPacket_effect av m pkt reply
  rw [same]
  rfl

theorem replayAudio_opened (pkts : List AudioPacket) (replies : List PacketReply) :
    (replayAudio av m pkts replies).2.opened = m.opened :=
  replayAudio_keeps (P := fun n => n.opened = m.opened)
    (fun pkt reply same => (writeAudio_opened av pkt reply).trans same) pkts replies rfl

theorem openMuxer_present {first : VideoPacket} {reply : OpenReply}
    (ok : (m.openMuxer first reply).1 = .kOk) : (m.openMuxer first reply).2.opened = true := by
  cases succeeds : opens m.config first reply with
  | true =>
    obtain ⟨streams, -, opened⟩ := openMuxer_opened succeeds
    rw [opened]
    rfl
  | false =>
    obtain ⟨audio, failed, -⟩ := openMuxer_failed succeeds
    rw [failed] at ok
    contradiction

theorem replayAudio_leads (opened : m.opened = true) (pkts : List AudioPacket)
    (replies : List PacketReply) :
    Asks m (replayAudioCalls av m pkts replies) (replayAudio av m pkts replies).2 := by
  induction pkts generalizing m replies with
  | nil => exact .silent id
  | cons pkt pkts ih =>
    have wrote := writeAudio_leads av opened pkt (replies.headD {})
    have still := (writeAudio_opened av pkt (replies.headD {})).trans opened
    rw [replayAudioCalls, replayAudio]
    refine wrote.trans ?_
    by_cases ok : (writeAudioPacket av m pkt (replies.headD {})).1 = .kOk
    · simp only [ok, ne_eq, not_true_eq_false, if_false]
      exact ih still replies.tail
    · simp only [ok, ne_eq, not_false_eq_true, if_true]
      exact .silent id

theorem writeVideo_leads (opened : m.opened = true) (pkt : VideoPacket) (reply : PushReply) :
    Asks m (m.writeVideoCalls pkt reply) (writeVideoPacket av m pkt reply).2 := by
  refine ⟨fun {p} fits => ?_⟩
  obtain ⟨out, same⟩ := writeVideoPacket_effect av m pkt reply
  rw [same, writeVideoCalls]
  split
  · exact ⟨p, rfl, fits.keeps⟩
  · cases p with
    | writing streams packet =>
      cases packet with
      | none =>
        obtain ⟨-, indexed, video, rfl⟩ := fits
        refine ⟨_, packet_leads ?_ reply.packet _, Fits.keeps ⟨opened, indexed, video, rfl⟩⟩
        rw [video, streamCount]
        split <;> decide
      | _ => exact fits.elim
    | absent => exact nomatch opened.symm.trans fits.1
    | _ => exact fits.elim

theorem pushVideo_leads (pkt : VideoPacket) (reply : PushReply) :
    Asks m (pushVideoCalls av m pkt reply) (pushVideo av m pkt reply).2 := by
  rw [pushVideoCalls, pushVideo]
  by_cases empty : pkt.data = []
  · simp only [empty, true_or, if_true]
    exact .silent id
  by_cases detached : m.out.sink.isNone = true
  · simp only [empty, detached, or_true, if_true, if_false]
    exact .silent id
  simp only [empty, detached, if_false]
  cases opened : m.opened with
  | true => exact writeVideo_leads opened pkt reply
  | false =>
    cases key : pkt.keyframe with
    | false => exact .silent id
    | true =>
      simp only [Bool.not_true, Bool.false_eq_true, if_false]
      refine (openMuxer_leads opened pkt reply.opening).trans ?_
      split
      · exact .refl
      · rename_i ok
        have present := openMuxer_present (not_not.mp ok)
        refine (replayAudio_leads present m.pendingAudio reply.replay).trans ?_
        split
        · exact .refl
        · have still := (@replayAudio_opened av _ m.pendingAudio reply.replay).trans present
          generalize replayAudio av (m.openMuxer pkt reply.opening).2 m.pendingAudio reply.replay
            = replayed at still
          have cleared : Asks replayed.2 [] { replayed.2 with pendingAudio := [] } :=
            .silent Fits.keeps
          exact cleared.trans
            (writeVideo_leads (m := { replayed.2 with pendingAudio := [] }) still pkt reply)

theorem pushAudio_leads (pkt : AudioPacket) (reply : PacketReply) :
    Asks m (m.pushAudioCalls pkt reply) (pushAudio av m pkt reply).2 := by
  rw [pushAudioCalls, pushAudio]
  by_cases empty : pkt.data = []
  · simp only [empty, true_or, if_true]
    exact .refl
  by_cases detached : m.out.sink.isNone = true
  · simp only [empty, detached, true_or, or_true, if_true, if_false]
    exact .refl
  by_cases coded : m.config.audioCodec = .kAAC
  · simp only [empty, detached, coded, ne_eq, not_true_eq_false, if_false]
    cases opened : m.opened with
    | false => exact .silent Fits.keeps
    | true => exact writeAudio_leads av opened pkt reply
  · simp only [empty, detached, coded, ne_eq, not_false_eq_true, or_true, if_true, if_false]
    exact .refl

/-- Trailer, I/O context and container, in this order. -/
theorem close_leads (opened : m.opened = true) (closed : n.opened = false)
    (config : n.config = m.config) (index : n.audioStreamIndex = m.audioStreamIndex) :
    Asks m closeCalls n := by
  refine ⟨fun {p} fits => ?_⟩
  cases p with
  | writing streams packet =>
    cases packet with
    | none =>
      refine ⟨.absent, rfl, closed, ?_⟩
      rw [Indexed, config, index]
      exact fits.2.1
    | _ => exact fits.elim
  | absent => exact nomatch opened.symm.trans fits.1
  | _ => exact fits.elim

theorem call_leads (av : LibAV) (m : FFmpegMuxer) (c : Call) :
    Asks m (avCalls av m c) (call av m c).2 := by
  cases c with
  | pushVideo pkt reply => exact pushVideo_leads pkt reply
  | pushAudio pkt reply => exact pushAudio_leads pkt reply
  | setOutput | flush => exact .silent Fits.keeps
  | finish reply =>
    rw [avCalls, call, finish]
    cases opened : m.opened with
    | false => exact .silent Fits.keeps
    | true => exact close_leads opened rfl rfl rfl
  | release reply =>
    rw [avCalls, call, release]
    cases opened : m.opened with
    | false => exact .silent Fits.keeps
    | true => exact close_leads opened rfl rfl rfl

end Steps

/-- A muxer with what it has asked of libavformat. -/
def tracedCall (av : LibAV) :
    Traced FFmpegMuxer Av.Call → Call → Option (Traced FFmpegMuxer Av.Call) :=
  Traced.next (fun m c => (call av m c).2) (avCalls av)

/-- In every run, whatever fails, the calls on libavformat keep to its protocol, and
between two calls all that is held is the open container. An I/O buffer is freed where
no context could be made for it; every other one is leaked when its context is freed. -/
theorem av_protocol_kept (av : LibAV) (config : MuxerConfig)
    (run : Run (Takes (tracedCall av)) { system := { config } } cs t) :
    exec Av.allows .absent t.calls = some (if t.system.opened = true then
        .writing (streamCount t.system.config) .none else .absent) ∧
      Av.leaked .absent t.calls = t.calls.count .freeIo ∧
      t.calls.count (.allocBuffer true) =
        t.calls.count .freeBuffer + t.calls.count .freeIo + t.system.opened.toNat := by
  have start : Traced.Obeys Av.spares .absent Fits { system := { config } } :=
    ⟨.absent, rfl, rfl, .inl rfl⟩
  have steps {m : FFmpegMuxer} {c : Call} (_ : True) := call_leads av m c
  obtain ⟨phase, spared, fits⟩ := Traced.run_obeys steps (run.guarded fun _ _ _ => trivial) start
  obtain ⟨led, leaks⟩ := Av.spares_leaks spared nofun
  have balance := Av.buffers_balance led
  rw [leaks] at balance
  cases phase with
  | absent =>
    rw [fits.1]
    exact ⟨led, leaks, balance⟩
  | writing streams packet =>
    cases packet with
    | none =>
      obtain ⟨opened, -, -, rfl⟩ := fits
      rw [opened]
      exact ⟨led, leaks, balance⟩
    | _ => exact fits.elim
  | _ => exact fits.elim

/-- A header that fails, and an opening that succeeds, with a packet that does not. -/
theorem av_protocol_kept_three :
    ∃ t, Run (Takes (tracedCall ⟨fun pts _ _ => pts⟩))
        { system := { config := { width := 2, height := 2 } } }
        [.setOutput (some 0),
          .pushVideo ⟨[0, 0, 1, 0x65], 0, true⟩ { opening := { header := { ret := -1 } } },
          .pushVideo ⟨[0, 0, 1, 0x65], 0, true⟩ { packet := { data := false } }, .finish {}] t ∧
      t.calls.count .freeIo = 2 ∧
      exec Av.allows .absent t.calls = some (if t.system.opened = true then
          .writing (streamCount t.system.config) .none else .absent) ∧
      Av.leaked .absent t.calls = t.calls.count .freeIo ∧
      t.calls.count (.allocBuffer true) =
        t.calls.count .freeBuffer + t.calls.count .freeIo + t.system.opened.toNat := by
  have run : Run (Takes (tracedCall ⟨fun pts _ _ => pts⟩))
      { system := { config := { width := 2, height := 2 } } }
      [.setOutput (some 0),
        .pushVideo ⟨[0, 0, 1, 0x65], 0, true⟩ { opening := { header := { ret := -1 } } },
        .pushVideo ⟨[0, 0, 1, 0x65], 0, true⟩ { packet := { data := false } }, .finish {}] _ :=
    exec_run rfl
  exact ⟨_, run, by decide, av_protocol_kept _ _ run⟩

end FFmpegMuxer
end VideoCodec
