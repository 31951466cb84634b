import VideoCodec.Transition.Run
import VideoCodec.Mux.FFmpegMuxer

/-! Whether a refusal of the sink is returned by some call: libavformat hands on
what fails inside it, except where its result is thrown away. -/
namespace VideoCodec

/-- A write or flush that the sink refuses; a refused seek is no lost byte. -/
def SinkRequest.refused : SinkRequest → Bool
  | .write _ accepted | .flush accepted => !accepted
  | .seek .. => false

def AvioCall.refused : AvioCall → Bool
  | .write _ accepted => !accepted
  | .seek .. => false

/-- A call into libavformat that returns a negative code when a write failed in it. -/
def AvReply.Honest (reply : AvReply) : Prop :=
  reply.io.any AvioCall.refused = true → reply.ret < 0

namespace Output

def refused (out : Output) : Bool := out.events.any fun event => event.request.refused

end Output

namespace FFmpegMuxer

open Transition

/-- The calls of a recording, a push or `Finish`, whose libavformat answers are honest. -/
def Answers : Call → Prop
  | .pushVideo _ reply =>
    reply.opening.header.Honest ∧ (∀ each ∈ reply.replay, each.write.Honest) ∧
      reply.packet.write.Honest
  | .pushAudio _ reply => reply.write.Honest
  | .finish reply => reply.trailer.Honest
  | _ => False

/-- A muxer, and whether a call on it has returned a failure. -/
structure Recording where
  muxer : FFmpegMuxer
  reported : Bool := false

def Recording.next (av : LibAV) (r : Recording) (c : Call) : Option Recording :=
  some {
    muxer := (call av r.muxer c).2
    reported := r.reported || decide ((call av r.muxer c).1 ≠ .kOk) }

/-- What the sink refused has been reported. -/
def Reported (r : Recording) : Prop := r.muxer.out.refused = true → r.reported = true

/-- A sample is written and commits a fragment. -/
def commits (m : FFmpegMuxer) (pkt : VideoPacket) (reply : PushReply) : Bool :=
  handsOver pkt reply.packet && decide (0 ≤ reply.packet.write.ret) &&
    (m.config.fragmented && pkt.keyframe)

/-- A push reaches the `avio_flush` behind a fragment. -/
def reachesFlush (m : FFmpegMuxer) (pkt : VideoPacket) (reply : PushReply) : Bool :=
  decide (pkt.data ≠ []) && m.out.sink.isSome && commits m pkt reply &&
    (m.opened || (opens m.config pkt reply.opening &&
      replays m.audioIndex m.pendingAudio reply.replay))

/-- A write that fails in `avio_flush` or `av_write_trailer` is followed by a
failing flush of the sink, unless a failure has been returned before. -/
def FlushMeets (r : Recording) (c : Call) : Prop :=
  r.reported = true ∨
    match c with
    | .pushVideo pkt reply =>
      reachesFlush r.muxer pkt reply = true → reply.ioFlush.any AvioCall.refused = true →
        reply.commit = false
    | .finish reply =>
      r.muxer.opened = true → r.muxer.out.sink.isSome = true →
        (reply.trailer.io ++ reply.ioFlush).any AvioCall.refused = true → reply.commit = false
    | _ => True

end FFmpegMuxer

namespace Output

section Refusals
variable (out : Output) (origin : Origin)

theorem ask_refused (sink : Nat) (request : SinkRequest) :
    (out.ask origin sink request).refused = (out.refused || request.refused) := by
  simp [refused, ask]

theorem callback_refused (call : AvioCall) :
    (out.callback origin call).2.refused = (out.refused || (out.sink.isSome && call.refused)) := by
  cases call with
  | write data accepted =>
    rw [callback, sinkWrite]
    cases out.sink with
    | none => simp
    | some sink =>
      cases accepted with
      | true =>
        exact (out.ask_refused origin sink _).trans
          (by simp [SinkRequest.refused, AvioCall.refused])
      | false =>
        exact (out.ask_refused origin sink _).trans
          (by simp [SinkRequest.refused, AvioCall.refused])
  | seek offset whence tell accepted position =>
    rw [callback, sinkSeek]
    simp only [AvioCall.refused, Bool.and_false, Bool.or_false]
    split
    · split
      · rfl
      · cases accepted <;>
          exact (out.ask_refused origin _ _).trans (by simp [SinkRequest.refused])
    · rfl

theorem serve_refused (calls : List AvioCall) :
    (out.serve origin calls).refused =
      (out.refused || (out.sink.isSome && calls.any AvioCall.refused)) := by
  induction calls generalizing out with
  | nil => simp [serve]
  | cons call calls ih =>
    refine (ih _).trans ?_
    rw [callback_refused, callback_sink, List.any_cons]
    cases out.refused <;> cases out.sink.isSome <;> cases call.refused <;> rfl

theorem flush_refused (accepted : Bool) :
    (out.flush accepted).refused = (out.refused || !out.flushed accepted) := by
  rw [flush, flushed]
  cases out.sink with
  | none => simp
  | some sink => exact (out.ask_refused .commit sink _).trans (by simp [SinkRequest.refused])

end Refusals

end Output

namespace FFmpegMuxer

open Transition

/-- A call that returns `kOk` leaves nothing refused. -/
def Quiet (result : Status × FFmpegMuxer) : Prop := result.1 = .kOk → result.2.out.refused = false

section Quietness
variable {av : LibAV} {m : FFmpegMuxer}

theorem quiet_failed (m : FFmpegMuxer) : Quiet (.kEncodeFailed, m) :=
  fun ok => absurd ok (by simp)

/-- An honest call that succeeds had no write refused. -/
theorem accepted_of_honest {reply : AvReply} (honest : reply.Honest) (success : 0 ≤ reply.ret) :
    reply.io.any AvioCall.refused = false := by
  cases refused : reply.io.any AvioCall.refused with
  | false => rfl
  | true => exact absurd (honest refused) (Int.not_lt.mpr success)

theorem serve_clean {out : Output} (origin : Origin) {reply : AvReply} (clean : out.refused = false)
    (honest : reply.Honest) (success : 0 ≤ reply.ret) :
    (out.serve origin reply.io).refused = false := by
  rw [Output.serve_refused, clean, accepted_of_honest honest success, Bool.and_false]
  rfl

theorem writeAudioPacket_quiet {pkt : AudioPacket} {reply : PacketReply}
    (clean : m.out.refused = false) (honest : reply.write.Honest) :
    Quiet (writeAudioPacket av m pkt reply) := by
  rcases writeAudioPacket_cases av m pkt reply with ⟨_, refused⟩ | ⟨_, handed⟩
  · rw [refused]
    exact quiet_failed m
  · rw [handed]
    split
    · exact quiet_failed _
    · rename_i success
      exact fun _ => serve_clean _ clean honest (Int.not_lt.mp success)

theorem replayAudio_quiet (av : LibAV) (pkts : List AudioPacket) {replies : List PacketReply}
    (clean : m.out.refused = false) (honest : ∀ each ∈ replies, each.write.Honest) :
    Quiet (replayAudio av m pkts replies) := by
  induction pkts generalizing m replies with
  | nil => exact fun _ => clean
  | cons pkt pkts ih =>
    have first : (replies.headD {}).write.Honest := by
      cases replies with
      | nil => exact fun refused => absurd refused Bool.false_ne_true
      | cons reply replies => exact honest reply List.mem_cons_self
    unfold replayAudio
    dsimp only
    split
    · exact quiet_failed _
    · rename_i written
      apply ih
      · exact writeAudioPacket_quiet clean first (not_not.mp written)
      · exact fun each member => honest each (List.mem_of_mem_tail member)

/-- What was refused up to the commit point is returned there only if the sink
refuses the flush as well. -/
theorem commit_quiet_iff (io : List AvioCall) (accepted : Bool)
    (sink : m.out.sink.isSome = true) :
    Quiet ((m.avio .ioFlush io).commit accepted) ↔
      ((m.out.refused || io.any AvioCall.refused) = true → accepted = false) := by
  have flushed : (m.out.serve .ioFlush io).flushed accepted = accepted := by
    rw [Output.flushed, Output.serve_sink, Option.isNone_eq_false_iff.mpr sink, Bool.false_or]
  have refused : ((m.out.serve .ioFlush io).flush accepted).refused =
      ((m.out.refused || io.any AvioCall.refused) || !accepted) := by
    rw [Output.flush_refused, flushed, Output.serve_refused, sink, Bool.true_and]
  rw [Quiet, commit]
  change ((if (m.out.serve .ioFlush io).flushed accepted = true then Status.kOk
    else .kEncodeFailed) = .kOk → ((m.out.serve .ioFlush io).flush accepted).refused = false) ↔ _
  rw [flushed, refused]
  cases accepted with
  | true => simp
  | false => simp

/-- A written sample is quiet unless the flush behind it swallows a failure. -/
theorem writeVideoPacket_quiet_iff {pkt : VideoPacket} {reply : PushReply}
    (clean : m.out.refused = false) (sink : m.out.sink.isSome = true)
    (honest : reply.packet.write.Honest) :
    Quiet (writeVideoPacket av m pkt reply) ↔
      (commits m pkt reply = true → reply.ioFlush.any AvioCall.refused = true →
        reply.commit = false) := by
  rw [writeVideoPacket, commits, handsOver]
  by_cases sample : (annexBToAvcc pkt.data).1 = .kOk
  · rw [if_neg (not_not_intro sample), ← Bool.not_and, decide_eq_true sample, Bool.true_and]
    cases buffered : reply.packet.alloc && reply.packet.data with
    | false => exact ⟨fun _ none => absurd none (by simp), fun _ => quiet_failed _⟩
    | true =>
      rw [Bool.not_true, if_neg Bool.false_ne_true, Bool.true_and]
      dsimp only
      by_cases failed : reply.packet.write.ret < 0
      · rw [if_pos failed, decide_eq_false (Int.not_le.mpr failed), Bool.false_and]
        exact ⟨fun _ none => absurd none Bool.false_ne_true,
          fun _ => quiet_failed _⟩
      · have success := Int.not_lt.mp failed
        have written := serve_clean .frame clean honest success
        rw [if_neg failed, decide_eq_true success, Bool.true_and]
        cases fragment : m.config.fragmented && pkt.keyframe with
        | false =>
          exact ⟨fun _ none => absurd none Bool.false_ne_true, fun _ _ => written⟩
        | true =>
          have attached : (m.out.serve .frame reply.packet.write.io).sink.isSome = true := by
            rw [Output.serve_sink]
            exact sink
          have committed := commit_quiet_iff reply.ioFlush reply.commit
            (m := (m.hand (videoSample av m pkt)).avio .frame reply.packet.write.io) attached
          rw [if_pos rfl, committed]
          change ((m.out.serve .frame reply.packet.write.io).refused || _) = true → _ ↔ _
          rw [written, Bool.false_or]
          exact ⟨fun held _ => held, fun held => held rfl⟩
  · rw [if_pos sample, decide_eq_false sample, Bool.false_and, Bool.false_and]
    exact ⟨fun _ none => absurd none Bool.false_ne_true, fun _ => quiet_failed _⟩

theorem pushVideo_quiet_iff {pkt : VideoPacket} {reply : PushReply}
    (clean : m.out.refused = false) (answers : Answers (.pushVideo pkt reply)) :
    Quiet (pushVideo av m pkt reply) ↔
      (reachesFlush m pkt reply = true → reply.ioFlush.any AvioCall.refused = true →
        reply.commit = false) := by
  obtain ⟨header, replay, write⟩ := answers
  rw [reachesFlush]
  cases videoPush m pkt reply with
  | idle none =>
    have unreached : (decide (pkt.data ≠ []) && m.out.sink.isSome && commits m pkt reply &&
        (m.opened || (opens m.config pkt reply.opening &&
          replays m.audioIndex m.pendingAudio reply.replay))) = false := by
      rcases none with empty | detached | ⟨closed, delta⟩
      · simp [empty]
      · simp [detached]
      · simp [commits, delta]
    rw [unreached]
    refine ⟨fun _ none => absurd none Bool.false_ne_true, fun _ _ => ?_⟩
    rw [pushVideo_idle none]
    exact clean
  | onward data sink opened =>
    rw [pushVideo_onward data sink opened, writeVideoPacket_quiet_iff clean sink write,
      decide_eq_true data, sink, opened, Bool.true_or, Bool.and_true, Bool.and_self, Bool.true_and]
  | failing data sink closed key fails =>
    obtain ⟨index, failed, _⟩ := pushVideo_fails av data sink closed key fails
    rw [failed, closed, fails, Bool.false_and, Bool.or_false, Bool.and_false]
    exact ⟨fun _ none => absurd none Bool.false_ne_true, fun _ => quiet_failed _⟩
  | opening data sink closed key succeeds =>
    obtain ⟨streams, _, pushed⟩ := pushVideo_opening av data sink closed key succeeds
    have success : 0 ≤ reply.opening.header.ret :=
      of_decide_eq_true (Bool.and_eq_true_iff.mp succeeds).2
    have opened : (m.openedWith pkt reply.opening streams).out.refused = false :=
      serve_clean _ clean header success
    have ok := replayAudio_ok av (m.openedWith pkt reply.opening streams)
      m.pendingAudio reply.replay
    have quiet := replayAudio_quiet av m.pendingAudio opened replay
    obtain ⟨out, sent, replayed, _⟩ := replayAudio_effect av
      (m.openedWith pkt reply.opening streams) m.pendingAudio reply.replay
    rw [decide_eq_true data, sink, closed, succeeds, Bool.false_or, Bool.and_self, Bool.true_and,
      Bool.true_and]
    rw [pushed]
    dsimp only
    cases replaying : replays m.audioIndex m.pendingAudio reply.replay with
    | false =>
      have failed : ¬ (replayAudio av (m.openedWith pkt reply.opening streams) m.pendingAudio
          reply.replay).1 = .kOk := by
        rw [ok]
        exact replaying ▸ Bool.false_ne_true
      rw [if_pos failed, Bool.and_false]
      exact ⟨fun _ none => absurd none Bool.false_ne_true, fun _ => quiet_failed _⟩
    | true =>
      have succeeded := ok.mpr replaying
      have written := quiet succeeded
      have attached : (replayAudio av (m.openedWith pkt reply.opening streams) m.pendingAudio
          reply.replay).2.out.sink.isSome = true := by
        rw [replayAudio_sink]
        exact (congrArg Option.isSome (Output.serve_sink ..)).trans sink
      rw [if_neg (not_not_intro succeeded), Bool.and_true]
      rw [replayed] at written attached ⊢
      exact writeVideoPacket_quiet_iff written attached write

theorem pushAudio_quiet {pkt : AudioPacket} {reply : PacketReply} (clean : m.out.refused = false)
    (honest : reply.write.Honest) : Quiet (pushAudio av m pkt reply) := by
  rcases pushAudio_cases av m pkt reply with ⟨st, idle⟩ | ⟨_, waits⟩ | ⟨_, onward⟩
  · rw [idle]
    exact fun _ => clean
  · rw [waits]
    exact fun _ => clean
  · rw [onward]
    exact writeAudioPacket_quiet clean honest

/-- `Finish` looks at neither the trailer's result nor the flush behind it. -/
theorem finish_quiet_iff {reply : CloseReply} (clean : m.out.refused = false) :
    Quiet (m.finish reply) ↔
      (m.opened = true → m.out.sink.isSome = true →
        (reply.trailer.io ++ reply.ioFlush).any AvioCall.refused = true →
          reply.commit = false) := by
  rw [finish]
  cases opened : m.opened with
  | false => exact ⟨fun _ up => absurd up Bool.false_ne_true, fun _ _ => clean⟩
  | true =>
    rw [if_pos rfl]
    have trailer : (m.out.serve .trailer reply.trailer.io).refused =
        (m.out.sink.isSome && reply.trailer.io.any AvioCall.refused) := by
      rw [Output.serve_refused, clean, Bool.false_or]
    cases sink : m.out.sink.isSome with
    | false =>
      refine ⟨fun _ _ attached => absurd attached Bool.false_ne_true, fun _ _ => ?_⟩
      change (((m.out.serve .trailer reply.trailer.io).serve .ioFlush reply.ioFlush).flush
        reply.commit).refused = false
      have detached : ((m.out.serve .trailer reply.trailer.io).serve .ioFlush
          reply.ioFlush).flushed reply.commit = true := by
        rw [Output.flushed, Output.serve_sink, Output.serve_sink, ← Option.not_isSome, sink]
        rfl
      rw [Output.flush_refused, detached, Output.serve_refused, Output.serve_sink, trailer, sink]
      rfl
    | true =>
      have attached : (m.out.serve .trailer reply.trailer.io).sink.isSome = true := by
        rw [Output.serve_sink]
        exact sink
      have committed := commit_quiet_iff reply.ioFlush reply.commit
        (m := { m.avio .trailer reply.trailer.io with fmt := none, pendingAudio := [] }) attached
      rw [List.any_append]
      apply committed.trans
      change ((m.out.serve .trailer reply.trailer.io).refused || _) = true → _ ↔ _
      rw [trailer, sink, Bool.true_and]
      exact ⟨fun held _ _ => held, fun held => held rfl rfl⟩

end Quietness

/-- Pushes and `Finish` on one muxer, with honest answers. -/
def Recorded (av : LibAV) : Recording → Call → Recording → Prop :=
  Guarded (Takes (Recording.next av)) fun _ c => Answers c

/-- One call keeps refusals reported exactly when it meets the condition. -/
theorem step_reported_iff {av : LibAV} {r s : Recording} {c : Call} (reported : Reported r)
    (step : Recorded av r c s) : Reported s ↔ FlushMeets r c := by
  obtain ⟨taken, answers⟩ := step
  obtain rfl := Option.some.inj taken
  unfold FlushMeets
  cases before : r.reported with
  | true =>
    exact ⟨fun _ => .inl rfl, fun _ _ => rfl⟩
  | false =>
    have clean : r.muxer.out.refused = false := by
      cases refused : r.muxer.out.refused with
      | false => rfl
      | true => exact absurd (before.symm.trans (reported refused)) Bool.false_ne_true
    have quiet : Reported
        { muxer := (call av r.muxer c).2
          reported := false || decide ((call av r.muxer c).1 ≠ .kOk) } ↔
        Quiet (call av r.muxer c) := by
      rw [Reported, Quiet]
      rw [Bool.false_or, decide_eq_true_eq]
      constructor
      · intro told ok
        cases refused : (call av r.muxer c).2.out.refused with
        | false => rfl
        | true => exact absurd ok (told refused)
      · intro held refused ok
        exact absurd ((held ok).symm.trans refused) Bool.false_ne_true
    rw [quiet]
    cases c with
    | pushVideo pkt reply =>
      rw [call, pushVideo_quiet_iff clean answers]
      exact ⟨.inr, fun meets => meets.resolve_left Bool.false_ne_true⟩
    | pushAudio pkt reply =>
      exact ⟨fun _ => .inr trivial, fun _ => pushAudio_quiet clean answers⟩
    | finish reply =>
      rw [call, finish_quiet_iff clean]
      exact ⟨.inr, fun meets => meets.resolve_left Bool.false_ne_true⟩
    | setOutput | flush | release => exact answers.elim

/-- In a recording every refused write or flush of the sink is returned by some
call, exactly when a write that fails in `avio_flush` or in `av_write_trailer` is
followed by a failing flush of the sink, unless a call has failed before. -/
theorem refusals_reported_iff_meets (av : LibAV) (config : MuxerConfig) (sink : Option Nat)
    (calls : List Call) (r : Recording) :
    Run (Keeping (Recorded av) Reported) { muxer := { config, out := { sink } } } calls r ↔
      Run (Guarded (Recorded av) FlushMeets) { muxer := { config, out := { sink } } } calls r := by
  apply Run.keeping_iff_guarded (Q := fun _ => True)
  · exact fun _ _ => trivial
  · exact fun _ reported step => step_reported_iff reported step
  · exact trivial
  · exact fun refused => absurd refused Bool.false_ne_true

/-- A write that fails while the trailer is written is lost: libavformat says so,
the sink's flush succeeds, and `Finish` returns `kOk`. -/
theorem trailer_failure_swallowed :
    ∃ r, Run (Recorded ⟨fun pts _ _ => pts⟩)
        { muxer := { config := { width := 2, height := 2 }, out := { sink := some 0 } } }
        [.pushVideo ⟨[0, 0, 1, 0x65], 0, true⟩ {},
          .finish { trailer := { io := [.write [1] false], ret := -5 } }] r ∧
      ¬ Reported r := by
  have lossless : ∀ ret, AvReply.Honest { ret } := by
    intro ret refused
    exact absurd refused Bool.false_ne_true
  refine ⟨_, .next ⟨rfl, lossless 0, ?_, lossless 0⟩ (.single ⟨rfl, fun _ => by decide⟩), ?_⟩
  · exact fun _ none => absurd none List.not_mem_nil
  · exact fun reported => absurd (reported (by decide)) (by decide)

end FFmpegMuxer

end VideoCodec
