import VideoCodec.Encode.MediaCodec
import VideoCodec.Transition.Run

/-! What `Flush` of a MediaCodec encoder leaves in its codec when it calls
`AMediaCodec_flush`, over runs of calls with any answers of the codec to them. -/
namespace VideoCodec

open Transition MediaCodec

namespace MediaCodec

namespace Dequeued

def endOfStream : Dequeued → Bool
  | .buffer b _ => b.endOfStream
  | _ => false

def frame? : Dequeued → Option OutputBuffer
  | .buffer b _ => if b.frame then some b else none
  | _ => none

/-- Up to the first buffer that ends the stream. -/
def throughEos : List Dequeued → List Dequeued
  | [] => []
  | d :: rest => if d.endOfStream then [d] else d :: throughEos rest

/-- The buffers that hold frames. -/
def frames (l : List Dequeued) : List OutputBuffer := l.filterMap frame?

/-- The end of the stream comes, or an error, before `Drain` first has to wait. An error
is also that an attached sink refuses a packet. -/
def Prompt (attached : Bool) : List Dequeued → Prop
  | [] | .tryAgain _ :: _ => False
  | .failed :: _ => True
  | .formatChanged :: rest | .buffersChanged :: rest => Prompt attached rest
  | .buffer b answer :: rest =>
    b.endOfStream = true ∨ (attached && b.frame && answer ≠ .kOk) = true ∨ Prompt attached rest

/-- What a codec may answer after the end of the stream is queued while it holds
output for `held` buffers: these, and the end of the stream, unless it fails before. -/
def Honest (held : Nat) (l : List Dequeued) : Prop :=
  .failed ∈ throughEos l ∨
    l.any endOfStream = true ∧ (frames (throughEos l)).length = held

instance (held : Nat) (l : List Dequeued) : Decidable (Honest held l) :=
  inferInstanceAs (Decidable (_ ∨ _))

section Lists
variable {l taken rest : List Dequeued}

theorem throughEos_prefix_of_seen (rest : List Dequeued) (seen : taken.any endOfStream = true) :
    throughEos (taken ++ rest) <+: taken := by
  induction taken with
  | nil => cases seen
  | cons d taken ih =>
    rw [List.cons_append, throughEos]
    cases last : d.endOfStream with
    | true =>
      rw [if_pos rfl]
      exact List.prefix_append [d] taken
    | false =>
      rw [if_neg Bool.false_ne_true]
      rw [List.any_cons, last, Bool.false_or] at seen
      exact List.prefix_cons_inj d |>.mpr (ih seen)

theorem frames_append : frames (taken ++ rest) = frames taken ++ frames rest :=
  List.filterMap_append ..

end Lists

end Dequeued
end MediaCodec

open Dequeued

/-- A MediaCodec encoder as its runs use it. -/
structure MediaCodecApi where
  E : Type
  F : Type
  I : Type
  P : Type
  client : Client E P
  ptsUs : P → Int
  lifecycle : E → EncoderLifecycle
  init : E → I → E
  /-- Whether `Encode` queues a frame. -/
  queues : E → F → InputReply → Bool
  encode : E → F → InputReply → List Dequeued → Call E P
  /-- Whether `Flush` comes to call `AMediaCodec_flush`. -/
  resets : E → Bool
  flush : E → FlushReply → Call E P
  setOutputSink : E → Option Nat → E
  release : E → E
  sink_capture : ∀ e payload, client.sink (client.capture e payload) = client.sink e
  sink_packet : ∀ e b, client.sink (client.packet e b).2 = client.sink e
  pts_packet : ∀ e b, ptsUs (client.packet e b).1 = b.info.presentationTimeUs
  flush_drains : ∀ e reply, resets e = true → ∃ started empty,
    client.sink started = client.sink e ∧
      flush e reply = .draining client true false reply.dequeued started empty

namespace MediaCodecApi

/-- The video encoder, which resets its codec in CPU mode only. -/
def video : MediaCodecApi where
  E := MediaCodecVideoEncoder
  F := VideoFrame
  I := MediaCodecVideoReply
  P := VideoPacket
  client := MediaCodecVideoEncoder.client
  ptsUs pkt := pkt.ptsUs
  lifecycle e := e.lifecycle
  init e reply := (e.init reply).2
  queues e frame input :=
    !e.surfaceMode && e.lifecycle.encode.1 = .kOk && e.codec && e.queueInput frame input = .kOk
  encode e frame input dequeued := e.encode frame input dequeued
  resets e := !e.surfaceMode && e.codec && e.lifecycle.flush.1 = .kOk
  flush e reply := e.flush reply
  setOutputSink e sink := (e.setOutputSink sink).2
  release e := e.release
  sink_capture e payload := by
    dsimp only [MediaCodecVideoEncoder.client]
    rw [MediaCodecVideoEncoder.capture]
    split
    split
    · split <;> rfl
    · rfl
  sink_packet _ _ := rfl
  pts_packet _ _ := rfl
  flush_drains e reply resets := by
    obtain ⟨there, starts⟩ := Bool.and_eq_true_iff.mp resets
    obtain ⟨mode, codec⟩ := Bool.and_eq_true_iff.mp there
    rw [MediaCodecVideoEncoder.flush]
    rcases e.lifecycle.flush_cases with flushed | refused
    · rw [flushed, codec, (Bool.not_eq_true' _).mp mode]
      exact ⟨{ e with lifecycle := .kFlushed, codec := true }, {}, rfl, rfl⟩
    · rw [refused] at starts
      cases starts

def audio : MediaCodecApi where
  E := MediaCodecAudioEncoder
  F := AudioFrame
  I := MediaCodecAudioReply
  P := AudioPacket
  client := MediaCodecAudioEncoder.client
  ptsUs pkt := pkt.ptsUs
  lifecycle e := e.lifecycle
  init e reply := (e.init reply).2
  queues e frame input :=
    e.lifecycle.encode.1 = .kOk && e.codec && (e.queueInput frame input).1 = .kOk
  encode e frame input dequeued := e.encode frame input dequeued
  resets e := e.codec && e.lifecycle.flush.1 = .kOk
  flush e reply := e.flush reply
  setOutputSink e sink := (e.setOutputSink sink).2
  release e := e.release
  sink_capture _ _ := rfl
  sink_packet e b := by
    rw [MediaCodecAudioEncoder.client]
    dsimp only
    split <;> rfl
  pts_packet e b := by
    rw [MediaCodecAudioEncoder.client]
    dsimp only
    split <;> rfl
  flush_drains e reply resets := by
    obtain ⟨codec, starts⟩ := Bool.and_eq_true_iff.mp resets
    rw [MediaCodecAudioEncoder.flush]
    rcases e.lifecycle.flush_cases with flushed | refused
    · rw [flushed, codec]
      exact ⟨{ e with lifecycle := .kFlushed, codec := true }, {}, rfl, rfl⟩
    · rw [refused] at starts
      cases starts

section Drains
variable (api : MediaCodecApi)

def attached (e : api.E) : Bool := (api.client.sink e).isSome

/-- How a round over a buffer ends. -/
inductive TurnEnd (attached : Bool) (b : OutputBuffer) (answer : Status) :
    Option (Except Status api.P) → Prop where
  | goesOn : (attached && b.frame && answer ≠ .kOk) = false → TurnEnd attached b answer none
  | refused : (attached && b.frame && answer ≠ .kOk) = true →
      TurnEnd attached b answer (some (.error .kEncodeFailed))
  | ended (out : api.P) : b.endOfStream = true → TurnEnd attached b answer (some (.ok out))

/-- What a drain pushes are the packets of the frames among what it takes. -/
def Pushes (attached : Bool) (taken : List Dequeued) (pushed : List api.P) : Prop :=
  attached = true → pushed.map api.ptsUs = (frames taken).map (·.info.presentationTimeUs)

variable {api}

theorem deliver_cases (d : Drained api.E api.P) (b : OutputBuffer) (answer : Status) :
    ∃ e out new,
      d.deliver api.client b answer = (!(api.attached d.encoder && answer ≠ .kOk),
        { d with encoder := e, out, pushed := d.pushed ++ new }) ∧
      api.attached e = api.attached d.encoder ∧
      (api.attached d.encoder = true → new.map api.ptsUs = [b.info.presentationTimeUs]) := by
  have kept := congrArg Option.isSome (api.sink_packet d.encoder b)
  rw [Drained.deliver, attached]
  cases sink : (api.client.sink d.encoder).isSome with
  | true =>
    refine ⟨_, d.out, [(api.client.packet d.encoder b).1], ?_, kept.trans sink, fun _ => ?_⟩
    · dsimp only
      rw [if_pos rfl, Bool.true_and, decide_not, Bool.not_not]
    · rw [List.map_singleton, api.pts_packet]
  | false =>
    refine ⟨_, (api.client.packet d.encoder b).1, [], ?_, kept.trans sink, nofun⟩
    dsimp only
    rw [if_neg Bool.false_ne_true, List.append_nil, Bool.false_and, Bool.not_false]

theorem turn_buffer (d : Drained api.E api.P) (b : OutputBuffer) (answer : Status) :
    ∃ result e out new,
      d.turn api.client true false (.buffer b answer) =
        (result, { d with encoder := e, out, pushed := d.pushed ++ new }) ∧
      api.attached e = api.attached d.encoder ∧
      api.Pushes (api.attached d.encoder) [.buffer b answer] new ∧
      api.TurnEnd (api.attached d.encoder) b answer result := by
  have shown : frames [.buffer b answer] = if b.frame then [b] else [] := by
    rw [frames, List.filterMap_cons, frame?]
    cases b.frame <;> rfl
  cases frame : b.frame with
  | true =>
    rw [frame, if_pos rfl] at shown
    obtain ⟨e, out, new, delivered, kept, pushed⟩ := deliver_cases d b answer
    have pushes : api.Pushes (api.attached d.encoder) [.buffer b answer] new := by
      intro attached
      rw [pushed attached, shown, List.map_singleton]
    rw [Drained.turn_frame frame, delivered]
    cases refused : api.attached d.encoder && decide (answer ≠ .kOk) with
    | true =>
      refine ⟨_, e, out, new, rfl, kept, pushes, .refused ?_⟩
      rw [frame, Bool.and_true, refused]
    | false =>
      cases last : b.endOfStream with
      | true => exact ⟨_, e, out, new, rfl, kept, pushes, .ended out last⟩
      | false =>
        refine ⟨_, e, out, new, rfl, kept, pushes, .goesOn ?_⟩
        rw [frame, Bool.and_true, refused]
  | false =>
    rw [frame, if_neg Bool.false_ne_true] at shown
    have pushes : api.Pushes (api.attached d.encoder) [.buffer b answer] [] := by
      intro _
      rw [shown, List.map_nil, List.map_nil]
    have passed : (api.attached d.encoder && b.frame && answer ≠ .kOk) = false := by
      rw [frame, Bool.and_false, Bool.false_and]
    cases configures : b.configures with
    | true =>
      refine ⟨_, api.client.capture d.encoder b.payload, d.out, [], ?_, ?_, pushes, .goesOn passed⟩
      · rw [Drained.turn_config configures, List.append_nil]
      · exact congrArg Option.isSome (api.sink_capture d.encoder b.payload)
    | false =>
      rw [Drained.turn_other configures frame]
      cases ended : !b.malformed && (true && b.endOfStream) with
      | true =>
        refine ⟨_, d.encoder, d.out, [], ?_, rfl, pushes, .ended d.out ?_⟩
        · rw [if_pos rfl, List.append_nil]
        · exact (Bool.and_eq_true_iff.mp ended).2
      | false =>
        refine ⟨_, d.encoder, d.out, [], ?_, rfl, pushes, .goesOn passed⟩
        rw [if_neg Bool.false_ne_true, List.append_nil]

theorem Pushes.append {attached : Bool} {taken more : List Dequeued} {pushed new : List api.P}
    (first : api.Pushes attached taken pushed) (later : api.Pushes attached more new) :
    api.Pushes attached (taken ++ more) (pushed ++ new) := by
  intro sink
  rw [List.map_append, first sink, later sink, frames_append, List.map_append]

theorem pushes_nil {attached : Bool} {answer : Dequeued} (noFrame : answer.frame? = none) :
    api.Pushes attached [answer] [] := by
  intro _
  rw [frames, List.filterMap_cons, noFrame]
  rfl

/-- Whether a drain has seen the end of the stream or an error. -/
def Seen (result : Except Status api.P) (taken : List Dequeued) : Prop :=
  (∃ st, result = .error st) ∨ taken.any endOfStream = true

theorem not_seen {out : api.P} {taken : List Dequeued} (unended : taken.any endOfStream = false) :
    ¬Seen (.ok out) taken := by
  rintro (⟨_, ⟨⟩⟩ | last)
  exact Bool.eq_false_iff.mp unended last

/-- What a drain for the end of the stream does: it takes answers from the front, pushes
the packets of their frames, does not succeed past a failed answer, and sees the end of
the stream or an error just when that comes promptly. -/
def Drains (d : Drained api.E api.P) (answers : List Dequeued) : Prop :=
  ∃ result e out taken new,
    Drained.drain api.client true false answers d =
      (result, { encoder := e, out, pushed := d.pushed ++ new, dequeued := d.dequeued ++ taken }) ∧
    taken <+: answers ∧ api.Pushes (api.attached d.encoder) taken new ∧
    (∀ out, result = .ok out → .failed ∉ taken) ∧
    (Seen result taken ↔ Prompt (api.attached d.encoder) answers)

section Step
variable {d : Drained api.E api.P} {answer : Dequeued} {rest : List Dequeued}
  (e : api.E) (out : api.P) {new : List api.P}

/-- A round after which the drain goes on. -/
theorem Drains.cons
    (turned : Drained.turn api.client true false
      { d with dequeued := d.dequeued ++ [answer] } answer =
        (none,
          { encoder := e, out, pushed := d.pushed ++ new, dequeued := d.dequeued ++ [answer] }))
    (kept : api.attached e = api.attached d.encoder)
    (pushes : api.Pushes (api.attached d.encoder) [answer] new)
    (sound : answer ≠ .failed)
    (prompt : Prompt (api.attached d.encoder) (answer :: rest) ↔
      answer.endOfStream = true ∨ Prompt (api.attached d.encoder) rest)
    (onward : Drains
      { encoder := e, out, pushed := d.pushed ++ new, dequeued := d.dequeued ++ [answer] } rest) :
    Drains d (answer :: rest) := by
  obtain ⟨result, e', out', taken, more, drained, front, later, unfailed, seen⟩ := onward
  rw [kept] at later seen
  refine ⟨result, e', out', answer :: taken, new ++ more, ?_, ?_, pushes.append later, ?_, ?_⟩
  · rw [Drained.drain, turned]
    dsimp only
    rw [drained, List.append_assoc, List.append_assoc]
    rfl
  · exact (List.prefix_cons_inj answer).mpr front
  · intro out ok among
    rcases List.mem_cons.mp among with same | among
    · exact sound same.symm
    · exact unfailed out ok among
  · rw [prompt, ← seen, Seen, Seen, List.any_cons, Bool.or_eq_true]
    exact or_left_comm

/-- The last round. -/
theorem Drains.last (result : Except Status api.P)
    (turned : Drained.turn api.client true false
      { d with dequeued := d.dequeued ++ [answer] } answer =
        (some result,
          { encoder := e, out, pushed := d.pushed ++ new, dequeued := d.dequeued ++ [answer] }))
    (pushes : api.Pushes (api.attached d.encoder) [answer] new)
    (sound : ∀ out, result = .ok out → answer ≠ .failed)
    (prompt : Seen result [answer] ↔ Prompt (api.attached d.encoder) (answer :: rest)) :
    Drains d (answer :: rest) := by
  refine ⟨result, e, out, [answer], new, ?_, ⟨rest, rfl⟩, pushes, ?_, prompt⟩
  · rw [Drained.drain, turned]
  · intro out ok among
    exact sound out ok (List.mem_singleton.mp among).symm

end Step

theorem drains (answers : List Dequeued) (d : Drained api.E api.P) : Drains d answers := by
  induction answers generalizing d with
  | nil =>
    refine ⟨.ok d.out, d.encoder, d.out, [], [], ?_, List.nil_prefix, fun _ => rfl, nofun, ?_⟩
    · rw [List.append_nil, List.append_nil]
      rfl
    · exact iff_of_false (not_seen rfl) id
  | cons answer rest ih =>
    cases answer with
    | tryAgain expired =>
      refine .last d.encoder d.out (.ok d.out) ?_ (pushes_nil rfl) nofun
        (iff_of_false (not_seen rfl) id)
      rw [List.append_nil]
      rfl
    | formatChanged | buffersChanged =>
      refine .cons d.encoder d.out ?_ rfl (pushes_nil rfl) nofun ?_ (ih _)
      · rw [List.append_nil]
        rfl
      · exact ⟨.inr, fun prompt => prompt.resolve_left nofun⟩
    | failed =>
      refine .last d.encoder d.out (.error .kEncodeFailed) ?_ (pushes_nil rfl) nofun
        (iff_of_true (.inl ⟨_, rfl⟩) trivial)
      rw [List.append_nil]
      rfl
    | buffer b answer =>
      obtain ⟨result, e, out, new, turned, kept, pushes, turnEnd⟩ :=
        turn_buffer { d with dequeued := d.dequeued ++ [.buffer b answer] } b answer
      cases turnEnd with
      | goesOn passed =>
        refine .cons e out turned kept pushes nofun ?_ (ih _)
        rw [Prompt, passed]
        exact or_congr_right (or_iff_right Bool.false_ne_true)
      | refused refused =>
        exact .last e out _ turned pushes nofun (iff_of_true (.inl ⟨_, rfl⟩) (.inr (.inl refused)))
      | ended last ends =>
        refine .last e out _ turned pushes nofun (iff_of_true (.inr ?_) (.inl ends))
        rw [List.any_cons, Bool.or_eq_true]
        exact .inl ends

end Drains

section Runs
variable (api : MediaCodecApi)

/-- The calls of an encoder, with the answers to them. `units` is the number of buffers
that the codec will make of a frame. -/
inductive Label where
  | init (reply : api.I)
  | encode (frame : api.F) (input : InputReply) (units : Nat) (dequeued : List Dequeued)
  | flush (reply : FlushReply)
  | setOutputSink (sink : Option Nat)
  | release

/-- A `Flush` that has queued the end of the stream and called `AMediaCodec_flush`. -/
structure Flushed where
  /-- The buffers that the codec had not put out before. -/
  held : Nat
  attached : Bool
  call : Call api.E api.P

/-- An encoder with what its codec has to put out and with its flushes. -/
structure FlushRun where
  encoder : api.E
  held : Nat := 0
  flushes : List api.Flushed := []

variable {api}

/-- What the codec holds once `Encode` has queued a frame, if it does. -/
def loaded (s : api.FlushRun) (frame : api.F) (input : InputReply) (units : Nat) : Nat :=
  if api.queues s.encoder frame input then s.held + units else s.held

/-- A codec puts out no frames that it does not hold, and it is honest about the end of
the stream. -/
def next (s : api.FlushRun) : api.Label → Option api.FlushRun
  | .init reply =>
    some
      { s with
        encoder := api.init s.encoder reply
        held := if (api.lifecycle s.encoder).canInit then 0 else s.held }
  | .encode frame input units dequeued =>
    let call := api.encode s.encoder frame input dequeued
    let out := (frames call.dequeued).length
    if out ≤ loaded s frame input units then
      some { s with encoder := call.encoder, held := loaded s frame input units - out }
    else none
  | .flush reply =>
    let call := api.flush s.encoder reply
    if !api.resets s.encoder then some { s with encoder := call.encoder }
    else if !reply.queuesEos then some { s with encoder := call.encoder, held := 0 }
    else if Honest s.held reply.dequeued then
      some
        { encoder := call.encoder
          held := 0
          flushes := s.flushes ++ [⟨s.held, api.attached s.encoder, call⟩] }
    else none
  | .setOutputSink sink => some { s with encoder := api.setOutputSink s.encoder sink }
  | .release => some { s with encoder := api.release s.encoder, held := 0 }

/-- The codec was not reset before the end of the stream or an error was seen; without
an error nothing was left in it, and an attached sink has got the packets. -/
structure Flushed.Complete (f : api.Flushed) : Prop where
  seen : Seen f.call.result f.call.dequeued
  yielded : ∀ out, f.call.result = .ok out → f.held ≤ (frames f.call.dequeued).length
  pushes : api.Pushes f.attached f.call.dequeued f.call.pushed

def Complete (s : api.FlushRun) : Prop := ∀ f ∈ s.flushes, f.Complete

/-- Behind an end of the stream that is queued, its buffer or an error comes before
`AMEDIACODEC_INFO_TRY_AGAIN_LATER`. -/
def PromptEnd (s : api.FlushRun) : api.Label → Prop
  | .flush reply =>
    api.resets s.encoder = true → reply.queuesEos = true →
      Prompt (api.attached s.encoder) reply.dequeued
  | _ => True

theorem flushed_complete_iff {e : api.E} {reply : FlushReply} {held : Nat}
    (resets : api.resets e = true) (honest : Honest held reply.dequeued) :
    (Flushed.mk held (api.attached e) (api.flush e reply)).Complete ↔
      Prompt (api.attached e) reply.dequeued := by
  obtain ⟨started, empty, same, flushed⟩ := api.flush_drains e reply resets
  have kept : api.attached started = api.attached e := congrArg Option.isSome same
  obtain ⟨result, e', out, taken, new, drained, front, pushes, unfailed, seen⟩ :=
    drains reply.dequeued { encoder := started, out := empty }
  rw [kept] at pushes seen
  rw [flushed, Call.draining, drained, List.nil_append, List.nil_append]
  constructor
  · exact fun complete => seen.mp complete.seen
  · intro prompt
    refine ⟨seen.mpr prompt, ?_, pushes⟩
    rintro last rfl
    obtain ⟨st, ⟨⟩⟩ | ended := seen.mpr prompt
    -- what ends with the end of the stream was taken, and nothing of it had failed
    obtain ⟨rest, split⟩ := front
    have whole := throughEos_prefix_of_seen rest ended
    rw [split] at whole
    rcases honest with failed | ⟨_, count⟩
    · exact absurd (whole.subset failed) (unfailed last rfl)
    · obtain ⟨more, append⟩ := whole
      dsimp only
      rw [← count, ← append, frames_append, List.length_append]
      exact Nat.le_add_right _ _

theorem next_complete_iff {s t : api.FlushRun} {l : api.Label} (complete : Complete s)
    (step : next s l = some t) : Complete t ↔ PromptEnd s l := by
  cases l with
  | init reply | setOutputSink sink | release =>
    obtain rfl := Option.some.inj step
    exact iff_of_true complete trivial
  | encode frame input units dequeued =>
    simp only [next] at step
    split at step
    · obtain rfl := Option.some.inj step
      exact iff_of_true complete trivial
    · cases step
  | flush reply =>
    simp only [next] at step
    split at step
    · rename_i stays
      obtain rfl := Option.some.inj step
      rw [Bool.not_eq_true'] at stays
      exact iff_of_true complete fun resets => absurd (stays.symm.trans resets) nofun
    split at step
    · rename_i unqueued
      obtain rfl := Option.some.inj step
      rw [Bool.not_eq_true'] at unqueued
      exact iff_of_true complete fun _ queued => absurd (unqueued.symm.trans queued) nofun
    split at step
    · rename_i resets queued honest
      obtain rfl := Option.some.inj step
      rw [Bool.not_eq_true', Bool.not_eq_false] at resets queued
      have now := flushed_complete_iff resets honest
      constructor
      · exact fun all _ _ => now.mp (all _ (List.mem_append_right _ (List.mem_singleton_self _)))
      · intro prompt f among
        rcases List.mem_append.mp among with before | last
        · exact complete f before
        · obtain rfl := List.mem_singleton.mp last
          exact now.mpr (prompt resets queued)
    · cases step

theorem complete_iff (e : api.E) (held : Nat) (ls : List api.Label) (t : api.FlushRun) :
    Run (Keeping (Takes next) Complete) { encoder := e, held } ls t ↔
      Run (Guarded (Takes next) PromptEnd) { encoder := e, held } ls t :=
  Run.keeping_iff_guarded (Q := fun _ => True) (fun _ _ => trivial)
    (fun _ complete step => next_complete_iff complete step) trivial nofun

/-- The flushes of a run are complete just when each sees the end of the stream, or an
error, before the codec makes it wait. -/
theorem flush_complete_iff (e : MediaCodecVideoEncoder) (a : MediaCodecAudioEncoder)
    (held : Nat) :
    (∀ (ls : List video.Label) (t : video.FlushRun),
      Run (Keeping (Takes next) Complete) { encoder := e, held } ls t ↔
        Run (Guarded (Takes next) PromptEnd) { encoder := e, held } ls t) ∧
    ∀ (ls : List audio.Label) (t : audio.FlushRun),
      Run (Keeping (Takes next) Complete) { encoder := a, held } ls t ↔
        Run (Guarded (Takes next) PromptEnd) { encoder := a, held } ls t :=
  ⟨@complete_iff video e held, @complete_iff audio a held⟩

/-- One frame is queued; the codec answers once that there is nothing yet, and its packet
and the end of the stream are discarded. -/
theorem flush_incomplete :
    ¬((∀ (e : MediaCodecVideoEncoder) (ls : List video.Label) (t : video.FlushRun),
        Run (Takes next) { encoder := e } ls t → Complete t) ∧
      ∀ (a : MediaCodecAudioEncoder) (ls : List audio.Label) (t : audio.FlushRun),
        Run (Takes next) { encoder := a } ls t → Complete t) := by
  rintro ⟨always, _⟩
  let frame : Dequeued := .buffer ⟨{ size := 1 }, [1], fun _ _ => by decide⟩
  let eos : Dequeued := .buffer ⟨{ size := 0, flags := 4 }, [], fun _ _ => by decide⟩
  have complete := always { config := { width := 2, height := 2 } }
    [.setOutputSink (some 0), .init {}, .encode { width := 2, height := 2 } { size := some 6 } 1 [],
      .flush { dequeued := [.tryAgain, frame, eos] }] _
    (.next rfl (.next rfl (.next rfl (.single rfl))))
  obtain ⟨⟨_, ⟨⟩⟩ | ⟨⟨⟩⟩, _⟩ := complete _ (List.mem_singleton_self _)

end Runs

end MediaCodecApi

end VideoCodec
