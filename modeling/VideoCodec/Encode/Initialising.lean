import VideoCodec.Encode.FFmpeg
import VideoCodec.Encode.MediaCodec
import VideoCodec.Transition.Run

/-! What a failed `Init` leaves of an encoder, over runs of the calls of all four:
whether its state machine and its sink are those before the call, and `Encode` and `Flush`
can still do what they could. -/
namespace VideoCodec

open Transition FFmpeg

/-- An encoder as its callers see it. `I`, `R` and `Q` are the answers of the
libraries to `Init`, to `Encode` and to `Flush`. -/
structure EncoderApi where
  E : Type
  F : Type
  I : Type
  R : Type
  Q : Type
  lifecycle : E → EncoderLifecycle
  sink : E → Option Nat
  init : E → I → Status × E
  /-- Whether the call returns Ok, and what it leaves. -/
  encode : E → F → R → Bool × E
  flush : E → Q → Bool × E
  setOutputSink : E → Option Nat → E
  release : E → E

inductive EncoderKind where
  | ffmpegVideo
  | ffmpegAudio
  | mediaCodecVideo
  | mediaCodecAudio
  deriving DecidableEq, Repr

def EncoderKind.api (toUs : Int → Int) : EncoderKind → EncoderApi
  | .ffmpegVideo =>
    { E := FFmpegVideoEncoder, F := VideoFrame, I := FFmpegVideoReply
      R := FFmpegVideoEncoder.Reply, Q := FFmpegVideoEncoder.Reply
      lifecycle := fun e => e.lifecycle
      sink := fun e => e.sink
      init := fun e reply => e.init reply
      encode := fun e frame reply =>
        let (result, _, encoder) := e.encode toUs frame reply
        (result.isOk, encoder)
      flush := fun e reply =>
        let (result, _, encoder) := e.flush toUs reply
        (result.isOk, encoder)
      setOutputSink := fun e sink => (e.setOutputSink sink).2
      release := fun e => e.release }
  | .ffmpegAudio =>
    { E := FFmpegAudioEncoder, F := AudioFrame, I := FFmpegAudioReply
      R := FFmpegAudioEncoder.Reply, Q := FFmpegAudioEncoder.Reply
      lifecycle := fun e => e.lifecycle
      sink := fun e => e.sink
      init := fun e reply => e.init reply
      encode := fun e frame reply =>
        let (result, _, encoder) := e.encode toUs frame reply
        (result.isOk, encoder)
      flush := fun e reply =>
        let (result, _, encoder) := e.flush toUs reply
        (result.isOk, encoder)
      setOutputSink := fun e sink => (e.setOutputSink sink).2
      release := fun e => e.release }
  | .mediaCodecVideo =>
    { E := MediaCodecVideoEncoder, F := VideoFrame, I := MediaCodecVideoReply
      R := MediaCodec.InputReply × List MediaCodec.Dequeued, Q := MediaCodec.FlushReply
      lifecycle := fun e => e.lifecycle
      sink := fun e => e.sink
      init := fun e reply => e.init reply
      encode := fun e frame reply =>
        let call := e.encode frame reply.1 reply.2
        (call.result.isOk, call.encoder)
      flush := fun e reply =>
        let call := e.flush reply
        (call.result.isOk, call.encoder)
      setOutputSink := fun e sink => (e.setOutputSink sink).2
      release := fun e => e.release }
  | .mediaCodecAudio =>
    { E := MediaCodecAudioEncoder, F := AudioFrame, I := MediaCodecAudioReply
      R := MediaCodec.InputReply × List MediaCodec.Dequeued, Q := MediaCodec.FlushReply
      lifecycle := fun e => e.lifecycle
      sink := fun e => e.sink
      init := fun e reply => e.init reply
      encode := fun e frame reply =>
        let call := e.encode frame reply.1 reply.2
        (call.result.isOk, call.encoder)
      flush := fun e reply =>
        let call := e.flush reply
        (call.result.isOk, call.encoder)
      setOutputSink := fun e sink => (e.setOutputSink sink).2
      release := fun e => e.release }

namespace EncoderApi
variable (api : EncoderApi)

/-- What a failed `Init` must not change: with the same answers a call that would have
succeeded still does. -/
structure Reusable (before after : api.E) : Prop where
  lifecycle : api.lifecycle after = api.lifecycle before
  sink : api.sink after = api.sink before
  encode : ∀ frame reply,
    (api.encode before frame reply).1 = true → (api.encode after frame reply).1 = true
  flush : ∀ reply, (api.flush before reply).1 = true → (api.flush after reply).1 = true

theorem Reusable.refl (e : api.E) : api.Reusable e e := ⟨rfl, rfl, fun _ _ => id, fun _ => id⟩

/-- The calls of an encoder, with the answers to them. -/
inductive Call where
  | init (reply : api.I)
  | encode (frame : api.F) (reply : api.R)
  | flush (reply : api.Q)
  | setOutputSink (sink : Option Nat)
  | release

/-- An encoder with what its failed calls of `Init` have done to it. -/
structure Session where
  encoder : api.E
  /-- All of them have left it reusable. -/
  reusable : Prop := True

variable {api}

def next (s : api.Session) : api.Call → Option api.Session
  | .init reply =>
    let (st, encoder) := api.init s.encoder reply
    some
      { encoder
        reusable := s.reusable ∧ (st ≠ .kOk → api.Reusable s.encoder encoder) }
  | .encode frame reply => some { s with encoder := (api.encode s.encoder frame reply).2 }
  | .flush reply => some { s with encoder := (api.flush s.encoder reply).2 }
  | .setOutputSink sink => some { s with encoder := api.setOutputSink s.encoder sink }
  | .release => some { s with encoder := api.release s.encoder }

/-- Of each `Init` of a run it is known when its failure is harmless. -/
theorem reusable_iff {Harmless : api.E → api.I → Prop}
    (exact_init : ∀ e reply, Harmless e reply ↔
      ((api.init e reply).1 ≠ .kOk → api.Reusable e (api.init e reply).2))
    {s t : api.Session} {ls : List api.Call} (initial : s.reusable) :
    Run (Keeping (Takes next) Session.reusable) s ls t ↔
      Run (Guarded (Takes next) fun s l => ∀ reply, l = .init reply → Harmless s.encoder reply)
        s ls t := by
  refine Run.keeping_iff_guarded (Q := fun _ => True) (fun _ _ => trivial) ?_ trivial initial
  intro s l t _ reusable step
  cases l with
  | init reply =>
    obtain rfl := Option.some.inj step
    have only : (∀ given, Call.init reply = .init given → Harmless s.encoder given) ↔
        Harmless s.encoder reply :=
      ⟨fun harmless => harmless reply rfl, fun harmless given same => by cases same; exact harmless⟩
    rw [only, exact_init]
    exact and_iff_right reusable
  | encode frame reply | flush reply | setOutputSink sink | release =>
    obtain rfl := Option.some.inj step
    exact iff_of_true reusable nofun

end EncoderApi

/-- An encoder that has a codec to be open. -/
structure Opening (api : EncoderApi) where
  opened : api.E → Bool
  /-- Answers with which a `Flush` that can begin succeeds. -/
  idle : api.Q
  encodes : ∀ e frame reply,
    (api.encode e frame reply).1 = true → (api.lifecycle e).encode.1 = .kOk
  flushes : ∀ e reply, (api.flush e reply).1 = true →
    (api.lifecycle e).flush.1 = .kOk ∧ opened e = true
  flushes_idle : ∀ e, (api.lifecycle e).flush.1 = .kOk → opened e = true →
    (api.flush e idle).1 = true

/-- How an `Init` ends: it succeeds, it changes nothing, it loses the codec that was open,
it leaves one that is open too, or it releases the encoder. -/
inductive InitEnd {api : EncoderApi} (o : Opening api) (e : api.E) (harmless : Prop) :
    Status × api.E → Prop where
  | done (f : api.E) (holds : harmless) : InitEnd o e harmless (.kOk, f)
  | kept (st : Status) (holds : harmless) : InitEnd o e harmless (st, e)
  | lost (st : Status) (f : api.E) (failed : st ≠ .kOk) (can : (api.lifecycle e).canInit = true)
      (lifecycle : api.lifecycle f = api.lifecycle e) (sink : api.sink f = api.sink e)
      (closed : o.opened f = false)
      (holds : harmless ↔ (api.lifecycle e = .kFlushed → o.opened e = true → False)) :
      InitEnd o e harmless (st, f)
  | replaced (st : Status) (f : api.E) (can : (api.lifecycle e).canInit = true)
      (lifecycle : api.lifecycle f = api.lifecycle e) (sink : api.sink f = api.sink e)
      (flush : ∀ reply, (api.flush e reply).1 = true → (api.flush f reply).1 = true)
      (holds : harmless) : InitEnd o e harmless (st, f)
  | released (st : Status) (f : api.E) (failed : st ≠ .kOk)
      (can : (api.lifecycle e).canInit = true) (gone : api.lifecycle f = .kReleased)
      (holds : ¬harmless) : InitEnd o e harmless (st, f)

section Ends
variable {api : EncoderApi} {o : Opening api} {e f : api.E}

/-- An encoder that can begin refuses every `Encode`. -/
theorem Opening.encode_refused (o : Opening api) (can : (api.lifecycle e).canInit = true)
    (frame : api.F) (reply : api.R) : (api.encode e frame reply).1 ≠ true := by
  intro ok
  have begins := o.encodes e frame reply ok
  cases lifecycle : api.lifecycle e <;> simp_all [EncoderLifecycle.canInit, EncoderLifecycle.encode]

/-- Of the states in which an encoder can begin only the one behind a `Flush` allows one. -/
theorem EncoderLifecycle.flush_of_canInit {state : EncoderLifecycle}
    (can : state.canInit = true) : state.flush.1 = .kOk ↔ state = .kFlushed := by
  cases state with
  | kCreated => exact iff_of_false nofun nofun
  | kFlushed => exact iff_of_true rfl rfl
  | kInitialized | kEncoding | kReleased => cases can

/-- Without its codec an encoder can do no less only if it could not `Flush`. -/
theorem Opening.lost_iff (o : Opening api) (can : (api.lifecycle e).canInit = true)
    (lifecycle : api.lifecycle f = api.lifecycle e) (sink : api.sink f = api.sink e)
    (closed : o.opened f = false) :
    api.Reusable e f ↔ (api.lifecycle e = .kFlushed → o.opened e = true → False) := by
  have flushes := EncoderLifecycle.flush_of_canInit can
  constructor
  · intro reusable flushed opened
    have ok := reusable.flush o.idle (o.flushes_idle e (flushes.mpr flushed) opened)
    exact nomatch closed.symm.trans (o.flushes f o.idle ok).2
  · intro closed
    refine ⟨lifecycle, sink, fun frame reply ok => ?_, fun reply ok => ?_⟩
    · exact absurd ok (o.encode_refused can frame reply)
    · obtain ⟨starts, opened⟩ := o.flushes e reply ok
      exact (closed (flushes.mp starts) opened).elim

/-- What an `Init` does to the codec tells whether its failure is harmless. -/
theorem InitEnd.iff {harmless : Prop} {r : Status × api.E} (ended : InitEnd o e harmless r) :
    harmless ↔ (r.1 ≠ .kOk → api.Reusable e r.2) := by
  cases ended with
  | done f holds => exact iff_of_true holds fun failed => absurd rfl failed
  | kept st holds => exact iff_of_true holds fun _ => .refl api e
  | lost st f failed can lifecycle sink closed holds =>
    rw [holds, ← o.lost_iff can lifecycle sink closed]
    exact ⟨fun reusable _ => reusable, fun reusable => reusable failed⟩
  | replaced st f can lifecycle sink flush holds =>
    refine iff_of_true holds fun _ => ⟨lifecycle, sink, fun frame reply ok => ?_, flush⟩
    exact absurd ok (o.encode_refused can frame reply)
  | released st f failed can gone holds =>
    refine iff_of_false holds fun reusable => ?_
    apply EncoderLifecycle.ne_released_of_canInit can
    rw [← (reusable failed).lifecycle, gone]

end Ends

section FFmpeg
variable {toUs : Int → Int}

theorem FFmpegVideoEncoder.flush_isOk (e : FFmpegVideoEncoder) (reply : Reply) :
    (e.flush toUs reply).1.isOk = true ↔ e.lifecycle.flush.1 = .kOk ∧ isOpen e.ctx = true ∧
      (drain e.sink.isSome toUs reply.stop reply.packets { out := {} }).1.isOk = true := by
  rw [flush]
  rcases e.lifecycle.flush_cases with starts | refused
  · rw [starts]
    cases opened : isOpen e.ctx with
    | false => exact iff_of_false nofun fun all => nomatch all.2.1
    | true => exact ⟨fun ok => ⟨rfl, rfl, ok⟩, fun all => all.2.2⟩
  · rw [refused]
    exact iff_of_false nofun fun all => nomatch all.1

theorem FFmpegAudioEncoder.flush_isOk (e : FFmpegAudioEncoder) (reply : Reply) :
    (e.flush toUs reply).1.isOk = true ↔ e.lifecycle.flush.1 = .kOk ∧ isOpen e.ctx = true ∧
      (drain e.sink.isSome toUs reply.stop reply.packets { out := {} }).1.isOk = true := by
  rw [flush]
  rcases e.lifecycle.flush_cases with starts | refused
  · rw [starts]
    cases opened : isOpen e.ctx with
    | false => exact iff_of_false nofun fun all => nomatch all.2.1
    | true => exact ⟨fun ok => ⟨rfl, rfl, ok⟩, fun all => all.2.2⟩
  · rw [refused]
    exact iff_of_false nofun fun all => nomatch all.1

theorem FFmpegVideoEncoder.encode_begins {e : FFmpegVideoEncoder} {frame : VideoFrame}
    {reply : Reply} (ok : (e.encode toUs frame reply).1.isOk = true) :
    e.lifecycle.encode.1 = .kOk := by
  rcases e.lifecycle.encode_cases with starts | refused
  · rw [starts]
  · rw [encode, refused] at ok
    cases ok

theorem FFmpegAudioEncoder.encode_begins {e : FFmpegAudioEncoder} {frame : AudioFrame}
    {reply : Reply} (ok : (e.encode toUs frame reply).1.isOk = true) :
    e.lifecycle.encode.1 = .kOk := by
  rcases e.lifecycle.encode_cases with starts | refused
  · rw [starts]
  · rw [encode, refused] at ok
    cases ok

def FFmpegVideoEncoder.opening (toUs : Int → Int) :
    Opening (EncoderKind.ffmpegVideo.api toUs) where
  opened e := isOpen e.ctx
  idle := {}
  encodes _ _ _ ok := encode_begins ok
  flushes e reply ok :=
    have all := (flush_isOk e reply).mp ok
    ⟨all.1, all.2.1⟩
  flushes_idle e starts opened := (flush_isOk e {}).mpr ⟨starts, opened, rfl⟩

def FFmpegAudioEncoder.opening (toUs : Int → Int) :
    Opening (EncoderKind.ffmpegAudio.api toUs) where
  opened e := isOpen e.ctx
  idle := {}
  encodes _ _ _ ok := encode_begins ok
  flushes e reply ok :=
    have all := (flush_isOk e reply).mp ok
    ⟨all.1, all.2.1⟩
  flushes_idle e starts opened := (flush_isOk e {}).mpr ⟨starts, opened, rfl⟩

/-- A codec that is open behind a `Flush` is replaced only by one that opens as well. -/
def FFmpegVideoEncoder.Reopens (e : FFmpegVideoEncoder) (reply : FFmpegVideoReply) : Prop :=
  e.lifecycle = .kFlushed → isOpen e.ctx = true → e.config.isValid = true →
    reply.encoder = true →
      reply.context = true ∧ acceptsPixFmt e.config.inputFormat = true ∧ reply.opened = true

/-- A codec that is open behind a `Flush` is replaced only by one that opens as well. -/
def FFmpegAudioEncoder.Reopens (e : FFmpegAudioEncoder) (reply : FFmpegAudioReply) : Prop :=
  e.lifecycle = .kFlushed → isOpen e.ctx = true → e.config.isValid = true →
    reply.encoder = true → reply.context = true ∧ reply.opened = true

theorem FFmpegVideoEncoder.init_end (e : FFmpegVideoEncoder) (reply : FFmpegVideoReply) :
    InitEnd (opening toUs) e (e.Reopens reply) (e.init reply) := by
  have reopened (f : FFmpegVideoEncoder) (lifecycle : f.lifecycle = e.lifecycle)
      (sink : f.sink = e.sink) (opened : isOpen f.ctx = true) (answers : Reply)
      (ok : (e.flush toUs answers).1.isOk = true) : (f.flush toUs answers).1.isOk = true := by
    obtain ⟨starts, -, drained⟩ := (flush_isOk e answers).mp ok
    exact (flush_isOk f answers).mpr ⟨lifecycle ▸ starts, opened, sink ▸ drained⟩
  rw [init]
  split
  · rename_i refused
    refine .kept _ fun flushed => ?_
    rw [flushed] at refused
    contradiction
  rename_i can
  rw [Bool.not_eq_true', Bool.not_eq_false] at can
  split
  · rename_i invalid
    rw [Bool.not_eq_true'] at invalid
    exact .kept _ fun _ _ valid => nomatch invalid.symm.trans valid
  rename_i valid
  rw [Bool.not_eq_true', Bool.not_eq_false] at valid
  split
  · rename_i missing
    rw [Bool.not_eq_true'] at missing
    exact .kept _ fun _ _ _ found => nomatch missing.symm.trans found
  rename_i found
  rw [Bool.not_eq_true', Bool.not_eq_false] at found
  -- from here on the codec is replaced
  split
  · rename_i none
    rw [Bool.not_eq_true'] at none
    refine .lost _ _ nofun can rfl rfl rfl ⟨fun reopens flushed opened => ?_, fun closed flushed
      opened => (closed flushed opened).elim⟩
    exact nomatch none.symm.trans (reopens flushed opened valid found).1
  rename_i context
  rw [Bool.not_eq_true', Bool.not_eq_false] at context
  split
  · rename_i other
    rw [Bool.not_eq_true'] at other
    refine .lost _ _ nofun can rfl rfl rfl ⟨fun reopens flushed opened => ?_, fun closed flushed
      opened => (closed flushed opened).elim⟩
    exact nomatch other.symm.trans (reopens flushed opened valid found).2.1
  rename_i accepted
  rw [Bool.not_eq_true', Bool.not_eq_false] at accepted
  dsimp only
  split
  · rename_i closed
    rw [Bool.not_eq_true'] at closed
    refine .lost _ _ nofun can rfl rfl rfl ⟨fun reopens flushed opened => ?_, fun closed flushed
      opened => (closed flushed opened).elim⟩
    exact nomatch closed.symm.trans (reopens flushed opened valid found).2.2
  rename_i opens
  rw [Bool.not_eq_true', Bool.not_eq_false] at opens
  have reopens : e.Reopens reply := fun _ _ _ _ => ⟨context, accepted, opens⟩
  iterate 4
    split
    · exact .replaced _ _ can rfl rfl (reopened _ rfl rfl rfl) reopens
  rw [EncoderLifecycle.init_of_canInit can]
  exact .done _ reopens

theorem FFmpegAudioEncoder.init_end (e : FFmpegAudioEncoder) (reply : FFmpegAudioReply) :
    InitEnd (opening toUs) e (e.Reopens reply) (e.init reply) := by
  have reopened (f : FFmpegAudioEncoder) (lifecycle : f.lifecycle = e.lifecycle)
      (sink : f.sink = e.sink) (opened : isOpen f.ctx = true) (answers : Reply)
      (ok : (e.flush toUs answers).1.isOk = true) : (f.flush toUs answers).1.isOk = true := by
    obtain ⟨starts, -, drained⟩ := (flush_isOk e answers).mp ok
    exact (flush_isOk f answers).mpr ⟨lifecycle ▸ starts, opened, sink ▸ drained⟩
  rw [init]
  split
  · rename_i refused
    refine .kept _ fun flushed => ?_
    rw [flushed] at refused
    contradiction
  rename_i can
  rw [Bool.not_eq_true', Bool.not_eq_false] at can
  split
  · rename_i invalid
    rw [Bool.not_eq_true'] at invalid
    exact .kept _ fun _ _ valid => nomatch invalid.symm.trans valid
  rename_i valid
  rw [Bool.not_eq_true', Bool.not_eq_false] at valid
  split
  · rename_i missing
    rw [Bool.not_eq_true'] at missing
    exact .kept _ fun _ _ _ found => nomatch missing.symm.trans found
  rename_i found
  rw [Bool.not_eq_true', Bool.not_eq_false] at found
  split
  · rename_i none
    rw [Bool.not_eq_true'] at none
    refine .lost _ _ nofun can rfl rfl rfl ⟨fun reopens flushed opened => ?_, fun closed flushed
      opened => (closed flushed opened).elim⟩
    exact nomatch none.symm.trans (reopens flushed opened valid found).1
  rename_i context
  rw [Bool.not_eq_true', Bool.not_eq_false] at context
  dsimp only
  split
  · rename_i closed
    rw [Bool.not_eq_true'] at closed
    refine .lost _ _ nofun can rfl rfl rfl ⟨fun reopens flushed opened => ?_, fun closed flushed
      opened => (closed flushed opened).elim⟩
    exact nomatch closed.symm.trans (reopens flushed opened valid found).2
  rename_i opens
  rw [Bool.not_eq_true', Bool.not_eq_false] at opens
  have reopens : e.Reopens reply := fun _ _ _ _ => ⟨context, opens⟩
  split
  · exact .replaced _ _ can rfl rfl (reopened _ rfl rfl rfl) reopens
  rw [EncoderLifecycle.init_of_canInit can]
  exact .done _ reopens

end FFmpeg

section MediaCodec
variable {toUs : Int → Int}

theorem MediaCodecVideoEncoder.encode_begins {e : MediaCodecVideoEncoder} {frame : VideoFrame}
    {input : MediaCodec.InputReply} {answers : List MediaCodec.Dequeued}
    (ok : (e.encode frame input answers).result.isOk = true) : e.lifecycle.encode.1 = .kOk := by
  rcases e.lifecycle.encode_cases with starts | refused
  · rw [starts]
  · rw [encode, refused] at ok
    split at ok <;> cases ok

theorem MediaCodecAudioEncoder.encode_begins {e : MediaCodecAudioEncoder} {frame : AudioFrame}
    {input : MediaCodec.InputReply} {answers : List MediaCodec.Dequeued}
    (ok : (e.encode frame input answers).result.isOk = true) : e.lifecycle.encode.1 = .kOk := by
  rcases e.lifecycle.encode_cases with starts | refused
  · rw [starts]
  · rw [encode, refused] at ok
    cases ok

theorem MediaCodecVideoEncoder.flush_begins {e : MediaCodecVideoEncoder}
    {reply : MediaCodec.FlushReply} (ok : (e.flush reply).result.isOk = true) :
    e.lifecycle.flush.1 = .kOk ∧ e.codec = true := by
  rw [flush] at ok
  rcases e.lifecycle.flush_cases with starts | refused
  · rw [starts] at ok ⊢
    cases codec : e.codec with
    | false =>
      rw [codec] at ok
      cases ok
    | true => exact ⟨rfl, rfl⟩
  · rw [refused] at ok
    cases ok

theorem MediaCodecAudioEncoder.flush_begins {e : MediaCodecAudioEncoder}
    {reply : MediaCodec.FlushReply} (ok : (e.flush reply).result.isOk = true) :
    e.lifecycle.flush.1 = .kOk ∧ e.codec = true := by
  rw [flush] at ok
  rcases e.lifecycle.flush_cases with starts | refused
  · rw [starts] at ok ⊢
    cases codec : e.codec with
    | false =>
      rw [codec] at ok
      cases ok
    | true => exact ⟨rfl, rfl⟩
  · rw [refused] at ok
    cases ok

theorem MediaCodecVideoEncoder.flush_idle {e : MediaCodecVideoEncoder}
    (starts : e.lifecycle.flush.1 = .kOk) (codec : e.codec = true) :
    (e.flush {}).result.isOk = true := by
  rw [flush]
  rcases e.lifecycle.flush_cases with begins | refused
  · rw [begins, codec]
    rfl
  · rw [refused] at starts
    cases starts

def MediaCodecVideoEncoder.opening (toUs : Int → Int) :
    Opening (EncoderKind.mediaCodecVideo.api toUs) where
  opened e := e.codec
  idle := {}
  encodes _ _ _ ok := encode_begins ok
  flushes _ _ ok := flush_begins ok
  flushes_idle _ starts codec := flush_idle starts codec

theorem MediaCodecAudioEncoder.flush_idle {e : MediaCodecAudioEncoder}
    (starts : e.lifecycle.flush.1 = .kOk) (codec : e.codec = true) :
    (e.flush {}).result.isOk = true := by
  rw [flush]
  rcases e.lifecycle.flush_cases with begins | refused
  · rw [begins, codec]
    rfl
  · rw [refused] at starts
    cases starts

def MediaCodecAudioEncoder.opening (toUs : Int → Int) :
    Opening (EncoderKind.mediaCodecAudio.api toUs) where
  opened e := e.codec
  idle := {}
  encodes _ _ _ ok := encode_begins ok
  flushes _ _ ok := flush_begins ok
  flushes_idle _ starts codec := flush_idle starts codec

/-- A codec that is there behind a `Flush` is replaced by another, and once one is created
the rest of `Init` succeeds. -/
def MediaCodecVideoEncoder.Proceeds (e : MediaCodecVideoEncoder) (reply : MediaCodecVideoReply) :
    Prop :=
  e.lifecycle.canInit = true → e.config.isValid = true →
    (e.lifecycle = .kFlushed → e.codec = true → reply.codec = true) ∧
    (reply.codec = true → e.colorFormat ≠ 0 ∧ reply.configured = true ∧
      (e.surfaceMode = true → reply.surface.isSome = true) ∧ reply.started = true)

/-- A codec that is there behind a `Flush` is replaced by another, and once one is created
the rest of `Init` succeeds. -/
def MediaCodecAudioEncoder.Proceeds (e : MediaCodecAudioEncoder) (reply : MediaCodecAudioReply) :
    Prop :=
  e.lifecycle.canInit = true → e.config.isValid = true → e.config.codec = .kAAC →
    (e.lifecycle = .kFlushed → e.codec = true → reply.codec = true) ∧
    (reply.codec = true → reply.configured = true ∧ reply.started = true)

theorem MediaCodecVideoEncoder.init_end (e : MediaCodecVideoEncoder)
    (reply : MediaCodecVideoReply) :
    InitEnd (opening toUs) e (e.Proceeds reply) (e.init reply) := by
  rw [init]
  split
  · rename_i refused
    rw [Bool.not_eq_true'] at refused
    exact .kept _ fun can => nomatch refused.symm.trans can
  rename_i can
  rw [Bool.not_eq_true', Bool.not_eq_false] at can
  split
  · rename_i invalid
    rw [Bool.not_eq_true'] at invalid
    exact .kept _ fun _ valid => nomatch invalid.symm.trans valid
  rename_i valid
  rw [Bool.not_eq_true', Bool.not_eq_false] at valid
  split
  · rename_i missing
    rw [Bool.not_eq_true'] at missing
    refine .lost _ _ nofun can rfl rfl rfl ⟨fun proceeds flushed there => ?_, fun closed _ _ =>
      ⟨fun flushed there => (closed flushed there).elim, fun found => ?_⟩⟩
    · exact nomatch missing.symm.trans ((proceeds can valid).1 flushed there)
    · exact nomatch missing.symm.trans found
  rename_i created
  rw [Bool.not_eq_true', Bool.not_eq_false] at created
  -- the codec is created: every exit before the commit releases the encoder
  have rest (proceeds : e.Proceeds reply) := (proceeds can valid).2 created
  dsimp only
  split
  · exact .released _ _ nofun can rfl fun proceeds => absurd ‹_› (rest proceeds).1
  rename_i format
  split
  · rename_i failed
    rw [Bool.not_eq_true'] at failed
    exact .released _ _ nofun can rfl fun proceeds => nomatch failed.symm.trans (rest proceeds).2.1
  rename_i configured
  rw [Bool.not_eq_true', Bool.not_eq_false] at configured
  split
  · rename_i windowless
    obtain ⟨mode, none⟩ := Bool.and_eq_true_iff.mp windowless
    refine .released _ _ nofun can rfl fun proceeds => ?_
    have some := (rest proceeds).2.2.1 mode
    rw [Option.isNone_iff_eq_none.mp none] at some
    cases some
  rename_i window
  split
  · rename_i failed
    rw [Bool.not_eq_true'] at failed
    refine .released _ _ nofun can ?_ fun proceeds => ?_
    · rfl
    · exact nomatch failed.symm.trans (rest proceeds).2.2.2
  rename_i started
  rw [Bool.not_eq_true', Bool.not_eq_false] at started
  rw [apply_ite MediaCodecVideoEncoder.lifecycle, ite_self, EncoderLifecycle.init_of_canInit can]
  refine .done _ fun _ _ =>
    ⟨fun _ _ => created, fun _ => ⟨format, configured, fun mode => ?_, started⟩⟩
  rw [Bool.and_eq_true, not_and, Option.isNone_iff_eq_none, ← ne_eq, ← Option.isSome_iff_ne_none]
    at window
  exact window mode

theorem MediaCodecAudioEncoder.init_end (e : MediaCodecAudioEncoder)
    (reply : MediaCodecAudioReply) :
    InitEnd (opening toUs) e (e.Proceeds reply) (e.init reply) := by
  rw [init]
  split
  · rename_i refused
    rw [Bool.not_eq_true'] at refused
    exact .kept _ fun can => nomatch refused.symm.trans can
  rename_i can
  rw [Bool.not_eq_true', Bool.not_eq_false] at can
  split
  · rename_i invalid
    rw [Bool.not_eq_true'] at invalid
    exact .kept _ fun _ valid => nomatch invalid.symm.trans valid
  rename_i valid
  rw [Bool.not_eq_true', Bool.not_eq_false] at valid
  split
  · exact .kept _ fun _ _ aac => absurd aac ‹_›
  rename_i aac
  rw [not_not] at aac
  split
  · rename_i missing
    rw [Bool.not_eq_true'] at missing
    refine .lost _ _ nofun can rfl rfl rfl ⟨fun proceeds flushed there => ?_, fun closed _ _ _ =>
      ⟨fun flushed there => (closed flushed there).elim, fun found => ?_⟩⟩
    · exact nomatch missing.symm.trans ((proceeds can valid aac).1 flushed there)
    · exact nomatch missing.symm.trans found
  rename_i created
  rw [Bool.not_eq_true', Bool.not_eq_false] at created
  dsimp only
  split
  · rename_i failed
    refine .released _ _ nofun can rfl fun proceeds => ?_
    obtain ⟨configured, started⟩ := (proceeds can valid aac).2 created
    rw [configured, started] at failed
    contradiction
  rename_i starts
  rw [EncoderLifecycle.init_of_canInit can]
  refine .done _ fun _ _ _ => ⟨fun _ _ => created, fun _ => ?_⟩
  rw [← Bool.and_eq_true]
  rwa [← Bool.not_and, Bool.not_eq_true', Bool.not_eq_false] at starts

end MediaCodec

/-- When an `Init` that fails can do no harm. -/
def EncoderKind.Harmless (toUs : Int → Int) :
    (kind : EncoderKind) → (kind.api toUs).E → (kind.api toUs).I → Prop
  | .ffmpegVideo => FFmpegVideoEncoder.Reopens
  | .ffmpegAudio => FFmpegAudioEncoder.Reopens
  | .mediaCodecVideo => MediaCodecVideoEncoder.Proceeds
  | .mediaCodecAudio => MediaCodecAudioEncoder.Proceeds

/-- The failed calls of `Init` of a run leave the encoder reusable just when none loses a codec
that a `Flush` could still be called on, and none fails with that of a MediaCodec encoder
created. -/
theorem failed_init_iff (toUs : Int → Int) (kind : EncoderKind) (e : (kind.api toUs).E)
    (ls : List (kind.api toUs).Call) (t : (kind.api toUs).Session) :
    Run (Keeping (Takes EncoderApi.next) EncoderApi.Session.reusable) { encoder := e } ls t ↔
      Run (Guarded (Takes EncoderApi.next) fun s l =>
        ∀ reply, l = .init reply → kind.Harmless toUs s.encoder reply) { encoder := e } ls t := by
  refine EncoderApi.reusable_iff (fun e reply => ?_) trivial
  cases kind with
  | ffmpegVideo => exact (FFmpegVideoEncoder.init_end e reply).iff
  | ffmpegAudio => exact (FFmpegAudioEncoder.init_end e reply).iff
  | mediaCodecVideo => exact (MediaCodecVideoEncoder.init_end e reply).iff
  | mediaCodecAudio => exact (MediaCodecAudioEncoder.init_end e reply).iff

/-- `AMediaCodec_configure` fails once; the encoder is released and its sink gone. -/
theorem failed_init_releases :
    ¬∀ (toUs : Int → Int) (kind : EncoderKind) (e : (kind.api toUs).E)
      (ls : List (kind.api toUs).Call) (t : (kind.api toUs).Session),
      Run (Takes EncoderApi.next) { encoder := e } ls t → t.reusable := by
  intro always
  let e : MediaCodecVideoEncoder := { config := { width := 2, height := 2 } }
  have kept := always id .mediaCodecVideo e
    [.setOutputSink (some 0), .init { configured := false }] _ (.next rfl (.single rfl))
  exact nomatch (kept.2 nofun).lifecycle

end VideoCodec
