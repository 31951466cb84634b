import VideoCodec.Encode.EndOfStream
import VideoCodec.Control.Accumulation

/-! The presentation times of frames without a timestamp: the clocks of the MediaCodec
encoders, which each add the duration of a frame in whole microseconds. -/
namespace VideoCodec

open Transition MediaCodec

namespace MediaCodec

section Drains
variable {E P V : Type} {client : Client E P} {view : E → V}

/-- A drain leaves of an encoder all that keeping a configuration or making a packet does. -/
theorem Drained.drain_keeps (captured : ∀ e payload, view (client.capture e payload) = view e)
    (packed : ∀ e b, view (client.packet e b).2 = view e) (drainEof deadline : Bool)
    (answers : List Dequeued) (d : Drained E P) :
    view (Drained.drain client drainEof deadline answers d).2.encoder = view d.encoder := by
  have delivered (d : Drained E P) (b : OutputBuffer) (answer : Status) :
      view (d.deliver client b answer).2.encoder = view d.encoder := by
    have kept := packed d.encoder b
    rw [Drained.deliver]
    cases (client.sink d.encoder).isSome <;> exact kept
  have turned (d : Drained E P) (answer : Dequeued) :
      view (d.turn client drainEof deadline answer).2.encoder = view d.encoder := by
    cases answer with
    | tryAgain expired =>
      rw [Drained.turn]
      split <;> rfl
    | formatChanged | buffersChanged | failed => rfl
    | buffer b answer =>
      cases frame : b.frame with
      | true =>
        rw [Drained.turn_frame_snd frame]
        exact delivered d b answer
      | false =>
        cases configures : b.configures with
        | true =>
          rw [Drained.turn_config configures]
          exact captured d.encoder b.payload
        | false =>
          rw [Drained.turn_other configures frame]
          split <;> rfl
  induction answers generalizing d with
  | nil => rfl
  | cons answer rest ih =>
    have once := turned { d with dequeued := d.dequeued ++ [answer] } answer
    rw [Drained.drain]
    split
    · rename_i result d' last
      rw [last] at once
      exact once
    · rename_i d' goesOn
      rw [goesOn] at once
      exact (ih d').trans once

theorem Call.draining_keeps (captured : ∀ e payload, view (client.capture e payload) = view e)
    (packed : ∀ e b, view (client.packet e b).2 = view e) (drainEof deadline : Bool)
    (answers : List Dequeued) (e : E) (empty : P) :
    view (Call.draining client drainEof deadline answers e empty).encoder = view e :=
  Drained.drain_keeps captured packed drainEof deadline answers { encoder := e, out := empty }

end Drains
end MediaCodec

namespace MediaCodecVideoEncoder

/-- The presentation time with which `QueueInput` queues a frame. -/
def ptsUs (e : MediaCodecVideoEncoder) (frame : VideoFrame) : Int :=
  if frame.timestampUs > 0 then frame.timestampUs else e.pts

/-- What the clock depends on. -/
def timing (e : MediaCodecVideoEncoder) : VideoConfig × Int × EncoderLifecycle :=
  (e.config, e.pts, e.lifecycle)

theorem drain_timing (e : MediaCodecVideoEncoder) (drainEof deadline : Bool)
    (dequeued : List Dequeued) :
    (e.drain drainEof deadline dequeued).encoder.timing = e.timing := by
  apply Call.draining_keeps
  · intro e payload
    rw [client]
    dsimp only
    rw [capture]
    split
    split
    · split <;> rfl
    · rfl
  · intro e b
    rfl

end MediaCodecVideoEncoder

namespace MediaCodecAudioEncoder

/-- The presentation time with which `QueueInput` queues a frame. -/
def ptsUs (e : MediaCodecAudioEncoder) (frame : AudioFrame) : Int :=
  if frame.timestampUs > 0 then frame.timestampUs else e.pts

/-- The samples of a frame, as `QueueInput` counts them. -/
def samples (e : MediaCodecAudioEncoder) (frame : AudioFrame) : Int :=
  (frame.data.length : Int) / (e.config.channels * 2)

/-- What the clock depends on. -/
def timing (e : MediaCodecAudioEncoder) : AudioConfig × Int × EncoderLifecycle :=
  (e.config, e.pts, e.lifecycle)

theorem drain_timing (e : MediaCodecAudioEncoder) (drainEof : Bool) (dequeued : List Dequeued) :
    (e.drain drainEof dequeued).encoder.timing = e.timing := by
  apply Call.draining_keeps
  · intro e payload
    rfl
  · intro e b
    rw [client]
    dsimp only
    split <;> rfl

end MediaCodecAudioEncoder

/-- What a call other than `Encode` leaves of a clock: it stands, and an encoder begins to
encode with a positive rate only. -/
def Stands {E : Type} (rate pts : E → Int) (lifecycle : E → EncoderLifecycle) (e e' : E) : Prop :=
  rate e' = rate e ∧ pts e' = pts e ∧
    ((lifecycle e').encode.1 = .kOk → (lifecycle e).encode.1 = .kOk ∨ 0 < rate e)

/-- An encoder with its clock for frames without a timestamp. -/
structure MediaCodecClock where
  api : MediaCodecApi
  /-- Samples a second, or video frames. -/
  rate : api.E → Int
  pts : api.E → Int
  timestampUs : api.F → Int
  ptsUs : api.E → api.F → Int
  /-- The samples of a frame, or one video frame. -/
  units : api.E → api.F → Int
  ptsUs_eq : ∀ e frame, timestampUs frame = 0 → ptsUs e frame = pts e
  init_stands : ∀ e reply, Stands rate pts api.lifecycle e (api.init e reply)
  flush_stands : ∀ e reply, Stands rate pts api.lifecycle e (api.flush e reply).encoder
  sink_stands : ∀ e sink, Stands rate pts api.lifecycle e (api.setOutputSink e sink)
  release_stands : ∀ e, Stands rate pts api.lifecycle e (api.release e)
  encode_ticks : ∀ e frame input dequeued out,
    (api.encode e frame input dequeued).result = .ok out →
      (api.lifecycle e).encode.1 = .kOk ∧
        rate (api.encode e frame input dequeued).encoder = rate e ∧
          pts (api.encode e frame input dequeued).encoder =
            pts e + 1000000 * units e frame / rate e

namespace MediaCodecVideoEncoder
variable {e : MediaCodecVideoEncoder}

theorem fps_pos (e : MediaCodecVideoEncoder) : 0 < e.fps := by
  rw [fps]
  split <;> omega

theorem fps_eq {e' : MediaCodecVideoEncoder} (config : e'.config = e.config) : e'.fps = e.fps := by
  rw [fps, fps, config]

theorem stands {e' : MediaCodecVideoEncoder} (config : e'.config = e.config)
    (pts : e'.pts = e.pts) :
    Stands fps MediaCodecVideoEncoder.pts MediaCodecVideoEncoder.lifecycle e e' :=
  ⟨fps_eq config, pts, fun _ => .inr e.fps_pos⟩

theorem init_stands (e : MediaCodecVideoEncoder) (reply : MediaCodecVideoReply) :
    Stands fps MediaCodecVideoEncoder.pts MediaCodecVideoEncoder.lifecycle e (e.init reply).2 := by
  rw [init]
  split
  · exact stands rfl rfl
  split
  · exact stands rfl rfl
  split
  · exact stands rfl rfl
  dsimp only
  cases e.surfaceMode with
  | false | true =>
    repeat' split
    all_goals exact stands rfl rfl

theorem flush_stands (e : MediaCodecVideoEncoder) (reply : FlushReply) :
    Stands fps MediaCodecVideoEncoder.pts MediaCodecVideoEncoder.lifecycle e
      (e.flush reply).encoder := by
  rw [flush]
  split
  · rename_i lifecycle flushed
    split
    · exact stands rfl rfl
    · have kept := { e with lifecycle }.drain_timing true e.surfaceMode reply.dequeued
      exact stands (congrArg (·.1) kept) (congrArg (·.2.1) kept)
  · exact stands rfl rfl

theorem encode_ticks (e : MediaCodecVideoEncoder) (frame : VideoFrame) (input : InputReply)
    (dequeued : List Dequeued) {out : VideoPacket}
    (ok : (e.encode frame input dequeued).result = .ok out) :
    e.lifecycle.encode.1 = .kOk ∧ (e.encode frame input dequeued).encoder.fps = e.fps ∧
      (e.encode frame input dequeued).encoder.pts = e.pts + 1000000 / e.fps := by
  rw [encode] at ok ⊢
  split at ok
  · cases ok
  rename_i mode
  rw [if_neg mode]
  rcases e.lifecycle.encode_cases with begins | refused
  · rw [begins] at ok ⊢
    dsimp only at ok ⊢
    split at ok
    · cases ok
    rename_i codec
    rw [if_neg codec]
    split at ok
    · have kept := { e with lifecycle := .kEncoding, pts := e.pts + 1000000 / e.fps }.drain_timing
        false false dequeued
      exact ⟨rfl, fps_eq (congrArg (·.1) kept), congrArg (·.2.1) kept⟩
    · cases ok
  · rw [refused] at ok
    cases ok

end MediaCodecVideoEncoder

namespace MediaCodecAudioEncoder
variable {e : MediaCodecAudioEncoder}

def rate (e : MediaCodecAudioEncoder) : Int := e.config.sampleRate

theorem init_stands (e : MediaCodecAudioEncoder) (reply : MediaCodecAudioReply) :
    Stands rate MediaCodecAudioEncoder.pts MediaCodecAudioEncoder.lifecycle e (e.init reply).2 := by
  rw [init]
  split
  · exact ⟨rfl, rfl, .inl⟩
  split
  · exact ⟨rfl, rfl, .inl⟩
  rename_i valid
  rw [Bool.not_eq_true', Bool.not_eq_false, AudioConfig.isValid, decide_eq_true_iff] at valid
  dsimp only
  repeat' split
  all_goals exact ⟨rfl, rfl, fun _ => .inr valid.1⟩

theorem flush_stands (e : MediaCodecAudioEncoder) (reply : FlushReply) :
    Stands rate MediaCodecAudioEncoder.pts MediaCodecAudioEncoder.lifecycle e
      (e.flush reply).encoder := by
  rw [flush]
  rcases e.lifecycle.flush_cases with flushed | refused
  · rw [flushed]
    dsimp only
    split
    · exact ⟨rfl, rfl, nofun⟩
    have kept := { e with lifecycle := .kFlushed }.drain_timing true reply.dequeued
    refine ⟨congrArg (·.1.sampleRate) kept, congrArg (·.2.1) kept, fun begins => ?_⟩
    have last := congrArg (·.2.2) kept
    dsimp only [timing] at last begins
    rw [last] at begins
    cases begins
  · rw [refused]
    exact ⟨rfl, rfl, .inl⟩

theorem queueInput_ok {frame : AudioFrame} {input : InputReply}
    {queued : MediaCodecAudioEncoder} (ok : e.queueInput frame input = (.kOk, queued)) :
    queued = { e with pts := e.pts + 1000000 * e.samples frame / e.config.sampleRate } := by
  rw [queueInput] at ok
  split at ok
  · cases ok
  split at ok
  · cases ok
  split at ok
  · cases ok
  split at ok
  · cases ok
  split at ok
  · cases ok
  · obtain rfl := congrArg Prod.snd ok
    rw [samples, Int.mul_comm 1000000]

theorem encode_ticks (e : MediaCodecAudioEncoder) (frame : AudioFrame) (input : InputReply)
    (dequeued : List Dequeued) {out : AudioPacket}
    (ok : (e.encode frame input dequeued).result = .ok out) :
    e.lifecycle.encode.1 = .kOk ∧ (e.encode frame input dequeued).encoder.rate = e.rate ∧
      (e.encode frame input dequeued).encoder.pts =
        e.pts + 1000000 * e.samples frame / e.rate := by
  rw [encode] at ok ⊢
  rcases e.lifecycle.encode_cases with begins | refused
  · rw [begins] at ok ⊢
    dsimp only at ok ⊢
    split at ok
    · cases ok
    rename_i codec
    rw [if_neg codec]
    split at ok
    · rename_i queued accepted
      obtain rfl := queueInput_ok accepted
      have kept := drain_timing
        { e with
          lifecycle := .kEncoding
          pts := e.pts + 1000000 * e.samples frame / e.config.sampleRate } false dequeued
      exact ⟨rfl, congrArg (·.1.sampleRate) kept, congrArg (·.2.1) kept⟩
    · cases ok
  · rw [refused] at ok
    cases ok

end MediaCodecAudioEncoder

namespace MediaCodecClock

/-- The video encoder, with its frames. -/
def video : MediaCodecClock where
  api := .video
  rate := MediaCodecVideoEncoder.fps
  pts := MediaCodecVideoEncoder.pts
  timestampUs := VideoFrame.timestampUs
  ptsUs := MediaCodecVideoEncoder.ptsUs
  units _ _ := 1
  ptsUs_eq e frame untimed := if_neg (by rw [untimed]; exact Int.lt_irrefl 0)
  init_stands := MediaCodecVideoEncoder.init_stands
  flush_stands := MediaCodecVideoEncoder.flush_stands
  sink_stands _ _ := MediaCodecVideoEncoder.stands rfl rfl
  release_stands _ := MediaCodecVideoEncoder.stands rfl rfl
  encode_ticks e frame input dequeued _ := e.encode_ticks frame input dequeued

/-- The audio encoder, with its samples. -/
def audio : MediaCodecClock where
  api := .audio
  rate := MediaCodecAudioEncoder.rate
  pts := MediaCodecAudioEncoder.pts
  timestampUs := AudioFrame.timestampUs
  ptsUs := MediaCodecAudioEncoder.ptsUs
  units := MediaCodecAudioEncoder.samples
  ptsUs_eq e frame untimed := if_neg (by rw [untimed]; exact Int.lt_irrefl 0)
  init_stands := MediaCodecAudioEncoder.init_stands
  flush_stands := MediaCodecAudioEncoder.flush_stands
  sink_stands _ _ := ⟨rfl, rfl, .inl⟩
  release_stands _ := ⟨rfl, rfl, nofun⟩
  encode_ticks e frame input dequeued _ := e.encode_ticks frame input dequeued

section Runs
variable (c : MediaCodecClock)

/-- The calls of an encoder, with the answers to them. -/
inductive Label where
  | init (reply : c.api.I)
  | encode (frame : c.api.F) (input : InputReply) (dequeued : List Dequeued)
  | flush (reply : FlushReply)
  | setOutputSink (sink : Option Nat)
  | release

/-- An encoder with what the frames queued so far count for. -/
structure Session where
  encoder : c.api.E
  queued : List Int := []

variable {c}

/-- Frames have no timestamp, and `Encode` succeeds. -/
def next (s : c.Session) : c.Label → Option c.Session
  | .init reply => some { s with encoder := c.api.init s.encoder reply }
  | .encode frame input dequeued =>
    let call := c.api.encode s.encoder frame input dequeued
    match call.result with
    | .ok _ =>
      if c.timestampUs frame = 0 then
        some ⟨call.encoder, s.queued ++ [c.units s.encoder frame]⟩
      else none
    | .error _ => none
  | .flush reply => some { s with encoder := (c.api.flush s.encoder reply).encoder }
  | .setOutputSink sink => some { s with encoder := c.api.setOutputSink s.encoder sink }
  | .release => some { s with encoder := c.api.release s.encoder }

/-- The presentation time of a frame is less than a microsecond off the time of what was
queued before it. -/
def OnTime (s : c.Session) : c.Label → Prop
  | .encode frame _ _ =>
    |(c.ptsUs s.encoder frame : ℚ) - (1000000 * s.queued.sum : Int) / c.rate s.encoder| < 1
  | _ => True

/-- What the durations queued so far have lost by rounding is less than a microsecond. -/
def Steady (s : c.Session) : c.Label → Prop
  | .encode _ _ _ =>
    Control.lag (c.rate s.encoder) (s.queued.map (1000000 * ·)) < c.rate s.encoder
  | _ => True

/-- The clock has added up the durations, and an encoder encodes at a positive rate. -/
structure Inv (s : c.Session) : Prop where
  rate : (c.api.lifecycle s.encoder).encode.1 = .kOk → 0 < c.rate s.encoder
  pts : c.pts s.encoder = Control.ticks (c.rate s.encoder) (s.queued.map (1000000 * ·))

theorem Inv.stands {s : c.Session} {e : c.api.E} (inv : Inv s)
    (stands : Stands c.rate c.pts c.api.lifecycle s.encoder e) : Inv { s with encoder := e } := by
  obtain ⟨rate, pts, begins⟩ := stands
  constructor
  · intro encodes
    rw [rate]
    exact (begins encodes).elim inv.rate id
  · rw [pts, rate]
    exact inv.pts

theorem next_encode {s t : c.Session} {frame : c.api.F} {input : InputReply}
    {dequeued : List Dequeued} (step : next s (.encode frame input dequeued) = some t) :
    ∃ out, (c.api.encode s.encoder frame input dequeued).result = .ok out ∧
      c.timestampUs frame = 0 ∧
      t = ⟨(c.api.encode s.encoder frame input dequeued).encoder,
        s.queued ++ [c.units s.encoder frame]⟩ := by
  rw [next] at step
  split at step
  · rename_i out ok
    split at step
    · rename_i untimed
      exact ⟨out, ok, untimed, (Option.some.inj step).symm⟩
    · cases step
  · cases step

theorem next_inv {s t : c.Session} {l : c.Label} (inv : Inv s) (step : next s l = some t) :
    Inv t := by
  cases l with
  | init reply =>
    obtain rfl := Option.some.inj step
    exact inv.stands (c.init_stands _ _)
  | flush reply =>
    obtain rfl := Option.some.inj step
    exact inv.stands (c.flush_stands _ _)
  | setOutputSink sink =>
    obtain rfl := Option.some.inj step
    exact inv.stands (c.sink_stands _ _)
  | release =>
    obtain rfl := Option.some.inj step
    exact inv.stands (c.release_stands _)
  | encode frame input dequeued =>
    obtain ⟨out, ok, -, rfl⟩ := next_encode step
    obtain ⟨begins, rate, pts⟩ := c.encode_ticks _ _ _ _ out ok
    constructor
    · intro _
      rw [rate]
      exact inv.rate begins
    · rw [pts, rate, inv.pts, List.map_append, Control.ticks_append]
      simp only [Control.ticks, List.map_singleton, List.sum_singleton]

theorem onTime_iff_steady {s t : c.Session} {l : c.Label} (inv : Inv s)
    (step : next s l = some t) : OnTime s l ↔ Steady s l := by
  cases l with
  | init reply | flush reply | setOutputSink sink | release => exact Iff.rfl
  | encode frame input dequeued =>
    obtain ⟨out, ok, untimed, rfl⟩ := next_encode step
    have positive := inv.rate (c.encode_ticks _ _ _ _ out ok).1
    have total : 1000000 * s.queued.sum = (s.queued.map (1000000 * ·)).sum := by
      rw [List.sum_map_mul_left, List.map_id']
    rw [OnTime, Steady, c.ptsUs_eq _ _ untimed, inv.pts, total]
    exact Control.abs_ticks_sub_lt_one_iff positive _

theorem Inv.run_iff {s t : c.Session} {ls : List c.Label} (inv : Inv s) :
    Run (Marked (Takes next) fun s l _ => OnTime s l) s ls t ↔
      Run (Guarded (Takes next) Steady) s ls t :=
  Run.marked_iff_guarded (fun inv _ step => next_inv inv step)
    (fun inv step => onTime_iff_steady inv step) inv

def Session.video (config : VideoConfig) : video.Session :=
  { encoder := ({ config } : MediaCodecVideoEncoder) }

def Session.audio (config : AudioConfig) : audio.Session :=
  { encoder := ({ config } : MediaCodecAudioEncoder) }

/-- Every frame of a run is on time just when the durations before each have lost less
than a microsecond by rounding. -/
theorem clocks_on_time_iff (v : VideoConfig) (a : AudioConfig) :
    (∀ (ls : List video.Label) (t : video.Session),
      Run (Marked (Takes next) fun s l _ => OnTime s l) (Session.video v) ls t ↔
        Run (Guarded (Takes next) Steady) (Session.video v) ls t) ∧
    ∀ (ls : List audio.Label) (t : audio.Session),
      Run (Marked (Takes next) fun s l _ => OnTime s l) (Session.audio a) ls t ↔
        Run (Guarded (Takes next) Steady) (Session.audio a) ls t :=
  ⟨fun _ _ => Inv.run_iff ⟨nofun, rfl⟩, fun _ _ => Inv.run_iff ⟨nofun, rfl⟩⟩

/-- At 30 frames a second the fourth is queued at 99999 microseconds, a whole one early. -/
theorem fourth_frame_early :
    ¬((∀ (v : VideoConfig) (ls : List video.Label) (t : video.Session),
        Run (Takes next) (Session.video v) ls t →
          Run (Marked (Takes next) fun s l _ => OnTime s l) (Session.video v) ls t) ∧
      ∀ (a : AudioConfig) (ls : List audio.Label) (t : audio.Session),
        Run (Takes next) (Session.audio a) ls t →
          Run (Marked (Takes next) fun s l _ => OnTime s l) (Session.audio a) ls t) := by
  rintro ⟨always, _⟩
  let frame : video.Label := .encode { width := 2, height := 2 } { size := some 6 } []
  have marked := always { width := 2, height := 2 } [.init {}, frame, frame, frame, frame] _
    (.next rfl (.next rfl (.next rfl (.next rfl (.single rfl)))))
  obtain - | ⟨⟨⟨⟩, -⟩, - | ⟨⟨⟨⟩, -⟩, - | ⟨⟨⟨⟩, -⟩, - | ⟨⟨⟨⟩, -⟩, - | ⟨⟨⟨⟩, onTime⟩, -⟩⟩⟩⟩⟩ := marked
  have lost := (@Control.abs_ticks_sub_lt_one_iff 30 (by decide)
    [1000000, 1000000, 1000000]).mp onTime
  exact absurd lost (by decide)

end Runs
end MediaCodecClock

end VideoCodec
