import Mathlib.Algebra.Group.Nat.Defs
import VideoCodec.Encode.Types
import VideoCodec.Transition.Exhaust

/-! The test tone of `SmpteBars` and the pacing that spreads it over video frames.
Products of 64 bits are exact here: their overflow has no meaning in the source. -/
namespace VideoCodec

open Transition

namespace SmpteBars

structure AudioOptions where
  beep : Bool := false
  sampleRate : Int := 48000
  channels : Int := 2
  samplesPerFrame : Int := 1024
  toneHz : Int := 1000
  deriving DecidableEq, Repr

/-- The sine of the tone at a sample, in 16 bits; the source has it in double arithmetic. -/
abbrev Tone := AudioOptions → Int → UInt16

/-- The sample at time `t`, which the period of a beep may silence. -/
def sampleAt (tone : Tone) (opts : AudioOptions) (t : Int) : UInt16 :=
  if opts.beep ∧ opts.sampleRate.tdiv 8 ≤ t.tmod opts.sampleRate then 0 else tone opts t

def makeAudioFrame (tone : Tone) (frameIndex : Int) (opts : AudioOptions) : AudioFrame :=
  if opts.sampleRate ≤ 0 ∨ opts.channels ≤ 0 ∨ opts.samplesPerFrame ≤ 0 ∨ opts.toneHz ≤ 0 ∨
      opts.toneHz > opts.sampleRate.tdiv 2 then {}
  else
    { format := .kS16
      sampleRate := opts.sampleRate
      channels := opts.channels
      timestampUs := (frameIndex * opts.samplesPerFrame * 1000000).tdiv opts.sampleRate
      data := (List.range opts.samplesPerFrame.toNat).flatMap fun (i : Nat) =>
        let v := sampleAt tone opts (frameIndex * opts.samplesPerFrame + i)
        (List.replicate opts.channels.toNat [v.toUInt8, (v >>> 8).toUInt8]).flatten }

/-- The options that `MakeAudioFrame` does not refuse. -/
def AudioOptions.Accepted (opts : AudioOptions) : Prop :=
  0 < opts.sampleRate ∧ 0 < opts.channels ∧ 0 < opts.samplesPerFrame ∧ 0 < opts.toneHz ∧
    opts.toneHz ≤ opts.sampleRate.tdiv 2

instance (opts : AudioOptions) : Decidable opts.Accepted := inferInstanceAs (Decidable (_ ∧ _))

section Frames
variable {opts : AudioOptions}

theorem AudioOptions.accepted_iff : opts.Accepted ↔
    ¬ (opts.sampleRate ≤ 0 ∨ opts.channels ≤ 0 ∨ opts.samplesPerFrame ≤ 0 ∨ opts.toneHz ≤ 0 ∨
      opts.toneHz > opts.sampleRate.tdiv 2) := by
  rw [Accepted]
  omega

theorem makeAudioFrame_timestamp (accepted : opts.Accepted) (tone : Tone) (frameIndex : Int) :
    (makeAudioFrame tone frameIndex opts).timestampUs =
      (frameIndex * opts.samplesPerFrame * 1000000).tdiv opts.sampleRate := by
  rw [makeAudioFrame, if_neg (AudioOptions.accepted_iff.mp accepted)]

end Frames

structure AudioPace where
  opts : AudioOptions
  fps : Int
  /-- Samples and frames handed out. -/
  generated : Int := 0
  produced : Int := 0
  deriving DecidableEq, Repr

namespace AudioPace

/-- Where the span of a video frame ends, in samples. -/
def endSamples (p : AudioPace) (videoFrameIndex : Int) : Int :=
  ((videoFrameIndex + 1) * p.opts.sampleRate).tdiv p.fps

/-- The frame handed out and the pace behind it, `none` for `false`. -/
def nextAudioFrame (tone : Tone) (videoFrameIndex : Int) (p : AudioPace) :
    Option (AudioFrame × AudioPace) :=
  if p.generated + p.opts.samplesPerFrame > p.endSamples videoFrameIndex then none
  else
    some (makeAudioFrame tone (p.produced.bmod (2 ^ 32)) p.opts,
      { p with
        generated := p.generated + p.opts.samplesPerFrame
        produced := p.produced + 1 })

/-- The frames handed out for the video frames up to `n`, where each is asked for audio
until there is none; `none` when the fuel does not suffice. -/
def cover (tone : Tone) (fuel : Nat) (p : AudioPace) : Nat → Option (List AudioFrame × AudioPace)
  | 0 => some ([], p)
  | n + 1 =>
    (cover tone fuel p n).bind fun before =>
      (exhaust (nextAudioFrame tone n) fuel before.2).map fun more =>
        (before.1 ++ more.1, more.2)

/-- The samples of `n` video frames, rounded down. -/
def span (opts : AudioOptions) (fps : Int) (n : Nat) : Int := n * opts.sampleRate / fps

/-- What is handed out stays in step with the counters, and within a span of samples. -/
structure Inv (tone : Tone) (opts : AudioOptions) (fps limit : Int) (frames : List AudioFrame)
    (p : AudioPace) : Prop where
  opts_eq : p.opts = opts
  fps_eq : p.fps = fps
  produced_eq : p.produced = frames.length
  generated_eq : p.generated = p.produced * opts.samplesPerFrame
  within : p.generated ≤ limit
  made : ∀ k (h : k < frames.length), frames[k] = makeAudioFrame tone ((k : Int).bmod (2 ^ 32)) opts

section Pacing
variable {tone : Tone} {opts : AudioOptions} {fps limit : Int} {frames : List AudioFrame}
  {p q : AudioPace} {f : AudioFrame} {n : Nat}

theorem endSamples_eq (accepted : opts.Accepted) (opts_eq : p.opts = opts) (fps_eq : p.fps = fps)
    (n : Nat) : p.endSamples n = span opts fps (n + 1) := by
  have nonneg : 0 ≤ ((n : Int) + 1) * opts.sampleRate :=
    Int.mul_nonneg (by omega) (Int.le_of_lt accepted.1)
  rw [endSamples, span, opts_eq, fps_eq, Int.tdiv_eq_ediv_of_nonneg nonneg, Int.natCast_succ]

theorem span_le_succ (accepted : opts.Accepted) (positive : 0 < fps) (n : Nat) :
    span opts fps n ≤ span opts fps (n + 1) := by
  apply Int.ediv_le_ediv positive
  apply Int.mul_le_mul_of_nonneg_right _ (Int.le_of_lt accepted.1)
  omega

/-- What a call that hands out a frame does. -/
theorem nextAudioFrame_yields {i : Int} (yields : Yields (nextAudioFrame tone i) p f q) :
    p.generated + p.opts.samplesPerFrame ≤ p.endSamples i ∧
      f = makeAudioFrame tone (p.produced.bmod (2 ^ 32)) p.opts ∧
      q = { p with
        generated := p.generated + p.opts.samplesPerFrame
        produced := p.produced + 1 } := by
  rw [Yields, nextAudioFrame] at yields
  split at yields
  · cases yields
  · rename_i due
    cases yields
    exact ⟨Int.not_lt.mp due, rfl, rfl⟩

theorem nextAudioFrame_none {i : Int} (ended : nextAudioFrame tone i p = none) :
    p.endSamples i < p.generated + p.opts.samplesPerFrame := by
  rw [nextAudioFrame] at ended
  split at ended
  · assumption
  · cases ended

/-- The span only grows. -/
theorem Inv.widen {limit' : Int} (inv : Inv tone opts fps limit frames p) (wider : limit ≤ limit') :
    Inv tone opts fps limit' frames p :=
  { inv with within := Int.le_trans inv.within wider }

theorem Inv.next (accepted : opts.Accepted)
    (inv : Inv tone opts fps (span opts fps (n + 1)) frames p)
    (yields : Yields (nextAudioFrame tone n) p f q) :
    Inv tone opts fps (span opts fps (n + 1)) (frames ++ [f]) q := by
  obtain ⟨due, rfl, rfl⟩ := nextAudioFrame_yields yields
  rw [endSamples_eq accepted inv.opts_eq inv.fps_eq] at due
  refine ⟨inv.opts_eq, inv.fps_eq, ?_, ?_, due, ?_⟩
  · rw [List.length_append, List.length_singleton, inv.produced_eq, Int.natCast_succ]
  · rw [inv.generated_eq, inv.opts_eq, Int.add_mul, Int.one_mul]
  · intro k inside
    rw [List.length_append, List.length_singleton] at inside
    by_cases earlier : k < frames.length
    · rw [List.getElem_append_left earlier]
      exact inv.made k earlier
    · obtain rfl : k = frames.length := by omega
      rw [List.getElem_concat_length rfl, inv.produced_eq, inv.opts_eq]

theorem Inv.run {more : List AudioFrame} (accepted : opts.Accepted)
    (inv : Inv tone opts fps (span opts fps (n + 1)) frames p)
    (run : Run (Yields (nextAudioFrame tone n)) p more q) :
    Inv tone opts fps (span opts fps (n + 1)) (frames ++ more) q := by
  refine run.history (P := fun more p => Inv tone opts fps _ (frames ++ more) p) ?_ ?_
  · intro more p f q inv yields
    rw [← List.append_assoc]
    exact inv.next accepted yields
  · rwa [List.append_nil]

/-- The samples left in the span of a video frame. -/
def left (i : Int) (p : AudioPace) : Nat := (p.endSamples i - p.generated).toNat

theorem left_falls (accepted : opts.Accepted) {i : Int} (opts_eq : p.opts = opts)
    (yields : Yields (nextAudioFrame tone i) p f q) : q.opts = opts ∧ left i q < left i p := by
  obtain ⟨due, -, rfl⟩ := nextAudioFrame_yields yields
  have positive : 0 < p.opts.samplesPerFrame := opts_eq ▸ accepted.2.2.1
  refine ⟨opts_eq, ?_⟩
  simp only [left, endSamples] at due ⊢
  omega

/-- The loop of one video frame ends, and then the next audio frame would overshoot. -/
theorem Inv.exhausts (accepted : opts.Accepted) (positive : 0 < fps)
    (inv : Inv tone opts fps (span opts fps n) frames p) :
    ∃ more q, (∀ fuel > more.length,
        exhaust (nextAudioFrame tone n) fuel p = some (more, q)) ∧
      Inv tone opts fps (span opts fps (n + 1)) (frames ++ more) q ∧
      span opts fps (n + 1) < (q.produced + 1) * opts.samplesPerFrame := by
  obtain ⟨more, q, run, last⟩ := @exists_exhausted _ _ (nextAudioFrame tone n)
    (fun p => p.opts = opts) (left n) (left_falls accepted) p inv.opts_eq
  have kept := (inv.widen (span_le_succ accepted positive n)).run accepted run
  refine ⟨more, q, fun fuel enough => exhaust_of_run run last enough, kept, ?_⟩
  have beyond := nextAudioFrame_none last
  rw [endSamples_eq accepted kept.opts_eq kept.fps_eq, kept.generated_eq, kept.opts_eq] at beyond
  rwa [Int.add_mul, Int.one_mul]

/-- A new pace. -/
def new (opts : AudioOptions) (fps : Int) : AudioPace := { opts, fps }

/-- Asking for audio until there is none, video frame by video frame. -/
theorem covers (accepted : opts.Accepted) (positive : 0 < fps) (tone : Tone) (n : Nat) :
    ∃ frames p, (∃ least, ∀ fuel ≥ least,
        cover tone fuel (new opts fps) n = some (frames, p)) ∧
      Inv tone opts fps (span opts fps n) frames p ∧
      span opts fps n < (p.produced + 1) * opts.samplesPerFrame := by
  induction n with
  | zero =>
    have none : span opts fps 0 = 0 := by rw [span, Int.natCast_zero, Int.zero_mul, Int.zero_ediv]
    rw [none]
    refine ⟨[], new opts fps, ⟨0, fun _ _ => rfl⟩, ?_, ?_⟩
    · exact ⟨rfl, rfl, rfl, (Int.zero_mul _).symm, Int.le_refl 0,
        fun k inside => absurd inside (Nat.not_lt_zero k)⟩
    · rw [new, Int.zero_add, Int.one_mul]
      exact accepted.2.2.1
  | succ n ih =>
    obtain ⟨frames, p, ⟨least, before⟩, inv, -⟩ := ih
    obtain ⟨more, q, exhausts, inv, beyond⟩ := inv.exhausts accepted positive
    refine ⟨frames ++ more, q, ⟨max least (more.length + 1), ?_⟩, inv, beyond⟩
    intro fuel enough
    rw [cover, before fuel (Nat.le_trans (Nat.le_max_left _ _) enough), Option.bind_some,
      exhausts fuel (Nat.le_trans (Nat.le_max_right _ _) enough), Option.map_some]

/-- However many video frames are asked for, the loops end, the audio handed out fills
their span up to less than one frame, and each frame has the timestamp of its place. -/
theorem audioPace_tracks (accepted : opts.Accepted) (positive : 0 < fps) (tone : Tone) (n : Nat) :
    ∃ frames p, (∃ least, ∀ fuel ≥ least,
        cover tone fuel (new opts fps) n = some (frames, p)) ∧
      p.produced = frames.length ∧
      p.produced * opts.samplesPerFrame ≤ n * opts.sampleRate / fps ∧
      n * opts.sampleRate / fps < (p.produced + 1) * opts.samplesPerFrame ∧
      ∀ k (h : k < frames.length), k < 2 ^ 31 →
        frames[k].timestampUs = k * opts.samplesPerFrame * 1000000 / opts.sampleRate := by
  obtain ⟨frames, p, ends, inv, beyond⟩ := covers accepted positive tone n
  refine ⟨frames, p, ends, inv.produced_eq, ?_, beyond, ?_⟩
  · rw [← inv.generated_eq]
    exact inv.within
  · intro k inside int
    have index : (k : Int).bmod (2 ^ 32) = k := Int.bmod_eq_of_le (by omega) (by omega)
    have nonneg : 0 ≤ (k : Int) * opts.samplesPerFrame * 1000000 := by
      have samples := Int.mul_nonneg (Int.natCast_nonneg k) (Int.le_of_lt accepted.2.2.1)
      omega
    rw [inv.made k inside, makeAudioFrame_timestamp accepted, index,
      Int.tdiv_eq_ediv_of_nonneg nonneg]

/-- One second of video at 30 frames a second. -/
theorem audioPace_tracks_second :
    ∃ frames p, (∃ least, ∀ fuel ≥ least,
        cover (fun _ _ => 0) fuel (new {} 30) 30 = some (frames, p)) ∧
      p.produced = frames.length ∧ p.produced * 1024 ≤ 48000 ∧ 48000 < (p.produced + 1) * 1024 ∧
      ∀ k (h : k < frames.length), k < 2 ^ 31 →
        frames[k].timestampUs = k * 1024 * 1000000 / 48000 :=
  @audioPace_tracks {} 30 (by decide) (by decide) (fun _ _ => 0) 30

end Pacing
end AudioPace
end SmpteBars
end VideoCodec
