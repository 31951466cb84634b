import VideoCodec.Encode.AudioSamples
import VideoCodec.Utils.AudioPace

/-! The test tone on its way to the codec: what a pace hands out, frame by frame, is
one tone, and what the encoder sends of it is that tone again. -/
namespace VideoCodec

open Transition

namespace SmpteBars

open FFmpegAudioEncoder

section Blocks
variable {α : Type} {block : Nat → List α} {w : Nat}

theorem length_blocks (width : ∀ i, (block i).length = w) (n : Nat) :
    ((List.range n).flatMap block).length = n * w := by
  induction n with
  | zero => exact (Nat.zero_mul w).symm
  | succ n ih =>
    rw [List.range_succ, List.flatMap_append, List.length_append, ih, List.flatMap_singleton,
      width, Nat.succ_mul]

/-- A place in a row of blocks of one width. -/
theorem getD_blocks (width : ∀ i, (block i).length = w) (d : α) {n i j : Nat} (row : i < n)
    (column : j < w) : ((List.range n).flatMap block).getD (i * w + j) d = (block i).getD j d := by
  induction n with
  | zero => exact absurd row (Nat.not_lt_zero i)
  | succ n ih =>
    have length := length_blocks width n
    rw [List.range_succ, List.flatMap_append, List.flatMap_singleton]
    by_cases earlier : i < n
    · have within : i * w + j < n * w :=
        calc i * w + j < i * w + w := Nat.add_lt_add_left column _
          _ = (i + 1) * w := (Nat.succ_mul i w).symm
          _ ≤ n * w := Nat.mul_le_mul_right w earlier
      rw [List.getD_append _ _ _ _ (length ▸ within), ih earlier]
    · obtain rfl : i = n := by omega
      rw [List.getD_append_right _ _ _ _ (by rw [length]; omega), length, Nat.add_sub_cancel_left]

/-- Rows of blocks, numbered through. -/
theorem flatMap_rows (f : Nat → α) (m w : Nat) :
    ((List.range m).flatMap fun k => (List.range w).map fun i => f (k * w + i)) =
      (List.range (m * w)).map f := by
  induction m with
  | zero => rw [Nat.zero_mul]; rfl
  | succ m ih =>
    rw [List.range_succ, List.flatMap_append, ih, List.flatMap_singleton, Nat.succ_mul,
      List.range_add, List.map_append, List.map_map]
    rfl

end Blocks

/-- The tone at a time, as the codec gets it. -/
def toneSample (tone : Tone) (opts : AudioOptions) (t : Nat) : ℚ :=
  toFloat (sampleAt tone opts t).toInt16.toInt

section Tone
variable {tone : Tone} {opts : AudioOptions}

/-- The bytes of a sample, low one first. -/
def sampleBytes (v : UInt16) : List UInt8 := [v.toUInt8, (v >>> 8).toUInt8]

theorem sampleBytes_length (v : UInt16) : (sampleBytes v).length = 2 := rfl

theorem flatten_replicate (n : Nat) (x : List UInt8) :
    (List.replicate n x).flatten = (List.range n).flatMap fun _ => x := by
  rw [List.flatMap_def, List.map_const', List.length_range]

theorem src_bytes (v : UInt16) :
    (Int16.ofNat (v.toUInt8.toNat + 256 * (v >>> 8).toUInt8.toNat)).toInt = v.toInt16.toInt := by
  have whole : v.toUInt8.toNat + 256 * (v >>> 8).toUInt8.toNat = v.toNat := by
    have small := v.toNat_lt
    rw [UInt16.toNat_toUInt8, UInt16.toNat_toUInt8, UInt16.toNat_shiftRight]
    simp [Nat.shiftRight_eq_div_pow]
    omega
  rw [whole, ← UInt16.toInt16_ofNat', UInt16.ofNat_toNat]

/-- A frame of the tone, sample by sample and channel by channel. -/
theorem makeAudioFrame_blocks (accepted : opts.Accepted) (frameIndex : Int) :
    (makeAudioFrame tone frameIndex opts).data =
      (List.range opts.samplesPerFrame.toNat).flatMap fun (i : Nat) =>
        (List.range opts.channels.toNat).flatMap fun _ =>
          sampleBytes (sampleAt tone opts (frameIndex * opts.samplesPerFrame + i)) := by
  rw [makeAudioFrame, if_neg (AudioOptions.accepted_iff.mp accepted)]
  exact congrArg (List.flatMap · _) (funext fun _ => flatten_replicate _ _)

theorem length_row (v : UInt16) (n : Nat) :
    ((List.range n).flatMap fun _ => sampleBytes v).length = n * 2 :=
  length_blocks (fun _ => sampleBytes_length v) n

theorem makeAudioFrame_length (accepted : opts.Accepted) (frameIndex : Int) :
    (makeAudioFrame tone frameIndex opts).data.length =
      opts.samplesPerFrame.toNat * (opts.channels.toNat * 2) := by
  rw [makeAudioFrame_blocks accepted]
  exact length_blocks (fun _ => length_row _ _) _

theorem src_makeAudioFrame (accepted : opts.Accepted) (frameIndex : Int) {i c : Nat}
    (row : i < opts.samplesPerFrame.toNat) (column : c < opts.channels.toNat) :
    src (makeAudioFrame tone frameIndex opts).data (i * opts.channels.toNat + c) =
      (sampleAt tone opts (frameIndex * opts.samplesPerFrame + i)).toInt16.toInt := by
  have byte (b : Nat) (low : b < 2) :
      (makeAudioFrame tone frameIndex opts).data.getD (2 * (i * opts.channels.toNat + c) + b) 0 =
        (sampleBytes (sampleAt tone opts (frameIndex * opts.samplesPerFrame + i))).getD b 0 := by
    have place : 2 * (i * opts.channels.toNat + c) + b =
        i * (opts.channels.toNat * 2) + (c * 2 + b) := by
      rw [← Nat.mul_assoc]
      omega
    rw [makeAudioFrame_blocks accepted, place,
      getD_blocks (fun _ => length_row _ _) 0 row (by omega),
      getD_blocks (fun _ => sampleBytes_length _) 0 column low]
  have low := byte 0 (by decide)
  have high := byte 1 (by decide)
  rw [Nat.add_zero] at low
  rw [src, low, high]
  exact src_bytes _

/-- The channels of a frame of the tone. -/
theorem channel_makeAudioFrame {config : AudioConfig} (accepted : opts.Accepted)
    (channels : config.channels = opts.channels) (k : Nat) {c : Nat}
    (inside : c < opts.channels.toNat) :
    channel config (makeAudioFrame tone k opts).data c =
      (List.range opts.samplesPerFrame.toNat).map fun i =>
        toneSample tone opts (k * opts.samplesPerFrame.toNat + i) := by
  have samples : samples config (makeAudioFrame tone k opts).data = opts.samplesPerFrame.toNat := by
    rw [samples, makeAudioFrame_length accepted, channels]
    exact Nat.mul_div_cancel _ (by omega)
  rw [channel, samples]
  apply List.map_congr_left
  intro i row
  have time : ((k * opts.samplesPerFrame.toNat + i : Nat) : Int) =
      (k : Int) * opts.samplesPerFrame + i := by
    have whole := Int.toNat_of_nonneg (Int.le_of_lt accepted.2.2.1)
    push_cast
    rw [whole]
  rw [channels, src_makeAudioFrame accepted _ (List.mem_range.mp row) inside, toneSample, time]

namespace AudioPace
variable {fps : Int} {n fuel : Nat} {frames : List AudioFrame} {p : AudioPace}

/-- What covers `n` video frames keeps the invariant, whatever the fuel. -/
theorem cover_inv (accepted : opts.Accepted) (positive : 0 < fps)
    (paced : cover tone fuel (new opts fps) n = some (frames, p)) :
    Inv tone opts fps (span opts fps n) frames p := by
  induction n generalizing frames p with
  | zero =>
    obtain ⟨rfl, rfl⟩ := Prod.mk.inj (Option.some.inj paced)
    rw [span, Int.natCast_zero, Int.zero_mul, Int.zero_ediv]
    exact ⟨rfl, rfl, rfl, (Int.zero_mul _).symm, Int.le_refl 0,
      fun k inside => absurd inside (Nat.not_lt_zero k)⟩
  | succ n ih =>
    obtain ⟨⟨before, q⟩, covered, paced⟩ := Option.bind_eq_some_iff.mp paced
    obtain ⟨⟨more, r⟩, exhausted, pair⟩ := Option.map_eq_some_iff.mp paced
    obtain ⟨rfl, rfl⟩ := Prod.mk.inj pair
    have inv := (ih covered).widen (span_le_succ accepted positive n)
    exact inv.run accepted (run_of_exhaust exhausted).1

end AudioPace

/-- Frames of the tone from the first one on, as one channel. -/
theorem flatMap_tone {config : AudioConfig} (accepted : opts.Accepted)
    (channels : config.channels = opts.channels) {frames : List AudioFrame}
    (made : ∀ k (h : k < frames.length),
      frames[k] = makeAudioFrame tone ((k : Int).bmod (2 ^ 32)) opts)
    (few : frames.length ≤ 2 ^ 31) {c : Nat} (inside : c < opts.channels.toNat) :
    (frames.flatMap fun frame => channel config frame.data c) =
      (List.range (frames.length * opts.samplesPerFrame.toNat)).map (toneSample tone opts) := by
  have each : frames = (List.range frames.length).map fun (k : Nat) =>
      makeAudioFrame tone k opts := by
    apply List.ext_getElem (by simp)
    intro k here there
    have index : (k : Int).bmod (2 ^ 32) = k := Int.bmod_eq_of_le (by omega) (by omega)
    rw [made k here, index, List.getElem_map, List.getElem_range]
  conv_lhs => rw [each]
  rw [List.flatMap_map, ← flatMap_rows]
  exact congrArg (List.flatMap · _)
    (funext fun k => channel_makeAudioFrame accepted channels k inside)

/-- Frames of the tone are sent as they are where they fill a frame of the codec. -/
theorem plane_of_fills {config : AudioConfig} {nbSamples : Int} {data : List UInt8}
    (positive : 0 < config.channels) (all : copied config nbSamples data = samples config data)
    (fills : samples config data = nbSamples.toNat) (c : Nat) :
    plane config nbSamples data c = channel config data c := by
  have length : (channel config data c).length = nbSamples.toNat := by
    rw [channel, List.length_map, List.length_range, fills]
  rw [plane_eq positive, all, fills, Nat.sub_self, List.replicate_zero, List.append_nil,
    List.take_of_length_le (Nat.le_of_eq length)]

/-- Frames of the tone reach the codec as one tone, with no gap and no padding, exactly
when each channel has its entry in `data` and a frame as many samples as the codec wants. -/
theorem tone_reaches_codec (accepted : opts.Accepted) {fps : Int} (positive : 0 < fps)
    {n fuel : Nat} {frames : List AudioFrame} {p : AudioPace}
    (paced : AudioPace.cover tone fuel (.new opts fps) n = some (frames, p))
    {e : FFmpegAudioEncoder} {reply : FFmpegAudioReply} (initialised : (e.init reply).1 = .kOk)
    (channels : e.config.channels = opts.channels) {toUs : Int → Int}
    {calls : List (AudioFrame × Reply)} {t : Sending}
    (run : Run (Takes (next toUs)) { encoder := (e.init reply).2 } calls t)
    (given : t.given <+: frames) (begun : t.given ≠ []) (few : t.given.length ≤ 2 ^ 31)
    (int : opts.samplesPerFrame.toNat * (opts.channels.toNat * 2) < 2 ^ 31) :
    (∀ c < opts.channels.toNat, (t.sent.flatMap fun frame => frame.planes.getD c []) =
        (List.range (t.given.length * opts.samplesPerFrame.toNat)).map (toneSample tone opts)) ↔
      opts.channels ≤ kDataPointers ∧ opts.samplesPerFrame = frameSamples reply := by
  have inv := inv_of_run initialised run
  have pace := AudioPace.cover_inv accepted positive paced
  have made : ∀ k (h : k < t.given.length),
      t.given[k] = makeAudioFrame tone ((k : Int).bmod (2 ^ 32)) opts := by
    intro k inside
    rw [given.getElem inside]
    exact pace.made k _
  have each : ∀ frame ∈ t.given, ∃ k, frame = makeAudioFrame tone k opts := by
    intro frame among
    obtain ⟨k, inside, rfl⟩ := List.mem_iff_getElem.mp among
    exact ⟨_, made k inside⟩
  have one : 0 < e.config.channels := channels ▸ accepted.2.1
  constructor
  · intro whole
    have positive := accepted.2.2.1
    have frames := List.length_pos_of_ne_nil begun
    have entries : opts.channels ≤ kDataPointers := by
      by_contra more
      have length := congrArg List.length (whole kDataPointers (by omega))
      rw [inv.sent_eq (by omega), List.length_map, List.length_range] at length
      have nothing : (t.given.flatMap fun frame => if kDataPointers < kDataPointers then
          plane e.config (frameSamples reply) frame.data kDataPointers else []) = [] :=
        List.flatMap_eq_nil_iff.mpr fun _ _ => if_neg (lt_irrefl _)
      rw [nothing, List.length_nil] at length
      have samples := Nat.mul_pos frames (show 0 < opts.samplesPerFrame.toNat by omega)
      omega
    have first : 0 < opts.channels.toNat := by omega
    have size (frame : AudioFrame) :
        (plane e.config (frameSamples reply) frame.data 0).length = (frameSamples reply).toNat := by
      rw [plane, List.length_map, List.length_range]
    have length := congrArg List.length (whole 0 first)
    rw [inv.sent_eq (by rwa [channels])] at length
    simp only [show 0 < kDataPointers from by decide, if_true] at length
    rw [List.length_flatMap, List.map_congr_left fun f _ => size f, List.map_const',
      List.sum_replicate_nat, List.length_map, List.length_range] at length
    have same := Nat.eq_of_mul_eq_mul_left frames length
    have large := frameSamples_pos reply
    exact ⟨entries, by omega⟩
  · rintro ⟨entries, fills⟩ c inside
    rw [inv.sent_eq (by rwa [channels]), ← flatMap_tone accepted channels made few inside]
    apply List.flatMap_congr
    intro frame among
    rw [if_pos (by omega)]
    obtain ⟨nonempty, interleaved⟩ := inv.whole frame among
    obtain ⟨k, rfl⟩ := each frame among
    have length := @makeAudioFrame_length tone opts accepted k
    have filled :
        samples e.config (makeAudioFrame tone k opts).data = (frameSamples reply).toNat := by
      rw [samples, length, channels, ← fills]
      exact Nat.mul_div_cancel _ (by omega)
    have fits : samples e.config (makeAudioFrame tone k opts).data ≤ frameSamples reply ∧
        (makeAudioFrame tone k opts).data.length < 2 ^ 31 := by
      refine ⟨?_, by rwa [length]⟩
      rw [filled]
      exact Int.toNat_of_nonneg (Int.le_of_lt (frameSamples_pos reply)) |>.le
    exact plane_of_fills one ((copied_eq_iff one interleaved nonempty).mpr fits) filled c

/-- Half a second of two samples, in frames of one. -/
theorem tone_reaches_codec_ones :
    ∃ t : Sending, t.given.length = 2 ∧
      ∀ c < 2, (t.sent.flatMap fun frame => frame.planes.getD c []) =
        (List.range 2).map
          (toneSample (fun _ t => UInt16.ofNat t.toNat)
            { sampleRate := 4, samplesPerFrame := 1, toneHz := 1 }) := by
  let tone : Tone := fun _ t => UInt16.ofNat t.toNat
  let opts : AudioOptions := { sampleRate := 4, samplesPerFrame := 1, toneHz := 1 }
  let frames : List AudioFrame :=
    [{ sampleRate := 4, channels := 2, data := [0, 0, 0, 0] },
      { sampleRate := 4, channels := 2, timestampUs := 250000, data := [1, 0, 1, 0] }]
  have accepted : opts.Accepted := by decide
  have paced : AudioPace.cover tone 3 (.new opts 2) 1 =
      some (frames, { opts, fps := 2, generated := 2, produced := 2 }) := by decide
  have initialised : (init { config := {} } { frameSize := 1 }).1 = .kOk := rfl
  have run : Run (Takes (next id)) { encoder := (init { config := {} } { frameSize := 1 }).2 }
      (frames.map fun frame => (frame, {})) _ := .next rfl (.single rfl)
  have whole := tone_reaches_codec accepted (by decide) paced initialised rfl run List.prefix_rfl
    (List.cons_ne_nil _ _) (by decide) (by decide)
  exact ⟨_, rfl, whole.mpr ⟨by decide, rfl⟩⟩

end Tone
end SmpteBars
end VideoCodec
