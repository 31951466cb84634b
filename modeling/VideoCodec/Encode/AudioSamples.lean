import Mathlib.Algebra.Group.Nat.Defs
import Mathlib.Algebra.Order.Field.Rat
import Mathlib.Algebra.Order.Ring.Cast
import Mathlib.Data.Int.Cast.Lemmas
import Mathlib.Data.List.Chain
import Mathlib.Data.List.GetD
import VideoCodec.Encode.FFmpeg
import VideoCodec.Scan.Padded
import VideoCodec.Transition.Run

/-! The samples that `FFmpegAudioEncoder::Encode` hands to the codec. The quotients of
its floats are exact here, as they are in the source: 16 bits over a power of two. -/
namespace VideoCodec

open Transition Scan

namespace FFmpeg

/-- `frame_` as `avcodec_send_frame` gets it. -/
structure SentFrame where
  pts : Int
  /-- The samples of each channel. -/
  planes : List (List ℚ)
  deriving DecidableEq, Repr

end FFmpeg

namespace FFmpegAudioEncoder

/-- An element of the `int16_t`s that the bytes are read as, low byte first. -/
def src (data : List UInt8) (k : Nat) : Int :=
  (Int16.ofNat ((data.getD (2 * k) 0).toNat + 256 * (data.getD (2 * k + 1) 0).toNat)).toInt

def toFloat (s : Int) : ℚ := s / 32768

/-- `static_cast<int>` of a size. -/
def castInt (size : Nat) : Int := (Int32.ofNat size).toInt

variable (config : AudioConfig) (nbSamples : Int)

/-- The samples of a channel that `Encode` finds in data. -/
def inSamples (data : List UInt8) : Int := (castInt data.length).tdiv (config.channels * 2)

/-- The entries of `AVFrame::data`. -/
def kDataPointers : Nat := 8

/-- What the loop over `i` writes to the plane of channel `c`. -/
def plane (data : List UInt8) (c : Nat) : List ℚ :=
  (List.range nbSamples.toNat).map fun (i : Nat) =>
    toFloat (if (i : Int) < inSamples config data then src data (i * config.channels.toNat + c)
      else 0)

/-- The planes that `Encode` fills. A channel beyond the entries of `data` has none: the loop
takes what lies behind them for its pointer, which leads to no plane of the frame. -/
def planes (data : List UInt8) : List (List ℚ) :=
  (List.range (min config.channels.toNat kDataPointers)).map (plane config nbSamples data)

/-- The frame of the codec that a call of `Encode` sends. -/
def sent (e : FFmpegAudioEncoder) (frame : AudioFrame) : FFmpeg.SentFrame :=
  { pts := e.pts, planes := planes e.config (e.frame.getD 0) frame.data }

/-- The samples of a channel in data. -/
def samples (data : List UInt8) : Nat := data.length / (config.channels.toNat * 2)

/-- A channel of interleaved PCM. -/
def channel (data : List UInt8) (c : Nat) : List ℚ :=
  (List.range (samples config data)).map fun (i : Nat) =>
    toFloat (src data (i * config.channels.toNat + c))

/-- Whole interleaved S16 samples of the configured channels. -/
def Interleaved (frame : AudioFrame) : Prop :=
  frame.format = .kS16 ∧ frame.channels = config.channels ∧
    config.channels.toNat * 2 ∣ frame.data.length

instance (frame : AudioFrame) : Decidable (Interleaved config frame) :=
  inferInstanceAs (Decidable (_ ∧ _))

/-- The samples of `frame_` behind an `Init`. -/
def frameSamples (reply : FFmpegAudioReply) : Int :=
  if reply.frameSize > 0 then reply.frameSize else 1024

/-- An encoder with the frames given to it and those that it has sent. -/
structure Sending where
  encoder : FFmpegAudioEncoder
  given : List AudioFrame := []
  sent : List FFmpeg.SentFrame := []

variable {config nbSamples}

/-- A call of `Encode` that returns Ok, with the answers to it. -/
def next (toUs : Int → Int) (s : Sending) (call : AudioFrame × Reply) : Option Sending :=
  match s.encoder.encode toUs call.1 call.2 with
  | (.ok _, _, encoder) =>
    if Interleaved s.encoder.config call.1 then
      some ⟨encoder, s.given ++ [call.1], s.sent ++ [s.encoder.sent call.1]⟩
    else none
  | (.error _, _, _) => none

/-- Each channel of what was sent is that of what was given with silence inserted, and
the presentation times advance by the samples sent. -/
structure Kept (s : Sending) : Prop where
  padded : ∀ c < s.encoder.config.channels.toNat,
    Padded 0 (s.given.flatMap fun frame => channel s.encoder.config frame.data c)
      (s.sent.flatMap fun frame => frame.planes.getD c [])
  advances : s.sent.IsChain fun (before after : FFmpeg.SentFrame) =>
    ∀ plane ∈ before.planes, after.pts = before.pts + plane.length

/-- Calls with the same answers and with data of the same size. -/
def SameSize (call other : AudioFrame × Reply) : Prop :=
  other.1 = { call.1 with data := other.1.data } ∧
    other.1.data.length = call.1.data.length ∧ other.2 = call.2

/-- A frame that fits into one of the codec, whose size is an `int` and whose channels all
have an entry in `data`. -/
def Fits (config : AudioConfig) (nbSamples : Int) (frame : AudioFrame) : Prop :=
  config.channels ≤ kDataPointers ∧ samples config frame.data ≤ nbSamples ∧
    frame.data.length < 2 ^ 31

instance (frame : AudioFrame) : Decidable (Fits config nbSamples frame) :=
  inferInstanceAs (Decidable (_ ∧ _))

section Planes
variable {data : List UInt8}

/-- The samples of a channel that the codec gets. -/
def copied (config : AudioConfig) (nbSamples : Int) (data : List UInt8) : Nat :=
  min (inSamples config data).toNat nbSamples.toNat

/-- As an `int` a size is not larger, and the same only when it is one. -/
theorem castInt_size (size : Nat) :
    castInt size ≤ size ∧ (castInt size = size ↔ size < 2 ^ 31) := by
  rw [castInt, Int32.toInt_ofNat', Int32.size, Int.bmod_def]
  split <;> omega

theorem channels_eq (positive : 0 < config.channels) :
    config.channels * 2 = (config.channels.toNat * 2 : Nat) := by omega

theorem inSamples_le (positive : 0 < config.channels) {size : Nat}
    (below : castInt data.length ≤ size) :
    (inSamples config data).toNat ≤ size / (config.channels.toNat * 2) := by
  have quotient := Int.tdiv_le_tdiv (c := config.channels * 2) (by omega) below
  rw [channels_eq positive, Int.tdiv_eq_ediv_of_nonneg (Int.natCast_nonneg size),
    ← Int.natCast_ediv, ← channels_eq positive] at quotient
  exact Int.toNat_le.mpr quotient

/-- Only of data whose size is an `int` are all samples found. -/
theorem inSamples_eq_iff (positive : 0 < config.channels)
    (whole : config.channels.toNat * 2 ∣ data.length) (nonempty : data ≠ []) :
    (inSamples config data).toNat = samples config data ↔ data.length < 2 ^ 31 := by
  refine Iff.trans ?_ (castInt_size data.length).2
  constructor
  · intro all
    apply Int.le_antisymm (castInt_size data.length).1
    apply Int.not_lt.mp
    intro less
    have some := List.length_pos_of_ne_nil nonempty
    have early : castInt data.length ≤ (data.length - 1 : Nat) := by omega
    have fewer : (data.length - 1) / (config.channels.toNat * 2) < samples config data := by
      apply Nat.div_lt_of_lt_mul
      rw [samples, Nat.mul_div_cancel' whole]
      omega
    have found := inSamples_le positive early
    omega
  · intro int
    rw [inSamples, int, samples, channels_eq positive,
      Int.tdiv_eq_ediv_of_nonneg (Int.natCast_nonneg _), ← Int.natCast_ediv, Int.toNat_natCast]

/-- The samples of a channel that the codec gets, at most those there are. -/
theorem copied_le (positive : 0 < config.channels) :
    copied config nbSamples data ≤ samples config data :=
  Nat.le_trans (Nat.min_le_left _ _) (inSamples_le positive (castInt_size data.length).1)

theorem plane_eq (positive : 0 < config.channels) (c : Nat) : plane config nbSamples data c =
    (channel config data c).take (copied config nbSamples data) ++
      List.replicate (nbSamples.toNat - copied config nbSamples data) 0 := by
  have most := @copied_le config nbSamples data positive
  have fits : copied config nbSamples data ≤ nbSamples.toNat := Nat.min_le_right _ _
  rw [channel, ← List.map_take, List.take_range, Nat.min_eq_left most, plane]
  conv_lhs => rw [← Nat.add_sub_of_le fits, List.range_add, List.map_append, List.map_map]
  refine congrArg₂ (· ++ ·) ?_ ?_
  · apply List.map_congr_left
    intro i inside
    have early : (i : Int) < inSamples config data := by
      have found := List.mem_range.mp inside
      rw [copied] at found
      omega
    exact congrArg toFloat (if_pos early)
  · have count := @List.length_range (nbSamples.toNat - copied config nbSamples data)
    rw [← count, ← List.map_const', count]
    apply List.map_congr_left
    intro i inside
    have late : ¬((copied config nbSamples data + i : Nat) : Int) < inSamples config data := by
      have rest := List.mem_range.mp inside
      rw [copied] at rest ⊢
      omega
    exact (congrArg toFloat (if_neg late)).trans (by rw [toFloat, Int.cast_zero, zero_div])

theorem copied_eq_iff {frame : AudioFrame} (positive : 0 < config.channels)
    (whole : Interleaved config frame) (nonempty : frame.data ≠ []) :
    copied config nbSamples frame.data = samples config frame.data ↔
      samples config frame.data ≤ nbSamples ∧ frame.data.length < 2 ^ 31 := by
  have found := inSamples_le positive (castInt_size frame.data.length).1
  have all := inSamples_eq_iff positive whole.2.2 nonempty
  have size := List.length_pos_of_ne_nil nonempty
  have some : 0 < samples config frame.data :=
    Nat.div_pos (Nat.le_of_dvd size whole.2.2) (by omega)
  rw [← all, copied]
  rw [← samples] at found
  omega

/-- A frame is kept when it fits. -/
theorem padded_plane (positive : 0 < config.channels)
    (all : copied config nbSamples data = samples config data) (c : Nat) :
    Padded 0 (channel config data c) (plane config nbSamples data c) := by
  have whole : (channel config data c).length = copied config nbSamples data := by
    rw [all, channel, List.length_map, List.length_range]
  rw [plane_eq positive, List.take_of_length_le (Nat.le_of_eq whole)]
  have padded := (Padded.refl (channel config data c)).append
    (@Padded.fills ℚ 0 (nbSamples.toNat - copied config nbSamples data))
  rwa [List.append_nil] at padded

/-- Data without silence. -/
def loud (size : Nat) : List UInt8 := List.replicate size 1

theorem channel_loud (size : Nat) (positive : 0 < config.channels) :
    ∀ x ∈ channel config (loud size) 0, x ≠ 0 := by
  intro x among
  obtain ⟨i, inside, rfl⟩ := List.mem_map.mp among
  have early : i * (config.channels.toNat * 2) + config.channels.toNat * 2 ≤ size := by
    rw [List.mem_range, samples, loud, List.length_replicate] at inside
    rw [← Nat.succ_mul]
    exact (Nat.le_div_iff_mul_le (by omega)).mp inside
  have byte : ∀ k < size, (loud size).getD k 0 = 1 := by
    intro k inside
    rw [loud, List.getD_eq_getElem _ _ (by rwa [List.length_replicate]), List.getElem_replicate]
  rw [← Nat.mul_assoc] at early
  have places : 2 * (i * config.channels.toNat + 0) + 1 < size := by omega
  have sample : src (loud size) (i * config.channels.toNat + 0) = 257 := by
    rw [src, byte _ (by omega), byte _ places]
    rfl
  rw [sample]
  exact div_ne_zero (Int.cast_ne_zero.mpr (by decide)) (OfNat.ofNat_ne_zero _)

theorem countP_plane (positive : 0 < config.channels) (c : Nat) :
    (plane config nbSamples data c).countP (· ≠ 0) =
      ((channel config data c).take (copied config nbSamples data)).countP (· ≠ 0) := by
  rw [plane_eq positive, List.countP_append, List.countP_replicate]
  simp

end Planes

section Steps
variable {e : FFmpegAudioEncoder} {toUs : Int → Int} {s t : Sending}
  {call other : AudioFrame × Reply}

theorem init_ok {reply : FFmpegAudioReply} (initialised : (e.init reply).1 = .kOk) :
    0 < e.config.channels ∧ (e.init reply).2.config = e.config ∧
      (e.init reply).2.frame = some (frameSamples reply) := by
  rw [init] at initialised ⊢
  split at initialised
  · cases initialised
  split at initialised
  · cases initialised
  rename_i can valid
  rw [if_neg can, if_neg valid]
  rw [Bool.not_eq_true', Bool.not_eq_false, AudioConfig.isValid, decide_eq_true_iff] at valid
  refine ⟨valid.2, ?_⟩
  split at initialised
  · cases initialised
  rename_i encoder
  split at initialised
  · cases initialised
  rename_i context
  rw [if_neg encoder, if_neg context]
  dsimp only at initialised ⊢
  split at initialised
  · cases initialised
  rename_i opened
  split at initialised
  · cases initialised
  rename_i buffer
  rw [if_neg opened, if_neg buffer]
  split at initialised
  · exact ⟨rfl, rfl⟩
  · cases initialised

theorem encode_ok {out : AudioPacket} {frame : AudioFrame} {reply : Reply}
    (ok : (e.encode toUs frame reply).1 = .ok out) :
    frame.data ≠ [] ∧ (e.encode toUs frame reply).2.2 =
      { e with lifecycle := .kEncoding, pts := e.pts + e.frame.getD 0 } := by
  rw [encode] at ok ⊢
  rcases e.lifecycle.encode_cases with begins | refused
  · rw [begins] at ok ⊢
    dsimp only at ok ⊢
    split at ok
    · cases ok
    rename_i nonempty
    split at ok
    · cases ok
    rename_i writable
    split at ok
    · cases ok
    rename_i sends
    rw [if_neg nonempty, if_neg writable, if_neg sends]
    exact ⟨nonempty, rfl⟩
  · rw [refused] at ok
    cases ok

theorem encode_sameSize (same : SameSize call other) (e : FFmpegAudioEncoder) :
    e.encode toUs other.1 other.2 = e.encode toUs call.1 call.2 := by
  have empty : other.1.data = [] ↔ call.1.data = [] := by
    rw [← List.length_eq_zero_iff, same.2.1, List.length_eq_zero_iff]
  rw [same.2.2, encode, encode]
  simp only [empty]

/-- What the frames sent have in common with those given, over calls from an encoder
with `nbSamples`. -/
structure Inv (config : AudioConfig) (nbSamples : Int) (s : Sending) : Prop where
  config_eq : s.encoder.config = config
  frame_eq : s.encoder.frame = some nbSamples
  whole : ∀ frame ∈ s.given, frame.data ≠ [] ∧ Interleaved config frame
  planes_eq : s.sent.map FFmpeg.SentFrame.planes =
    s.given.map fun frame => planes config nbSamples frame.data
  pts_eq : ∀ last ∈ s.sent.getLast?, s.encoder.pts = last.pts + nbSamples
  advances : s.sent.IsChain fun before after => after.pts = before.pts + nbSamples

theorem next_some (step : next toUs s call = some t) : ∃ out,
    (s.encoder.encode toUs call.1 call.2).1 = .ok out ∧ Interleaved s.encoder.config call.1 ∧
      t = ⟨(s.encoder.encode toUs call.1 call.2).2.2, s.given ++ [call.1],
        s.sent ++ [s.encoder.sent call.1]⟩ := by
  rw [next] at step
  split at step
  · rename_i out events encoder encoded
    split at step
    · rename_i whole
      rw [encoded]
      exact ⟨out, rfl, whole, (Option.some.inj step).symm⟩
    · cases step
  · cases step

theorem Inv.next (inv : Inv config nbSamples s)
    (step : next toUs s call = some t) : Inv config nbSamples t := by
  obtain ⟨out, ok, whole, rfl⟩ := next_some step
  obtain ⟨nonempty, after⟩ := encode_ok ok
  rw [after]
  refine ⟨inv.config_eq, inv.frame_eq, ?_, ?_, ?_, ?_⟩
  · intro frame among
    rcases List.mem_append.mp among with before | last
    · exact inv.whole frame before
    · obtain rfl := List.mem_singleton.mp last
      exact ⟨nonempty, inv.config_eq ▸ whole⟩
  · rw [List.map_append, List.map_append, inv.planes_eq, List.map_singleton, List.map_singleton,
      sent, inv.config_eq, inv.frame_eq]
    rfl
  · intro last among
    rw [List.getLast?_concat, Option.mem_some] at among
    obtain rfl := among
    rw [inv.frame_eq]
    rfl
  · refine List.isChain_append.mpr ⟨inv.advances, List.isChain_singleton _, ?_⟩
    intro before among after first
    rw [List.head?_cons, Option.mem_some] at first
    obtain rfl := first
    exact inv.pts_eq before among

theorem inv_of_run {reply : FFmpegAudioReply} (initialised : (e.init reply).1 = .kOk)
    {calls : List (AudioFrame × Reply)}
    (run : Run (Takes (next toUs)) { encoder := (e.init reply).2 } calls t) :
    Inv e.config (frameSamples reply) t := by
  obtain ⟨-, config, frame⟩ := init_ok initialised
  refine run.invariant (fun inv step => inv.next step) ?_
  exact ⟨config, frame, nofun, rfl, nofun, .nil⟩

/-- What a channel of the frames sent holds: nothing beyond the entries of `data`. -/
theorem Inv.sent_eq (inv : Inv config nbSamples s) {c : Nat} (inside : c < config.channels.toNat) :
    (s.sent.flatMap fun frame => frame.planes.getD c []) =
      s.given.flatMap fun frame =>
        if c < kDataPointers then plane config nbSamples frame.data c else [] := by
  have picked := congrArg (List.flatMap fun planes : List (List ℚ) => planes.getD c [])
    inv.planes_eq
  rw [List.flatMap_map, List.flatMap_map] at picked
  rw [picked]
  congr 1
  funext frame
  rw [planes]
  by_cases entry : c < kDataPointers
  · have filled : c < min config.channels.toNat kDataPointers := lt_min inside entry
    rw [if_pos entry, List.getD_eq_getElem _ _ (by rwa [List.length_map, List.length_range]),
      List.getElem_map, List.getElem_range]
  · rw [if_neg entry, List.getD_eq_default]
    rw [List.length_map, List.length_range]
    omega

theorem Inv.lengths (inv : Inv config nbSamples s) :
    ∀ frame ∈ s.sent, ∀ plane ∈ frame.planes, plane.length = nbSamples.toNat := by
  intro frame among plane one
  have planes := List.mem_map_of_mem (f := FFmpeg.SentFrame.planes) among
  rw [inv.planes_eq] at planes
  obtain ⟨given, -, same⟩ := List.mem_map.mp planes
  rw [← same] at one
  obtain ⟨c, -, rfl⟩ := List.mem_map.mp one
  rw [FFmpegAudioEncoder.plane, List.length_map, List.length_range]

theorem Inv.kept_of_fits (inv : Inv config nbSamples s) (positive : 0 < config.channels)
    (large : 0 < nbSamples) (fits : ∀ frame ∈ s.given, Fits config nbSamples frame) : Kept s := by
  constructor
  · intro c inside
    rw [inv.config_eq] at inside ⊢
    rw [inv.sent_eq inside]
    apply Padded.flatMap
    intro frame among
    obtain ⟨nonempty, whole⟩ := inv.whole frame among
    obtain ⟨entries, size⟩ := fits frame among
    rw [if_pos (by omega)]
    exact padded_plane positive ((copied_eq_iff positive whole nonempty).mpr size) c
  · apply inv.advances.imp_of_mem_imp
    intro before after among _ advances plane one
    rw [advances, inv.lengths before among plane one, Int.toNat_of_nonneg (Int.le_of_lt large)]

/-- What is lost of the frames of a run that is kept is silence. -/
theorem Inv.lost_silent (inv : Inv config nbSamples s) (positive : 0 < config.channels)
    (kept : Kept s) {c : Nat} (inside : c < config.channels.toNat) (entry : c < kDataPointers) :
    ∀ frame ∈ s.given, ∀ x ∈
      (channel config frame.data c).drop (copied config nbSamples frame.data), x = 0 := by
  have padded := kept.padded c (by rwa [inv.config_eq])
  rw [inv.config_eq, inv.sent_eq inside] at padded
  simp only [if_pos entry] at padded
  have split (frame : AudioFrame) : (channel config frame.data c).countP (· ≠ 0) =
      (plane config nbSamples frame.data c).countP (· ≠ 0) +
        ((channel config frame.data c).drop (copied config nbSamples frame.data)).countP
          (· ≠ 0) := by
    rw [countP_plane positive, ← List.countP_append, List.take_append_drop]
  have counts := padded.countP_parts_eq (p := (· ≠ 0)) (by simp) fun frame _ => by
    rw [split]
    exact Nat.le_add_right _ _
  intro frame among x lost
  have none : ((channel config frame.data c).drop (copied config nbSamples frame.data)).countP
      (· ≠ 0) = 0 := by
    have same := counts frame among
    have whole := split frame
    omega
  have silent := List.countP_eq_zero.mp none x lost
  rwa [decide_eq_true_iff, not_not] at silent

/-- A run that is kept has an entry in `data` for each channel. -/
theorem Inv.entries_of_kept (inv : Inv config nbSamples s) (positive : 0 < config.channels)
    (kept : Kept s) {frame : AudioFrame} (among : frame ∈ s.given) :
    config.channels ≤ kDataPointers := by
  by_contra more
  have inside : kDataPointers < config.channels.toNat := by omega
  have padded := kept.padded kDataPointers (by rwa [inv.config_eq])
  rw [inv.config_eq, inv.sent_eq inside] at padded
  simp only [lt_irrefl, if_false] at padded
  have nothing := List.eq_nil_of_length_eq_zero
    (Nat.le_zero.mp (padded.length_le.trans_eq (by simp)))
  obtain ⟨nonempty, whole⟩ := inv.whole frame among
  have silent := List.flatMap_eq_nil_iff.mp nothing frame among
  have size := Nat.le_of_dvd (List.length_pos_of_ne_nil nonempty) whole.2.2
  have counted : 0 < samples config frame.data := Nat.div_pos size (by omega)
  have count := congrArg List.length silent
  rw [channel, List.length_map, List.length_range, List.length_nil] at count
  omega

/-- Frames without silence show what is lost. -/
theorem Inv.fits_of_kept (inv : Inv config nbSamples s) (positive : 0 < config.channels)
    (noise : ∀ frame ∈ s.given, frame.data = loud frame.data.length) (kept : Kept s) :
    ∀ frame ∈ s.given, Fits config nbSamples frame := by
  intro frame among
  obtain ⟨nonempty, whole⟩ := inv.whole frame among
  refine ⟨inv.entries_of_kept positive kept among, ?_⟩
  rw [← copied_eq_iff positive whole nonempty]
  refine Nat.le_antisymm (copied_le positive) ?_
  have silent := inv.lost_silent positive kept (c := 0) (by omega) (by decide) frame among
  have nothing : (channel config frame.data 0).drop (copied config nbSamples frame.data) = [] := by
    refine List.eq_nil_iff_forall_not_mem.mpr fun x lost => ?_
    have sounds := @channel_loud config frame.data.length positive x
    rw [← noise frame among] at sounds
    exact sounds (List.mem_of_mem_drop lost) (silent x lost)
  have short := List.drop_eq_nil_iff.mp nothing
  rwa [channel, List.length_map, List.length_range] at short

theorem next_sameSize {u : Sending} (same : SameSize call other)
    (step : next toUs s call = some t) (alike : u.encoder = s.encoder) :
    ∃ v, next toUs u other = some v ∧ v.encoder = t.encoder := by
  obtain ⟨out, ok, whole, rfl⟩ := next_some step
  have whole' : Interleaved s.encoder.config other.1 := by
    rw [Interleaved, same.2.1, same.1]
    exact whole
  refine ⟨⟨(s.encoder.encode toUs call.1 call.2).2.2, u.given ++ [other.1],
    u.sent ++ [s.encoder.sent other.1]⟩, ?_, rfl⟩
  rw [next, alike, encode_sameSize same]
  cases encoded : s.encoder.encode toUs call.1 call.2 with
  | mk result rest =>
    rw [encoded] at ok
    obtain rfl := ok
    exact if_pos whole'

variable {calls others : List (AudioFrame × Reply)}

/-- Calls that succeed do so with any data of the same size. -/
theorem run_sameSize (same : List.Forall₂ SameSize calls others)
    (run : Run (Takes (next toUs)) s calls t) {u : Sending} (alike : u.encoder = s.encoder) :
    ∃ v, Run (Takes (next toUs)) u others v := by
  induction same generalizing s u with
  | nil => exact ⟨u, .refl u⟩
  | cons one _ ih =>
    cases run with
    | next head tail =>
      obtain ⟨v, taken, alike⟩ := next_sameSize one head alike
      obtain ⟨w, rest⟩ := ih tail alike
      exact ⟨w, .next taken rest⟩

theorem given_eq (run : Run (Takes (next toUs)) { encoder := e } calls t) :
    t.given = calls.map Prod.fst := by
  refine run.history (P := fun calls s => s.given = calls.map Prod.fst) ?_ rfl
  intro calls s call t given step
  obtain ⟨out, ok, whole, rfl⟩ := next_some step
  rw [given, List.map_append, List.map_singleton]

/-- Whether frames fit depends on their sizes. -/
theorem fits_all_iff (same : List.Forall₂ SameSize calls others) :
    (∀ call ∈ others, Fits config nbSamples call.1) ↔
      ∀ call ∈ calls, Fits config nbSamples call.1 := by
  induction same with
  | nil => exact Iff.rfl
  | cons one _ ih =>
    rw [List.forall_mem_cons, List.forall_mem_cons, ih, Fits, Fits, samples, samples, one.2.1]

end Steps

theorem frameSamples_pos (reply : FFmpegAudioReply) : 0 < frameSamples reply := by
  rw [frameSamples]
  split <;> omega

/-- From any `Init` that succeeds, what is sent keeps the samples given, whatever they
are, just when each frame fits into one of the codec. -/
theorem samples_kept_iff {e : FFmpegAudioEncoder} {reply : FFmpegAudioReply}
    (initialised : (e.init reply).1 = .kOk) {toUs : Int → Int}
    {calls : List (AudioFrame × Reply)} {t : Sending}
    (run : Run (Takes (next toUs)) { encoder := (e.init reply).2 } calls t) :
    (∀ (others : List (AudioFrame × Reply)) (u : Sending), List.Forall₂ SameSize calls others →
      Run (Takes (next toUs)) { encoder := (e.init reply).2 } others u → Kept u) ↔
        ∀ call ∈ calls, Fits e.config (frameSamples reply) call.1 := by
  have positive := (init_ok initialised).1
  constructor
  · intro always
    have same : List.Forall₂ SameSize calls (calls.map fun call =>
        ({ call.1 with data := loud call.1.data.length }, call.2)) := by
      rw [List.forall₂_map_right_iff, List.forall₂_same]
      exact fun call _ => ⟨rfl, List.length_replicate, rfl⟩
    obtain ⟨u, noise⟩ := run_sameSize same run rfl
    rw [← fits_all_iff same]
    intro call among
    have given : call.1 ∈ u.given := by
      rw [given_eq noise]
      exact List.mem_map_of_mem among
    refine (inv_of_run initialised noise).fits_of_kept positive ?_ (always _ u same noise) _ given
    intro frame among
    rw [given_eq noise, List.map_map] at among
    obtain ⟨call, -, rfl⟩ := List.mem_map.mp among
    exact (congrArg loud List.length_replicate).symm
  · intro fits others u same run
    apply (inv_of_run initialised run).kept_of_fits positive (frameSamples_pos reply)
    intro frame among
    rw [given_eq run] at among
    obtain ⟨call, member, rfl⟩ := List.mem_map.mp among
    exact (fits_all_iff same).mpr fits call member

/-- A sample of stereo in a frame of two. -/
theorem samples_kept_short : ∃ calls t,
    Run (Takes (next id)) { encoder := (init { config := {} } { frameSize := 2 }).2 } calls t ∧
      ∀ (others : List (AudioFrame × Reply)) (u : Sending), List.Forall₂ SameSize calls others →
        Run (Takes (next id)) { encoder := (init { config := {} } { frameSize := 2 }).2 } others u →
          Kept u := by
  let calls : List (AudioFrame × Reply) := [({ data := [1, 2, 3, 4] }, {})]
  refine ⟨calls, _, .single rfl, ?_⟩
  exact (@samples_kept_iff { config := {} } { frameSize := 2 } rfl id calls _
    (.single rfl)).mpr (by decide)

/-- Of two samples that a frame of one is given, the second is lost. -/
theorem samples_lost :
    ¬ ∀ (e : FFmpegAudioEncoder) (reply : FFmpegAudioReply) (toUs : Int → Int)
      (calls : List (AudioFrame × Reply)) (t : Sending), (e.init reply).1 = .kOk →
        Run (Takes (next toUs)) { encoder := (e.init reply).2 } calls t → Kept t := by
  intro always
  have kept := always { config := {} } { frameSize := 1 } id
    [({ data := [1, 0, 2, 0, 3, 0, 4, 0] }, {})] _ rfl (.single rfl)
  exact absurd (kept.padded 0 (by decide)).length_le (by decide)

end FFmpegAudioEncoder

end VideoCodec
