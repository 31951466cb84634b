import VideoCodec.Encode.MediaCodec
import VideoCodec.Transition.Run

/-! The data of the packets that the MediaCodec video encoder makes, over runs of the
rounds of `Drain` with the calls between them: keyframes with the parameter sets of the
codec, and every other payload as it is. -/
namespace VideoCodec

open Transition MediaCodec Android

/-- The type of a NAL unit, in the first byte of its header. -/
def nalType : VideoCodecType → UInt8 → UInt8
  | .kH264, head => head &&& 0x1F
  | .kHEVC, head => (head >>> 1) &&& 0x3F

def spsType : VideoCodecType → UInt8
  | .kH264 => 7
  | .kHEVC => 33

/-- SPS and PPS; with HEVC also the VPS. -/
def parameterSetTypes : VideoCodecType → List UInt8
  | .kH264 => [7, 8]
  | .kHEVC => [32, 33, 34]

def hasType (codec : VideoCodecType) (types : List UInt8) : List UInt8 → Bool
  | [] => false
  | head :: _ => nalType codec head ∈ types

def parameterSets (codec : VideoCodecType) (config : List UInt8) : List (List UInt8) :=
  (splitAnnexB config).2.filter (hasType codec (parameterSetTypes codec))

def beginsWithSps (codec : VideoCodecType) (payload : List UInt8) : Bool :=
  hasType codec [spsType codec] (payload.drop (startCodeLength payload))

/-- A keyframe behind a start code that does not bring its SPS. -/
def needsSets (codec : VideoCodecType) (keyframe : Bool) (payload : List UInt8) : Bool :=
  keyframe && startCodeLength payload ≠ 0 && !beginsWithSps codec payload

/-- A packet that `Drain` has made of a payload, with the payload of the last buffer of codec
configuration before it. -/
structure Emission where
  codec : VideoCodecType
  config : Option (List UInt8)
  keyframe : Bool
  payload : List UInt8
  data : List UInt8

/-- Unit `k` of the last buffer of codec configuration that has so many. -/
def unitAt (configs : List (List UInt8)) (k : Nat) : List UInt8 :=
  ((configs.filterMap fun config => (splitAnnexB config).2[k]?).getLast?).getD []

/-- The units of the codec configuration that `Drain` goes by: a first one and a second one,
each the last of its place. -/
def foremost (configs : List (List UInt8)) : List (List UInt8) :=
  [unitAt configs 0, unitAt configs 1].filter (· ≠ [])

/-- The payload is not touched, or put back as it was. -/
def Untouched (configs : List (List UInt8)) (keyframe : Bool) (payload : List UInt8) : Prop :=
  keyframe = true → startsWithNal payload 7 = true ∨ kStartCode <+: payload ∧ foremost configs = []

/-- What is put before a keyframe are the parameter sets, none if the first unit looks like
an SPS of H.264. -/
def Covers (configs sets : List (List UInt8)) (payload : List UInt8) : Prop :=
  sets = if startsWithNal payload 7 then [] else foremost configs

theorem unitAt_concat (configs : List (List UInt8)) (config : List UInt8) (k : Nat) :
    unitAt (configs ++ [config]) k = ((nalUnits config)[k]?).getD (unitAt configs k) := by
  rw [unitAt, unitAt, List.filterMap_append, List.getLast?_append]
  cases unit : (nalUnits config)[k]? with
  | none => simp [splitAnnexB_eq, unit]
  | some unit => simp [splitAnnexB_eq, unit]

/-- The keyframe has all parameter sets of the codec before it; other data is the payload. -/
def Emission.Sound (em : Emission) : Prop :=
  match em.config, needsSets em.codec em.keyframe em.payload with
  | some config, true =>
    (splitAnnexB em.data).2 = parameterSets em.codec config ++ (splitAnnexB em.payload).2
  | _, _ => em.data = em.payload

namespace MediaCodecVideoEncoder

/-- The captured units are units: no start code lies in them. -/
structure Clean (e : MediaCodecVideoEncoder) : Prop where
  sps : ¬ [0, 0, 1] <:+: e.sps
  pps : ¬ [0, 0, 1] <:+: e.pps

/-- What is put before a keyframe. -/
def captured (e : MediaCodecVideoEncoder) : List (List UInt8) := [e.sps, e.pps].filter (· ≠ [])

/-- The units captured are those of the codec configuration before. -/
def Captured (e : MediaCodecVideoEncoder) (configs : List (List UInt8)) : Prop :=
  e.sps = unitAt configs 0 ∧ e.pps = unitAt configs 1

section Assemble
variable {e : MediaCodecVideoEncoder} {codec : VideoCodecType} {keyframe : Bool}
  {payload : List UInt8} {configs : List (List UInt8)}

theorem Captured.eq (captured : e.Captured configs) : e.captured = foremost configs := by
  rw [MediaCodecVideoEncoder.captured, captured.1, captured.2, foremost]

/-- A buffer of codec configuration replaces the unit of each place that it has. -/
theorem Captured.capture (captured : e.Captured configs) (config : List UInt8) :
    (e.capture config).Captured (configs ++ [config]) := by
  rw [Captured, unitAt_concat, unitAt_concat, ← captured.1, ← captured.2,
    MediaCodecVideoEncoder.capture, splitAnnexB_eq]
  cases nalUnits config with
  | nil => exact ⟨rfl, rfl⟩
  | cons sps rest => cases rest <;> exact ⟨rfl, rfl⟩

theorem clean_nil : ¬ [0, 0, 1] <:+: ([] : List UInt8) :=
  fun inside => absurd (List.eq_nil_of_infix_nil inside) (List.cons_ne_nil _ _)

theorem Clean.capture (clean : e.Clean) (payload : List UInt8) : (e.capture payload).Clean := by
  rw [MediaCodecVideoEncoder.capture, splitAnnexB_eq]
  dsimp only
  have units : ∀ unit ∈ nalUnits payload, ¬ [0, 0, 1] <:+: unit :=
    fun unit member => (of_mem_nalUnits member).2
  split
  · split
    · exact clean
    · rename_i sps only
      exact ⟨units sps (only ▸ List.mem_cons_self), clean.pps⟩
    · rename_i sps pps _ both
      exact ⟨units sps (both ▸ List.mem_cons_self),
        units pps (both ▸ List.mem_cons_of_mem _ List.mem_cons_self)⟩
  · exact clean

theorem startCodeLength_cases (payload : List UInt8) :
    startCodeLength payload = 4 ∧ kStartCode <+: payload ∨ startCodeLength payload ≤ 3 := by
  rw [startCodeLength]
  split
  · exact .inl ⟨rfl, ‹_›⟩
  · right
    split <;> omega

/-- Only behind a long start code, with nothing before it, is a payload put back. -/
theorem assemble_eq_payload_iff (held : e.Captured configs) :
    e.assemble keyframe payload = payload ↔ Untouched configs keyframe payload := by
  rw [assemble, Untouched, ← held.eq]
  cases keyframe with
  | false => exact iff_of_true rfl nofun
  | true =>
  cases startsWithNal payload 7 with
  | true => exact iff_of_true rfl fun _ => .inl rfl
  | false =>
  rw [Bool.not_false, Bool.true_and, if_pos rfl, appendAnnexB_eq, ← captured]
  constructor
  · intro same _
    right
    have long : kStartCode.length = 4 := rfl
    have size := congrArg List.length same
    rw [List.length_append, List.length_append, List.length_drop, long] at size
    rcases startCodeLength_cases payload with ⟨four, front⟩ | short
    · refine ⟨front, ?_⟩
      have fits := front.length_le
      cases captured : e.captured with
      | nil => rfl
      | cons unit units =>
        rw [captured, List.map_cons, stream, List.flatMap_cons, List.length_append,
          List.length_append, StartCode.bytes] at size
        omega
    · omega
  · intro untouched
    obtain ⟨⟨rest, rfl⟩, none⟩ := (untouched rfl).resolve_left Bool.false_ne_true
    have four : startCodeLength (kStartCode ++ rest) = kStartCode.length :=
      startCodeLength_bytes .long rest
    rw [none, four, List.drop_left]
    rfl

theorem assemble_units_iff (clean : e.Clean) (held : e.Captured configs)
    (sets : List (List UInt8)) (needs : needsSets codec keyframe payload = true) :
    (splitAnnexB (e.assemble keyframe payload)).2 = sets ++ (splitAnnexB payload).2 ↔
      Covers configs sets payload := by
  simp only [needsSets, Bool.and_eq_true, decide_eq_true_eq] at needs
  obtain ⟨⟨rfl, code⟩, _⟩ := needs
  rw [splitAnnexB_eq, splitAnnexB_eq, assemble, Covers, ← held.eq, Bool.true_and]
  cases startsWithNal payload 7 with
  | true =>
    rw [if_pos rfl]
    exact eq_comm.trans List.append_left_eq_self
  | false =>
    rw [Bool.not_false, if_pos rfl, nalUnits_appendAnnexB clean.sps clean.pps code,
      List.append_cancel_right_eq, if_neg Bool.false_ne_true, captured]
    exact eq_comm

end Assemble

/-- The packet that a drain has made last. -/
def latest (d : Drained MediaCodecVideoEncoder VideoPacket) : VideoPacket :=
  if d.encoder.sink.isSome then d.pushed.getLast?.getD {} else d.out

end MediaCodecVideoEncoder

/-- A drain with the payloads of the buffers of codec configuration and the packets made so
far. -/
structure Assembling where
  drained : Drained MediaCodecVideoEncoder VideoPacket
  configs : List (List UInt8) := []
  emitted : List Emission := []

namespace Assembling

/-- A call that comes to its drain moves the state machine and sets the clock; then the drain
goes round. -/
inductive Label where
  | drain (flushing : Bool) (pts : Int)
  | round (drainEof deadline : Bool) (answer : Dequeued)
  | init (reply : MediaCodecVideoReply)
  | setOutputSink (sink : Option Nat)
  | release

def between (s : Assembling) (encoder : MediaCodecVideoEncoder) : Assembling :=
  { s with drained := { encoder, out := {} } }

/-- The payload that a round captures. -/
def configuration : Dequeued → List (List UInt8)
  | .buffer b _ => if b.configures then [b.payload] else []
  | _ => []

/-- What a round that leads to `after` has captured and emitted. -/
def observe (s : Assembling) (after : Drained MediaCodecVideoEncoder VideoPacket)
    (answer : Dequeued) : Assembling where
  drained := after
  configs := s.configs ++ configuration answer
  emitted :=
    match answer with
    | .buffer b _ =>
      if b.frame then
        s.emitted ++ [⟨s.drained.encoder.config.codec, s.configs.getLast?, b.keyframe, b.payload,
          (MediaCodecVideoEncoder.latest after).data⟩]
      else s.emitted
    | _ => s.emitted

/-- `EncoderLifecycle::Encode` or `Flush` of a call. -/
def started (e : MediaCodecVideoEncoder) (flushing : Bool) (pts : Int) : MediaCodecVideoEncoder :=
  { e with lifecycle := if flushing then e.lifecycle.flush.2 else e.lifecycle.encode.2, pts }

/-- Only a codec has output to go round over. -/
def next (s : Assembling) : Label → Option Assembling
  | .drain flushing pts => some (s.between (started s.drained.encoder flushing pts))
  | .round drainEof deadline answer =>
    let noted := { s.drained with dequeued := s.drained.dequeued ++ [answer] }
    let turned := noted.turn MediaCodecVideoEncoder.client drainEof deadline answer
    if s.drained.encoder.codec then some (s.observe turned.2 answer) else none
  | .init reply => some (s.between (s.drained.encoder.init reply).2)
  | .setOutputSink sink => some (s.between (s.drained.encoder.setOutputSink sink).2)
  | .release => some (s.between s.drained.encoder.release)

def Sound (s : Assembling) : Prop := ∀ em ∈ s.emitted, em.Sound

/-- By the codec configuration so far, what is put before the payload of a frame is what
belongs there. -/
def Assembles (s : Assembling) (b : OutputBuffer) : Prop :=
  let codec := s.drained.encoder.config.codec
  match s.configs.getLast?, needsSets codec b.keyframe b.payload with
  | some config, true => Covers s.configs (parameterSets codec config) b.payload
  | _, _ => Untouched s.configs b.keyframe b.payload

def RoundAssembles (s : Assembling) : Label → Prop
  | .round _ _ (.buffer b _) => b.frame = true → s.Assembles b
  | _ => True

section Rounds
variable {s t : Assembling} {l : Label}

/-- Until it is released an encoder holds what it has captured, and behind that no codec. -/
structure Inv (s : Assembling) : Prop where
  clean : s.drained.encoder.Clean
  captured : s.drained.encoder.lifecycle ≠ .kReleased → s.drained.encoder.Captured s.configs
  released : s.drained.encoder.lifecycle = .kReleased → s.drained.encoder.codec = false

/-- Between the rounds the captured units stay, or the encoder is released. -/
theorem Inv.between (inv : Inv s) {e : MediaCodecVideoEncoder}
    (kept : e.sps = s.drained.encoder.sps ∧ e.pps = s.drained.encoder.pps ∧
        (e.lifecycle = .kReleased ↔ s.drained.encoder.lifecycle = .kReleased) ∧
        (e.lifecycle = .kReleased → e.codec = s.drained.encoder.codec) ∨
      ∃ before : MediaCodecVideoEncoder, e = before.release) : Inv (s.between e) := by
  rcases kept with ⟨sps, pps, released, codec⟩ | ⟨before, rfl⟩
  · constructor
    · exact ⟨sps ▸ inv.clean.sps, pps ▸ inv.clean.pps⟩
    · intro alive
      obtain ⟨first, second⟩ := inv.captured fun gone => alive (released.mpr gone)
      exact ⟨sps.trans first, pps.trans second⟩
    · exact fun gone => (codec gone).trans (inv.released (released.mp gone))
  · exact ⟨⟨MediaCodecVideoEncoder.clean_nil, MediaCodecVideoEncoder.clean_nil⟩,
      fun alive => absurd rfl alive, fun _ => rfl⟩

theorem Inv.init (inv : Inv s) (reply : MediaCodecVideoReply) :
    Inv (s.between (s.drained.encoder.init reply).2) := by
  apply inv.between
  rw [MediaCodecVideoEncoder.init]
  split
  · exact .inl ⟨rfl, rfl, .rfl, fun _ => rfl⟩
  rename_i can
  rw [Bool.not_eq_true', Bool.not_eq_false] at can
  have alive := EncoderLifecycle.ne_released_of_canInit can
  split
  · exact .inl ⟨rfl, rfl, .rfl, fun _ => rfl⟩
  split
  · exact .inl ⟨rfl, rfl, .rfl, fun gone => absurd gone alive⟩
  dsimp only
  split
  · exact .inr ⟨_, rfl⟩
  split
  · exact .inr ⟨_, rfl⟩
  split
  · exact .inr ⟨_, rfl⟩
  split
  · exact .inr ⟨_, rfl⟩
  rw [apply_ite MediaCodecVideoEncoder.lifecycle, ite_self, EncoderLifecycle.init_of_canInit can]
  left
  cases s.drained.encoder.surfaceMode with
  | false | true => exact ⟨rfl, rfl, iff_of_false nofun alive, nofun⟩

theorem Inv.start (inv : Inv s) (flushing : Bool) (pts : Int) :
    Inv (s.between (started s.drained.encoder flushing pts)) := by
  refine inv.between (.inl ⟨rfl, rfl, ?_, fun _ => rfl⟩)
  rw [started]
  cases flushing with
  | true =>
    rcases s.drained.encoder.lifecycle.flush_cases with begins | refused
    · cases lifecycle : s.drained.encoder.lifecycle <;> simp_all [EncoderLifecycle.flush]
    · rw [if_pos rfl, refused]
  | false =>
    rcases s.drained.encoder.lifecycle.encode_cases with begins | refused
    · cases lifecycle : s.drained.encoder.lifecycle <;> simp_all [EncoderLifecycle.encode]
    · rw [if_neg Bool.false_ne_true, refused]

/-- The packet of a frame is the assembled payload; the frame changes no more. -/
theorem turn_emits {d : Drained MediaCodecVideoEncoder VideoPacket} {b : OutputBuffer}
    (frame : b.frame = true) (drainEof deadline : Bool) (answer : Status) :
    let turned := (d.turn MediaCodecVideoEncoder.client drainEof deadline (.buffer b answer)).2
    turned.encoder = d.encoder ∧
      (MediaCodecVideoEncoder.latest turned).data = d.encoder.assemble b.keyframe b.payload := by
  have delivered : (d.deliver MediaCodecVideoEncoder.client b answer).2 =
      let pkt := (MediaCodecVideoEncoder.client.packet d.encoder b).1
      if d.encoder.sink.isSome then { d with pushed := d.pushed ++ [pkt] }
      else { d with out := pkt } :=
    apply_ite Prod.snd _ _ _
  rw [Drained.turn_frame_snd frame, delivered]
  by_cases attached : d.encoder.sink.isSome = true
  · dsimp only
    rw [if_pos attached, MediaCodecVideoEncoder.latest, if_pos attached, List.getLast?_concat]
    exact ⟨rfl, rfl⟩
  · dsimp only
    rw [if_neg attached, MediaCodecVideoEncoder.latest, if_neg attached]
    exact ⟨rfl, rfl⟩

/-- A round changes no more of the encoder than what it captures. -/
theorem turn_captures (d : Drained MediaCodecVideoEncoder VideoPacket) (drainEof deadline : Bool)
    (answer : Dequeued) :
    let turned := (d.turn MediaCodecVideoEncoder.client drainEof deadline answer).2
    configuration answer = [] ∧ turned.encoder = d.encoder ∨
      ∃ config, configuration answer = [config] ∧ turned.encoder = d.encoder.capture config := by
  cases answer with
  | tryAgain expired =>
    left
    refine ⟨rfl, ?_⟩
    rw [Drained.turn]
    split <;> rfl
  | formatChanged | buffersChanged | failed => exact .inl ⟨rfl, rfl⟩
  | buffer b answer =>
    cases configures : b.configures with
    | true =>
      right
      rw [Drained.turn_config configures]
      exact ⟨b.payload, if_pos configures, rfl⟩
    | false =>
      left
      refine ⟨if_neg (Bool.eq_false_iff.mp configures), ?_⟩
      cases frame : b.frame with
      | true => exact (turn_emits frame drainEof deadline answer).1
      | false =>
        rw [Drained.turn_other configures frame]
        split <;> rfl

theorem capture_frame (e : MediaCodecVideoEncoder) (payload : List UInt8) :
    (e.capture payload).lifecycle = e.lifecycle ∧ (e.capture payload).codec = e.codec := by
  rw [MediaCodecVideoEncoder.capture]
  dsimp only
  split
  · split <;> exact ⟨rfl, rfl⟩
  · exact ⟨rfl, rfl⟩

theorem Inv.observe (inv : Inv s) {after : Drained MediaCodecVideoEncoder VideoPacket}
    {answer : Dequeued}
    (captures : configuration answer = [] ∧ after.encoder = s.drained.encoder ∨
      ∃ config, configuration answer = [config] ∧
        after.encoder = s.drained.encoder.capture config) : Inv (s.observe after answer) := by
  have drained : (s.observe after answer).drained = after := rfl
  have configs : (s.observe after answer).configs = s.configs ++ configuration answer := rfl
  obtain ⟨nothing, same⟩ | ⟨config, one, captures⟩ := captures
  · rw [nothing, List.append_nil] at configs
    constructor
    · exact drained ▸ same ▸ inv.clean
    · rw [drained, configs, same]
      exact inv.captured
    · rw [drained, same]
      exact inv.released
  · obtain ⟨lifecycle, codec⟩ := capture_frame s.drained.encoder config
    rw [one] at configs
    constructor
    · rw [drained, captures]
      exact inv.clean.capture config
    · rw [drained, configs, captures, lifecycle]
      exact fun alive => (inv.captured alive).capture config
    · rw [drained, captures, lifecycle, codec]
      exact inv.released

theorem next_round {drainEof deadline : Bool} {answer : Dequeued}
    (step : next s (.round drainEof deadline answer) = some t) :
    s.drained.encoder.codec = true ∧
      t = s.observe (Drained.turn MediaCodecVideoEncoder.client drainEof deadline
        { s.drained with dequeued := s.drained.dequeued ++ [answer] } answer).2 answer := by
  simp only [next] at step
  split at step
  · exact ⟨‹_›, (Option.some.inj step).symm⟩
  · contradiction

theorem next_inv (inv : Inv s) (step : next s l = some t) : Inv t := by
  cases l with
  | drain flushing pts =>
    obtain rfl := Option.some.inj step
    exact inv.start flushing pts
  | setOutputSink sink =>
    obtain rfl := Option.some.inj step
    exact inv.between (.inl ⟨rfl, rfl, .rfl, fun _ => rfl⟩)
  | init reply =>
    obtain rfl := Option.some.inj step
    exact inv.init reply
  | release =>
    obtain rfl := Option.some.inj step
    exact inv.between (.inr ⟨_, rfl⟩)
  | round drainEof deadline answer =>
    obtain ⟨-, rfl⟩ := next_round step
    exact inv.observe (turn_captures _ drainEof deadline answer)

theorem emission_sound_iff (inv : Inv s) (codec : s.drained.encoder.codec = true)
    (b : OutputBuffer) :
    Emission.Sound ⟨s.drained.encoder.config.codec, s.configs.getLast?, b.keyframe, b.payload,
      s.drained.encoder.assemble b.keyframe b.payload⟩ ↔ s.Assembles b := by
  have captured := inv.captured fun gone => nomatch codec.symm.trans (inv.released gone)
  rw [Emission.Sound, Assembles]
  dsimp only
  cases s.configs.getLast? with
  | none => exact MediaCodecVideoEncoder.assemble_eq_payload_iff captured
  | some config =>
    cases needs : needsSets s.drained.encoder.config.codec b.keyframe b.payload with
    | false => exact MediaCodecVideoEncoder.assemble_eq_payload_iff captured
    | true => exact MediaCodecVideoEncoder.assemble_units_iff inv.clean captured _ needs

theorem next_sound_iff (inv : Inv s) (sound : s.Sound) (step : next s l = some t) :
    t.Sound ↔ s.RoundAssembles l := by
  cases l with
  | drain flushing pts | init reply | setOutputSink sink | release =>
    obtain rfl := Option.some.inj step
    exact iff_of_true sound trivial
  | round drainEof deadline answer =>
    obtain ⟨codec, rfl⟩ := next_round step
    cases answer with
    | tryAgain expired | formatChanged | buffersChanged | failed =>
      exact iff_of_true sound trivial
    | buffer b answer =>
      rw [observe, RoundAssembles]
      cases frame : b.frame with
      | false => exact iff_of_true sound nofun
      | true =>
        obtain ⟨_, data⟩ := turn_emits (d := { s.drained with
          dequeued := s.drained.dequeued ++ [.buffer b answer] }) frame drainEof deadline answer
        rw [if_pos rfl, data]
        have now := emission_sound_iff inv codec b
        constructor
        · exact fun all _ => now.mp (all _ (List.mem_append_right _ (List.mem_singleton_self _)))
        · intro assembles em among
          rcases List.mem_append.mp among with before | last
          · exact sound em before
          · rw [List.mem_singleton.mp last]
            exact now.mpr (assembles rfl)

end Rounds

section Calls
variable {s : Assembling} {e : MediaCodecVideoEncoder}

theorem drain_run (drainEof deadline : Bool) (answers : List Dequeued) (s : Assembling)
    (codec : s.drained.encoder.codec = true) :
    ∃ ls t, Run (Takes next) s ls t ∧ t.drained =
      (Drained.drain MediaCodecVideoEncoder.client drainEof deadline answers s.drained).2 := by
  induction answers generalizing s with
  | nil => exact ⟨[], s, .refl s, rfl⟩
  | cons answer rest ih =>
    rw [Drained.drain]
    generalize turned : Drained.turn MediaCodecVideoEncoder.client drainEof deadline
      { s.drained with dequeued := s.drained.dequeued ++ [answer] } answer = after
    have step : next s (.round drainEof deadline answer) = some (s.observe after.2 answer) := by
      rw [next, turned]
      exact if_pos codec
    obtain ⟨_ | result, after⟩ := after
    · have still : after.encoder.codec = true := by
        obtain ⟨-, same⟩ | ⟨config, -, captures⟩ := turn_captures
          { s.drained with dequeued := s.drained.dequeued ++ [answer] } drainEof deadline answer
        · rw [turned] at same
          exact same ▸ codec
        · rw [turned] at captures
          rw [captures]
          exact (capture_frame _ config).2.trans codec
      obtain ⟨ls, t, later, same⟩ := ih (s.observe after answer) still
      exact ⟨.round drainEof deadline answer :: ls, t, .next step later, same⟩
    · exact ⟨[.round drainEof deadline answer], s.observe after answer, .single step, rfl⟩

/-- A call that drains is the start of a drain and its rounds. -/
theorem draining_run (s : Assembling) (flushing : Bool) (pts : Int) (drainEof deadline : Bool)
    (answers : List Dequeued) (codec : s.drained.encoder.codec = true) :
    let call := (started s.drained.encoder flushing pts).drain drainEof deadline answers
    ∃ ls t, Run (Takes next) s ls t ∧
      t.drained.encoder = call.encoder ∧ t.drained.pushed = call.pushed := by
  obtain ⟨ls, t, run, same⟩ :=
    drain_run drainEof deadline answers (s.between (started s.drained.encoder flushing pts)) codec
  refine ⟨.drain flushing pts :: ls, t, .next rfl run, ?_, ?_⟩
  · rw [same]
    rfl
  · rw [same]
    rfl

/-- A call that is refused before its drain. -/
theorem refused_run (s : Assembling) (flushing : Bool) (st : Status) :
    let call : Call MediaCodecVideoEncoder VideoPacket :=
      .refused st (started s.drained.encoder flushing s.drained.encoder.pts)
    ∃ ls t, Run (Takes next) s ls t ∧
      t.drained.encoder = call.encoder ∧ t.drained.pushed = call.pushed :=
  ⟨[.drain flushing s.drained.encoder.pts], _, .single rfl, rfl, rfl⟩

/-- A call that is refused at once. -/
theorem untouched_run (s : Assembling) (st : Status) :
    let call : Call MediaCodecVideoEncoder VideoPacket := .refused st s.drained.encoder
    ∃ ls t, Run (Takes next) s ls t ∧
      t.drained.encoder = call.encoder ∧ t.drained.pushed = call.pushed :=
  ⟨[.setOutputSink s.drained.encoder.sink], _, .single rfl, rfl, rfl⟩

/-- `Encode`, `Flush` and `Poll` are runs of these labels, with the packets they push. -/
theorem calls_run (s : Assembling) :
    (∀ frame input answers, ∃ ls t, Run (Takes next) s ls t ∧
      t.drained.encoder = (s.drained.encoder.encode frame input answers).encoder ∧
      t.drained.pushed = (s.drained.encoder.encode frame input answers).pushed) ∧
    (∀ reply, ∃ ls t, Run (Takes next) s ls t ∧
      t.drained.encoder = (s.drained.encoder.flush reply).encoder ∧
      t.drained.pushed = (s.drained.encoder.flush reply).pushed) ∧
    ∀ answers, ∃ ls t, Run (Takes next) s ls t ∧
      t.drained.encoder = (s.drained.encoder.poll answers).2 := by
  refine ⟨?_, ?_, ?_⟩
  · intro frame input answers
    rw [MediaCodecVideoEncoder.encode]
    split
    · exact untouched_run s _
    have fails := refused_run s false .kEncodeFailed
    have drains := draining_run s false (s.drained.encoder.pts + 1000000 / s.drained.encoder.fps)
      false false answers
    rcases s.drained.encoder.lifecycle.encode_cases with begins | refused
    · simp only [started, Bool.false_eq_true, if_false, begins] at fails drains ⊢
      split
      · exact fails
      rename_i codec
      rw [Bool.not_eq_true', Bool.not_eq_false] at codec
      split
      · exact drains codec
      · exact fails
    · rw [refused]
      exact untouched_run s _
  · intro reply
    rw [MediaCodecVideoEncoder.flush]
    have fails := refused_run s true .kEncodeFailed
    have drains := draining_run s true s.drained.encoder.pts true s.drained.encoder.surfaceMode
      reply.dequeued
    rcases s.drained.encoder.lifecycle.flush_cases with begins | refused
    · simp only [started, if_true, begins] at fails drains ⊢
      split
      · exact fails
      · rename_i codec
        rw [Bool.not_eq_true', Bool.not_eq_false] at codec
        exact drains codec
    · rw [refused]
      exact untouched_run s _
  · intro answers
    rw [MediaCodecVideoEncoder.poll]
    split
    · exact ⟨[], s, .refl s, rfl⟩
    have fails := refused_run s false .kEncodeFailed
    have drains := draining_run s false s.drained.encoder.pts false false answers
    rcases s.drained.encoder.lifecycle.encode_cases with begins | refused
    · simp only [started, Bool.false_eq_true, if_false, begins] at fails drains ⊢
      split
      · obtain ⟨ls, t, run, same, -⟩ := fails
        exact ⟨ls, t, run, same⟩
      · rename_i codec
        rw [Bool.not_eq_true', Bool.not_eq_false] at codec
        obtain ⟨ls, t, run, same, -⟩ := drains codec
        refine ⟨ls, t, run, same.trans ?_⟩
        split <;> rfl
    · rw [refused]
      exact ⟨[], s, .refl s, rfl⟩

end Calls

/-- The data of all packets is as it should be just when before each payload is put what
belongs there. -/
theorem packets_sound_iff (config : VideoConfig) (ls : List Label) (t : Assembling) :
    Run (Keeping (Takes next) Sound) { drained := { encoder := { config }, out := {} } } ls t ↔
      Run (Guarded (Takes next) RoundAssembles)
        { drained := { encoder := { config }, out := {} } } ls t :=
  Run.keeping_iff_guarded (Q := Inv) next_inv next_sound_iff
    ⟨⟨MediaCodecVideoEncoder.clean_nil, MediaCodecVideoEncoder.clean_nil⟩, fun _ => ⟨rfl, rfl⟩,
      nofun⟩
    nofun

/-- The codec configures HEVC with VPS, SPS and PPS; its keyframe comes without the PPS. -/
theorem packets_unsound :
    ¬∀ (config : VideoConfig) (ls : List Label) (t : Assembling),
      Run (Takes next) { drained := { encoder := { config }, out := {} } } ls t → t.Sound := by
  intro always
  let sets : Dequeued := .buffer ⟨{ size := 18, flags := 2 },
    [0, 0, 0, 1, 0x40, 1, 0, 0, 0, 1, 0x42, 1, 0, 0, 0, 1, 0x44, 1], fun _ _ => by decide⟩
  let idr : Dequeued :=
    .buffer ⟨{ size := 6, flags := 1 }, [0, 0, 0, 1, 0x26, 1], fun _ _ => by decide⟩
  have sound := always { codec := .kHEVC, width := 2, height := 2 }
    [.setOutputSink (some 0), .init {}, .drain false 0, .round false false sets,
      .round false false idr] _
    (.next rfl (.next rfl (.next rfl (.next rfl (.single rfl)))))
  have units : (splitAnnexB [0, 0, 0, 1, 0x40, 1, 0, 0, 0, 1, 0x42, 1, 0, 0, 0, 1, 0x26, 1]).2 =
      [[0x40, 1], [0x42, 1], [0x44, 1], [0x26, 1]] :=
    sound _ (List.mem_singleton_self _)
  exact absurd units (by decide)

end Assembling

end VideoCodec
