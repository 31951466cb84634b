import Mathlib.Algebra.Group.Int.Defs
import Mathlib.Algebra.Group.Nat.Defs
import VideoCodec.Transition.Run
import VideoCodec.Webrtc.Backend

/-! The RTP timestamps that `SendVideo` gives to the packets of one session. They
come from two clocks, the timestamp of the packet and the number of packets before. -/
namespace VideoCodec

open Transition WebrtcBackend

/-- What of `rtc::RtpPacketizationConfig` the backend reads or writes. -/
structure RtpPacketizationConfig where
  startTimestamp : UInt32
  timestamp : UInt32
  deriving DecidableEq, Repr

/-- A packet that was given a timestamp; the offset is the one before the
conversion to 32 bits. -/
structure Stamp where
  ptsUs : Int
  offset : Nat
  timestamp : UInt32
  deriving DecidableEq, Repr

/-- A session between two teardowns, with the packets it has given timestamps to. -/
structure RtpSession where
  backend : WebrtcBackend
  rtp : RtpPacketizationConfig
  frameIndex : Nat := 0
  stamps : List Stamp := []

namespace RtpSession

/-- The product of the timestamp is in 64 bits; the frame index does not reach them. -/
def timestampOffset (ptsUs : Int) (frameIndex : Nat) : Nat :=
  if 0 < ptsUs then ptsUs.toNat * 90 % 2 ^ 64 / 1000 else frameIndex * 3000

def stamp (s : RtpSession) (packet : VideoPacket) : RtpSession :=
  let offset := timestampOffset packet.ptsUs s.frameIndex
  let timestamp := s.rtp.startTimestamp + UInt32.ofNat offset
  { s with
    rtp := { s.rtp with timestamp }
    frameIndex := s.frameIndex + 1
    stamps := s.stamps ++ [⟨packet.ptsUs, offset, timestamp⟩] }

/-- `SendVideo`; the packet has its timestamp before it is known whether it is sent. -/
def sendVideo (s : RtpSession) (packet : VideoPacket) (outcome : SendOutcome) :
    Status × RtpSession :=
  match s.backend.sendVideoGuard with
  | some st => (st, s)
  | none =>
    let stamped := if s.backend.rtpConfig.isSome then s.stamp packet else s
    ((s.backend.sendVideoDone outcome).1,
      { stamped with backend := (s.backend.sendVideoDone outcome).2 })

inductive Label where
  | event (gen : Nat) (event : Event)
  | sendVideo (packet : VideoPacket) (outcome : SendOutcome)

def next (s : RtpSession) : Label → Option RtpSession
  | .event gen event => some { s with backend := s.backend.handle gen event }
  | .sendVideo packet outcome => some (s.sendVideo packet outcome).2

/-- The packets that a session can be passed. -/
def Label.InRange : Label → Prop
  | .sendVideo packet _ => 0 ≤ packet.ptsUs ∧ packet.ptsUs < 2 ^ 57
  | .event .. => True

def Sending : RtpSession → Label → RtpSession → Prop := Guarded (Takes next) fun _ l => l.InRange

/-- Packets are ordered by their timestamps as they are by `pts_us`, at 90 kHz. -/
structure Ordered (s : RtpSession) : Prop where
  timestamp : ∀ x ∈ s.stamps, x.timestamp = s.rtp.startTimestamp + UInt32.ofNat x.offset
  ordered : ∀ x ∈ s.stamps, ∀ y ∈ s.stamps, x.ptsUs ≤ y.ptsUs → x.offset ≤ y.offset
  spaced : ∀ x ∈ s.stamps, ∀ y ∈ s.stamps, x.ptsUs ≤ y.ptsUs →
    (((y.offset : Int) - x.offset) * 1000 - 90 * (y.ptsUs - x.ptsUs)).natAbs ≤ 1000

/-- A packet without a timestamp of its own is given one only as the first. -/
def FirstMeets (s : RtpSession) : Label → Prop
  | .sendVideo packet _ =>
    s.backend.sendVideoGuard = none → s.backend.rtpConfig.isSome = true → packet.ptsUs = 0 →
      s.frameIndex = 0
  | .event .. => True

/-- The offset of a packet by its own timestamp. -/
def exactOffset (ptsUs : Int) : Nat := ptsUs.toNat * 90 / 1000

/-- What holds of the packets of a session, in order or not. -/
structure Stamped (s : RtpSession) : Prop where
  range : ∀ x ∈ s.stamps, 0 ≤ x.ptsUs
  timestamp : ∀ x ∈ s.stamps, x.timestamp = s.rtp.startTimestamp + UInt32.ofNat x.offset
  own : ∀ x ∈ s.stamps, 0 < x.ptsUs → x.offset = exactOffset x.ptsUs
  counted : ∀ x ∈ s.stamps, x.ptsUs = 0 → ∃ k, x.offset = k * 3000
  first : 0 < s.frameIndex → ∃ x ∈ s.stamps, x.offset = exactOffset x.ptsUs
  none_before : s.frameIndex = 0 → s.stamps = []

/-- All packets are at the offset of their own timestamp. -/
def Exact (s : RtpSession) : Prop := ∀ x ∈ s.stamps, x.offset = exactOffset x.ptsUs

section Steps
variable {s t : RtpSession} {l : Label} {packet : VideoPacket}

theorem timestampOffset_own {ptsUs : Int} (own : 0 < ptsUs) (range : ptsUs < 2 ^ 57)
    (frameIndex : Nat) : timestampOffset ptsUs frameIndex = exactOffset ptsUs := by
  have fits : ptsUs.toNat * 90 < 2 ^ 64 := by omega
  rw [timestampOffset, if_pos own, Nat.mod_eq_of_lt fits, exactOffset]

theorem timestampOffset_none (frameIndex : Nat) :
    timestampOffset 0 frameIndex = frameIndex * 3000 := rfl

theorem stamp_stamped (stamped : Stamped s) (least : 0 ≤ packet.ptsUs)
    (most : packet.ptsUs < 2 ^ 57) : Stamped (s.stamp packet) := by
  obtain ⟨range, timestamp, own, counted, first, none_before⟩ := stamped
  refine ⟨?_, ?_, ?_, ?_, fun _ => ?_, fun zero => absurd zero (Nat.succ_ne_zero _)⟩
  · exact List.forall_mem_append.mpr ⟨range, List.forall_mem_singleton.mpr least⟩
  · exact List.forall_mem_append.mpr ⟨timestamp, List.forall_mem_singleton.mpr rfl⟩
  · refine List.forall_mem_append.mpr ⟨own, List.forall_mem_singleton.mpr fun own => ?_⟩
    exact timestampOffset_own own most _
  · refine List.forall_mem_append.mpr ⟨counted, List.forall_mem_singleton.mpr fun none => ?_⟩
    refine ⟨s.frameIndex, ?_⟩
    exact (congrArg (timestampOffset · s.frameIndex) none).trans (timestampOffset_none _)
  · by_cases before : 0 < s.frameIndex
    · obtain ⟨x, member, same⟩ := first before
      exact ⟨x, List.mem_append_left _ member, same⟩
    · refine ⟨_, List.mem_append_right _ (List.mem_singleton_self _), ?_⟩
      change timestampOffset packet.ptsUs _ = exactOffset packet.ptsUs
      rcases Int.lt_or_eq_of_le least with own | none
      · exact timestampOffset_own own most _
      · rw [← none, Nat.eq_zero_of_not_pos before]
        rfl

theorem ordered_iff (stamped : Stamped s) : Ordered s ↔ Exact s := by
  constructor
  · intro held x member
    rcases Int.lt_or_eq_of_le (stamped.range x member) with own | none
    · exact stamped.own x member own
    · obtain ⟨k, counted⟩ := stamped.counted x member none.symm
      have some_before : 0 < s.frameIndex := by
        by_contra zero
        rw [stamped.none_before (Nat.eq_zero_of_not_pos zero)] at member
        cases member
      obtain ⟨y, present, exact_first⟩ := stamped.first some_before
      have le : x.ptsUs ≤ y.ptsUs := none ▸ stamped.range y present
      have before := held.ordered x member y present le
      have near := held.spaced x member y present le
      rw [exactOffset] at exact_first ⊢
      omega
  · intro exact_all
    refine ⟨stamped.timestamp, ?_, ?_⟩
    all_goals
      intro x member y present le
      have first := exact_all x member
      have second := exact_all y present
      have range := stamped.range x member
      rw [exactOffset] at first second
      omega

theorem stamp_exact_iff (held : Exact s) (least : 0 ≤ packet.ptsUs)
    (most : packet.ptsUs < 2 ^ 57) :
    Exact (s.stamp packet) ↔ (packet.ptsUs = 0 → s.frameIndex = 0) := by
  have last : Exact (s.stamp packet) ↔
      timestampOffset packet.ptsUs s.frameIndex = exactOffset packet.ptsUs := by
    constructor
    · intro exact_all
      exact exact_all _ (List.mem_append_right _ (List.mem_singleton_self _))
    · intro exact_last
      exact List.forall_mem_append.mpr ⟨held, List.forall_mem_singleton.mpr exact_last⟩
  rw [last]
  constructor
  · intro exact_last none
    rw [none, timestampOffset_none] at exact_last
    change s.frameIndex * 3000 = 0 at exact_last
    omega
  · intro first
    rcases Int.lt_or_eq_of_le least with own | none
    · exact timestampOffset_own own most _
    · rw [first none.symm, ← none]
      rfl

/-- A call of `SendVideo` stamps its packet or leaves the stamps alone. -/
theorem sendVideo_cases (s : RtpSession) (packet : VideoPacket) (outcome : SendOutcome) :
    ∃ b, (s.backend.sendVideoGuard = none ∧ s.backend.rtpConfig.isSome = true ∧
        (s.sendVideo packet outcome).2 = { s.stamp packet with backend := b }) ∨
      ((s.backend.sendVideoGuard = none → s.backend.rtpConfig.isSome = false) ∧
        (s.sendVideo packet outcome).2 = { s with backend := b }) := by
  rw [sendVideo]
  cases guarded : s.backend.sendVideoGuard with
  | some st => exact ⟨s.backend, .inr ⟨fun passes => (nomatch passes), rfl⟩⟩
  | none =>
    refine ⟨(s.backend.sendVideoDone outcome).2, ?_⟩
    cases config : s.backend.rtpConfig.isSome with
    | true => exact .inl ⟨rfl, rfl, rfl⟩
    | false => exact .inr ⟨fun _ => rfl, rfl⟩

theorem sending_stamped (stamped : Stamped s) (step : Sending s l t) : Stamped t := by
  obtain ⟨step, range⟩ := step
  cases l with
  | event gen event =>
    obtain rfl := Option.some.inj step
    exact ⟨stamped.range, stamped.timestamp, stamped.own, stamped.counted, stamped.first,
      stamped.none_before⟩
  | sendVideo packet outcome =>
    obtain rfl := Option.some.inj step
    obtain ⟨b, ⟨_, _, sent⟩ | ⟨_, sent⟩⟩ := s.sendVideo_cases packet outcome
    · rw [sent]
      have next := stamp_stamped stamped range.1 range.2
      exact ⟨next.range, next.timestamp, next.own, next.counted, next.first, next.none_before⟩
    · rw [sent]
      exact ⟨stamped.range, stamped.timestamp, stamped.own, stamped.counted, stamped.first,
        stamped.none_before⟩

theorem sending_ordered_iff (stamped : Stamped s) (held : Ordered s) (step : Sending s l t) :
    Ordered t ↔ FirstMeets s l := by
  have next := sending_stamped stamped step
  have exact_before := (ordered_iff stamped).mp held
  rw [ordered_iff next]
  obtain ⟨step, range⟩ := step
  cases l with
  | event gen event =>
    obtain rfl := Option.some.inj step
    exact iff_of_true exact_before trivial
  | sendVideo packet outcome =>
    obtain rfl := Option.some.inj step
    obtain ⟨b, ⟨passes, config, sent⟩ | ⟨stops, sent⟩⟩ := s.sendVideo_cases packet outcome
    · rw [sent]
      have last := stamp_exact_iff exact_before range.1 range.2
      exact last.trans ⟨fun first _ _ => first, fun first => first passes config⟩
    · rw [sent]
      refine iff_of_true exact_before fun passes config => ?_
      rw [stops passes] at config
      cases config

/-- The timestamps of a session follow `pts_us` in just the runs in which no packet
with `pts_us` 0 is given one behind others. -/
theorem timestamps_ordered_iff (backend : WebrtcBackend) (rtp : RtpPacketizationConfig)
    (ls : List Label) (t : RtpSession) :
    Run (Keeping Sending Ordered) { backend, rtp } ls t ↔
      Run (Guarded Sending FirstMeets) { backend, rtp } ls t := by
  have stamped : Stamped { backend, rtp } := by
    refine ⟨?_, ?_, ?_, ?_, fun before => absurd before (Nat.lt_irrefl 0), fun _ => rfl⟩
    all_goals
      intro x member
      cases member
  refine Run.keeping_iff_guarded sending_stamped sending_ordered_iff stamped ?_
  refine (ordered_iff stamped).mpr fun x member => ?_
  cases member

/-- A dummy packet at 1, then frames at 0 and 33333. -/
theorem timestamps_backwards :
    ¬∀ (backend : WebrtcBackend) (rtp : RtpPacketizationConfig) (ls : List Label) (t : RtpSession),
      Run Sending { backend, rtp } ls t → Ordered t := by
  intro always
  let connected : WebrtcBackend :=
    { config := { backendType := "webrtc", remoteUrl := "http://host/whip" }
      videoTrack := some 1, rtpConfig := some 1, sendEnabled := true, trackOpen := true }
  let send (ptsUs : Int) : Label := .sendVideo { ptsUs } .sent
  have run := always connected ⟨0, 0⟩ [send 1, send 0, send 33333] _
    (.next ⟨rfl, by decide, by decide⟩ (.next ⟨rfl, by decide, by decide⟩
      (.single ⟨rfl, by decide, by decide⟩)))
  have later := run.ordered ⟨0, 3000, 3000⟩ (by decide +kernel) ⟨33333, 2999, 2999⟩
    (by decide +kernel) (by decide)
  exact absurd later (by decide)

end Steps

end RtpSession
end VideoCodec
