import VideoCodec.Mux.Replay
import VideoCodec.Transition.Run

/-! The parameter sets that `MediaCodecMuxer` captures from keyframes until the video track
is there, over whole runs of calls in which captures and tracks fail. -/
namespace VideoCodec

open Transition

namespace MediaCodecMuxer

/-- A unit with an H.264 type. -/
def isNal (type : UInt8) : List UInt8 → Bool
  | [] => false
  | head :: _ => head &&& 0x1F = type

def isSps : List UInt8 → Bool := isNal 7

def isPps : List UInt8 → Bool := isNal 8

/-- The NAL units of a packet. -/
def units (pkt : VideoPacket) : List (List UInt8) := (Android.splitAnnexB pkt.data).2

/-- The first of several units with a property is kept. -/
def keepFirst (p : List UInt8 → Bool) (kept unit : List UInt8) : List UInt8 :=
  if p unit ∧ kept = [] then unit else kept

/-- A push of this packet gets as far as `CaptureVideoCsd`. -/
def captures (m : MediaCodecMuxer) (pkt : VideoPacket) (ensure : EnsureReply) : Bool :=
  pkt.data ≠ [] && m.sink.isSome && (m.ensureMuxer ensure).1 = .kOk && m.videoTrack < 0 &&
    pkt.keyframe

def Step (m : MediaCodecMuxer) (c : Call) (n : MediaCodecMuxer) : Prop := n = (m.call c).2

/-- A push whose capture fails leaves the parameter sets alone, and those of a track that is
added are units of the packet that adds it. -/
structure Captured (m : MediaCodecMuxer) (c : Call) (n : MediaCodecMuxer) : Prop where
  kept : ∀ pkt reply, c = .pushVideo pkt reply → m.captures pkt reply.ensure = true →
    ((m.ensureMuxer reply.ensure).2.captureVideoCsd pkt).1 ≠ .kOk →
      n.sps = m.sps ∧ n.pps = m.pps
  own : ∀ pkt reply, c = .pushVideo pkt reply → m.videoTrack < 0 → 0 ≤ n.videoTrack →
    n.sps ∈ units pkt ∧ n.pps ∈ units pkt

/-- A keyframe that is captured has both kinds of parameter set or none; where sets are
there already, of a keyframe whose track failed, it has them itself or adds no track. -/
def Consistent (m : MediaCodecMuxer) : Call → Prop
  | .pushVideo pkt reply => m.captures pkt reply.ensure = true →
      if m.sps = [] ∧ m.pps = [] then (units pkt).any isSps = (units pkt).any isPps
      else units pkt ≠ [] → 0 ≤ reply.track → m.sps ∈ units pkt ∧ m.pps ∈ units pkt
  | _ => True

/-- Both parameter sets are there, or none. -/
def Paired (m : MediaCodecMuxer) : Prop := m.sps = [] ↔ m.pps = []

/-- What most calls leave alone. -/
structure SameSets (m n : MediaCodecMuxer) : Prop where
  sps : n.sps = m.sps
  pps : n.pps = m.pps
  videoTrack : n.videoTrack = m.videoTrack

section Capture
variable {m n : MediaCodecMuxer} {p : List UInt8 → Bool} {kept unit : List UInt8}
  {us : List (List UInt8)} {pkt : VideoPacket}

theorem ne_nil_of_isNal {type : UInt8} (is : isNal type unit = true) : unit ≠ [] := by
  rintro rfl
  cases is

theorem isSps_ne_nil (unit : List UInt8) : isSps unit = true → unit ≠ [] := ne_nil_of_isNal

theorem isPps_ne_nil (unit : List UInt8) : isPps unit = true → unit ≠ [] := ne_nil_of_isNal

theorem foldl_keepFirst (nonempty : ∀ unit, p unit = true → unit ≠ []) :
    us.foldl (keepFirst p) kept = if kept = [] then (us.find? p).getD [] else kept := by
  induction us generalizing kept with
  | nil =>
    split
    · rename_i empty
      exact empty
    · rfl
  | cons unit us ih =>
    rw [List.foldl_cons, ih]
    by_cases empty : kept = []
    · cases is : p unit with
      | true =>
        have first : keepFirst p kept unit = unit := if_pos ⟨is, empty⟩
        rw [first, if_neg (nonempty unit is), if_pos empty, List.find?_cons, is]
        rfl
      | false =>
        have same : keepFirst p kept unit = kept :=
          if_neg fun both => Bool.noConfusion (is.symm.trans both.1)
        rw [same, if_pos empty, if_pos empty, List.find?_cons, is]
    · have same : keepFirst p kept unit = kept := if_neg fun both => empty both.2
      rw [same, if_neg empty, if_neg empty]

theorem capture_sets (m : MediaCodecMuxer) (unit : List UInt8) :
    (m.capture unit).sps = keepFirst isSps m.sps unit ∧
      (m.capture unit).pps = keepFirst isPps m.pps unit := by
  cases unit with
  | nil => exact ⟨rfl, rfl⟩
  | cons head rest =>
    simp only [capture, keepFirst, isSps, isPps, isNal, decide_eq_true_eq]
    split
    · split <;> exact ⟨rfl, rfl⟩
    · split <;> exact ⟨rfl, rfl⟩

theorem captureAll_sets (m : MediaCodecMuxer) (us : List (List UInt8)) :
    (us.foldl capture m).sps = us.foldl (keepFirst isSps) m.sps ∧
      (us.foldl capture m).pps = us.foldl (keepFirst isPps) m.pps := by
  induction us generalizing m with
  | nil => exact ⟨rfl, rfl⟩
  | cons unit us ih =>
    obtain ⟨sps, pps⟩ := m.capture_sets unit
    rw [List.foldl_cons, List.foldl_cons, List.foldl_cons, ← sps, ← pps]
    exact ih _

theorem split_found (data : List UInt8) :
    (Android.splitAnnexB data).1 = !(Android.splitAnnexB data).2.isEmpty := by
  rw [Android.splitAnnexB]
  split <;> rfl

theorem captureVideoCsd_sets (m : MediaCodecMuxer) (pkt : VideoPacket) :
    (m.captureVideoCsd pkt).2.sps = (units pkt).foldl (keepFirst isSps) m.sps ∧
      (m.captureVideoCsd pkt).2.pps = (units pkt).foldl (keepFirst isPps) m.pps ∧
      ((m.captureVideoCsd pkt).1 = .kOk ↔ units pkt ≠ [] ∧
        (m.captureVideoCsd pkt).2.sps ≠ [] ∧ (m.captureVideoCsd pkt).2.pps ≠ []) := by
  have found := split_found pkt.data
  rw [captureVideoCsd, ← units]
  rw [← units] at found
  dsimp only
  by_cases none : units pkt = []
  · rw [found, none]
    exact ⟨rfl, rfl, iff_of_false (fun ok => by cases ok) fun some => some.1 rfl⟩
  · have some : (Android.splitAnnexB pkt.data).1 = true := by
      rw [found, List.isEmpty_eq_false_iff.mpr none]
      rfl
    rw [some, Bool.not_true, if_neg Bool.false_ne_true]
    obtain ⟨sps, pps⟩ := m.captureAll_sets (units pkt)
    refine ⟨sps, pps, ?_⟩
    dsimp only
    split
    · rename_i missing
      exact iff_of_false (fun ok => by cases ok) fun both => missing.elim both.2.1 both.2.2
    · rename_i both
      exact iff_of_true rfl ⟨none, fun empty => both (.inl empty), fun empty => both (.inr empty)⟩

theorem found_eq_nil_iff (nonempty : ∀ unit, p unit = true → unit ≠ []) :
    (us.find? p).getD [] = [] ↔ us.any p = false := by
  cases found : us.find? p with
  | none =>
    rw [List.find?_eq_none] at found
    refine iff_of_true rfl (List.any_eq_false.mpr found)
  | some unit =>
    have is := List.find?_some found
    refine iff_of_false (nonempty unit is) fun none => ?_
    exact List.any_eq_false.mp none unit (List.mem_of_find?_eq_some found) is

theorem found_mem (nonempty : (us.find? p).getD [] ≠ []) : (us.find? p).getD [] ∈ us := by
  cases found : us.find? p with
  | none =>
    rw [found] at nonempty
    exact absurd rfl nonempty
  | some unit => exact List.mem_of_find?_eq_some found

end Capture

section Pushes
variable {m n : MediaCodecMuxer} {pkt : VideoPacket} {reply : MediaReply} {c : Call}

/-- The parameter sets behind a capture. -/
def capturedSps (m : MediaCodecMuxer) (pkt : VideoPacket) : List UInt8 :=
  (units pkt).foldl (keepFirst isSps) m.sps

def capturedPps (m : MediaCodecMuxer) (pkt : VideoPacket) : List UInt8 :=
  (units pkt).foldl (keepFirst isPps) m.pps

def Complete (m : MediaCodecMuxer) (pkt : VideoPacket) : Prop :=
  units pkt ≠ [] ∧ m.capturedSps pkt ≠ [] ∧ m.capturedPps pkt ≠ []

/-- What a push of video does to the parameter sets and the track. -/
inductive VideoPushed (m : MediaCodecMuxer) (pkt : VideoPacket) (reply : MediaReply)
    (n : MediaCodecMuxer) : Prop where
  | away (idle : m.captures pkt reply.ensure = false) (same : SameSets m n)
  | missed (capturing : m.captures pkt reply.ensure = true) (incomplete : ¬ m.Complete pkt)
      (sps : n.sps = m.capturedSps pkt) (pps : n.pps = m.capturedPps pkt)
      (videoTrack : n.videoTrack = m.videoTrack)
  | tracked (capturing : m.captures pkt reply.ensure = true) (complete : m.Complete pkt)
      (sps : n.sps = m.capturedSps pkt) (pps : n.pps = m.capturedPps pkt)
      (videoTrack : n.videoTrack = reply.track)

theorem SameSets.refl (m : MediaCodecMuxer) : SameSets m m := ⟨rfl, rfl, rfl⟩

theorem ensureMuxer_sets (m : MediaCodecMuxer) (reply : EnsureReply) :
    SameSets m (m.ensureMuxer reply).2 := by
  obtain ⟨muxer, tmp, files, same⟩ := m.ensureMuxer_frame reply
  rw [same]
  exact ⟨rfl, rfl, rfl⟩

theorem writeSample_sets (m : MediaCodecMuxer) (sample : PendingSample) (reply : SampleReply) :
    SameSets m (m.writeSample sample reply).2 := by
  obtain ⟨started, pending, inFlight, written, same⟩ := m.writeSample_frame sample reply
  rw [same]
  exact ⟨rfl, rfl, rfl⟩

/-- The capture behind `EnsureMuxer`. -/
theorem ensured_capture (m : MediaCodecMuxer) (pkt : VideoPacket) (reply : EnsureReply) :
    ((m.ensureMuxer reply).2.captureVideoCsd pkt).2.sps = m.capturedSps pkt ∧
      ((m.ensureMuxer reply).2.captureVideoCsd pkt).2.pps = m.capturedPps pkt ∧
      (((m.ensureMuxer reply).2.captureVideoCsd pkt).1 = .kOk ↔ m.Complete pkt) := by
  obtain ⟨sps, pps, ok⟩ := (m.ensureMuxer reply).2.captureVideoCsd_sets pkt
  have ensured := m.ensureMuxer_sets reply
  rw [sps, pps, ensured.sps, ensured.pps] at ok
  rw [sps, pps, ensured.sps, ensured.pps]
  exact ⟨rfl, rfl, ok⟩

theorem SameSets.trans {k : MediaCodecMuxer} (first : SameSets m n) (second : SameSets n k) :
    SameSets m k where
  sps := second.sps.trans first.sps
  pps := second.pps.trans first.pps
  videoTrack := second.videoTrack.trans first.videoTrack

/-- What a push does to the parameter sets once the muxer is open: it goes on from `n`, or
it ends there. -/
theorem readyVideo_pushes (opened : m.captures pkt reply.ensure = (decide (m.videoTrack < 0) &&
      pkt.keyframe)) :
    VideoPushed m pkt reply
      ((m.ensureMuxer reply.ensure).2.readyVideo pkt reply.track).2 := by
  have ensured := m.ensureMuxer_sets reply.ensure
  obtain ⟨sps, pps, ok⟩ := m.ensured_capture pkt reply.ensure
  obtain ⟨_, _, framed⟩ := (m.ensureMuxer reply.ensure).2.captureVideoCsd_frame pkt
  have track : ((m.ensureMuxer reply.ensure).2.captureVideoCsd pkt).2.videoTrack =
      m.videoTrack := by
    rw [framed]
    exact ensured.videoTrack
  rw [readyVideo, ensured.videoTrack]
  by_cases present : 0 ≤ m.videoTrack
  · rw [if_pos present]
    exact .away (by rw [opened, decide_eq_false (Int.not_lt.mpr present), Bool.false_and]) ensured
  · rw [decide_eq_true (Int.not_le.mp present), Bool.true_and] at opened
    rw [if_neg present]
    cases key : pkt.keyframe with
    | false => exact .away (opened.trans key) ensured
    | true =>
      rw [key] at opened
      rw [Bool.not_true, if_neg Bool.false_ne_true]
      dsimp only
      by_cases captured : ((m.ensureMuxer reply.ensure).2.captureVideoCsd pkt).1 = .kOk
      · rw [if_neg (not_not_intro captured)]
        exact .tracked opened (ok.mp captured) sps pps rfl
      · rw [if_pos captured]
        exact .missed opened (fun complete => captured (ok.mpr complete)) sps pps track

theorem VideoPushed.then {k : MediaCodecMuxer} (pushed : VideoPushed m pkt reply n)
    (same : SameSets n k) : VideoPushed m pkt reply k := by
  cases pushed with
  | away idle before => exact .away idle (before.trans same)
  | missed capturing incomplete sps pps track =>
    exact .missed capturing incomplete (same.sps.trans sps) (same.pps.trans pps)
      (same.videoTrack.trans track)
  | tracked capturing complete sps pps track =>
    exact .tracked capturing complete (same.sps.trans sps) (same.pps.trans pps)
      (same.videoTrack.trans track)

theorem pushVideo_pushes (m : MediaCodecMuxer) (pkt : VideoPacket) (reply : MediaReply) :
    VideoPushed m pkt reply (m.pushVideo pkt reply).2 := by
  rw [pushVideo]
  by_cases empty : pkt.data = []
  · rw [if_pos empty]
    exact .away (by simp [captures, empty]) (.refl m)
  rw [if_neg empty]
  cases attached : m.sink.isSome with
  | false =>
    rw [Option.isSome_eq_false_iff.mp attached]
    exact .away (by simp [captures, attached]) (.refl m)
  | true =>
    rw [Option.isNone_eq_false_iff.mpr attached, if_neg Bool.false_ne_true]
    dsimp only
    by_cases opened : (m.ensureMuxer reply.ensure).1 = .kOk
    · rw [if_neg (not_not_intro opened)]
      have ready : VideoPushed m pkt reply _ :=
        readyVideo_pushes (by simp [captures, empty, attached, opened])
      split
      · rename_i result
        rwa [result] at ready
      · rename_i result
        rw [result] at ready
        exact ready.then (writeSample_sets ..)
    · rw [if_pos opened]
      exact .away (by simp [captures, opened]) (m.ensureMuxer_sets _)

theorem AudioReady.sets {result : Option Status × MediaCodecMuxer} (ready : AudioReady m result) :
    SameSets m result.2 := by
  cases ready with
  | there | failed | added => exact ⟨rfl, rfl, rfl⟩

theorem pushAudio_sets (m : MediaCodecMuxer) (pkt : AudioPacket) (reply : MediaReply) :
    SameSets m (m.pushAudio pkt reply).2 := by
  have ensured := m.ensureMuxer_sets reply.ensure
  have ready := (readyAudio_ready (m.ensureMuxer reply.ensure).2 pkt reply.track).sets
  rw [pushAudio]
  dsimp only
  split
  · exact .refl m
  · split
    · exact .refl m
    · split
      · exact .refl m
      · split
        · exact ensured
        · split
          · rename_i result
            rw [result] at ready
            exact ensured.trans ready
          · rename_i result
            rw [result] at ready
            exact ensured.trans (ready.trans (writeSample_sets ..))

/-- No other call touches the parameter sets of the video track. -/
theorem call_sets (m : MediaCodecMuxer) (other : ∀ pkt reply, c ≠ .pushVideo pkt reply) :
    SameSets m (m.call c).2 := by
  cases c with
  | pushVideo pkt reply => exact absurd rfl (other pkt reply)
  | setOutput sink => exact ⟨rfl, rfl, rfl⟩
  | flush => exact .refl m
  | pushAudio pkt reply => exact m.pushAudio_sets pkt reply
  | finish reply =>
    rw [call, finish]
    split
    · exact .refl m
    · obtain ⟨inFlight, requests, same⟩ := m.finalize_frame reply
      dsimp only
      rw [same]
      exact ⟨rfl, rfl, rfl⟩
  | release reply =>
    rw [call, release]
    cases finished : m.finished with
    | true => exact ⟨rfl, rfl, rfl⟩
    | false =>
      obtain ⟨inFlight, requests, same⟩ := m.finalize_frame reply
      rw [same]
      exact ⟨rfl, rfl, rfl⟩

/-- The sets behind a capture, where none is there before. -/
theorem captured_first (absent : m.sps = [] ∧ m.pps = []) (pkt : VideoPacket) :
    m.capturedSps pkt = ((units pkt).find? isSps).getD [] ∧
      m.capturedPps pkt = ((units pkt).find? isPps).getD [] := by
  rw [capturedSps, capturedPps, foldl_keepFirst isSps_ne_nil,
    foldl_keepFirst isPps_ne_nil, if_pos absent.1, if_pos absent.2]
  exact ⟨rfl, rfl⟩

/-- Sets that are there stay. -/
theorem captured_again (present : m.sps ≠ [] ∧ m.pps ≠ []) (pkt : VideoPacket) :
    m.capturedSps pkt = m.sps ∧ m.capturedPps pkt = m.pps := by
  rw [capturedSps, capturedPps, foldl_keepFirst isSps_ne_nil,
    foldl_keepFirst isPps_ne_nil, if_neg present.1, if_neg present.2]
  exact ⟨rfl, rfl⟩

theorem Paired.present (paired : m.Paired) (captured : ¬ (m.sps = [] ∧ m.pps = [])) :
    m.sps ≠ [] ∧ m.pps ≠ [] :=
  ⟨fun sps => captured ⟨sps, paired.mp sps⟩, fun pps => captured ⟨paired.mpr pps, pps⟩⟩

/-- A capture that fails keeps the sets exactly when the keyframe is consistent. -/
theorem Paired.missed_iff (paired : m.Paired) (capturing : m.captures pkt reply.ensure = true)
    (incomplete : ¬ m.Complete pkt) :
    m.capturedSps pkt = m.sps ∧ m.capturedPps pkt = m.pps ↔
      m.Consistent (.pushVideo pkt reply) := by
  rw [Consistent, forall_prop_of_true capturing]
  by_cases absent : m.sps = [] ∧ m.pps = []
  · obtain ⟨sps, pps⟩ := captured_first absent pkt
    rw [if_pos absent, sps, pps, absent.1, absent.2,
      found_eq_nil_iff isSps_ne_nil, found_eq_nil_iff isPps_ne_nil]
    constructor
    · rintro ⟨none, none'⟩
      exact none.trans none'.symm
    · intro same
      cases found : (units pkt).any isSps with
      | false => exact ⟨rfl, same.symm.trans found⟩
      | true =>
        have found' := same.symm.trans found
        refine absurd ⟨?_, ?_, ?_⟩ incomplete
        · intro none
          rw [none] at found
          cases found
        · rw [sps, Ne, found_eq_nil_iff isSps_ne_nil, found]
          exact Bool.noConfusion
        · rw [pps, Ne, found_eq_nil_iff isPps_ne_nil, found']
          exact Bool.noConfusion
  · obtain ⟨sps, pps⟩ := captured_again (paired.present absent) pkt
    rw [if_neg absent]
    refine iff_of_true ⟨sps, pps⟩ fun some => absurd ⟨some, ?_, ?_⟩ incomplete
    · rw [sps]
      exact (paired.present absent).1
    · rw [pps]
      exact (paired.present absent).2

/-- A track that is added has the sets of its keyframe exactly when that is consistent. -/
theorem Paired.tracked_iff (paired : m.Paired) (capturing : m.captures pkt reply.ensure = true)
    (complete : m.Complete pkt) :
    (0 ≤ reply.track → m.capturedSps pkt ∈ units pkt ∧ m.capturedPps pkt ∈ units pkt) ↔
      m.Consistent (.pushVideo pkt reply) := by
  obtain ⟨some, someSps, somePps⟩ := complete
  rw [Consistent, forall_prop_of_true capturing]
  by_cases absent : m.sps = [] ∧ m.pps = []
  · obtain ⟨sps, pps⟩ := captured_first absent pkt
    rw [sps] at someSps
    rw [pps] at somePps
    rw [if_pos absent, sps, pps]
    have both := (found_eq_nil_iff isSps_ne_nil).not.mp someSps
    have both' := (found_eq_nil_iff isPps_ne_nil).not.mp somePps
    rw [Bool.not_eq_false] at both both'
    exact iff_of_true (fun _ => ⟨found_mem someSps, found_mem somePps⟩) (both.trans both'.symm)
  · obtain ⟨sps, pps⟩ := captured_again (paired.present absent) pkt
    rw [if_neg absent, sps, pps]
    exact ⟨fun own _ => own, fun own => own some⟩

theorem Paired.captured_iff (paired : m.Paired) (step : Step m c n) :
    Captured m c n ↔ m.Consistent c := by
  obtain rfl := step
  cases c with
  | pushVideo pkt reply =>
    cases m.pushVideo_pushes pkt reply with
    | away idle same =>
      refine iff_of_true ⟨?_, ?_⟩ fun capturing => ?_
      · rintro _ _ ⟨⟩ capturing
        exact absurd (idle.symm.trans capturing) Bool.false_ne_true
      · rintro _ _ ⟨⟩ absent present
        exact absurd (same.videoTrack ▸ present) (Int.not_le.mpr absent)
      · exact absurd (idle.symm.trans capturing) Bool.false_ne_true
    | missed capturing incomplete sps pps track =>
      have failed : ((m.ensureMuxer reply.ensure).2.captureVideoCsd pkt).1 ≠ .kOk :=
        fun ok => incomplete ((m.ensured_capture pkt reply.ensure).2.2.mp ok)
      rw [← paired.missed_iff capturing incomplete, ← sps, ← pps]
      constructor
      · exact fun captured => captured.kept pkt reply rfl capturing failed
      · intro same
        refine ⟨?_, ?_⟩
        · rintro _ _ ⟨⟩ - -
          exact same
        · rintro _ _ ⟨⟩ absent present
          exact absurd (track ▸ present) (Int.not_le.mpr absent)
    | tracked capturing complete sps pps track =>
      have ok := (m.ensured_capture pkt reply.ensure).2.2.mpr complete
      have absent : m.videoTrack < 0 := by
        simp only [captures, Bool.and_eq_true, decide_eq_true_eq] at capturing
        exact capturing.1.2
      rw [← paired.tracked_iff capturing complete, ← sps, ← pps, ← track]
      constructor
      · exact fun captured => captured.own pkt reply rfl absent
      · intro own
        refine ⟨?_, ?_⟩
        · rintro _ _ ⟨⟩ - failed
          exact absurd ok failed
        · rintro _ _ ⟨⟩ -
          exact own
  | setOutput | pushAudio | flush | finish | release =>
    exact iff_of_true ⟨by rintro _ _ ⟨⟩, by rintro _ _ ⟨⟩⟩ trivial

theorem Paired.next (paired : m.Paired) (consistent : m.Consistent c) (step : Step m c n) :
    n.Paired := by
  obtain rfl := step
  have kept : SameSets m (m.call c).2 → (m.call c).2.Paired := by
    intro same
    rw [Paired, same.sps, same.pps]
    exact paired
  cases c with
  | pushVideo pkt reply =>
    cases m.pushVideo_pushes pkt reply with
    | away idle same => exact kept same
    | missed capturing incomplete sps pps track =>
      obtain ⟨sps', pps'⟩ := (paired.missed_iff capturing incomplete).mpr consistent
      exact kept ⟨sps.trans sps', pps.trans pps', track⟩
    | tracked capturing complete sps pps track =>
      exact iff_of_false (fun none => complete.2.1 (sps.symm.trans none))
        fun none => complete.2.2 (pps.symm.trans none)
  | setOutput | pushAudio | flush | finish | release =>
    exact kept (m.call_sets (by rintro _ _ ⟨⟩))

/-- In a whole run failed captures keep the parameter sets, and the video track gets those
of the keyframe that adds it, exactly when every keyframe that is captured is consistent. -/
theorem captured_iff_consistent (config : MuxerConfig) (calls : List Call)
    (n : MediaCodecMuxer) :
    Run (Marked Step Captured) { config } calls n ↔
      Run (Guarded Step Consistent) { config } calls n :=
  Run.marked_iff_guarded Paired.next Paired.captured_iff Iff.rfl

/-- A keyframe with an SPS only, and one with both sets: the track gets one of each. -/
theorem sets_of_two_keyframes :
    let first : VideoPacket := ⟨[0, 0, 0, 1, 0x67, 1], 0, true⟩
    let second : VideoPacket := ⟨[0, 0, 0, 1, 0x67, 2, 0, 0, 0, 1, 0x68, 3], 1, true⟩
    let calls := [.setOutput (some 0), .pushVideo first {}, .pushVideo second {}]
    ∃ n, Run Step { config := { width := 2, height := 2 } } calls n ∧
      n.tracks = [.avc 2 2 30 (csd [0x67, 1]) (csd [0x68, 3])] ∧
      [0x67, 1] ∉ units second ∧
      ¬ Run (Marked Step Captured) { config := { width := 2, height := 2 } } calls n := by
  intro first second calls
  refine ⟨_, .next rfl (.next rfl (.single rfl)), by decide, by decide, fun run => ?_⟩
  dsimp only [calls] at run
  obtain _ | ⟨attached, _ | ⟨pushed, -⟩⟩ := run
  obtain rfl := attached.1
  obtain rfl := pushed.1
  have kept := (pushed.2.kept first {} rfl (by decide) (by decide)).1
  exact absurd kept (by decide)

end Pushes
end MediaCodecMuxer
end VideoCodec
