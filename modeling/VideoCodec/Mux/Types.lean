import VideoCodec.Core.Types

/-! The configuration shared by the muxer backends. -/
namespace VideoCodec

inductive MuxFormat where
  | kMp4
  deriving DecidableEq, Repr

structure MuxerConfig where
  format : MuxFormat := .kMp4
  /-- Header upfront and one fragment a keyframe, so nothing is sought. -/
  fragmented : Bool := true
  width : Int := 0
  height : Int := 0
  fps : Int := 30
  audioCodec : AudioCodecType := .kNone
  sampleRate : Int := 48000
  channels : Int := 2
  deriving DecidableEq, Repr

/-- The dimensions are set, and so is what an audio track needs. -/
def MuxerConfig.isValid (config : MuxerConfig) : Bool :=
  if config.width ≤ 0 ∨ config.height ≤ 0 then false
  else if config.audioCodec ≠ .kNone then config.sampleRate > 0 ∧ config.channels > 0
  else true

/-- What is pushed to a muxer. -/
inductive MuxPacket where
  | video (pkt : VideoPacket)
  | audio (pkt : AudioPacket)
  deriving DecidableEq, Repr

namespace MuxPacket

def data : MuxPacket → List UInt8
  | .video pkt => pkt.data
  | .audio pkt => pkt.data

def isKey : MuxPacket → Bool
  | .video pkt => pkt.keyframe
  | .audio _ => false

def video? : MuxPacket → Option VideoPacket
  | .video pkt => some pkt
  | .audio _ => none

def audio? : MuxPacket → Option AudioPacket
  | .audio pkt => some pkt
  | .video _ => none

/-- A packet that belongs in the container: it has data, and is audio or comes
from the first keyframe on; `live` tells whether that has passed. -/
def owed (live : Bool) : MuxPacket → Bool
  | .video pkt => pkt.data ≠ [] && (live || pkt.keyframe)
  | .audio pkt => pkt.data ≠ []

end MuxPacket

/-- The packets of a sequence that belong in the container, in order. -/
def owedOf (live : Bool) : List MuxPacket → List MuxPacket
  | [] => []
  | p :: rest =>
    (if p.owed live then [p] else []) ++ owedOf (live || (p.owed live && p.isKey)) rest

/-- The audio packets with data. -/
def audioOf (packets : List MuxPacket) : List AudioPacket :=
  (packets.filterMap MuxPacket.audio?).filter (·.data ≠ [])

/-- The video packets with data, from the first keyframe among them on. -/
def videoOf (packets : List MuxPacket) : List VideoPacket :=
  ((packets.filterMap MuxPacket.video?).filter (·.data ≠ [])).dropWhile (!·.keyframe)

section Owed

/-- All audio with data is owed, whenever the keyframe comes. -/
theorem owedOf_audio (live : Bool) (packets : List MuxPacket) :
    (owedOf live packets).filterMap MuxPacket.audio? = audioOf packets := by
  rw [audioOf]
  induction packets generalizing live with
  | nil => rfl
  | cons p rest ih =>
    rw [owedOf, List.filterMap_append, ih]
    cases p with
    | video pkt => cases MuxPacket.owed live (.video pkt) <;> rfl
    | audio pkt =>
      by_cases data : pkt.data = [] <;> simp [MuxPacket.owed, MuxPacket.audio?, data]

theorem owedOf_video_live (packets : List MuxPacket) :
    (owedOf true packets).filterMap MuxPacket.video? =
      (packets.filterMap MuxPacket.video?).filter (·.data ≠ []) := by
  induction packets with
  | nil => rfl
  | cons p rest ih =>
    rw [owedOf, List.filterMap_append, Bool.true_or, ih]
    cases p with
    | video pkt =>
      by_cases data : pkt.data = [] <;> simp [MuxPacket.owed, MuxPacket.video?, data]
    | audio pkt => cases MuxPacket.owed true (.audio pkt) <;> rfl

/-- Video is owed from the first keyframe on. -/
theorem owedOf_video (packets : List MuxPacket) :
    (owedOf false packets).filterMap MuxPacket.video? = videoOf packets := by
  rw [videoOf]
  induction packets with
  | nil => rfl
  | cons p rest ih =>
    rw [owedOf, List.filterMap_append, Bool.false_or]
    cases p with
    | audio pkt =>
      rw [MuxPacket.isKey, Bool.and_false, ih]
      cases MuxPacket.owed false (.audio pkt) <;> rfl
    | video pkt =>
      by_cases data : pkt.data = []
      · have free : MuxPacket.owed false (.video pkt) = false := by simp [MuxPacket.owed, data]
        rw [free, Bool.false_and, ih]
        simp [MuxPacket.video?, data]
      · cases key : pkt.keyframe with
        | true =>
          have owes : MuxPacket.owed false (.video pkt) = true := by
            simp [MuxPacket.owed, data, key]
          rw [owes, MuxPacket.isKey, key, Bool.and_self, owedOf_video_live]
          simp [MuxPacket.video?, data, key]
        | false =>
          have free : MuxPacket.owed false (.video pkt) = false := by
            simp [MuxPacket.owed, key]
          rw [free, Bool.false_and, ih]
          simp [MuxPacket.video?, data, key]

end Owed

end VideoCodec
