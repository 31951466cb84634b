import VideoCodec.Stream.Types

/-! Bitrate adaptation, in 32-bit arithmetic. -/
namespace VideoCodec

structure AbrController where
  currentBitrateKbps : UInt32
  minBitrateKbps : UInt32
  maxBitrateKbps : UInt32
  consecutiveGoodIntervals : UInt32
  deriving DecidableEq, Repr

namespace AbrController

/-- `std::clamp`, which tests the lower bound first. -/
def clamp (value low high : UInt32) : UInt32 :=
  if value < low then low else if high < value then high else value

def new (initialBitrateKbps minBitrateKbps maxBitrateKbps : UInt32) : AbrController :=
  ⟨clamp initialBitrateKbps minBitrateKbps maxBitrateKbps, minBitrateKbps, maxBitrateKbps, 0⟩

/-- Lowers the bitrate by a fraction of it, at least `least`; the difference wraps. -/
def reduce (a : AbrController) (divisor least : UInt32) : AbrController :=
  { a with
    currentBitrateKbps :=
      max (a.currentBitrateKbps - max (a.currentBitrateKbps / divisor) least) a.minBitrateKbps
    consecutiveGoodIntervals := 0 }

/-- `Update`; the round-trip time is passed but not used. -/
def update (a : AbrController) (_rttMs : UInt32) (packetLossPct : Single) : AbrController :=
  if packetLossPct.exceeds 5 then a.reduce 2 100
  else if packetLossPct.exceeds 2 then a.reduce 4 50
  else if 5 ≤ a.consecutiveGoodIntervals + 1 then
    { a with
      currentBitrateKbps :=
        min (a.currentBitrateKbps + max (a.currentBitrateKbps / 8) 50) a.maxBitrateKbps
      consecutiveGoodIntervals := 0 }
  else { a with consecutiveGoodIntervals := a.consecutiveGoodIntervals + 1 }

def reset (a : AbrController) : AbrController :=
  { a with currentBitrateKbps := a.maxBitrateKbps, consecutiveGoodIntervals := 0 }

end AbrController
end VideoCodec
