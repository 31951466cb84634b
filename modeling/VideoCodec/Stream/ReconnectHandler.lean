import Mathlib.Init

/-! Backoff of the reconnect worker. `Tick` runs the stored callback as its last
action, so whether it fires is a result here and the caller runs the callback. -/
namespace VideoCodec

structure ReconnectHandler where
  maxIntervalS : UInt32
  bufferDurationS : UInt32
  reconnecting : Bool
  currentAttempt : UInt32
  elapsedSinceDisconnect : UInt32
  hasCallback : Bool
  deriving DecidableEq, Repr

namespace ReconnectHandler

def new (maxIntervalS bufferDurationS : UInt32) : ReconnectHandler :=
  ⟨maxIntervalS, bufferDurationS, false, 0, 0, false⟩

def onDisconnected (h : ReconnectHandler) : ReconnectHandler :=
  { h with
    reconnecting := true, currentAttempt := 0, elapsedSinceDisconnect := 0, hasCallback := true }

def onConnected (h : ReconnectHandler) : ReconnectHandler :=
  { h with reconnecting := false, currentAttempt := 0, elapsedSinceDisconnect := 0 }

/-- The product and the conversion back are in 32 bits, the shift in 64. -/
def nextIntervalMs (h : ReconnectHandler) : UInt32 :=
  let maxMs := h.maxIntervalS * 1000
  let shift := min h.currentAttempt 62
  let interval : UInt64 := 1000 <<< shift.toUInt64
  (if maxMs.toUInt64 < interval then maxMs.toUInt64 else interval).toUInt32

/-- `Tick` and whether it runs the callback. -/
def tick (h : ReconnectHandler) : Bool × ReconnectHandler :=
  if h.reconnecting then
    let elapsed := { h with elapsedSinceDisconnect := h.elapsedSinceDisconnect + 1 }
    if elapsed.nextIntervalMs ≤ elapsed.elapsedSinceDisconnect * 1000 then
      (h.hasCallback,
        { elapsed with elapsedSinceDisconnect := 0, currentAttempt := h.currentAttempt + 1 })
    else (false, elapsed)
  else (false, h)

def reset (h : ReconnectHandler) : ReconnectHandler :=
  { h with reconnecting := false, currentAttempt := 0, elapsedSinceDisconnect := 0 }

end ReconnectHandler
end VideoCodec
