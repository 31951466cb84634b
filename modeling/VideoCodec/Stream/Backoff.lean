import Mathlib.Data.UInt
import VideoCodec.Control.Timer
import VideoCodec.Stream.ReconnectHandler

/-! The attempts of a worker that is never connected again: when the callback
runs, tick after tick, against the doubling and capped intervals. -/
namespace VideoCodec

open Control Finset

/-- A handler with its past: the ticks since the last fire, those between the fires
before, and `NextIntervalMs` at the beginning of each attempt. -/
structure Outage where
  handler : ReconnectHandler
  since : Nat := 0
  gaps : List Nat := []
  intervals : List UInt32
  deriving DecidableEq

namespace Outage

def begun (h : ReconnectHandler) : Outage :=
  { handler := h.onDisconnected, intervals := [h.onDisconnected.nextIntervalMs] }

def tick (o : Outage) : Outage :=
  match o.handler.tick with
  | (true, handler) =>
    { handler, since := 0, gaps := o.gaps ++ [o.since + 1]
      intervals := o.intervals ++ [handler.nextIntervalMs] }
  | (false, handler) => { o with handler, since := o.since + 1 }

/-- After `n` ticks. -/
def after (h : ReconnectHandler) : Nat → Outage
  | 0 => begun h
  | n + 1 => (after h n).tick

/-- The back-off in seconds. -/
def due (maxIntervalS : UInt32) (k : Nat) : Nat := min (2 ^ k) maxIntervalS.toNat

/-- The callback has run when it was due, and is not overdue. -/
structure Punctual (h : ReconnectHandler) (o : Outage) : Prop where
  fired : o.gaps = (List.range o.gaps.length).map (due h.maxIntervalS)
  pending : o.since < due h.maxIntervalS o.gaps.length

/-- `NextIntervalMs` never decreased from one attempt to the next. -/
def Rising (o : Outage) : Prop := o.intervals.Pairwise (· ≤ ·)

section Interval
variable {h : ReconnectHandler}

/-- The shifted interval is exact or above all 32-bit values, until at a shift by 61
nothing is left of it. -/
theorem shifted_interval (shift : Fin 63) {interval : Nat}
    (value : ((1000 : UInt64) <<< (UInt32.ofNat shift).toUInt64).toNat = interval) :
    shift.val ≤ 60 ∧
        (interval = 1000 * 2 ^ shift.val ∨ 2 ^ 32 ≤ interval ∧ 2 ^ 32 ≤ 2 ^ shift.val) ∨
      61 ≤ shift.val ∧ interval = 0 := by
  subst value
  revert shift
  decide +kernel

theorem nextIntervalMs_toNat (most : 1000 * h.maxIntervalS.toNat < 2 ^ 32) :
    h.nextIntervalMs.toNat =
      if h.currentAttempt.toNat ≤ 60 then 1000 * due h.maxIntervalS h.currentAttempt.toNat
      else 0 := by
  have maxMs : (h.maxIntervalS * 1000).toUInt64.toNat = 1000 * h.maxIntervalS.toNat := by
    rw [UInt32.toNat_toUInt64, UInt32.toNat_mul, Nat.mod_eq_of_lt] <;>
      simp only [UInt32.reduceToNat] <;> omega
  let shift : Fin 63 := ⟨min h.currentAttempt.toNat 62, by omega⟩
  have shifted : min h.currentAttempt 62 = UInt32.ofNat shift := by
    rw [← UInt32.toNat_inj, UInt32.toNat_min, UInt32.toNat_ofNat_of_lt']
    · rfl
    · exact shift.2.trans (by decide)
  obtain ⟨interval, value⟩ :
      ∃ interval, ((1000 : UInt64) <<< (UInt32.ofNat shift).toUInt64).toNat = interval := ⟨_, rfl⟩
  have capped : h.nextIntervalMs.toNat = min (1000 * h.maxIntervalS.toNat) interval := by
    rw [ReconnectHandler.nextIntervalMs, shifted]
    split
    · rename_i above
      have above := UInt64.lt_iff_toNat_lt.mp above
      rw [UInt64.toNat_toUInt32, maxMs]
      omega
    · rename_i below
      have below := UInt64.le_iff_toNat_le.mp (UInt64.not_lt.mp below)
      rw [UInt64.toNat_toUInt32]
      omega
  have range := shifted_interval shift value
  rw [capped, due]
  split
  · rename_i few
    have same : shift.val = h.currentAttempt.toNat := Nat.min_eq_left (few.trans (by decide))
    rw [same] at range
    omega
  · rename_i many
    have past : 61 ≤ shift.val := le_min (Nat.not_le.mp many) (by decide)
    omega

end Interval

/-- The ticks an attempt really lasts: at attempt 61 the interval is lost. -/
def lasting (maxIntervalS : UInt32) (k : Nat) : Nat :=
  if k % 2 ^ 32 ≤ 60 then due maxIntervalS (k % 2 ^ 32) else 1

def intervalMs (maxIntervalS : UInt32) (k : Nat) : Nat :=
  if k % 2 ^ 32 ≤ 60 then 1000 * due maxIntervalS (k % 2 ^ 32) else 0

def timer (maxIntervalS : UInt32) (least : 1 ≤ maxIntervalS.toNat) : Timer where
  period := lasting maxIntervalS
  pos k := by
    rw [lasting, due]
    have power := Nat.one_le_two_pow (n := k % 2 ^ 32)
    split <;> omega

/-- A handler is at the round of its timer. -/
structure Follows (maxIntervalS : UInt32) (o : Outage) (t : Timed) : Prop where
  config : o.handler.maxIntervalS = maxIntervalS
  active : o.handler.reconnecting = true
  callback : o.handler.hasCallback = true
  attempt : o.handler.currentAttempt.toNat = t.round % 2 ^ 32
  elapsed : o.handler.elapsedSinceDisconnect.toNat = t.elapsed
  since : o.since = t.elapsed
  gaps : o.gaps = t.gaps
  intervals : o.intervals.map UInt32.toNat =
    (List.range (t.round + 1)).map (intervalMs maxIntervalS)

section Runs
variable {h : ReconnectHandler} {o : Outage} {t : Timed} {maxIntervalS : UInt32} {k n : Nat}

theorem nextIntervalMs_eq (most : 1000 * h.maxIntervalS.toNat < 2 ^ 32)
    (attempt : h.currentAttempt.toNat = k % 2 ^ 32) :
    h.nextIntervalMs.toNat = intervalMs h.maxIntervalS k := by
  rw [nextIntervalMs_toNat most, attempt]
  rfl

theorem begun_follows (most : 1000 * h.maxIntervalS.toNat < 2 ^ 32) :
    Follows h.maxIntervalS (begun h) ⟨0, 0, []⟩ where
  config := rfl
  active := rfl
  callback := rfl
  attempt := rfl
  elapsed := rfl
  since := rfl
  gaps := rfl
  intervals := congrArg (fun ms => [ms])
    (nextIntervalMs_eq (h := h.onDisconnected) (k := 0) most rfl)

/-- Whole ticks are over an interval just when they are as many as the attempt lasts. -/
theorem lasting_le (maxIntervalS : UInt32) (k elapsed : Nat) :
    intervalMs maxIntervalS k ≤ (elapsed + 1) * 1000 ↔ lasting maxIntervalS k ≤ elapsed + 1 := by
  rw [intervalMs, lasting]
  split <;> omega

theorem lasting_fits (most : 1000 * maxIntervalS.toNat < 2 ^ 32) (k : Nat) :
    lasting maxIntervalS k * 1000 < 2 ^ 32 := by
  rw [lasting, due]
  split <;> omega

theorem tick_follows (least : 1 ≤ maxIntervalS.toNat) (most : 1000 * maxIntervalS.toNat < 2 ^ 32)
    (follows : Follows maxIntervalS o t) (before : t.elapsed < lasting maxIntervalS t.round) :
    Follows maxIntervalS o.tick ((timer maxIntervalS least).tick t) := by
  obtain ⟨rfl, active, callback, attempt, elapsed, since, gaps, intervals⟩ := follows
  have fits := lasting_fits most t.round
  have counted : (o.handler.elapsedSinceDisconnect + 1).toNat = t.elapsed + 1 := by
    rw [UInt32.toNat_add, elapsed, UInt32.toNat_one, Nat.mod_eq_of_lt (by omega)]
  have milliseconds :
      ((o.handler.elapsedSinceDisconnect + 1) * 1000).toNat = (t.elapsed + 1) * 1000 := by
    rw [UInt32.toNat_mul, counted]
    exact Nat.mod_eq_of_lt ((Nat.mul_le_mul_right 1000 before).trans_lt fits)
  let elapsing : ReconnectHandler :=
    { o.handler with elapsedSinceDisconnect := o.handler.elapsedSinceDisconnect + 1 }
  have over_iff : elapsing.nextIntervalMs ≤ elapsing.elapsedSinceDisconnect * 1000 ↔
      lasting o.handler.maxIntervalS t.round ≤ t.elapsed + 1 := by
    rw [UInt32.le_iff_toNat_le, nextIntervalMs_eq (h := elapsing) most attempt, milliseconds]
    exact lasting_le ..
  by_cases fires : lasting o.handler.maxIntervalS t.round ≤ t.elapsed + 1
  · let fired : ReconnectHandler :=
      { elapsing with
        elapsedSinceDisconnect := 0, currentAttempt := o.handler.currentAttempt + 1 }
    have ticked : o.handler.tick = (true, fired) := by
      rw [ReconnectHandler.tick, if_pos active, if_pos (over_iff.mpr fires)]
      exact congrArg (·, fired) callback
    have advanced : fired.currentAttempt.toNat = (t.round + 1) % 2 ^ 32 := by
      rw [UInt32.toNat_add, attempt, UInt32.toNat_one, Nat.mod_add_mod]
    rw [tick, ticked, (timer _ least).tick_fires fires]
    refine ⟨rfl, active, callback, advanced, rfl, rfl, ?_, ?_⟩
    · rw [gaps, since]
    · rw [List.map_append, intervals, List.range_succ (n := t.round + 1), List.map_append]
      exact congrArg (_ ++ [·]) (nextIntervalMs_eq (h := fired) most advanced)
  · have ticked : o.handler.tick = (false, elapsing) := by
      rw [ReconnectHandler.tick, if_pos active, if_neg (over_iff.not.mpr fires)]
    rw [tick, ticked, (timer _ least).tick_waits (Nat.not_le.mp fires)]
    exact ⟨rfl, active, callback, attempt, counted, congrArg (· + 1) since, gaps, intervals⟩

theorem after_follows (least : 1 ≤ h.maxIntervalS.toNat)
    (most : 1000 * h.maxIntervalS.toNat < 2 ^ 32) (n : Nat) :
    Follows h.maxIntervalS (after h n) ((timer h.maxIntervalS least).after n) := by
  induction n with
  | zero => exact begun_follows most
  | succ n ih =>
    exact tick_follows least most ih ((timer h.maxIntervalS least).after_kept n).elapsed

theorem lasting_eq_due (few : k ≤ 60) : lasting maxIntervalS k = due maxIntervalS k := by
  have small : k % 2 ^ 32 = k := Nat.mod_eq_of_lt (by omega)
  rw [lasting, small, if_pos few]

theorem lasting_lost : lasting maxIntervalS 61 = 1 := rfl

theorem due_mono {j : Nat} (le : j ≤ k) : due maxIntervalS j ≤ due maxIntervalS k :=
  min_le_min (Nat.pow_le_pow_right (by decide) le) (le_refl _)

theorem due_pos (least : 1 ≤ maxIntervalS.toNat) (k : Nat) : 1 ≤ due maxIntervalS k :=
  le_min Nat.one_le_two_pow least

theorem lasting_le_due (least : 1 ≤ maxIntervalS.toNat) (few : k ≤ 61) :
    lasting maxIntervalS k ≤ due maxIntervalS k := by
  by_cases early : k ≤ 60
  · rw [lasting_eq_due early]
  · obtain rfl : k = 61 := by omega
    exact due_pos least 61

/-- A handler that follows its timer is punctual until the interval is lost, and for
good if no interval is longer than a tick. -/
theorem punctual_iff (least : 1 ≤ h.maxIntervalS.toNat)
    (most : 1000 * h.maxIntervalS.toNat < 2 ^ 32) (follows : Follows h.maxIntervalS o t)
    (kept : (timer h.maxIntervalS least).Kept n t) :
    Punctual h o ↔ h.maxIntervalS = 1 ∨ t.round ≤ 61 := by
  have rounds : o.gaps = (List.range t.round).map (lasting h.maxIntervalS) :=
    follows.gaps.trans kept.gaps
  have length : o.gaps.length = t.round := by
    rw [rounds, List.length_map, List.length_range]
  constructor
  · rintro ⟨fired, pending⟩
    by_contra late
    obtain ⟨long, many⟩ := not_or.mp late
    rw [length, rounds] at fired
    have lost := List.map_inj_left.mp fired 61 (List.mem_range.mpr (Nat.not_le.mp many))
    rw [lasting_lost, due] at lost
    have one : h.maxIntervalS.toNat = 1 := by omega
    exact long (UInt32.toNat_inj.mp one)
  · rintro (one | few)
    · have single (k : Nat) : lasting h.maxIntervalS k = due h.maxIntervalS k := by
        have powers (k : Nat) : due h.maxIntervalS k = 1 := by
          rw [one]
          exact min_eq_right Nat.one_le_two_pow
        rw [lasting, powers, powers, ite_self]
      refine ⟨?_, ?_⟩
      · rw [length, rounds]
        exact List.map_congr_left fun k _ => single k
      · rw [length, follows.since, ← single]
        exact kept.elapsed
    · refine ⟨?_, ?_⟩
      · rw [length, rounds]
        refine List.map_congr_left fun k before => lasting_eq_due ?_
        have before := List.mem_range.mp before
        omega
      · rw [length, follows.since]
        exact kept.elapsed.trans_le (lasting_le_due least few)

theorem rising_iff (least : 1 ≤ maxIntervalS.toNat) (follows : Follows maxIntervalS o t) :
    Rising o ↔ t.round ≤ 60 := by
  have values : Rising o ↔
      ((List.range (t.round + 1)).map (intervalMs maxIntervalS)).Pairwise (· ≤ ·) := by
    rw [← follows.intervals, List.pairwise_map]
    exact Iff.rfl
  rw [values, List.pairwise_map]
  constructor
  · intro rising
    by_contra many
    have many := Nat.not_le.mp many
    rw [List.pairwise_iff_getElem] at rising
    have falls := rising 60 61 (by simp only [List.length_range]; omega)
      (by simp only [List.length_range]; omega) (by decide)
    rw [List.getElem_range, List.getElem_range] at falls
    have first : 1 ≤ due maxIntervalS 60 := due_pos least 60
    have lost : 1000 * due maxIntervalS 60 ≤ 0 := falls
    omega
  · intro few
    have early {k : Nat} (before : k ∈ List.range (t.round + 1)) :
        intervalMs maxIntervalS k = 1000 * due maxIntervalS k := by
      have before := List.mem_range.mp before
      have small : k % 2 ^ 32 = k := Nat.mod_eq_of_lt (by omega)
      rw [intervalMs, small, if_pos (by omega)]
    refine List.pairwise_lt_range.imp_of_mem fun first second lt => ?_
    rw [early first, early second]
    exact Nat.mul_le_mul_left 1000 (due_mono lt.le)

/-- The callback runs when it is due as long as no more ticks pass than the first 61
attempts take, and for good if no interval is longer than a tick; `NextIntervalMs`
then never falls before the last of these ticks, at which it is lost. -/
theorem backoff_iff (least : 1 ≤ h.maxIntervalS.toNat)
    (most : 1000 * h.maxIntervalS.toNat < 2 ^ 32) (n : Nat) :
    (Punctual h (after h n) ↔
      h.maxIntervalS = 1 ∨ n ≤ ∑ k ∈ range 61, due h.maxIntervalS k) ∧
    (Punctual h (after h n) ∧ Rising (after h n) ↔
      n < ∑ k ∈ range 61, due h.maxIntervalS k) := by
  have follows := after_follows least most n
  have kept := (timer h.maxIntervalS least).after_kept n
  have total : (timer h.maxIntervalS least).start 61 = ∑ k ∈ range 61, due h.maxIntervalS k := by
    refine sum_congr rfl fun k before => lasting_eq_due ?_
    have before := mem_range.mp before
    omega
  have lost : (timer h.maxIntervalS least).start 62 = (timer h.maxIntervalS least).start 61 + 1 :=
    Timer.start_succ _ 61
  have before := (timer h.maxIntervalS least).after_round_lt (n := n) (k := 61)
  have until_lost := (timer h.maxIntervalS least).after_round_lt (n := n) (k := 62)
  rw [total] at before lost
  rw [lost] at until_lost
  have past : ((timer h.maxIntervalS least).after n).round ≤ 61 ↔
      n ≤ ∑ k ∈ range 61, due h.maxIntervalS k := by omega
  have early : ((timer h.maxIntervalS least).after n).round ≤ 60 ↔
      n < ∑ k ∈ range 61, due h.maxIntervalS k := by omega
  rw [punctual_iff least most follows kept, rising_iff least follows, past, early]
  exact ⟨Iff.rfl, and_iff_right_of_imp fun within => .inr within.le⟩

/-- With the cap at 30 seconds the back-off keeps for 1711 ticks. -/
theorem backoff_default :
    (Punctual (.new 30 30) (after (.new 30 30) 1711) ↔
      (30 : UInt32) = 1 ∨ 1711 ≤ ∑ k ∈ range 61, due 30 k) ∧
    (Punctual (.new 30 30) (after (.new 30 30) 1711) ∧ Rising (after (.new 30 30) 1711) ↔
      1711 < ∑ k ∈ range 61, due 30 k) :=
  backoff_iff (by decide) (by decide) 1711

/-- With the cap at two seconds the callback runs at tick 121, and again at the next. -/
theorem backoff_lost :
    ¬∀ h : ReconnectHandler, 1 ≤ h.maxIntervalS.toNat → 1000 * h.maxIntervalS.toNat < 2 ^ 32 →
      ∀ n, Punctual h (after h n) ∧ Rising (after h n) := by
  intro always
  have fired := (always (.new 2 30) (by decide) (by decide) 122).1.fired
  revert fired
  decide +kernel

end Runs

end Outage
end VideoCodec
