import Mathlib.Algebra.Order.Ring.Unbundled.Rat
import Mathlib.Data.UInt
import Mathlib.Order.Interval.Set.Basic
import Mathlib.Order.MinMax
import VideoCodec.Control.Ladder
import VideoCodec.Stream.StreamImpl
import VideoCodec.Transition.Run

/-! What the bitrate does over runs of `Update` and `Reset`: its bounds, what a
better connection is worth, and where `Reset` returns to. -/
namespace VideoCodec

open Transition Control

namespace Single

/-- `x <= y`; no comparison with a NaN holds. -/
def le : Single → Single → Bool
  | .nan, _ | _, .nan => false
  | .negInf, _ | _, .posInf => true
  | .finite x, .finite y => x ≤ y
  | .finite _, .negInf | .posInf, .finite _ | .posInf, .negInf => false

theorem exceeds_of_le {x y : Single} {bound : ℚ} (le : x.le y = true)
    (exceeds : x.exceeds bound = true) : y.exceeds bound = true := by
  cases x with
  | nan | negInf => cases exceeds
  | posInf =>
    cases y with
    | posInf => rfl
    | nan | negInf | finite => cases le
  | finite x =>
    cases y with
    | posInf => rfl
    | nan | negInf => cases le
    | finite y =>
      have above : bound < x := of_decide_eq_true exceeds
      have ordered : x ≤ y := of_decide_eq_true le
      exact decide_eq_true (above.trans_le ordered)

/-- How bad an interval was: `true` above five per cent, `false` above two. -/
def heard (loss : Single) : WithBot Bool :=
  if loss.exceeds 5 then (true : Bool) else if loss.exceeds 2 then (false : Bool) else ⊥

theorem heard_mono {x y : Single} (le : x.le y = true) : x.heard ≤ y.heard := by
  unfold heard
  by_cases heavy : x.exceeds 5 = true
  · rw [if_pos heavy, if_pos (exceeds_of_le le heavy)]
  · rw [if_neg heavy]
    by_cases light : x.exceeds 2 = true
    · rw [if_pos light, if_pos (exceeds_of_le le light)]
      split
      · exact WithBot.coe_le_coe.mpr (Bool.le_true false)
      · exact le_refl _
    · rw [if_neg light]
      exact bot_le

end Single

/-- The bitrates between two bounds. -/
abbrev Bitrate (low high : UInt32) : Type := Set.Icc low.toNat high.toNat

/-- The increase, and the two reductions, over natural numbers. -/
def raised (x : Nat) : Nat := x + max (x / 8) 50

def lowered (heavy : Bool) (x : Nat) : Nat := x - if heavy then max (x / 2) 100 else max (x / 4) 50

theorem raised_mono {x y : Nat} (le : x ≤ y) : raised x ≤ raised y := by
  unfold raised
  omega

theorem lowered_mono {x y : Nat} (le : x ≤ y) (heavy : Bool) :
    lowered heavy x ≤ lowered heavy y := by
  unfold lowered
  cases heavy with
  | true =>
    rw [if_pos rfl, if_pos rfl]
    omega
  | false =>
    rw [if_neg Bool.false_ne_true, if_neg Bool.false_ne_true]
    omega

theorem lowered_heavy (x : Nat) : lowered true x ≤ lowered false x := by
  unfold lowered
  rw [if_pos rfl, if_neg Bool.false_ne_true]
  omega

/-- The controller as a ladder, over natural numbers between its bounds. -/
def Bitrate.ladder (low high : UInt32) : Ladder (Bitrate low high) Bool where
  period := 5
  climb x := ⟨min (raised x) high.toNat, by
    have member := x.2
    exact ⟨le_min (member.1.trans (Nat.le_add_right ..)) (member.1.trans member.2),
      min_le_right ..⟩⟩
  fall heavy x := ⟨max (lowered heavy x) low.toNat, by
    have member := x.2
    exact ⟨le_max_right .., max_le ((Nat.sub_le ..).trans member.2) (member.1.trans member.2)⟩⟩
  le_climb x := le_min (Nat.le_add_right ..) x.2.2
  fall_le heavy x := max_le (Nat.sub_le ..) x.2.1
  climb_mono _ _ le := min_le_min (raised_mono le) (le_refl _)
  fall_mono heavy _ _ le := max_le_max (lowered_mono le heavy) (le_refl _)
  fall_anti x heavy heavier le := by
    refine max_le_max ?_ (le_refl low.toNat)
    cases heavy with
    | true =>
      obtain rfl := Bool.eq_true_of_true_le le
      exact le_refl (lowered true x)
    | false =>
      cases heavier with
      | true => exact lowered_heavy x
      | false => exact le_refl (lowered false x)

namespace AbrController
variable {a : AbrController} {low high : UInt32} {loss : Single}

/-- What `Update` must find so that neither the difference nor the sum wraps. -/
def Roomy (a : AbrController) (loss : Single) : Prop :=
  if loss.exceeds 5 then 100 ≤ a.currentBitrateKbps.toNat
  else if loss.exceeds 2 then 50 ≤ a.currentBitrateKbps.toNat
  else 5 ≤ a.consecutiveGoodIntervals.toNat + 1 → raised a.currentBitrateKbps.toNat < 2 ^ 32

theorem reduce_toNat {divisor least : UInt32}
    (room : max (a.currentBitrateKbps.toNat / divisor.toNat) least.toNat ≤
      a.currentBitrateKbps.toNat) :
    (a.reduce divisor least).currentBitrateKbps.toNat =
      max (a.currentBitrateKbps.toNat -
        max (a.currentBitrateKbps.toNat / divisor.toNat) least.toNat) a.minBitrateKbps.toNat := by
  have reduction : (max (a.currentBitrateKbps / divisor) least).toNat =
      max (a.currentBitrateKbps.toNat / divisor.toNat) least.toNat := by
    rw [UInt32.toNat_max, UInt32.toNat_div]
  rw [reduce, UInt32.toNat_max, UInt32.toNat_sub_of_le, reduction]
  rw [UInt32.le_iff_toNat_le, reduction]
  exact room

/-- A controller shown as a rung of the ladder between its bounds. -/
structure Shows (a : AbrController) (r : Rung (Bitrate low high)) : Prop where
  minimum : a.minBitrateKbps = low
  maximum : a.maxBitrateKbps = high
  level : a.currentBitrateKbps.toNat = r.level
  good : a.consecutiveGoodIntervals.toNat = r.good
  rising : r.good < 5

/-- Where nothing wraps, `Update` is a move on the ladder. -/
theorem update_shows {r : Rung (Bitrate low high)} (shows : a.Shows r) (rttMs : UInt32)
    (room : a.Roomy loss) :
    (a.update rttMs loss).Shows ((Bitrate.ladder low high).next r loss.heard) := by
  obtain ⟨rfl, rfl, level, good, rising⟩ := shows
  rw [Roomy] at room
  rw [update, Single.heard]
  by_cases heavy : loss.exceeds 5 = true
  · rw [if_pos heavy] at room ⊢
    rw [if_pos heavy]
    refine ⟨rfl, rfl, ?_, rfl, Nat.succ_pos 4⟩
    rw [reduce_toNat (by simp only [UInt32.reduceToNat]; omega), level]
    rfl
  rw [if_neg heavy] at room ⊢
  rw [if_neg heavy]
  by_cases light : loss.exceeds 2 = true
  · rw [if_pos light] at room ⊢
    rw [if_pos light]
    refine ⟨rfl, rfl, ?_, rfl, Nat.succ_pos 4⟩
    rw [reduce_toNat (by simp only [UInt32.reduceToNat]; omega), level]
    rfl
  rw [if_neg light] at room ⊢
  rw [if_neg light]
  have counted : (a.consecutiveGoodIntervals + 1).toNat = r.good + 1 := by
    rw [UInt32.toNat_add, good]
    exact Nat.mod_eq_of_lt (by simp only [UInt32.reduceToNat]; omega)
  have climbs : 5 ≤ a.consecutiveGoodIntervals + 1 ↔ 5 ≤ r.good + 1 := by
    rw [UInt32.le_iff_toNat_le, counted]
    rfl
  change Shows _ (if 5 ≤ r.good + 1 then _ else _)
  by_cases fifth : 5 ≤ r.good + 1
  · rw [if_pos fifth, if_pos (climbs.mpr fifth)]
    refine ⟨rfl, rfl, ?_, rfl, Nat.succ_pos 4⟩
    have fits := room (good.symm ▸ fifth)
    change (min (a.currentBitrateKbps + max (a.currentBitrateKbps / 8) 50) _).toNat = min _ _
    rw [UInt32.toNat_min, UInt32.toNat_add, UInt32.toNat_max, UInt32.toNat_div, ← level]
    exact congrArg (min · _) (Nat.mod_eq_of_lt fits)
  · rw [if_neg fifth, if_neg (climbs.not.mpr fifth)]
    exact ⟨rfl, rfl, level, counted, Nat.not_le.mp fifth⟩

/-- Whether `Update` computes a difference or a sum that wraps. -/
def wraps (a : AbrController) (loss : Single) : Bool :=
  if loss.exceeds 5 then a.currentBitrateKbps < max (a.currentBitrateKbps / 2) 100
  else if loss.exceeds 2 then a.currentBitrateKbps < max (a.currentBitrateKbps / 4) 50
  else 5 ≤ a.consecutiveGoodIntervals + 1 &&
    2 ^ 32 ≤ a.currentBitrateKbps.toNat + (max (a.currentBitrateKbps / 8) 50).toNat

theorem wraps_iff (loss : Single) (rising : a.consecutiveGoodIntervals.toNat < 5) :
    a.wraps loss = false ↔ a.Roomy loss := by
  rw [wraps, Roomy]
  split
  · rw [decide_eq_false_iff_not, UInt32.not_lt, UInt32.le_iff_toNat_le, UInt32.toNat_max,
      UInt32.toNat_div]
    simp only [UInt32.reduceToNat]
    omega
  split
  · rw [decide_eq_false_iff_not, UInt32.not_lt, UInt32.le_iff_toNat_le, UInt32.toNat_max,
      UInt32.toNat_div]
    simp only [UInt32.reduceToNat]
    omega
  have counted : (a.consecutiveGoodIntervals + 1).toNat = a.consecutiveGoodIntervals.toNat + 1 := by
    rw [UInt32.toNat_add]
    exact Nat.mod_eq_of_lt (by simp only [UInt32.reduceToNat]; omega)
  rw [Bool.and_eq_false_iff, decide_eq_false_iff_not, decide_eq_false_iff_not,
    UInt32.le_iff_toNat_le, counted, UInt32.toNat_max, UInt32.toNat_div, raised]
  simp only [UInt32.reduceToNat]
  omega

theorem roomy_of_bounds (least : 100 ≤ low.toNat) (most : raised high.toNat < 2 ^ 32)
    (floor : low.toNat ≤ a.currentBitrateKbps.toNat)
    (roof : a.currentBitrateKbps.toNat ≤ high.toNat) : a.Roomy loss := by
  have increase := raised_mono roof
  rw [Roomy]
  split
  · omega
  split
  · omega
  · intro _
    omega

/-- `Update` with one pair of a round-trip time and a loss after another. -/
def updates (a : AbrController) (reports : List (UInt32 × Single)) : AbrController :=
  reports.foldl (fun a report => a.update report.1 report.2) a

/-- Where both bounds leave room, a sequence of calls is a run of the ladder. -/
theorem updates_shows (least : 100 ≤ low.toNat) (most : raised high.toNat < 2 ^ 32)
    {r : Rung (Bitrate low high)} (shows : a.Shows r) (reports : List (UInt32 × Single)) :
    (a.updates reports).Shows ((Bitrate.ladder low high).run r (reports.map (·.2.heard))) := by
  induction reports generalizing a r with
  | nil => exact shows
  | cons report reports ih =>
    have floor := r.level.2.1
    have roof := r.level.2.2
    rw [← shows.level] at floor roof
    exact ih (update_shows shows report.1 (roomy_of_bounds least most floor roof))

/-- A connection that is at least as good at every interval never ends up with a
lower bitrate. -/
theorem better_updates (least : 100 ≤ a.minBitrateKbps) (most : a.maxBitrateKbps ≤ 2 ^ 31)
    (floor : a.minBitrateKbps ≤ a.currentBitrateKbps)
    (roof : a.currentBitrateKbps ≤ a.maxBitrateKbps)
    (rising : a.consecutiveGoodIntervals < 5) {better worse : List (UInt32 × Single)}
    (pairs : List.Forall₂ (fun g b => g.2.le b.2 = true) better worse) (n : Nat) :
    (a.updates (worse.take n)).currentBitrateKbps ≤
      (a.updates (better.take n)).currentBitrateKbps := by
  have least : 100 ≤ a.minBitrateKbps.toNat := UInt32.le_iff_toNat_le.mp least
  have most : a.maxBitrateKbps.toNat ≤ 2 ^ 31 := UInt32.le_iff_toNat_le.mp most
  have fits : raised a.maxBitrateKbps.toNat < 2 ^ 32 := by
    rw [raised]
    omega
  let r : Rung (Bitrate a.minBitrateKbps a.maxBitrateKbps) :=
    ⟨⟨a.currentBitrateKbps.toNat, UInt32.le_iff_toNat_le.mp floor,
      UInt32.le_iff_toNat_le.mp roof⟩, a.consecutiveGoodIntervals.toNat⟩
  have shows : a.Shows r := ⟨rfl, rfl, rfl, rfl, UInt32.lt_iff_toNat_lt.mp rising⟩
  have heard : List.Forall₂ (· ≤ ·) ((better.take n).map (·.2.heard))
      ((worse.take n).map (·.2.heard)) := by
    rw [List.forall₂_map_left_iff, List.forall₂_map_right_iff]
    exact (List.forall₂_take n pairs).imp fun _ _ => Single.heard_mono
  have above := Ladder.run_above (Ladder.Above.refl (Bitrate.ladder _ _) r) heard
  rw [UInt32.le_iff_toNat_le, (updates_shows least fits shows _).level,
    (updates_shows least fits shows _).level]
  exact above.level

/-- Four light losses against four good intervals. -/
theorem better_updates_recovering :
    ((AbrController.new 2000 200 5000).updates
      ((List.replicate 5 (40, .finite 3)).take 4)).currentBitrateKbps ≤
    ((AbrController.new 2000 200 5000).updates
      ((List.replicate 5 (40, .finite 0)).take 4)).currentBitrateKbps := by
  refine better_updates (a := .new 2000 200 5000) (by decide) (by decide) (by decide) (by decide)
    (by decide) ?_ 4
  rw [List.forall₂_iff_get]
  refine ⟨rfl, fun i _ _ => ?_⟩
  rw [List.get_eq_getElem, List.get_eq_getElem, List.getElem_replicate, List.getElem_replicate]
  rfl

theorem updates_bounds (reports : List (UInt32 × Single)) :
    (a.updates reports).minBitrateKbps = a.minBitrateKbps ∧
      (a.updates reports).maxBitrateKbps = a.maxBitrateKbps := by
  induction reports generalizing a with
  | nil => exact ⟨rfl, rfl⟩
  | cons report reports ih =>
    have same : (a.update report.1 report.2).minBitrateKbps = a.minBitrateKbps ∧
        (a.update report.1 report.2).maxBitrateKbps = a.maxBitrateKbps := by
      rw [update]
      split
      · exact ⟨rfl, rfl⟩
      split
      · exact ⟨rfl, rfl⟩
      split
      · exact ⟨rfl, rfl⟩
      · exact ⟨rfl, rfl⟩
    rw [← same.1, ← same.2]
    exact ih

/-- `Reset` forgets the history, but starts again from the upper bound. -/
theorem reset_updates (initial low high : UInt32) (history : List (UInt32 × Single)) :
    ((new initial low high).updates history).reset = ⟨high, low, high, 0⟩ := by
  obtain ⟨minimum, maximum⟩ := updates_bounds (a := new initial low high) history
  rw [reset, minimum, maximum]
  rfl

theorem clamp_eq_high {initial : UInt32} :
    clamp initial low high = high ↔ low = high ∨ low ≤ initial ∧ high ≤ initial := by
  rw [clamp]
  split
  · rename_i below
    have above := UInt32.not_le.mpr below
    simp only [above, false_and, or_false]
  · rename_i above
    split
    · rename_i over_high
      simp only [true_iff]
      exact .inr ⟨UInt32.not_lt.mp above, UInt32.le_of_lt over_high⟩
    · rename_i within
      have above := UInt32.not_lt.mp above
      have within := UInt32.not_lt.mp within
      constructor
      · rintro rfl
        exact .inr ⟨above, UInt32.le_refl _⟩
      · rintro (rfl | ⟨_, high_le⟩)
        · exact UInt32.le_antisymm within above
        · exact UInt32.le_antisymm within high_le

/-- A controller that was reset gives the bitrates of a new one, and a stream whose
`Connect` succeeds starts at the initial bitrate, just when that is at least both
bounds, or these are the same. -/
theorem reset_restarts_iff (initial low high : UInt32) (history : List (UInt32 × Single))
    (s : StreamImpl) :
    ((∀ later, (((new initial low high).updates history).reset.updates later).currentBitrateKbps =
        ((new initial low high).updates later).currentBitrateKbps) ↔
      low = high ∨ low ≤ initial ∧ high ≤ initial) ∧
    ({ s with abrController := some ((new initial low high).updates history)
        }.connectSucceeded.abrController.map currentBitrateKbps =
        some (clamp initial low high) ↔
      low = high ∨ low ≤ initial ∧ high ≤ initial) := by
  rw [← clamp_eq_high, StreamImpl.connectSucceeded]
  simp only [StreamImpl.withError, Option.map_some, reset_updates, Option.some.injEq]
  refine ⟨?_, eq_comm⟩
  constructor
  · intro same
    exact (same []).symm
  · intro clamped later
    rw [new, clamped]

/-- Configured to start at 2000, a stream starts at 5000. -/
theorem reset_restarts_high :
    ¬∀ (initial low high : UInt32) (history : List (UInt32 × Single)),
      ((new initial low high).updates history).reset.currentBitrateKbps =
          clamp initial low high ∧
        ∀ later, (((new initial low high).updates history).reset.updates later).currentBitrateKbps =
          ((new initial low high).updates later).currentBitrateKbps := by
  intro restarts
  exact absurd (restarts 2000 200 5000 []).1 (by decide)

end AbrController

inductive AbrCall where
  | update (rttMs : UInt32) (loss : Single)
  | reset

/-- A controller with its past: whether its arithmetic has wrapped. -/
structure Adapting where
  controller : AbrController
  wrapped : Bool := false

namespace Adapting

def created (initial low high : UInt32) : Adapting := { controller := .new initial low high }

def next (s : Adapting) : AbrCall → Option Adapting
  | .update rttMs loss =>
    some ⟨s.controller.update rttMs loss, s.wrapped || s.controller.wraps loss⟩
  | .reset => some { s with controller := s.controller.reset }

/-- The bitrate is between its bounds, and no arithmetic has wrapped. -/
structure InBounds (s : Adapting) : Prop where
  low : s.controller.minBitrateKbps ≤ s.controller.currentBitrateKbps
  high : s.controller.currentBitrateKbps ≤ s.controller.maxBitrateKbps
  unwrapped : s.wrapped = false

/-- There is room for what an `Update` takes off or puts on. -/
def RoomMeets (s : Adapting) : AbrCall → Prop
  | .update _ loss => s.controller.Roomy loss
  | .reset => True

/-- What holds of any controller between two bounds, wrapped or not. -/
structure Counting (low high : UInt32) (s : Adapting) : Prop where
  ordered : low ≤ high
  minimum : s.controller.minBitrateKbps = low
  maximum : s.controller.maxBitrateKbps = high
  rising : s.controller.consecutiveGoodIntervals.toNat < 5

section Runs
variable {s t : Adapting} {c : AbrCall} {initial low high : UInt32}

theorem created_counting (initial : UInt32) (ordered : low ≤ high) :
    Counting low high (created initial low high) :=
  ⟨ordered, rfl, rfl, Nat.succ_pos 4⟩

theorem created_inBounds (initial : UInt32) (ordered : low ≤ high) :
    InBounds (created initial low high) := by
  change InBounds ⟨⟨AbrController.clamp initial low high, low, high, 0⟩, false⟩
  rw [AbrController.clamp]
  split
  · exact ⟨UInt32.le_refl _, ordered, rfl⟩
  · rename_i above
    split
    · exact ⟨ordered, UInt32.le_refl _, rfl⟩
    · rename_i below
      exact ⟨UInt32.not_lt.mp above, UInt32.not_lt.mp below, rfl⟩

theorem next_counting (counting : Counting low high s) (step : s.next c = some t) :
    Counting low high t := by
  obtain ⟨ordered, minimum, maximum, rising⟩ := counting
  cases c with
  | reset =>
    obtain rfl := Option.some.inj step
    exact ⟨ordered, minimum, maximum, Nat.succ_pos 4⟩
  | update rttMs loss =>
    obtain rfl := Option.some.inj step
    rw [AbrController.update]
    split
    · exact ⟨ordered, minimum, maximum, Nat.succ_pos 4⟩
    split
    · exact ⟨ordered, minimum, maximum, Nat.succ_pos 4⟩
    split
    · exact ⟨ordered, minimum, maximum, Nat.succ_pos 4⟩
    · rename_i few
      refine ⟨ordered, minimum, maximum, ?_⟩
      have few := UInt32.lt_iff_toNat_lt.mp (UInt32.not_le.mp few)
      exact few

/-- The controller as a rung, while it is in bounds. -/
theorem InBounds.shows (inBounds : InBounds s) (counting : Counting low high s) :
    ∃ r : Rung (Bitrate low high), s.controller.Shows r := by
  obtain ⟨_, rfl, rfl, rising⟩ := counting
  exact ⟨⟨⟨s.controller.currentBitrateKbps.toNat, UInt32.le_iff_toNat_le.mp inBounds.low,
    UInt32.le_iff_toNat_le.mp inBounds.high⟩, s.controller.consecutiveGoodIntervals.toNat⟩,
    rfl, rfl, rfl, rfl, rising⟩

theorem inBounds_of_shows {r : Rung (Bitrate low high)} (shows : s.controller.Shows r)
    (unwrapped : s.wrapped = false) : InBounds s := by
  obtain ⟨rfl, rfl, level, good, rising⟩ := shows
  refine ⟨UInt32.le_iff_toNat_le.mpr ?_, UInt32.le_iff_toNat_le.mpr ?_, unwrapped⟩
  · rw [level]
    exact r.level.2.1
  · rw [level]
    exact r.level.2.2

/-- A call keeps the bounds, without wrapping, exactly when it finds room. -/
theorem next_inBounds_iff (counting : Counting low high s) (inBounds : InBounds s)
    (step : s.next c = some t) : InBounds t ↔ RoomMeets s c := by
  cases c with
  | reset =>
    obtain rfl := Option.some.inj step
    refine ⟨fun _ => trivial, fun _ => ⟨?_, UInt32.le_refl _, inBounds.unwrapped⟩⟩
    exact UInt32.le_trans inBounds.low inBounds.high
  | update rttMs loss =>
    obtain rfl := Option.some.inj step
    have wraps := AbrController.wraps_iff loss counting.rising
    constructor
    · intro kept
      exact wraps.mp (Bool.or_eq_false_iff.mp kept.unwrapped).2
    · intro room
      obtain ⟨r, shows⟩ := inBounds.shows counting
      apply inBounds_of_shows (AbrController.update_shows shows rttMs room)
      exact Bool.or_eq_false_iff.mpr ⟨inBounds.unwrapped, wraps.mpr room⟩

theorem descends (counting : Counting low high s) (inBounds : InBounds s)
    (narrow : low.toNat < 100) :
    ∃ calls t, Run (Takes next) s calls t ∧ ¬InBounds t := by
  -- by induction on the bitrate, which each heavy loss lowers until one of them wraps
  induction bitrate : s.controller.currentBitrateKbps.toNat using Nat.strongRecOn
      generalizing s with
  | _ n ih =>
    let t : Adapting :=
      ⟨s.controller.update 0 .posInf, s.wrapped || s.controller.wraps .posInf⟩
    have step : s.next (.update 0 .posInf) = some t := rfl
    have kept := next_inBounds_iff counting inBounds step
    by_cases room : RoomMeets s (.update 0 .posInf)
    · have enough : 100 ≤ s.controller.currentBitrateKbps.toNat := room
      have reduced : t.controller.currentBitrateKbps.toNat =
          max (s.controller.currentBitrateKbps.toNat -
            max (s.controller.currentBitrateKbps.toNat / 2) 100)
              s.controller.minBitrateKbps.toNat := by
        exact AbrController.reduce_toNat (by simp only [UInt32.reduceToNat]; omega)
      rw [counting.minimum] at reduced
      obtain ⟨calls, u, run, leaves⟩ :=
        ih _ (by omega) (next_counting counting step) (kept.mpr room) rfl
      exact ⟨_, u, .next step run, leaves⟩
    · exact ⟨_, t, .single step, fun stays => room (kept.mp stays)⟩

theorem rises (counting : Counting low high s) (inBounds : InBounds s)
    (narrow : 2 ^ 32 ≤ raised high.toNat) :
    ∃ calls t, Run (Takes next) s calls t ∧ ¬InBounds t := by
  let good : AbrCall := .update 0 .negInf
  let counted (n : UInt32) : Adapting :=
    ⟨{ s.controller with
      currentBitrateKbps := s.controller.maxBitrateKbps, consecutiveGoodIntervals := n }, s.wrapped⟩
  have quiet (n : UInt32) (few : n + 1 < 5) (fits : (counted n).controller.wraps .negInf = false) :
      (counted n).next good = some (counted (n + 1)) := by
    change some (⟨(counted n).controller.update 0 .negInf, s.wrapped || _⟩ : Adapting) = _
    rw [fits, Bool.or_false]
    change some (⟨(if 5 ≤ n + 1 then _ else _), s.wrapped⟩ : Adapting) = _
    rw [if_neg (UInt32.not_le.mpr few)]
  have reset : s.next .reset = some (counted 0) := rfl
  have start := (next_inBounds_iff counting inBounds reset).mpr trivial
  have calm : Run (Takes next) s [.reset, good, good, good, good] (counted 4) :=
    .next reset (.next (quiet 0 (by decide) rfl) (.next (quiet 1 (by decide) rfl)
      (.next (quiet 2 (by decide) rfl) (.single (quiet 3 (by decide) rfl)))))
  have same : Counting low high (counted 4) :=
    ⟨counting.ordered, counting.minimum, counting.maximum, Nat.lt_succ_self 4⟩
  let last : Adapting :=
    ⟨(counted 4).controller.update 0 .negInf, s.wrapped || (counted 4).controller.wraps .negInf⟩
  have step : (counted 4).next good = some last := rfl
  refine ⟨_, last, calm.snoc step, fun stays => ?_⟩
  have room := (next_inBounds_iff same ⟨start.low, start.high, start.unwrapped⟩ step).mp stays
  have fits : raised s.controller.maxBitrateKbps.toNat < 2 ^ 32 := room (le_refl 5)
  rw [counting.maximum] at fits
  omega

theorem stays (counting : Counting low high s) (inBounds : InBounds s) (least : 100 ≤ low.toNat)
    (most : raised high.toNat < 2 ^ 32) {calls : List AbrCall} (run : Run (Takes next) s calls t) :
    InBounds t := by
  refine (run.invariant (P := fun s => Counting low high s ∧ InBounds s) ?_ ⟨counting, inBounds⟩).2
  rintro s c t ⟨counting, inBounds⟩ step
  refine ⟨next_counting counting step, (next_inBounds_iff counting inBounds step).mpr ?_⟩
  cases c with
  | reset => trivial
  | update rttMs loss =>
    have floor := UInt32.le_iff_toNat_le.mp inBounds.low
    have roof := UInt32.le_iff_toNat_le.mp inBounds.high
    rw [counting.minimum] at floor
    rw [counting.maximum] at roof
    exact AbrController.roomy_of_bounds least most floor roof

/-- The bitrate stays between its bounds, and no difference or sum wraps, in just
the runs whose calls all find room for what they take off or put on; that is all
runs if and only if both bounds leave that room. -/
theorem bitrate_bounded_iff (initial : UInt32) (ordered : low ≤ high) :
    (∀ calls s, Run (Keeping (Takes next) InBounds) (created initial low high) calls s ↔
      Run (Guarded (Takes next) RoomMeets) (created initial low high) calls s) ∧
    ((∀ calls s, Run (Takes next) (created initial low high) calls s → InBounds s) ↔
      100 ≤ low.toNat ∧ raised high.toNat < 2 ^ 32) := by
  have counting := created_counting initial ordered
  have inBounds := created_inBounds initial ordered
  refine ⟨fun calls s => ?_, ?_⟩
  · exact Run.keeping_iff_guarded (Q := Counting low high) next_counting next_inBounds_iff
      counting inBounds
  · constructor
    · intro always
      constructor
      · by_contra narrow
        obtain ⟨calls, t, run, leaves⟩ := descends counting inBounds (Nat.not_le.mp narrow)
        exact leaves (always calls t run)
      · by_contra narrow
        obtain ⟨calls, t, run, leaves⟩ := rises counting inBounds (Nat.not_lt.mp narrow)
        exact leaves (always calls t run)
    · rintro ⟨least, most⟩ calls s run
      exact stays counting inBounds least most run

/-- From 2000 between 200 and 5000 nothing wraps. -/
theorem bitrate_bounded_wide :
    (200 : UInt32) ≤ 5000 ∧
      ∀ calls s, Run (Takes next) (created 2000 200 5000) calls s → InBounds s :=
  ⟨by decide, (bitrate_bounded_iff 2000 (by decide)).2.mpr (by decide)⟩

/-- A heavy loss at 80 takes off 100. -/
theorem bitrate_wraps :
    ¬∀ initial low high : UInt32, initial ≠ 0 → low ≤ high → ∀ calls s,
      Run (Takes next) (created initial low high) calls s → InBounds s := by
  intro always
  have run : Run (Takes next) (created 80 50 5000) [.update 40 (.finite 10)] _ := .single rfl
  have stays := always 80 50 5000 (by decide) (by decide) _ _ run
  have roof : (4294967276 : UInt32) ≤ 5000 := stays.high
  exact absurd roof (by decide)

end Runs

end Adapting

end VideoCodec
