import VideoCodec.Webrtc.Backend

/-! The offer of one session: two callbacks claim it, and the one that succeeds
starts the WHIP worker when it finds a local description. -/
namespace VideoCodec.Webrtc

open WebrtcBackend

/-- `pc->localDescription()` becomes available, and the two callbacks. -/
inductive OfferStep where
  | described
  | localDescription
  | gathering (state : GatheringState)
  deriving DecidableEq, Repr

/-- A session between `ResetConnectState` and its teardown. -/
structure Offering where
  backend : WebrtcBackend
  described : Bool := false
  /-- WHIP create workers started. -/
  started : Nat := 0
  deriving DecidableEq, Repr

namespace Offering

/-- Behind the reset of `Connect`, with the new connection stored. -/
def fresh (b : WebrtcBackend) : Offering :=
  { backend := (b.joinWhipWorker.resetConnectState).storePc b.sessionGen }

/-- A callback of the session; a worker was started when there was none before. -/
def handle (o : Offering) (event : Event) : Offering :=
  let backend := o.backend.handle o.backend.sessionGen event
  { o with
    backend
    started := o.started +
      if o.backend.whipThread.isNone && backend.whipThread.isSome then 1 else 0 }

def step (o : Offering) : OfferStep → Offering
  | .described => { o with described := true }
  | .localDescription => o.handle .localDescription
  | .gathering state => o.handle (.gatheringStateChange state o.described)

def run (o : Offering) (steps : List OfferStep) : Offering := steps.foldl step o

/-- Nobody has claimed the offer. -/
structure Waiting (o : Offering) : Prop where
  pc : o.backend.pc.isSome
  incomplete : o.backend.gatheringComplete = false
  unclaimed : o.backend.offerReady = false
  idle : o.backend.whipThread = none
  none : o.started = 0

/-- The offer is claimed, which is the last time a worker may start. -/
structure Claimed (started : Nat) (o : Offering) : Prop where
  claimed : o.backend.offerReady = true
  count : o.started = started

section Steps
variable {o : Offering} {started : Nat}

theorem fresh_waiting (b : WebrtcBackend) : Waiting (fresh b) := ⟨rfl, rfl, rfl, rfl, rfl⟩

theorem Waiting.described (waiting : Waiting o) : Waiting (o.step .described) :=
  ⟨waiting.pc, waiting.incomplete, waiting.unclaimed, waiting.idle, waiting.none⟩

theorem Waiting.localDescription (waiting : Waiting o) : Waiting (o.step .localDescription) := by
  have unchanged : o.step .localDescription = o := by
    simp [step, Offering.handle, WebrtcBackend.handle, onLocalDescription, waiting.incomplete,
      waiting.idle]
  rwa [unchanged]

theorem Waiting.gathering (waiting : Waiting o) {state : GatheringState}
    (running : state ≠ .complete) : Waiting (o.step (.gathering state)) := by
  obtain ⟨pc, incomplete, unclaimed, idle, none⟩ := waiting
  constructor <;>
    simp [step, Offering.handle, WebrtcBackend.handle, onGatheringStateChange, *]

/-- The first completed gathering claims the offer, whether or not there is one. -/
theorem Waiting.complete (waiting : Waiting o) :
    Claimed (if o.described then 1 else 0) (o.step (.gathering .complete)) := by
  obtain ⟨pc, incomplete, unclaimed, idle, none⟩ := waiting
  have stored : o.backend.pc.isNone = false := by
    rw [Option.isNone_eq_false_iff]
    exact pc
  cases described : o.described with
  | true =>
    constructor <;>
      simp [step, Offering.handle, WebrtcBackend.handle, onGatheringStateChange, sendOfferToWhip, *]
  | false =>
    constructor <;>
      simp [step, Offering.handle, WebrtcBackend.handle, onGatheringStateChange, *]

theorem Claimed.step (claimed : Claimed started o) (next : OfferStep) :
    Claimed started (o.step next) := by
  obtain ⟨claimed, count⟩ := claimed
  cases next with
  | described => exact ⟨claimed, count⟩
  | localDescription =>
    constructor
    · simp [Offering.step, Offering.handle, WebrtcBackend.handle, onLocalDescription, claimed]
    · simp [Offering.step, Offering.handle, WebrtcBackend.handle, onLocalDescription, claimed,
        count]
  | gathering state =>
    by_cases complete : state = .complete
    · constructor <;>
        simp [Offering.step, Offering.handle, WebrtcBackend.handle, onGatheringStateChange, *]
    · constructor <;>
        simp [Offering.step, Offering.handle, WebrtcBackend.handle, onGatheringStateChange, *]

theorem Claimed.run (claimed : Claimed started o) (steps : List OfferStep) :
    Claimed started (o.run steps) := by
  induction steps generalizing o with
  | nil => exact claimed
  | cons next steps ih => exact ih (claimed.step next)

end Steps

end Offering

/-- Whether the first callback that reports gathering complete finds a local
description, if there is such a callback. -/
def firstComplete (described : Bool) : List OfferStep → Option Bool
  | [] => none
  | .described :: steps => firstComplete true steps
  | .localDescription :: steps => firstComplete described steps
  | .gathering .complete :: _ => some described
  | .gathering _ :: steps => firstComplete described steps

/-- Gathering has completed, a local description exists, and both callbacks have run. -/
def Announced (steps : List OfferStep) : Prop :=
  .described ∈ steps ∧ .localDescription ∈ steps ∧ .gathering .complete ∈ steps

instance (steps : List OfferStep) : Decidable (Announced steps) :=
  inferInstanceAs (Decidable (_ ∧ _ ∧ _))

/-- At most one worker is started, and exactly one once all is announced. -/
def OfferedOnce (steps : List OfferStep) (o : Offering) : Prop :=
  o.started ≤ 1 ∧ (Announced steps → o.started = 1)

namespace Offering

/-- The workers a session starts are decided by its first completed gathering. -/
theorem Waiting.started_run {o : Offering} (waiting : Waiting o) (steps : List OfferStep) :
    (o.run steps).started = if firstComplete o.described steps = some true then 1 else 0 := by
  induction steps generalizing o with
  | nil => exact waiting.none
  | cons next steps ih =>
    rcases next with _ | _ | state
    · exact ih waiting.described
    · have same : (o.step .localDescription).described = o.described := rfl
      rw [run, List.foldl_cons, ← run, ih waiting.localDescription, same]
      rfl
    · have same : (o.step (.gathering state)).described = o.described := rfl
      cases state with
      | new | inProgress =>
        rw [run, List.foldl_cons, ← run, ih (waiting.gathering (by decide)), same]
        rfl
      | complete =>
        rw [run, List.foldl_cons, ← run, (waiting.complete.run steps).count, firstComplete]
        simp

end Offering

/-- A session offers once exactly when gathering does not complete before the
local description is there, or not everything is announced. -/
theorem offeredOnce_iff (b : WebrtcBackend) (steps : List OfferStep) :
    OfferedOnce steps ((Offering.fresh b).run steps) ↔
      (Announced steps → firstComplete false steps = some true) := by
  have started := (Offering.fresh_waiting b).started_run steps
  have undescribed : (Offering.fresh b).described = false := rfl
  rw [undescribed] at started
  rw [OfferedOnce, started]
  constructor
  · rintro ⟨_, once⟩ announced
    by_cases found : firstComplete false steps = some true
    · exact found
    · have one := once announced
      rw [if_neg found] at one
      exact absurd one (by decide)
  · intro found
    constructor
    · split <;> decide
    · exact fun announced => if_pos (found announced)

/-- The offer is lost when gathering completes first: the claim is spent, and
the callback with the description finds it taken. -/
theorem complete_before_description_never_offers :
    ¬ ∀ (b : WebrtcBackend) (steps : List OfferStep),
      OfferedOnce steps ((Offering.fresh b).run steps) := by
  intro always
  have once := (always { config := { backendType := "webrtc", remoteUrl := "http://host/whip" } }
    [.gathering .complete, .described, .localDescription]).2 (by decide)
  exact absurd once (by decide)

end VideoCodec.Webrtc
