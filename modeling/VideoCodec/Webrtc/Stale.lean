import VideoCodec.Transition.Run
import VideoCodec.Webrtc.Handlers
import VideoCodec.Webrtc.Connect

/-! What a session that is over still does to the flags of a newer one: callbacks
and sends take their operations one at a time, against the caller and against
each other. `reset` and `spoiled` record history that no thread reads. -/
namespace VideoCodec

open Transition Atomic

namespace WebrtcBackend

/-- All flags that `ResetConnectState` clears. -/
def flags (b : WebrtcBackend) : List Bool :=
  [b.offerReady, b.gatheringComplete, b.answerReady, b.connectedState, b.trackOpen, b.pcTerminal,
    b.firstFrameSent, b.streamingReported]

/-- Once session `gen` is over, the thread writes no flag any more. -/
def Inert (gen : Nat) (thread : Thread α) : Prop :=
  thread.Avoids (fun op => op.sets = true) (Op.stale gen)

/-- The accesses of `ResetConnectState`, in order. -/
def resetSections : List (WebrtcBackend → WebrtcBackend) :=
  [fun b => { b with offerReady := false }, fun b => { b with gatheringComplete := false },
    fun b => { b with answerReady := false }, fun b => { b with connectedState := false },
    fun b => { b with trackOpen := false }, fun b => { b with pcTerminal := false },
    fun b => { b with firstFrameSent := false }, fun b => { b with streamingReported := false },
    fun b => { b with sendEnabled := false }, fun b => { b with connectResult := .kOk }]

theorem resetSections_all (b : WebrtcBackend) :
    resetSections.foldl (fun b access => access b) b = b.resetConnectState := rfl

/-- What only `Connect`, `Disconnect` and the teardown write. -/
structure Handles (b c : WebrtcBackend) : Prop where
  gen : c.sessionGen = b.sessionGen
  track : c.videoTrack = b.videoTrack

theorem resetSections_handles (b : WebrtcBackend) :
    ∀ access ∈ resetSections, Handles b (access b) := by
  rw [resetSections]
  simp only [List.forall_mem_cons]
  exact ⟨⟨rfl, rfl⟩, ⟨rfl, rfl⟩, ⟨rfl, rfl⟩, ⟨rfl, rfl⟩, ⟨rfl, rfl⟩, ⟨rfl, rfl⟩, ⟨rfl, rfl⟩,
    ⟨rfl, rfl⟩, ⟨rfl, rfl⟩, ⟨rfl, rfl⟩, fun _ none => absurd none List.not_mem_nil⟩

section Operations
variable (b : WebrtcBackend) {op : Op} {gen : Nat}

theorem effect_handles (op : Op) : Handles b (op.effect b) := by
  cases op with
  | store flag value => cases flag <;> exact ⟨rfl, rfl⟩
  | exchange flag => cases flag <;> exact ⟨rfl, rfl⟩
  | sendOffer gen =>
    obtain ⟨thread, sent⟩ := b.sendOfferToWhip_frame gen
    rw [Op.effect, sent]
    exact ⟨rfl, rfl⟩
  | fail st error =>
    obtain ⟨status, failed⟩ := b.failConnect_frame st error
    rw [Op.effect, failed]
    exact ⟨rfl, rfl⟩
  | _ => exact ⟨rfl, rfl⟩

theorem effect_flags (reads : op.sets = false) : (op.effect b).flags = b.flags := by
  cases op with
  | store | exchange | storeAnswer | fail => cases reads
  | sendOffer gen =>
    obtain ⟨thread, sent⟩ := b.sendOfferToWhip_frame gen
    rw [Op.effect, sent]
    rfl
  | _ => rfl

theorem effect_thread (op : Op) :
    (op.effect b).whipThread = b.whipThread ∨ ∃ gen, op = .sendOffer gen := by
  cases op with
  | sendOffer gen => exact .inr ⟨gen, rfl⟩
  | store flag value => exact .inl (by cases flag <;> rfl)
  | exchange flag => exact .inl (by cases flag <;> rfl)
  | fail st error =>
    obtain ⟨status, failed⟩ := b.failConnect_frame st error
    exact .inl (by rw [Op.effect, failed])
  | _ => exact .inl rfl

/-- A worker is started for the current session only. -/
theorem effect_starts {op : Op} {gen : Nat} (idle : b.whipThread = none)
    (started : (op.effect b).whipThread = some gen) : gen = b.sessionGen := by
  rcases b.effect_thread op with same | ⟨other, rfl⟩
  · exact absurd (idle.symm.trans (same.symm.trans started)) (by simp)
  · change (b.sendOfferToWhip other).whipThread = some gen at started
    rw [sendOfferToWhip] at started
    split at started
    · exact absurd (idle.symm.trans started) (by simp)
    · rename_i current
      simp only [Bool.or_eq_true, decide_eq_true_eq, not_or, not_not] at current
      exact (Option.some.inj started).symm.trans current.1

/-- A generation that has been passed is not current any more. -/
theorem stale_of_answers {op : Op} {answer : op.Ans} {gen : Nat}
    (possible : op.answers b answer) (past : gen < b.sessionGen) : op.stale gen answer := by
  cases op with
  | isCurrent other =>
    rintro rfl
    exact possible.trans (decide_eq_false (Nat.ne_of_lt past))
  | _ => exact trivial

/-- Every callback looks at the generation first. -/
theorem handler_inert (gen : Nat) (callback : Callback) : Inert gen (callback.handler gen) := by
  cases callback <;>
  · refine ⟨Bool.false_ne_true, fun current past => ?_⟩
    obtain rfl := past rfl
    exact trivial

end Operations

end WebrtcBackend

namespace Webrtc

open WebrtcBackend

/-- A call under way, and the session that it acts for: that of its registration,
or of the track that `SendVideo` has taken. -/
structure Pending where
  gen : Option Nat
  rest : Thread Unit

/-- The session that a call acts for behind an operation. -/
def behalf (gen : Option Nat) : (op : Op) → op.Ans → Option Nat
  | .captureTrack, track => track
  | _, _ => gen

structure Race where
  sys : Sys
  calls : List Pending := []
  /-- `whip_thread_`, with what its function still does. -/
  worker : Option (Nat × Thread Unit) := none
  /-- What the next or current `ResetConnectState` still does. -/
  resetting : List (WebrtcBackend → WebrtcBackend) := resetSections
  /-- The session whose `ResetConnectState` was the last to complete. -/
  reset : Nat := 0
  /-- Whether a step for an older session has changed a flag behind that. -/
  spoiled : Bool := false

namespace Race

def created (config : StreamConfig) : Race := { sys := .created config }

/-- An operation of a thread that acts for `gen`. -/
def perform (s : Race) (gen : Option Nat) (op : Op) : Race :=
  { s with
    sys := { s.sys with backend := op.effect s.sys.backend }
    worker :=
      if s.sys.backend.whipThread.isNone then
        (op.effect s.sys.backend).whipThread.map fun gen => (gen, Thread.whipCreateWorker gen)
      else s.worker
    spoiled := s.spoiled ||
      (gen.any (· < s.reset) && decide ((op.effect s.sys.backend).flags ≠ s.sys.backend.flags)) }

end Race

/-- A section of `Connect`, of `Disconnect` or of the teardown. -/
inductive CallerStep : Sys → Label → Sys → Prop where
  | connect (step : ConnectStep s l t) : CallerStep s l t
  | disconnect (step : DisconnectStep s l t) : CallerStep s l t
  | teardown (step : TeardownStep s t) : CallerStep s .proceed t

inductive RaceLabel where
  | caller (label : Label)
  | clear
  | cleared
  | arrive (gen : Nat) (callback : Callback)
  | send
  | call
  | work

/-- One atomic access or critical section of some thread. `ResetConnectState` is
taken access by access; the join waits for the worker. -/
inductive RaceStep : Race → RaceLabel → Race → Prop where
  | caller {s : Race} (step : CallerStep s.sys l t) (elsewhere : s.sys.place ≠ .resets)
      (joined : ∀ after, s.sys.place = .joins after →
        ∀ gen rest, s.worker = some (gen, rest) → rest = .done ()) :
      RaceStep s (.caller l)
        { s with
          sys := t
          worker := if t.backend.whipThread.isNone then none else s.worker }
  | clear {s : Race} (resets : s.sys.place = .resets)
      (more : s.resetting = access :: next :: rest) :
      RaceStep s .clear
        { s with
          sys := { s.sys with backend := access s.sys.backend }
          resetting := next :: rest }
  | cleared {s : Race} (resets : s.sys.place = .resets) (last : s.resetting = [access]) :
      RaceStep s .cleared
        { s with
          sys := s.sys.goOn .loads (access s.sys.backend)
          resetting := resetSections
          reset := s.sys.backend.sessionGen }
  | arrive {s : Race} (registered : gen ∈ s.sys.opened) (callback : Callback) :
      RaceStep s (.arrive gen callback)
        { s with calls := s.calls ++ [⟨some gen, callback.handler gen⟩] }
  | send {s : Race} :
      RaceStep s .send
        { s with calls := s.calls ++ [⟨none, Thread.sendVideo >>= fun _ => pure ()⟩] }
  | call {s : Race} {op : Op} {answer : op.Ans} {next : op.Ans → Thread Unit}
      (running : s.calls = before ++ ⟨gen, .ask op next⟩ :: others)
      (possible : op.answers s.sys.backend answer) :
      RaceStep s .call
        { s.perform gen op with calls := before ++ ⟨behalf gen op answer, next answer⟩ :: others }
  | work {s : Race} {op : Op} {answer : op.Ans} {next : op.Ans → Thread Unit}
      (running : s.worker = some (gen, .ask op next))
      (possible : op.answers s.sys.backend answer) :
      RaceStep s .work { s.perform (some gen) op with worker := some (gen, next answer) }

/-- No step for an older session has changed a flag of a newer one. -/
def Unspoiled (s : Race) : Prop := s.spoiled = false

/-- When `ResetConnectState` completes, no call for an older session can still
write a flag. -/
def ResetMeets (s : Race) : RaceLabel → Prop
  | .cleared => ∀ call ∈ s.calls, ∀ gen < s.sys.backend.sessionGen,
      call.gen = some gen → Inert gen call.rest
  | _ => True

namespace Place

/-- Between the drop of the handles and the new track. -/
def trackless : Place → Bool
  | .joins _ | .resets | .loads | .creates _ | .registers _ => true
  | _ => false

/-- The session that `Connect` builds. -/
def building : Place → Option Nat
  | .creates gen | .registers gen | .adds gen => some gen
  | _ => none

end Place

theorem inert_of_registered {gen old : Nat} {callback : Callback} (same : some gen = some old) :
    Inert old (callback.handler gen) := by
  obtain rfl := Option.some.inj same
  exact handler_inert _ callback

structure Guarding (s : Race) : Prop where
  clean : Unspoiled s
  reset : s.reset ≤ s.sys.backend.sessionGen
  resetting : ∀ access ∈ s.resetting, access ∈ resetSections
  trackless : s.sys.place.trackless = true → s.sys.backend.videoTrack = none
  track : ∀ gen, s.sys.backend.videoTrack = some gen → s.reset ≤ gen
  building : ∀ gen, s.sys.place.building = some gen → s.reset ≤ gen
  worker : ∀ gen rest, s.worker = some (gen, rest) → s.reset ≤ gen
  fresh : s.sys.place = .resets → ∀ gen rest, s.worker = some (gen, rest) →
    gen = s.sys.backend.sessionGen
  calls : ∀ call ∈ s.calls, ∀ gen < s.reset, call.gen = some gen → Inert gen call.rest

theorem created_guarding (config : StreamConfig) : Guarding (.created config) where
  clean := rfl
  reset := Nat.le_refl _
  resetting _ member := member
  trackless _ := rfl
  track _ held := by cases held
  building _ held := by cases held
  worker _ _ running := by cases running
  fresh _ _ _ running := by cases running
  calls _ member := absurd member List.not_mem_nil

section Steps
variable {s t : Race} {l : RaceLabel}

/-- What the sections of the caller do to the members at stake. -/
structure Moved (s t : Sys) : Prop where
  gen : s.backend.sessionGen ≤ t.backend.sessionGen
  trackless : t.place.trackless = true → t.backend.videoTrack = none
  track : ∀ gen, t.backend.videoTrack = some gen →
    s.backend.videoTrack = some gen ∨ s.place.building = some gen
  building : ∀ gen, t.place.building = some gen →
    s.place.building = some gen ∨ gen = s.backend.sessionGen
  resets : t.place = .resets → t.backend.whipThread = none

theorem TeardownStep.moved {s t : Sys}
    (trackless : s.place.trackless = true → s.backend.videoTrack = none)
    (step : TeardownStep s t) : Moved s t := by
  cases step with
  | joins joining =>
    rename_i after
    have none : s.backend.videoTrack = none := trackless (by rw [joining]; rfl)
    have backend : (s.tornDown s.backend.joinWhipWorker after).backend =
        s.backend.joinWhipWorker := by cases after <;> rfl
    refine ⟨?_, fun _ => ?_, fun gen held => ?_, fun gen building => ?_, fun _ => ?_⟩
    · rw [backend]
      exact Nat.le_refl _
    · rw [backend]
      exact none
    · rw [backend] at held
      exact absurd (none.symm.trans held) (by simp)
    · cases after <;> cases building
    · rw [backend]
      rfl
  | advances at_ | disables at_ | drops at_ =>
    constructor <;> simp [at_, Place.trackless, Place.building]

theorem CallerStep.moved {s t : Sys} {l : Label}
    (trackless : s.place.trackless = true → s.backend.videoTrack = none)
    (elsewhere : s.place ≠ .resets) (step : CallerStep s l t) : Moved s t := by
  cases step with
  | connect step => cases step <;> constructor <;> simp_all [Place.trackless, Place.building]
  | disconnect step =>
    cases step <;> constructor <;> simp_all [Place.trackless, Place.building, notifyStreamState]
  | teardown step => exact step.moved trackless

theorem Guarding.caller {sys : Sys} (guarding : Guarding s) (moved : Moved s.sys sys) :
    Guarding { s with
      sys
      worker := if sys.backend.whipThread.isNone then none else s.worker } := by
  refine ⟨guarding.clean, Nat.le_trans guarding.reset moved.gen, guarding.resetting,
    moved.trackless, fun gen held => ?_, fun gen building => ?_, fun gen rest running => ?_,
    fun resets gen rest running => ?_, guarding.calls⟩
  · rcases moved.track gen held with held | building
    · exact guarding.track gen held
    · exact guarding.building gen building
  · rcases moved.building gen building with building | rfl
    · exact guarding.building gen building
    · exact guarding.reset
  · dsimp only at running
    split at running
    · cases running
    · exact guarding.worker gen rest running
  · dsimp only at running
    rw [moved.resets resets] at running
    cases running

/-- An access of `ResetConnectState` other than the last. -/
theorem Guarding.clear {access next : WebrtcBackend → WebrtcBackend}
    {rest : List (WebrtcBackend → WebrtcBackend)} (guarding : Guarding s)
    (more : s.resetting = access :: next :: rest) :
    Guarding { s with
      sys := { s.sys with backend := access s.sys.backend }
      resetting := next :: rest } := by
  have known : access ∈ resetSections := by
    apply guarding.resetting
    rw [more]
    exact List.mem_cons_self
  obtain ⟨gen, track⟩ := s.sys.backend.resetSections_handles access known
  obtain ⟨clean, reset, resetting, trackless, held, building, worker, fresh, calls⟩ := guarding
  refine ⟨clean, ?_, fun access member => ?_, ?_, ?_, building, worker, ?_, calls⟩
  · rw [gen]
    exact reset
  · apply resetting
    rw [more]
    exact List.mem_cons_of_mem _ member
  · rw [track]
    exact trackless
  · rw [track]
    exact held
  · rw [gen]
    exact fresh

/-- The last one, behind which older calls are inert. -/
theorem Guarding.cleared {access : WebrtcBackend → WebrtcBackend} (guarding : Guarding s)
    (resets : s.sys.place = .resets) (last : s.resetting = [access])
    (inert : ∀ call ∈ s.calls, ∀ gen < s.sys.backend.sessionGen, call.gen = some gen →
      Inert gen call.rest) :
    Guarding { s with
      sys := s.sys.goOn .loads (access s.sys.backend)
      resetting := resetSections
      reset := s.sys.backend.sessionGen } := by
  have known : access ∈ resetSections := by
    apply guarding.resetting
    rw [last]
    exact List.mem_cons_self
  have none : s.sys.backend.videoTrack = none := guarding.trackless (by rw [resets]; rfl)
  obtain ⟨gen, track⟩ := s.sys.backend.resetSections_handles access known
  refine ⟨guarding.clean, Nat.le_of_eq gen.symm, fun _ member => member, fun _ => ?_,
    fun gen held => ?_, fun _ building => ?_, fun gen rest running => ?_, fun loads => ?_, inert⟩
  · exact track.trans none
  · exact absurd ((track.trans none).symm.trans held) (by simp)
  · cases building
  · exact Nat.le_of_eq (guarding.fresh resets gen rest running).symm
  · cases loads

/-- A call that comes in writes no flag for an older session. -/
theorem Guarding.calls_append {call : Pending} (guarding : Guarding s)
    (inert : ∀ gen < s.reset, call.gen = some gen → Inert gen call.rest) :
    Guarding { s with calls := s.calls ++ [call] } := by
  obtain ⟨clean, reset, resetting, trackless, track, building, worker, fresh, calls⟩ := guarding
  refine ⟨clean, reset, resetting, trackless, track, building, worker, fresh, ?_⟩
  exact List.forall_mem_append.mpr ⟨calls, List.forall_mem_singleton.mpr inert⟩

theorem Guarding.perform (guarding : Guarding s) (gen : Option Nat) (op : Op)
    (reads : ∀ old < s.reset, gen = some old → op.sets = false) : Guarding (s.perform gen op) := by
  obtain ⟨same, track⟩ := s.sys.backend.effect_handles op
  have started : ∀ other rest, (s.perform gen op).worker = some (other, rest) →
      s.worker = some (other, rest) ∨ other = s.sys.backend.sessionGen := by
    intro other rest running
    rw [Race.perform] at running
    dsimp only at running
    split at running
    · rename_i idle
      obtain ⟨_, thread, pair⟩ := Option.map_eq_some_iff.mp running
      obtain ⟨rfl, _⟩ := Prod.mk.inj pair
      exact .inr (s.sys.backend.effect_starts (Option.isNone_iff_eq_none.mp idle) thread)
    · exact .inl running
  refine ⟨?_, ?_, guarding.resetting, ?_, ?_, guarding.building, fun other rest running => ?_,
    fun resets other rest running => ?_, guarding.calls⟩
  · have clean : s.spoiled = false := guarding.clean
    rw [Unspoiled, Race.perform]
    rw [clean, Bool.false_or]
    cases gen with
    | none => rfl
    | some old =>
      by_cases past : old < s.reset
      · rw [s.sys.backend.effect_flags (reads old past rfl)]
        simp
      · simp [past]
  · rw [Race.perform, same]
    exact guarding.reset
  · rw [Race.perform, track]
    exact guarding.trackless
  · rw [Race.perform, track]
    exact guarding.track
  · rcases started other rest running with before | rfl
    · exact guarding.worker other rest before
    · exact guarding.reset
  · rw [Race.perform, same]
    rcases started other rest running with before | current
    · exact guarding.fresh resets other rest before
    · exact current

/-- `SendVideo` takes a track of no older session; other operations leave the call
to its session. -/
theorem behalf_cases {op : Op} {answer : op.Ans} {b : WebrtcBackend} (gen : Option Nat)
    (possible : op.answers b answer) :
    behalf gen op answer = gen ∨ behalf gen op answer = b.videoTrack := by
  cases op with
  | captureTrack => exact .inr possible
  | _ => exact .inl rfl

theorem Guarding.call {before others : List Pending} {gen : Option Nat} {op : Op}
    {answer : op.Ans} {next : op.Ans → Thread Unit} (guarding : Guarding s)
    (running : s.calls = before ++ ⟨gen, .ask op next⟩ :: others)
    (possible : op.answers s.sys.backend answer) :
    Guarding { s.perform gen op with
      calls := before ++ ⟨behalf gen op answer, next answer⟩ :: others } := by
  have calls := guarding.calls
  rw [running] at calls
  obtain ⟨earlier, calls⟩ := List.forall_mem_append.mp calls
  obtain ⟨own, later⟩ := List.forall_mem_cons.mp calls
  obtain ⟨clean, reset, resetting, trackless, track, building, worker, fresh, _⟩ :=
    guarding.perform gen op fun old past same => by
      have reads := (own old past same).1
      simpa using reads
  refine ⟨clean, reset, resetting, trackless, track, building, worker, fresh, ?_⟩
  refine List.forall_mem_append.mpr ⟨earlier, List.forall_mem_cons.mpr ⟨?_, later⟩⟩
  intro old past same
  rcases behalf_cases gen possible with kept | taken
  · have inert := own old past (kept.symm.trans same)
    exact inert.2 answer (stale_of_answers _ possible (Nat.lt_of_lt_of_le past guarding.reset))
  · exact absurd (guarding.track old (taken.symm.trans same)) (Nat.not_le.mpr past)

theorem Guarding.work {gen : Nat} {op : Op} {answer : op.Ans} {next : op.Ans → Thread Unit}
    (guarding : Guarding s) (running : s.worker = some (gen, .ask op next)) :
    Guarding { s.perform (some gen) op with worker := some (gen, next answer) } := by
  have current := guarding.worker gen _ running
  obtain ⟨clean, reset, resetting, trackless, track, building, worker, fresh, calls⟩ :=
    guarding.perform (some gen) op fun old past same => by
      obtain rfl := Option.some.inj same
      exact absurd current (Nat.not_le.mpr past)
  refine ⟨clean, reset, resetting, trackless, track, building, fun other rest going => ?_,
    fun resets other rest going => ?_, calls⟩
  · obtain ⟨rfl, _⟩ := Prod.mk.inj (Option.some.inj going)
    exact current
  · obtain ⟨rfl, _⟩ := Prod.mk.inj (Option.some.inj going)
    rw [Race.perform, (s.sys.backend.effect_handles op).gen]
    exact guarding.fresh resets _ _ running

theorem RaceStep.guarding (guarding : Guarding s) (meets : ResetMeets s l)
    (step : RaceStep s l t) : Guarding t := by
  cases step with
  | caller step elsewhere joined =>
    exact guarding.caller (step.moved guarding.trackless elsewhere)
  | clear resets more => exact guarding.clear more
  | cleared resets last => exact guarding.cleared resets last meets
  | arrive registered callback => exact guarding.calls_append fun _ _ => inert_of_registered
  | send => exact guarding.calls_append fun _ _ same => by cases same
  | call running possible => exact guarding.call running possible
  | work running possible => exact guarding.work running

end Steps

/-- In every run in which no call for an older session can still write a flag when
`ResetConnectState` completes, none changes a flag behind that. -/
theorem stale_changes_nothing (config : StreamConfig) {labels : List RaceLabel} {s : Race}
    (run : Run (Guarded RaceStep ResetMeets) (.created config) labels s) :
    Run (Keeping RaceStep Unspoiled) (.created config) labels s :=
  run.keeping_of_guarded (fun guarding meets step => step.guarding guarding meets)
    Guarding.clean (created_guarding config)

section Undisturbed
variable {s : Race}

/-- A section of the caller while no worker runs. -/
theorem caller_idle {sys : Sys} {l : Label} (step : CallerStep s.sys l sys)
    (elsewhere : s.sys.place ≠ .resets) (idle : s.worker = none) :
    Guarded RaceStep ResetMeets s (.caller l) { s with sys } := by
  have stepped := RaceStep.caller step elsewhere fun _ _ _ _ running =>
    nomatch idle.symm.trans running
  rw [idle, ite_self, ← idle] at stepped
  exact ⟨stepped, trivial⟩

theorem teardown_run {after : After} (advancing : s.sys.place = .advances after)
    (idle : s.worker = none) :
    Run (Guarded RaceStep ResetMeets) s (List.replicate 4 (.caller .proceed))
      { s with
        sys := s.sys.tornDown
          s.sys.backend.advanceSession.disableSend.dropHandles.joinWhipWorker after } := by
  refine .next (caller_idle (.teardown (.advances advancing)) (by simp [advancing]) idle) <|
    .next (caller_idle (.teardown (.disables rfl)) nofun idle) <|
    .next (caller_idle (.teardown (.drops rfl)) nofun idle) <| ?_
  have joined := caller_idle (s := { s with
      sys := s.sys.goOn (.joins after) s.sys.backend.advanceSession.disableSend.dropHandles })
    (.teardown (.joins rfl)) nofun idle
  cases after <;> exact .single joined

/-- All accesses of `ResetConnectState` but the last. -/
theorem clears_run (resets : s.sys.place = .resets) (first : s.resetting = resetSections) :
    Run (Guarded RaceStep ResetMeets) s (List.replicate 9 .clear)
      { s with
        sys := { s.sys with
          backend := (resetSections.take 9).foldl (fun b access => access b) s.sys.backend }
        resetting := resetSections.drop 9 } :=
  .next ⟨.clear resets first, trivial⟩ <| .next ⟨.clear resets rfl, trivial⟩ <|
  .next ⟨.clear resets rfl, trivial⟩ <| .next ⟨.clear resets rfl, trivial⟩ <|
  .next ⟨.clear resets rfl, trivial⟩ <| .next ⟨.clear resets rfl, trivial⟩ <|
  .next ⟨.clear resets rfl, trivial⟩ <| .next ⟨.clear resets rfl, trivial⟩ <|
  .single ⟨.clear resets rfl, trivial⟩

/-- `Connect` up to the last access of `ResetConnectState`. -/
theorem connect_run (config : StreamConfig) (named : config.remoteUrl.isEmpty = false)
    (calling : s.sys.place = .idle) (idle : s.worker = none)
    (first : s.resetting = resetSections) :
    Run (Guarded RaceStep ResetMeets) s
      ([.caller (.connect config), .caller .proceed] ++ List.replicate 4 (.caller .proceed) ++
        List.replicate 9 .clear)
      { s with
        sys := { s.sys with
          place := .resets
          backend :=
            let b := (s.sys.backend.storeConfig config).storeEndpoint.advanceSession.disableSend
            (resetSections.take 9).foldl (fun b access => access b) b.dropHandles.joinWhipWorker
          call := .connect config
          returned := none }
        resetting := resetSections.drop 9 } := by
  have accepted : Run (Guarded RaceStep ResetMeets) s _ _ :=
    .next (caller_idle (.connect (.connect calling config)) (by simp [calling]) idle) <|
    .single (caller_idle (.connect (.accepts rfl named)) nofun idle)
  exact (accepted.trans (teardown_run rfl idle)).trans (clears_run rfl first)

/-- `ResetConnectState` completes without calls, and the session is opened. -/
theorem opens_run {access : WebrtcBackend → WebrtcBackend} (resets : s.sys.place = .resets)
    (last : s.resetting = [access]) (idle : s.worker = none) (free : s.calls = []) :
    Run (Guarded RaceStep ResetMeets) s (.cleared :: List.replicate 3 (.caller .proceed))
      { s with
        sys :=
          let b := access s.sys.backend
          { s.sys with
            place := .adds b.sessionGen
            backend := b.storePc b.sessionGen
            opened := b.sessionGen :: s.sys.opened
            session := b.sessionGen }
        resetting := resetSections
        reset := s.sys.backend.sessionGen } :=
  .next ⟨.cleared resets last, by simp [ResetMeets, free]⟩ <|
  .next (caller_idle (.connect (.loads rfl)) nofun idle) <|
  .next (caller_idle (.connect (.creates rfl)) nofun idle) <|
  .single (caller_idle (.connect (.registers rfl)) nofun idle)

/-- No answer comes to the session. -/
theorem timeout_run {gen : Nat} (adding : s.sys.place = .adds gen) (idle : s.worker = none)
    (silent : s.sys.backend.answerSignalled = false) :
    Run (Guarded RaceStep ResetMeets) s
      ([.caller .proceed, .caller .timeout] ++ List.replicate 4 (.caller .proceed))
      { s with
        sys :=
          let b := (s.sys.backend.storeTrack gen).advanceSession.disableSend
          s.sys.ret .kTimeout b.dropHandles.joinWhipWorker } := by
  have timed : Run (Guarded RaceStep ResetMeets) s _ _ :=
    .next (caller_idle (.connect (.adds adding)) (by simp [adding]) idle) <|
    .single (caller_idle (.connect (.answerTimeout rfl silent)) nofun idle)
  have torn := timed.trans (teardown_run rfl idle)
  exact torn

/-- A callback that has not looked at the generation yet does not count. -/
theorem cleared_waiting {gen : Nat} {access : WebrtcBackend → WebrtcBackend} (callback : Callback)
    (resets : s.sys.place = .resets) (last : s.resetting = [access])
    (waiting : s.calls = [⟨some gen, callback.handler gen⟩]) :
    Guarded RaceStep ResetMeets s .cleared
      { s with
        sys := s.sys.goOn .loads (access s.sys.backend)
        resetting := resetSections
        reset := s.sys.backend.sessionGen } := by
  refine ⟨.cleared resets last, ?_⟩
  rw [ResetMeets, waiting]
  exact List.forall_mem_singleton.mpr fun _ _ => inert_of_registered

theorem only_call {gen : Option Nat} (op : Op) (answer : op.Ans)
    {next : op.Ans → Thread Unit} (running : s.calls = [⟨gen, .ask op next⟩])
    (possible : op.answers s.sys.backend answer) :
    Guarded RaceStep ResetMeets s .call
      { s.perform gen op with calls := [⟨behalf gen op answer, next answer⟩] } :=
  ⟨.call (running.trans (List.nil_append _).symm) possible, trivial⟩

end Undisturbed

/-- `Connected` of the first session arrives before the teardown and looks at the
generation behind the reset of the second one. -/
theorem stale_connected_refused :
    ∃ labels s, Run (Keeping RaceStep Unspoiled)
        (.created { backendType := "webrtc", remoteUrl := "http" }) labels s ∧
      s.reset = 3 ∧ s.calls = [⟨some 1, .done ()⟩] := by
  have opened := (connect_run { backendType := "webrtc", remoteUrl := "http" }
    (s := .created { backendType := "webrtc", remoteUrl := "http" }) rfl rfl rfl rfl).trans
    (opens_run rfl rfl rfl rfl)
  have arrived := opened.snoc ⟨.arrive List.mem_cons_self (.stateChange .connected), trivial⟩
  have again := (arrived.trans (timeout_run rfl rfl rfl)).trans
    (connect_run { backendType := "webrtc", remoteUrl := "http" } rfl rfl rfl rfl)
  have run := again.trans <|
    .next (cleared_waiting (.stateChange .connected) rfl rfl rfl) <|
    .single (only_call (.isCurrent 1) false rfl rfl)
  exact ⟨_, _, stale_changes_nothing _ run, by decide, rfl⟩

/-- `Connected` of the first session passes its check before the teardown and is
stored behind the reset of the second one. -/
theorem stale_connected_spoils :
    ∃ labels s, Run RaceStep (.created { backendType := "webrtc", remoteUrl := "http" }) labels s ∧
      s.spoiled = true ∧ s.reset = 3 ∧ s.sys.backend.connectedState = true := by
  have opened := (connect_run { backendType := "webrtc", remoteUrl := "http" }
    (s := .created { backendType := "webrtc", remoteUrl := "http" }) rfl rfl rfl rfl).trans
    (opens_run rfl rfl rfl rfl)
  have checked := opened.trans <|
    .next ⟨.arrive List.mem_cons_self (.stateChange .connected), trivial⟩ <|
    .single (only_call (.isCurrent 1) true rfl rfl)
  have again := (checked.trans (timeout_run rfl rfl rfl)).trans
    (connect_run { backendType := "webrtc", remoteUrl := "http" } rfl rfl rfl rfl)
  have run := again.of_guarded.trans <|
    .next (.cleared rfl rfl) <|
    .single (only_call (.store .connectedState true) () rfl trivial).1
  exact ⟨_, _, run, by decide, by decide, by decide⟩

end Webrtc

end VideoCodec
