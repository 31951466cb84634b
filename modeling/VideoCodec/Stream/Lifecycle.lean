import VideoCodec.Stream.Invariant

/-! What a return of `Init` means, over every sequence of lifecycle calls and
every interleaving with the other threads. -/
namespace VideoCodec

open Transition

/-- After `UpdateConfig` with any valid configuration, `Init` goes on to create
a backend. -/
def StreamImpl.Reinitialisable (s : StreamImpl) : Prop :=
  ∀ config, StreamImpl.validateConfig config = .kOk →
    (s.updateConfig config).1 = .kOk ∧ (s.updateConfig config).2.initGuard.1 = none

namespace Stream

/-- The worker's thread was started and has not ended. -/
def Worker.Running (w : Worker) : Prop := w ≠ .absent ∧ w ≠ .exited

/-- What the last return of `Init` promises: `kOk` that the stream is ready, a
failure that it can be initialised after all, and a released stream refuses. -/
structure InitHonest (s : Sys) : Prop where
  ready : s.returned = some (.init, .kOk) → s.impl.Owns ∧ s.worker.Running
  retry : ∀ st, s.returned = some (.init, st) → st ≠ .kOk → s.released = false →
    s.impl.Reinitialisable
  refuses : ∀ st, s.returned = some (.init, st) → s.released = true → st = .kUnsupportedOperation

/-- `Init` meets a stream that it can initialise or that is initialised. -/
def InitMeets (s : Sys) : Label → Prop
  | .caller .init =>
    (s.impl.status.state = .kCreated ∧ StreamImpl.validateConfig s.impl.config = .kOk) ∨
      s.worker.Running
  | .caller (.createBackend found) => found = true
  | _ => True

section Steps
variable {s t : Sys} {l : Label}

theorem initGuard_fst_eq_none {s : StreamImpl} :
    s.initGuard.1 = none ↔
      s.status.state = .kCreated ∧ StreamImpl.validateConfig s.config = .kOk := by
  obtain ⟨new, result, -⟩ | ⟨new, invalid, result, -⟩ | ⟨new, valid, result, -⟩ :=
    StreamImpl.initGuard_cases (show s.initGuard = (s.initGuard.1, s.initGuard.2) from rfl)
  · simp [result, new]
  · simp [result, new, invalid]
  · simp [result, new, valid]

/-- Once `kCreated` is left, no `UpdateConfig` makes `Init` start over. -/
theorem not_reinitialisable {s : StreamImpl} (left : s.status.state ≠ .kCreated) :
    ¬s.Reinitialisable := by
  intro again
  have valid :
      StreamImpl.validateConfig { backendType := "webrtc", remoteUrl := "http" } = .kOk := by
    decide
  obtain ⟨-, goes⟩ := again _ valid
  obtain ⟨kept, text, updated⟩ := StreamImpl.updateConfig_cases
    (show s.updateConfig _ = ((s.updateConfig _).1, (s.updateConfig _).2) from rfl)
  rw [updated, initGuard_fst_eq_none] at goes
  exact left goes.1

theorem running_of_inv {place : Caller} (inv : Inv s) (stands : s.caller = place)
    (outside : place.joining = false) (present : s.worker ≠ .absent) : s.worker.Running :=
  ⟨present, fun ended => present (inv.rests stands outside (inv.exited ended))⟩

theorem unreleased_of_created (inv : Inv s) (new : s.impl.status.state = .kCreated) :
    s.released = false := by
  cases gone : s.released with
  | false => rfl
  | true => exact absurd new (inv.released gone).2

theorem unreleased_of_present (inv : Inv s) (present : s.worker ≠ .absent) :
    s.released = false := by
  cases gone : s.released with
  | false => rfl
  | true => exact absurd (inv.released gone).1 present

/-- A `kOk` of a stream that has its worker and is not released. -/
theorem honest_of_ready (returned : s.returned = some (.init, .kOk))
    (unreleased : s.released = false) (owned : s.impl.Owns) (running : s.worker.Running) :
    InitHonest s := by
  constructor
  · intro _
    exact ⟨owned, running⟩
  · intro st same failed _
    rw [returned] at same
    cases same
    contradiction
  · intro st _ gone
    rw [unreleased] at gone
    contradiction

theorem InitStep.honest_iff {l : CallerLabel} (inv : Inv s) (step : InitStep s l t) :
    InitHonest t ↔ InitMeets s (.caller l) := by
  cases step with
  | initReturns idle guarded =>
    obtain ⟨new, result, rfl⟩ | ⟨new, invalid, result, rfl⟩ | ⟨new, valid, result, rfl⟩ :=
      StreamImpl.initGuard_cases guarded
    · -- the early `kOk` is true of a stream with a running worker and of no other
      obtain rfl := Option.some.inj result
      constructor
      · intro honest
        exact .inr (honest.ready rfl).2
      · rintro (⟨created, -⟩ | running)
        · exact absurd created new
        · have owned := inv.owned (inv.attached running.1)
          have open_ := unreleased_of_present inv running.1
          exact honest_of_ready rfl open_ owned running
    · have absent := (inv.created new).absent (by simp [idle])
      have open_ := unreleased_of_created inv new
      obtain rfl := Option.some.inj result
      apply iff_of_false
      · intro honest
        exact not_reinitialisable (by simp) (honest.retry _ rfl invalid open_)
      · rintro (⟨-, valid⟩ | running)
        · exact invalid valid
        · exact running.1 absent
    · contradiction
  | initGoesOn idle guarded =>
    obtain ⟨new, result, rfl⟩ | ⟨new, invalid, result, rfl⟩ | ⟨new, valid, result, rfl⟩ :=
      StreamImpl.initGuard_cases guarded
    · contradiction
    · contradiction
    · exact iff_of_true ⟨by simp, by simp, by simp⟩ (.inl ⟨new, valid⟩)
  | initFound creating => exact iff_of_true ⟨by simp, by simp, by simp⟩ rfl
  | initMissed creating =>
    have new := inv.caller
    rw [creating] at new
    have open_ := unreleased_of_created inv new
    apply iff_of_false
    · intro honest
      exact not_reinitialisable (by simp) (honest.retry _ rfl (by decide) open_)
    · simp [InitMeets]
  | initSpawns | initKeepsWorker => exact iff_of_true ⟨by simp, by simp, by simp⟩ trivial
  | initReports reporting =>
    have place := inv.caller
    rw [reporting] at place
    obtain ⟨-, present⟩ := place
    have running := running_of_inv inv reporting rfl present
    have owned := inv.owned (inv.attached present)
    have open_ := unreleased_of_present inv present
    exact iff_of_true (honest_of_ready rfl open_ owned running) trivial

/-- No other call of the caller leaves a return of `Init` behind. -/
theorem honest_of_other (other : ∀ st, s.returned ≠ some (.init, st)) : InitHonest s :=
  ⟨fun same => absurd same (other _), fun st same => absurd same (other st),
    fun st same => absurd same (other st)⟩

theorem StartStep.returned_ne {l : CallerLabel} (step : StartStep s l t) (st : Status) :
    t.returned ≠ some (.init, st) := by
  cases step <;> simp

theorem StopStep.returned_ne_init {l : CallerLabel} (step : StopStep s l t) (st : Status) :
    t.returned ≠ some (.init, st) := by
  cases step with
  | stopReports reporting =>
    rename_i inRelease result
    cases inRelease <;> simp [Sys.stopReturns]
  | _ => simp [Sys.stopReturns]

theorem CallerStep.honest_iff {l : CallerLabel} (inv : Inv s) (step : CallerStep s l t) :
    InitHonest t ↔ InitMeets s (.caller l) := by
  cases step with
  | init step => exact step.honest_iff inv
  | start step =>
    apply iff_of_true (honest_of_other step.returned_ne)
    cases step <;> trivial
  | stop step =>
    apply iff_of_true (honest_of_other step.returned_ne_init)
    cases step <;> trivial
  | updateConfig => exact iff_of_true (honest_of_other (by simp)) trivial

/-- A step of another thread keeps the promise when it keeps the members and the worker. -/
theorem InitHonest.frame (inv : Inv s) (honest : InitHonest s) (returned : t.returned = s.returned)
    (released : t.released = s.released)
    (ready : s.caller = .idle → s.impl.Owns → s.worker.Running → t.impl.Owns ∧ t.worker.Running) :
    InitHonest t := by
  constructor
  · intro same
    rw [returned] at same
    obtain ⟨owned, running⟩ := honest.ready same
    exact ready (inv.returned (by simp [same])) owned running
  · intro st same failed open_
    rw [returned] at same
    have place := inv.caller
    rw [inv.returned (by simp [same])] at place
    exact absurd (honest.retry st same failed (released ▸ open_))
      (not_reinitialisable (place st same))
  · intro st same gone
    exact honest.refuses st (returned ▸ same) (released ▸ gone)

theorem WorkerStep.honest {l : WorkerLabel} (inv : Inv s) (honest : InitHonest s)
    (step : WorkerStep s l t) : InitHonest t := by
  have after := step.inv inv
  have kept := step.frame
  apply honest.frame inv kept.returned kept.released
  intro idle owned running
  exact ⟨after.owned (after.attached kept.still),
    running_of_inv after (kept.caller.trans idle) rfl kept.still⟩

theorem step_honest_iff (inv : Inv s) (honest : InitHonest s) (step : Step s l t) :
    InitHonest t ↔ InitMeets s l := by
  cases step with
  | caller step => exact step.honest_iff inv
  | worker step => exact iff_of_true (step.honest inv honest) trivial
  | backend step =>
    apply iff_of_true _ trivial
    apply honest.frame inv
    · cases step <;> rfl
    · cases step <;> rfl
    · intro _ owned running
      cases step with
      | emit => exact ⟨owned, running⟩
      | deliver index pending =>
        rename_i snapshot
        obtain ⟨-, -, -, -, replaced⟩ | ⟨-, replaced⟩ :=
          s.impl.onBackendStatusChange_cases snapshot
        all_goals
          rw [replaced]
          exact ⟨owned, running⟩
  | send step =>
    obtain ⟨status, abr, count, sends, log, rfl, -, has⟩ := step.frame
    apply iff_of_true _ trivial
    refine honest.frame inv rfl rfl ?_
    intro _ owned running
    exact ⟨⟨owned.1, has.trans owned.2.1, owned.2.2⟩, running⟩

theorem created_honest (config : StreamConfig) : InitHonest (.created config) :=
  honest_of_other fun _ same => by simp [Sys.created] at same

end Steps

/-- Every return of `Init` in a run keeps its promise exactly when each of its
calls meets a stream it can initialise or that still has its worker running. -/
theorem init_honest_iff_meets (config : StreamConfig) :
    Run (Keeping Step InitHonest) (.created config) ls s ↔
      Run (Guarded Step InitMeets) (.created config) ls s :=
  Run.keeping_iff_guarded (Q := Inv) Step.inv step_honest_iff (created_inv config)
    (created_honest config)

/-- A failed `Init`, a corrected configuration, and an `Init` that returns `kOk`
without having created anything. -/
theorem init_after_failure_creates_nothing :
    ∃ s, Run Step (.created { backendType := "webrtc", remoteUrl := "" })
        [.caller .init, .caller (.updateConfig { backendType := "webrtc", remoteUrl := "http" }),
          .caller .init] s ∧
      s.returned = some (.init, .kOk) ∧ s.impl.backend = none ∧ s.worker = .absent ∧
      ¬InitHonest s := by
  refine ⟨_, .next (.caller (.init (.initReturns rfl rfl))) <|
    .next (.caller (.updateConfig rfl rfl)) <| .single (.caller (.init (.initReturns rfl rfl))),
    rfl, rfl, rfl, fun honest => ?_⟩
  exact (honest.ready rfl).2.1 rfl

end Stream
end VideoCodec
