import VideoCodec.Stream.Serial

/-! How a stream gets on: where a step may leave its status, whom it may move, and
that nothing leads back to a first `Connect`. -/
namespace VideoCodec

open Transition

namespace Stream

/-- The threads that call `Connect` and `Disconnect`. -/
inductive Party where
  | caller
  | worker
  deriving DecidableEq, Repr

/-- The thread whose section it is. -/
def party : Label → Option Party
  | .caller _ => some .caller
  | .worker _ => some .worker
  | _ => none

section Steps
variable {s t : Sys} {l : Label}

/-- Where a step leaves the status: as it was, or past `kCreated` and, unless it was
there, past `kConfigured`. -/
def Advances (s t : Sys) : Prop :=
  t.impl.status.state = s.impl.status.state ∨
    t.impl.status.state ≠ .kCreated ∧
      (t.impl.status.state = .kConfigured → s.impl.status.state = .kCreated)

theorem InitStep.advances {l : CallerLabel} (step : InitStep s l t) (inv : Inv s) :
    Advances s t := by
  have place := inv.caller
  cases step with
  | initReturns idle guarded =>
    obtain ⟨-, -, rfl⟩ | ⟨-, -, -, rfl⟩ | ⟨-, -, none, -⟩ := StreamImpl.initGuard_cases guarded
    · exact .inl rfl
    · exact .inr ⟨nofun, nofun⟩
    · contradiction
  | initGoesOn idle guarded =>
    obtain ⟨-, some, -⟩ | ⟨-, -, some, -⟩ | ⟨-, -, -, rfl⟩ := StreamImpl.initGuard_cases guarded
    · contradiction
    · contradiction
    · exact .inl rfl
  | initFound | initSpawns | initKeepsWorker => exact .inl rfl
  | initMissed => exact .inr ⟨nofun, nofun⟩
  | initReports reporting =>
    rw [reporting] at place
    exact .inr ⟨nofun, fun _ => place.1⟩

theorem StartStep.advances {l : CallerLabel} (step : StartStep s l t) : Advances s t := by
  cases step with
  | startReturns idle guarded =>
    obtain ⟨-, none, -⟩ | ⟨-, -, text, rfl⟩ := StreamImpl.startGuard_cases guarded
    · contradiction
    · exact .inl rfl
  | startGoesOn idle guarded =>
    obtain ⟨-, -, rfl⟩ | ⟨-, some, -⟩ := StreamImpl.startGuard_cases guarded
    · exact .inl rfl
    · contradiction
  | startSchedules =>
    obtain ⟨-, same⟩ | ⟨-, same⟩ := s.impl.scheduleReconnect_cases
    all_goals exact .inl (by rw [Sys.goOn, same])
  | startReports | startReconnects | startStreams => exact .inr ⟨nofun, nofun⟩
  | startConnects | startConnected | startFails | startSucceeds => exact .inl rfl

theorem StopStep.advances {l : CallerLabel} (step : StopStep s l t) : Advances s t := by
  cases step with
  | stopReports => exact .inr (by rw [stopReturns_impl]; exact ⟨nofun, nofun⟩)
  | releaseReports => exact .inr ⟨nofun, nofun⟩
  | releaseStopReturns => exact .inl (by rw [stopReturns_impl])
  | _ => exact .inl rfl

theorem Step.advances (step : Step s l t) (inv : Inv s) : Advances s t := by
  cases step with
  | caller step =>
    cases step with
    | init step => exact step.advances inv
    | start step => exact step.advances
    | stop step => exact step.advances
    | updateConfig idle updated =>
      obtain ⟨config, text, rfl⟩ := StreamImpl.updateConfig_cases updated
      exact .inl rfl
  | worker step =>
    cases step with
    | skips awake ran | fires awake ran =>
      obtain ⟨⟨handler, rfl, -⟩, -⟩ := StreamImpl.workerRound_cases ran
      exact .inl rfl
    | reports => exact .inr ⟨nofun, nofun⟩
    | _ => exact .inl rfl
  | backend step =>
    cases step with
    | emit => exact .inl rfl
    | deliver index pending =>
      have known := inv.reported _ (List.mem_of_getElem? pending)
      obtain ⟨-, -, -, -, replaced⟩ | ⟨-, replaced⟩ := s.impl.onBackendStatusChange_cases _
      · exact .inr (by rw [replaced]; exact ⟨nofun, nofun⟩)
      · obtain ⟨created, configured⟩ := StreamState.reported_ne known
        exact .inr (by rw [replaced]; exact ⟨created, fun same => absurd same configured⟩)
  | send step =>
    obtain ⟨status, abr, count, sends, log, rfl, state, -⟩ := step.frame
    exact .inl state

/-- The caller is on its way to its first `Connect` only from `kConfigured`. -/
theorem CallerStep.starting_of_opening {l : CallerLabel} (step : CallerStep s l t)
    (opening : t.caller.opening = true) : Starting s := by
  cases step with
  | init step => cases step <;> contradiction
  | updateConfig => contradiction
  | stop step =>
    cases step with
    | stopReports reporting =>
      rename_i inRelease st
      cases inRelease <;> contradiction
    | _ => contradiction
  | start step =>
    cases step with
    | startGoesOn idle guarded =>
      obtain ⟨configured, -, -⟩ | ⟨-, some, -⟩ := StreamImpl.startGuard_cases guarded
      · exact .inl configured
      · contradiction
    | startReports place | startConnects place => exact .inr (by rw [place]; rfl)
    | startConnected connecting st =>
      by_cases ok : st = .kOk <;> simp [ok, Caller.opening] at opening
    | _ => contradiction

/-- Another thread leaves the caller where it stands. -/
theorem Step.caller_kept (step : Step s l t) (other : party l ≠ some .caller) :
    t.caller = s.caller := by
  cases step with
  | caller => contradiction
  | worker step => exact step.frame.caller
  | backend step => cases step <;> rfl
  | send step =>
    obtain ⟨_, _, _, _, _, rfl, -, -⟩ := step.frame
    rfl

/-- Another thread leaves a worker that connects alone. -/
theorem Step.worker_kept (step : Step s l t) (other : party l ≠ some .worker)
    (connecting : s.worker = .connecting) : t.worker = .connecting := by
  cases step with
  | worker => contradiction
  | backend step => cases step <;> exact connecting
  | send step =>
    obtain ⟨_, _, _, _, _, rfl, -, -⟩ := step.frame
    exact connecting
  | caller step =>
    cases step with
    | updateConfig => exact connecting
    | init step =>
      cases step with
      | initSpawns spawning free => exact nomatch connecting.symm.trans free
      | _ => exact connecting
    | start step =>
      cases step with
      | startConnected _ st => exact connecting
      | _ => exact connecting
    | stop step =>
      cases step with
      | joinsForStop joining ended | joinsForRelease joining ended =>
        rw [connecting] at ended
        simp at ended
      | releaseStopReturns => exact connecting
      | stopReports reporting =>
        rename_i inRelease st
        cases inRelease <;> exact connecting
      | _ => exact connecting

/-- The caller does nothing inside `Connect` but leave it. -/
theorem CallerStep.leaves_connect {l : CallerLabel} (step : CallerStep s l t)
    (place : s.caller = .startConnecting) :
    ∃ st, t = (s.goOn (if st = .kOk then .startSucceeded else .startFailed st) s.impl).leaveConnect
      st := by
  cases step with
  | updateConfig idle => simp [place] at idle
  | init step => cases step <;> simp_all
  | stop step => cases step <;> simp_all
  | start step =>
    cases step with
    | startConnected connecting st => exact ⟨st, rfl⟩
    | _ => simp_all

/-- A stream in `kCreated` has its backend only inside `Init`. -/
def Unbuilt (s : Sys) : Prop :=
  s.impl.status.state = .kCreated → s.impl.backend.isSome = true →
    s.caller = .initSpawn ∨ s.caller = .initReport

theorem CallerStep.backend_kept {l : CallerLabel} (step : CallerStep s l t) :
    t.impl.backend = s.impl.backend ∨ t.impl.backend.isSome = false ∨ t.caller = .initSpawn := by
  cases step with
  | init step =>
    cases step with
    | initReturns idle guarded | initGoesOn idle guarded =>
      obtain ⟨-, -, rfl⟩ | ⟨-, -, -, rfl⟩ | ⟨-, -, -, rfl⟩ := StreamImpl.initGuard_cases guarded
      all_goals exact .inl rfl
    | initFound => exact .inr (.inr rfl)
    | initMissed => exact .inr (.inl rfl)
    | _ => exact .inl rfl
  | start step =>
    cases step with
    | startReturns idle guarded | startGoesOn idle guarded =>
      obtain ⟨-, -, rfl⟩ | ⟨-, -, text, rfl⟩ := StreamImpl.startGuard_cases guarded
      all_goals exact .inl rfl
    | startSchedules =>
      obtain ⟨-, same⟩ | ⟨-, same⟩ := s.impl.scheduleReconnect_cases
      all_goals exact .inl (by rw [Sys.goOn, same])
    | _ => exact .inl rfl
  | stop step =>
    cases step with
    | stopReports | releaseStopReturns => exact .inl (by simp)
    | releasesMembers => exact .inr (.inl rfl)
    | _ => exact .inl rfl
  | updateConfig idle updated =>
    obtain ⟨config, text, rfl⟩ := StreamImpl.updateConfig_cases updated
    exact .inl rfl

/-- Another thread neither builds nor destroys it. -/
theorem Step.built_elsewhere (step : Step s l t) (other : party l ≠ some .caller) :
    t.impl.backend = s.impl.backend := by
  cases step with
  | caller => contradiction
  | worker step =>
    cases step with
    | skips awake ran | fires awake ran =>
      obtain ⟨⟨handler, rfl, -⟩, -⟩ := StreamImpl.workerRound_cases ran
      rfl
    | _ => rfl
  | backend step =>
    cases step with
    | emit => rfl
    | deliver index pending =>
      obtain ⟨-, -, -, -, replaced⟩ | ⟨-, replaced⟩ := s.impl.onBackendStatusChange_cases _
      all_goals rw [replaced]
  | send step =>
    obtain ⟨_, _, _, _, _, rfl, -, -⟩ := step.frame
    rfl

theorem CallerStep.leaves_spawn {l : CallerLabel} (step : CallerStep s l t)
    (place : s.caller = .initSpawn) : t.caller = .initReport := by
  cases step with
  | updateConfig idle => simp [place] at idle
  | init step => cases step <;> simp_all
  | start step => cases step <;> simp_all
  | stop step => cases step <;> simp_all

theorem CallerStep.leaves_report {l : CallerLabel} (step : CallerStep s l t)
    (place : s.caller = .initReport) : t.impl.status.state = .kConfigured := by
  cases step with
  | updateConfig idle => simp [place] at idle
  | init step => cases step <;> simp_all
  | start step => cases step <;> simp_all
  | stop step => cases step <;> simp_all

theorem Unbuilt.step (unbuilt : Unbuilt s) (inv : Inv s) (step : Step s l t) : Unbuilt t := by
  intro created built
  have new : s.impl.status.state = .kCreated := by
    rcases step.advances inv with same | ⟨later, -⟩
    · exact same.symm.trans created
    · exact absurd created later
  by_cases own : party l = some .caller
  · cases step with
    | caller step =>
      rcases step.backend_kept with same | none | found
      · rcases unbuilt new (same ▸ built) with place | place
        · exact .inr (step.leaves_spawn place)
        · exact nomatch (step.leaves_report place).symm.trans created
      · exact nomatch none.symm.trans built
      · exact .inl found
    | _ => cases own
  · rw [step.caller_kept own]
    exact unbuilt new (step.built_elsewhere own ▸ built)

/-- A stream on its way to the first `Connect` was so before, or new. -/
theorem Step.starting_before (step : Step s l t) (inv : Inv s) (starting : Starting t) :
    Starting s ∨ s.impl.status.state = .kCreated := by
  rcases starting with configured | opening
  · rcases step.advances inv with same | ⟨-, first⟩
    · exact .inl (.inl (same ▸ configured))
    · exact .inr (first configured)
  · by_cases own : party l = some .caller
    · cases step with
      | caller step => exact .inl (step.starting_of_opening opening)
      | _ => cases own
    · exact .inl (.inr (step.caller_kept own ▸ opening))

end Steps

end Stream
end VideoCodec
