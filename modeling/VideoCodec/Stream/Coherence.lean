import VideoCodec.Stream.Threads

/-! What `Init` builds from the configuration, and the configurations that replace
it before the stream is released. -/
namespace VideoCodec

open Transition

/-- What the components of a stream keep of the configuration they are built from. -/
structure Built where
  backendType : Option String
  network : Option NetworkConfig
  initialBitrateKbps : Option UInt32
  /-- The minimum and the maximum bitrate. -/
  bitrates : Option (UInt32 × UInt32)
  /-- The maximum reconnect interval and the buffer duration. -/
  intervals : Option (UInt32 × UInt32)
  deriving DecidableEq, Repr

namespace AbrController

def bitrates (a : AbrController) : UInt32 × UInt32 := (a.minBitrateKbps, a.maxBitrateKbps)

theorem update_bitrates (a : AbrController) (rttMs : UInt32) (loss : Single) :
    (a.update rttMs loss).bitrates = a.bitrates := by
  rw [update]
  split
  · rfl
  · split
    · rfl
    · split <;> rfl

end AbrController

namespace ReconnectHandler

def intervals (h : ReconnectHandler) : UInt32 × UInt32 := (h.maxIntervalS, h.bufferDurationS)

theorem tick_intervals (h : ReconnectHandler) : h.tick.2.intervals = h.intervals := by
  rw [tick]
  split
  · dsimp only
    split <;> rfl
  · rfl

end ReconnectHandler

/-- What components built from the configuration keep of it. -/
def StreamConfig.builds (config : StreamConfig) : Built where
  backendType := some config.backendType
  network := some config.network
  initialBitrateKbps := some config.initialBitrateKbps
  bitrates := some (config.minBitrateKbps, config.maxBitrateKbps)
  intervals := some (config.reconnectMaxIntervalS, config.bufferDurationS)

namespace StreamImpl

def built (s : StreamImpl) : Built where
  backendType := s.backend
  network := s.backendNetwork
  initialBitrateKbps := s.initialBitrateKbps
  bitrates := s.abrController.map AbrController.bitrates
  intervals := s.reconnectHandler.map ReconnectHandler.intervals

/-- From the creation of the backend to its release, every component is there and
runs on the stored configuration. -/
def Coherent (s : StreamImpl) : Prop := s.backend.isSome = true → s.built = s.config.builds

variable {s t : StreamImpl}

theorem Coherent.congr (coherent : s.Coherent) (config : t.config = s.config)
    (built : t.built = s.built) : t.Coherent := by
  intro exists_
  have same : t.backend = s.backend := congrArg Built.backendType built
  rw [built, config]
  exact coherent (same ▸ exists_)

theorem countSend_built (s : StreamImpl) (st : Status) (text : String) :
    (s.countSend st text).built = s.built ∧ (s.countSend st text).config = s.config := by
  rw [countSend]
  split <;> exact ⟨rfl, rfl⟩

theorem adaptBitrate_built (s : StreamImpl) (stats : StreamStats) :
    (s.adaptBitrate stats).built = s.built ∧ (s.adaptBitrate stats).config = s.config := by
  rw [adaptBitrate]
  split
  · rename_i abr has
    split
    · simp [built, has, AbrController.update_bitrates]
    · exact ⟨rfl, rfl⟩
  · exact ⟨rfl, rfl⟩

theorem workerRound_built {fires : Bool} (ran : s.workerRound = (fires, t)) :
    t.built = s.built ∧ t.config = s.config := by
  rw [workerRound] at ran
  split at ran
  · rename_i handler armed has
    cases ran
    refine ⟨?_, rfl⟩
    simp only [built, has, Option.map_some, ReconnectHandler.tick_intervals]
    split <;> rfl
  · cases ran
    exact ⟨rfl, rfl⟩

theorem connectSucceeded_built (s : StreamImpl) : s.connectSucceeded.built = s.built := by
  cases has : s.abrController with
  | none => simp [built, has]
  | some abr => simp [built, has, AbrController.bitrates, AbrController.reset]

theorem resetHandler_built (s : StreamImpl) : s.resetHandler.built = s.built := by
  cases has : s.reconnectHandler with
  | none => simp [built, has]
  | some handler => simp [built, has, ReconnectHandler.intervals, ReconnectHandler.reset]

theorem reconnected_built (s : StreamImpl) : s.reconnected.built = s.built := by
  cases has : s.reconnectHandler with
  | none => simp [built, has]
  | some handler => simp [built, has, ReconnectHandler.intervals, ReconnectHandler.onConnected]

/-- An update stores a valid configuration outside of a session, and nothing else. -/
theorem updateConfig_stores {config : StreamConfig} {st : Status}
    (updated : s.updateConfig config = (st, t)) :
    t.built = s.built ∧ (st = .kOk → t.config = config) ∧ (st ≠ .kOk → t.config = s.config) ∧
      (st = .kOk ↔ s.status.state.active = false ∧ validateConfig config = .kOk) := by
  rw [updateConfig] at updated
  split at updated
  · rename_i active
    cases updated
    refine ⟨rfl, fun same => ?_, fun _ => rfl, ?_⟩
    · cases same
    · simp [StreamState.active, active]
  · rename_i idle
    have inactive : s.status.state.active = false := by simpa [StreamState.active] using idle
    split at updated
    · rename_i valid
      cases updated
      exact ⟨rfl, fun _ => rfl, fun failed => absurd rfl failed, by simp [inactive, valid]⟩
    · rename_i invalid
      cases updated
      exact ⟨rfl, fun valid => absurd valid invalid, fun _ => rfl, by simp [inactive]⟩

end StreamImpl

namespace Stream

/-- Every component runs on the stored configuration; a successful `UpdateConfig`
stores its argument and a failed one leaves the configuration alone. -/
structure ConfigHonest (s : Sys) (l : Label) (t : Sys) : Prop where
  coherent : t.impl.Coherent
  stored : ∀ config, l = .caller (.updateConfig config) →
    t.returned = some (.updateConfig, .kOk) → t.impl.config = config
  rejected : ∀ config st, l = .caller (.updateConfig config) →
    t.returned = some (.updateConfig, st) → st ≠ .kOk → t.impl.config = s.impl.config

/-- An `UpdateConfig` that is let through while the components exist changes
nothing that they are built from. -/
def UpdateKeepsBuilt (s : Sys) : Label → Prop
  | .caller (.updateConfig config) =>
    s.impl.backend.isSome = true → s.impl.status.state.active = false →
      StreamImpl.validateConfig config = .kOk → config.builds = s.impl.config.builds
  | _ => True

section Steps
variable {s t : Sys} {l : Label}

/-- A step other than an `UpdateConfig` has only the components to keep. -/
theorem honest_of_coherent (other : ∀ config, l ≠ .caller (.updateConfig config))
    (coherent : t.impl.Coherent) : ConfigHonest s l t :=
  ⟨coherent, fun config same => absurd same (other config),
    fun config _ same => absurd same (other config)⟩

theorem InitStep.coherent {l : CallerLabel} (coherent : s.impl.Coherent) (step : InitStep s l t) :
    t.impl.Coherent := by
  cases step with
  | initReturns idle guarded | initGoesOn idle guarded =>
    obtain ⟨-, -, rfl⟩ | ⟨-, -, -, rfl⟩ | ⟨-, -, -, rfl⟩ := StreamImpl.initGuard_cases guarded
    all_goals exact coherent.congr rfl rfl
  | initFound => exact fun _ => rfl
  | initMissed => exact fun exists_ => nomatch exists_
  | initSpawns | initKeepsWorker | initReports => exact coherent.congr rfl rfl

theorem StartStep.coherent {l : CallerLabel} (coherent : s.impl.Coherent)
    (step : StartStep s l t) : t.impl.Coherent := by
  cases step with
  | startReturns idle guarded | startGoesOn idle guarded =>
    obtain ⟨-, -, rfl⟩ | ⟨-, -, text, rfl⟩ := StreamImpl.startGuard_cases guarded
    all_goals exact coherent.congr rfl rfl
  | startSchedules =>
    obtain ⟨-, same⟩ | ⟨-, armed⟩ := s.impl.scheduleReconnect_cases
    · exact coherent.congr (by rw [same]; rfl) (by rw [same]; rfl)
    · exact coherent.congr (by rw [armed]; rfl) (by rw [armed]; rfl)
  | startSucceeds => exact coherent.congr rfl s.impl.connectSucceeded_built
  | startReports | startConnects | startConnected | startFails | startReconnects | startStreams =>
    exact coherent.congr rfl rfl

theorem StopStep.coherent {l : CallerLabel} (coherent : s.impl.Coherent) (step : StopStep s l t) :
    t.impl.Coherent := by
  cases step with
  | joinsForStop => exact coherent.congr rfl s.impl.resetHandler_built
  | releasesMembers => exact fun exists_ => nomatch exists_
  | releaseStopReturns | stopReports =>
    rw [stopReturns_impl]
    exact coherent.congr rfl rfl
  | stopReturns | stopGoesOn | releaseActive | releaseInactive | releaseStopGoesOn | storesStop
  | storesDisarmed | joinsForRelease | disconnects | disconnectsNothing | releaseReports =>
    exact coherent.congr rfl rfl

theorem WorkerStep.coherent {l : WorkerLabel} (coherent : s.impl.Coherent)
    (step : WorkerStep s l t) : t.impl.Coherent := by
  cases step with
  | skips awake ran | fires awake ran =>
    obtain ⟨built, config⟩ := StreamImpl.workerRound_built ran
    exact coherent.congr config built
  | disarms => exact coherent.congr rfl s.impl.reconnected_built
  | succeeds => exact coherent.congr rfl s.impl.connectSucceeded_built
  | wakes | exits | connects | connectsNothing | connected | reports | fails =>
    exact coherent.congr rfl rfl

theorem BackendStep.coherent {l : BackendLabel} (coherent : s.impl.Coherent)
    (step : BackendStep s l t) : t.impl.Coherent := by
  cases step with
  | emit => exact coherent
  | deliver index pending =>
    rename_i snapshot
    obtain ⟨-, -, -, -, replaced⟩ | ⟨-, replaced⟩ := s.impl.onBackendStatusChange_cases snapshot
    all_goals
      rw [replaced]
      exact coherent.congr rfl rfl

theorem SendStep.coherent {l : SendLabel} (coherent : s.impl.Coherent) (step : SendStep s l t) :
    t.impl.Coherent := by
  cases step with
  | videoRefused | videoGoesOn | forward => exact coherent
  | audioRefused guarded | audioShed guarded | audioGoesOn guarded =>
    obtain ⟨text, rfl, -⟩ | ⟨-, rfl⟩ := StreamImpl.sendAudioGuard_cases guarded
    all_goals exact coherent.congr rfl rfl
  | videoDone index pending stats =>
    rename_i st
    have counted := s.impl.countSend_built st "SendVideo failed"
    have adapted := (s.impl.countSend st "SendVideo failed").adaptBitrate_built stats
    exact coherent.congr (adapted.2.trans counted.2) (adapted.1.trans counted.1)
  | audioDone index pending stats =>
    rename_i st
    have counted := s.impl.countSend_built st "SendAudio failed"
    exact coherent.congr counted.2 counted.1

theorem step_honest_iff_keeps (coherent : s.impl.Coherent) (step : Step s l t) :
    ConfigHonest s l t ↔ UpdateKeepsBuilt s l := by
  cases step with
  | caller step =>
    cases step with
    | init step =>
      apply iff_of_true (honest_of_coherent _ (step.coherent coherent))
      all_goals cases step <;> simp [UpdateKeepsBuilt]
    | start step =>
      apply iff_of_true (honest_of_coherent _ (step.coherent coherent))
      all_goals cases step <;> simp [UpdateKeepsBuilt]
    | stop step =>
      apply iff_of_true (honest_of_coherent _ (step.coherent coherent))
      all_goals cases step <;> simp [UpdateKeepsBuilt]
    | updateConfig idle updated =>
      rename_i config st impl
      obtain ⟨built, stored, rejected, accepted⟩ := StreamImpl.updateConfig_stores updated
      have same : impl.backend = s.impl.backend := congrArg Built.backendType built
      constructor
      · rintro ⟨kept, -, -⟩ exists_ inactive valid
        have stores := stored (accepted.mpr ⟨inactive, valid⟩)
        have builds := kept (same ▸ exists_)
        rw [Sys.ret, built, coherent exists_, stores] at builds
        exact builds.symm
      · intro keeps
        refine ⟨?_, ?_, ?_⟩
        · intro exists_
          rw [Sys.ret] at exists_ ⊢
          rw [same] at exists_
          rw [built, coherent exists_]
          by_cases success : st = .kOk
          · have passed := accepted.mp success
            rw [stored success, keeps exists_ passed.1 passed.2]
          · rw [rejected success]
        · intro config' label returned
          cases label
          simp only [Sys.ret, Option.some.injEq, Prod.mk.injEq, true_and] at returned
          exact stored returned
        · intro config' st' label returned failed
          cases label
          simp only [Sys.ret, Option.some.injEq, Prod.mk.injEq, true_and] at returned
          exact rejected (returned ▸ failed)
  | worker step => exact iff_of_true (honest_of_coherent nofun (step.coherent coherent)) trivial
  | backend step => exact iff_of_true (honest_of_coherent nofun (step.coherent coherent)) trivial
  | send step => exact iff_of_true (honest_of_coherent nofun (step.coherent coherent)) trivial

end Steps

/-- In a run, all components run on the stored configuration and each `UpdateConfig`
does what it returns, exactly when no update changes what was built. -/
theorem config_honest_iff_keeps (config : StreamConfig) :
    Run (Marked Step ConfigHonest) (.created config) ls s ↔
      Run (Guarded Step UpdateKeepsBuilt) (.created config) ls s := by
  apply Run.marked_iff_guarded (Q := fun s => s.impl.Coherent)
  · intro s l t coherent keeps step
    exact ((step_honest_iff_keeps coherent step).mpr keeps).coherent
  · exact step_honest_iff_keeps
  · exact fun exists_ => nomatch exists_

/-- After `Init`, an `UpdateConfig` that raises the maximum bitrate returns `kOk`, and
the controller keeps the old one. -/
theorem update_keeps_old_bitrates :
    ∃ ls s t abr, Run Step (.created { backendType := "webrtc", remoteUrl := "http" }) ls s ∧
      Step s (.caller (.updateConfig
        { backendType := "webrtc", remoteUrl := "http", maxBitrateKbps := 8000 })) t ∧
      t.returned = some (.updateConfig, .kOk) ∧ t.impl.abrController = some abr ∧
      t.impl.config.maxBitrateKbps = 8000 ∧ abr.maxBitrateKbps = 5000 ∧
      ¬ConfigHonest s (.caller (.updateConfig
        { backendType := "webrtc", remoteUrl := "http", maxBitrateKbps := 8000 })) t := by
  have initialised : Run Step (.created { backendType := "webrtc", remoteUrl := "http" }) _ _ :=
    .next (.caller (.init (.initGoesOn rfl rfl))) <| .next (.caller (.init (.initFound rfl))) <|
      .next (.caller (.init (.initSpawns rfl rfl))) <| .single (.caller (.init (.initReports rfl)))
  refine ⟨_, _, _, _, initialised, .caller (.updateConfig rfl rfl), rfl, rfl, rfl, rfl, ?_⟩
  intro honest
  exact absurd (honest.coherent rfl) (by decide)

end Stream
end VideoCodec
