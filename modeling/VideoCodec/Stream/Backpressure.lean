import VideoCodec.Stream.Counters
import VideoCodec.Stream.Invariant
import Mathlib.Algebra.Group.Nat.Defs

/-! Back-pressure when a stream starts or reconnects. The count of failed sends
outlives the session in which they failed, and only a send that succeeds clears
it; a full count sheds the audio that could. -/
namespace VideoCodec

open Transition

namespace Stream

/-- The failed sends counted before `sent`, with it. -/
def Sent.tally (failures : Nat) : Sent → Nat
  | .forwarded _ st => if st = .kOk then 0 else failures + 1
  | .refused _ _ | .shed => failures

/-- Failed sends since the last one that succeeded. -/
def backlog (log : List Sent) : Nat := log.foldl Sent.tally 0

/-- The step stores `kStreaming` behind a `Connect` that succeeded. -/
def StoresStreaming (s : Sys) : Label → Prop
  | .caller .proceed => s.caller = .startStreaming
  | .worker .report => s.worker = .reporting
  | _ => False

/-- The next `SendAudio` goes on to the backend. -/
def Forwards (s : Sys) : Prop :=
  s.impl.backend.isSome = true ∧
    Step s (.send .audio) { s with sends := s.sends ++ [.guarded .audio] }

def AudioResumes (s : Sys) (l : Label) (t : Sys) : Prop := StoresStreaming s l → Forwards t

/-- Where `kStreaming` is stored, fewer failed sends are counted, in 32 bits, than
fill the back-pressure buffer. -/
def FewFailures (s : Sys) (l : Label) : Prop := StoresStreaming s l → backlog s.log % 2 ^ 32 < 100

def AudioOnly (_ : Sys) (l : Label) : Prop := l ≠ .send .video

/-- The count is that of the log, and `Start` has its backend until it is done. -/
structure Backed (s : Sys) : Prop where
  inv : Inv s
  count : s.impl.backpressureBufferCount = UInt32.ofNat (backlog s.log)
  connected : s.caller = .startSucceeded ∨ s.caller = .startStreaming → s.disconnected = false

section Steps
variable {s t : Sys} {l : Label}

theorem backlog_append (log : List Sent) (sent : Sent) :
    backlog (log ++ [sent]) = sent.tally (backlog log) := by
  simp [backlog]

/-- What the steps of the other threads leave to the sends. -/
structure Aside (s t : Sys) : Prop where
  count : t.impl.backpressureBufferCount = s.impl.backpressureBufferCount
  log : t.log = s.log
  sends : t.sends = s.sends

theorem CallerStep.aside {l : CallerLabel} (step : CallerStep s l t) : Aside s t := by
  cases step with
  | init step =>
    cases step with
    | initReturns idle guarded | initGoesOn idle guarded =>
      obtain ⟨-, -, rfl⟩ | ⟨-, -, -, rfl⟩ | ⟨-, -, -, rfl⟩ := StreamImpl.initGuard_cases guarded
      all_goals exact ⟨rfl, rfl, rfl⟩
    | initFound | initMissed | initSpawns | initKeepsWorker | initReports => exact ⟨rfl, rfl, rfl⟩
  | start step =>
    cases step with
    | startReturns idle guarded | startGoesOn idle guarded =>
      obtain ⟨-, -, rfl⟩ | ⟨-, -, text, rfl⟩ := StreamImpl.startGuard_cases guarded
      all_goals exact ⟨rfl, rfl, rfl⟩
    | startSchedules =>
      obtain ⟨-, same⟩ | ⟨-, armed⟩ := s.impl.scheduleReconnect_cases
      · rw [same]
        exact ⟨rfl, rfl, rfl⟩
      · rw [armed]
        exact ⟨rfl, rfl, rfl⟩
    | startReports | startConnects | startConnected | startFails | startReconnects | startSucceeds
    | startStreams => exact ⟨rfl, rfl, rfl⟩
  | stop step =>
    cases step with
    | stopReports =>
      rename_i inRelease _ _
      cases inRelease <;> exact ⟨rfl, rfl, rfl⟩
    | releaseStopReturns | stopReturns | stopGoesOn | releaseActive | releaseInactive
    | releaseStopGoesOn | storesStop | storesDisarmed | joinsForStop | joinsForRelease
    | disconnects | disconnectsNothing | releasesMembers | releaseReports =>
      exact ⟨rfl, rfl, rfl⟩
  | updateConfig idle updated =>
    obtain ⟨config, text, rfl⟩ := StreamImpl.updateConfig_cases updated
    exact ⟨rfl, rfl, rfl⟩

theorem WorkerStep.aside {l : WorkerLabel} (step : WorkerStep s l t) : Aside s t := by
  cases step with
  | skips awake ran | fires awake ran =>
    obtain ⟨⟨handler, rfl, -⟩, -⟩ := StreamImpl.workerRound_cases ran
    exact ⟨rfl, rfl, rfl⟩
  | connected | wakes | exits | connects | connectsNothing | disarms | succeeds | reports
  | fails => exact ⟨rfl, rfl, rfl⟩

theorem BackendStep.aside {l : BackendLabel} (step : BackendStep s l t) : Aside s t := by
  cases step with
  | emit => exact ⟨rfl, rfl, rfl⟩
  | deliver index pending =>
    rename_i snapshot
    obtain ⟨-, -, -, -, replaced⟩ | ⟨-, replaced⟩ := s.impl.onBackendStatusChange_cases snapshot
    all_goals
      rw [replaced]
      exact ⟨rfl, rfl, rfl⟩

theorem countSend_count (s : StreamImpl) (st : Status) (text : String) :
    (s.countSend st text).backpressureBufferCount =
      if st = .kOk then 0 else s.backpressureBufferCount + 1 := by
  rw [StreamImpl.countSend]
  split
  · rfl
  · rfl

/-- A completed send is counted as the log tells it. -/
theorem tally_count {media : Media} {st : Status} {text : String}
    (count : s.impl.backpressureBufferCount = UInt32.ofNat (backlog s.log)) :
    (s.impl.countSend st text).backpressureBufferCount =
      UInt32.ofNat (backlog (s.log ++ [.forwarded media st])) := by
  rw [countSend_count, backlog_append, Sent.tally, count]
  split
  · rfl
  · rw [UInt32.ofNat_add]
    rfl

theorem SendStep.count {l : SendLabel} (step : SendStep s l t)
    (count : s.impl.backpressureBufferCount = UInt32.ofNat (backlog s.log)) :
    t.impl.backpressureBufferCount = UInt32.ofNat (backlog t.log) := by
  cases step with
  | videoRefused => rw [backlog_append, Sent.tally]; exact count
  | videoGoesOn | forward => exact count
  | audioRefused guarded | audioShed guarded =>
    rw [backlog_append, Sent.tally]
    obtain ⟨text, rfl, -⟩ | ⟨-, rfl⟩ := StreamImpl.sendAudioGuard_cases guarded
    all_goals exact count
  | audioGoesOn guarded =>
    obtain ⟨text, rfl, -⟩ | ⟨-, rfl⟩ := StreamImpl.sendAudioGuard_cases guarded
    all_goals exact count
  | videoDone index pending stats =>
    rename_i st
    obtain ⟨abr, kbps, done, -⟩ :=
      StreamImpl.adaptBitrate_cases (s.impl.countSend st "SendVideo failed") stats
    rw [StreamImpl.sendVideoDone, done]
    exact tally_count count
  | audioDone => exact tally_count count

theorem StartStep.connected {l : CallerLabel} (inv : Inv s) (step : StartStep s l t)
    (kept : s.caller = .startSucceeded ∨ s.caller = .startStreaming → s.disconnected = false)
    (stands : t.caller = .startSucceeded ∨ t.caller = .startStreaming) :
    t.disconnected = false := by
  cases step with
  | startConnected connecting st =>
    have place := inv.caller
    rw [connecting] at place
    exact place
  | startSucceeds succeeded => exact kept (.inl succeeded)
  | startReturns | startGoesOn | startReports | startConnects | startFails | startSchedules
  | startReconnects | startStreams => simp at stands

theorem Step.backed (backed : Backed s) (step : Step s l t) : Backed t := by
  refine ⟨step.inv backed.inv, ?_, ?_⟩
  · cases step with
    | caller step => rw [step.aside.count, step.aside.log, backed.count]
    | worker step => rw [step.aside.count, step.aside.log, backed.count]
    | backend step => rw [step.aside.count, step.aside.log, backed.count]
    | send step => exact step.count backed.count
  · intro stands
    cases step with
    | caller step =>
      cases step with
      | init step => cases step <;> simp at stands
      | start step => exact step.connected backed.inv backed.connected stands
      | stop step =>
        cases step with
        | releaseStopReturns | stopReports =>
          rename_i inRelease _ _
          cases inRelease <;> simp [Sys.stopReturns] at stands
        | _ => simp at stands
      | updateConfig => simp at stands
    | worker step =>
      rw [step.frame.caller] at stands
      have connected := backed.connected stands
      cases step with
      | connects => rfl
      | _ => exact connected
    | backend step => cases step <;> exact backed.connected stands
    | send step =>
      obtain ⟨status, abr, count, sends, log, rfl, -, -⟩ := step.frame
      exact backed.connected stands

theorem created_backed (config : StreamConfig) : Backed (.created config) :=
  ⟨created_inv config, rfl, fun stands => by simp [Sys.created] at stands⟩

/-- A full buffer lets no audio through, whatever the state. -/
theorem Forwards.room (forwards : Forwards s) :
    s.impl.backpressureBufferCount < StreamImpl.kBackpressureMaxPackets := by
  obtain ⟨-, step⟩ := forwards
  generalize target : ({ s with sends := s.sends ++ [.guarded .audio] } : Sys) = t at step
  have longer : t.sends.length = s.sends.length + 1 := by
    rw [← target, List.length_append, List.length_singleton]
  cases step with
  | send step =>
    cases step with
    | audioRefused | audioShed => exact absurd longer (Nat.ne_of_lt (Nat.lt_succ_self _))
    | audioGoesOn guarded =>
      by_contra full
      simp only [StreamImpl.sendAudioGuard, UInt32.not_lt.mp full, if_true] at guarded
      split at guarded
      · split at guarded <;> cases guarded
      · cases guarded

/-- In the state `kStreaming` the count alone decides. -/
theorem forwards_iff (backend : s.impl.backend.isSome = true)
    (streaming : s.impl.status.state = .kStreaming) :
    Forwards s ↔ s.impl.backpressureBufferCount < StreamImpl.kBackpressureMaxPackets := by
  constructor
  · exact Forwards.room
  · intro room
    refine ⟨backend, .send (.audioGoesOn ?_)⟩
    simp [StreamImpl.sendAudioGuard, streaming, UInt32.not_le.mpr room]

theorem few_iff (backed : Backed s) : backlog s.log % 2 ^ 32 < 100 ↔
    s.impl.backpressureBufferCount < StreamImpl.kBackpressureMaxPackets := by
  rw [backed.count, UInt32.lt_iff_toNat_lt, UInt32.toNat_ofNat']
  rfl

/-- What the step that stores `kStreaming` does, and that a backend is there. -/
theorem StoresStreaming.frame (backed : Backed s) (step : Step s l t)
    (stores : StoresStreaming s l) :
    s.impl.backend.isSome = true ∧ t.impl = s.impl.updateStatus .kStreaming := by
  cases step with
  | caller step =>
    cases step with
    | init step =>
      cases step with
      | initSpawns stands | initKeepsWorker stands | initReports stands =>
        rw [StoresStreaming, stands] at stores
        contradiction
      | initReturns | initGoesOn | initFound | initMissed => exact stores.elim
    | start step =>
      cases step with
      | startStreams stands =>
        exact ⟨backed.inv.connected (backed.connected (.inr stands)), rfl⟩
      | startReports stands | startConnects stands | startFails stands | startSchedules stands
      | startReconnects stands | startSucceeds stands =>
        rw [StoresStreaming, stands] at stores
        contradiction
      | startReturns | startGoesOn | startConnected => exact stores.elim
    | stop step =>
      cases step with
      | releaseStopReturns stands | releaseStopGoesOn stands | storesStop stands
      | storesDisarmed stands | joinsForStop stands | joinsForRelease stands
      | disconnectsNothing stands | stopReports stands | releasesMembers stands
      | releaseReports stands =>
        rw [StoresStreaming, stands] at stores
        contradiction
      | stopReturns | stopGoesOn | releaseActive | releaseInactive | disconnects =>
        exact stores.elim
    | updateConfig => exact stores.elim
  | worker step =>
    cases step with
    | reports reporting =>
      have present : s.worker ≠ .absent := by simp [reporting]
      exact ⟨backed.inv.attached present, rfl⟩
    | wakes | exits | skips | fires | connects | connectsNothing | connected | disarms | succeeds
    | fails => exact stores.elim
  | backend => exact stores.elim
  | send => exact stores.elim

theorem step_resumes_iff (backed : Backed s) (step : Step s l t) :
    AudioResumes s l t ↔ FewFailures s l := by
  rw [AudioResumes, FewFailures]
  apply forall_congr'
  intro stores
  obtain ⟨backend, stored⟩ := stores.frame backed step
  rw [few_iff backed, forwards_iff, stored]
  · rfl
  · rw [stored]
    exact backend
  · rw [stored]
    rfl

/-- Once the buffer is full and no send is under way, calls of `SendAudio` alone
never reach the backend again. -/
theorem audio_stays_silenced
    (full : StreamImpl.kBackpressureMaxPackets ≤ s.impl.backpressureBufferCount)
    (free : s.sends = []) (run : Run (Guarded Step AudioOnly) s ls t) :
    StreamImpl.kBackpressureMaxPackets ≤ t.impl.backpressureBufferCount ∧ t.sends = [] := by
  apply run.invariant (P := fun s =>
      StreamImpl.kBackpressureMaxPackets ≤ s.impl.backpressureBufferCount ∧ s.sends = [])
    _ ⟨full, free⟩
  rintro s l t ⟨full, free⟩ ⟨step, audio⟩
  cases step with
  | caller step => exact ⟨step.aside.count ▸ full, step.aside.sends.trans free⟩
  | worker step => exact ⟨step.aside.count ▸ full, step.aside.sends.trans free⟩
  | backend step => exact ⟨step.aside.count ▸ full, step.aside.sends.trans free⟩
  | send step =>
    cases step with
    | videoRefused | videoGoesOn => exact absurd rfl audio
    | audioRefused guarded | audioShed guarded =>
      obtain ⟨text, rfl, -⟩ | ⟨-, rfl⟩ := StreamImpl.sendAudioGuard_cases guarded
      all_goals exact ⟨full, free⟩
    | audioGoesOn guarded =>
      rw [StreamImpl.sendAudioGuard] at guarded
      simp only [full, if_true] at guarded
      split at guarded
      · split at guarded <;> cases guarded
      · cases guarded
    | forward index pending | videoDone index pending | audioDone index pending =>
      rw [free] at pending
      cases pending

end Steps

/-- Wherever `Start` or `AttemptReconnect` stores `kStreaming` in a run, the next
`SendAudio` goes on to the backend, exactly when few failed sends are counted there. -/
theorem audio_resumes_iff_few_failures (config : StreamConfig) :
    Run (Marked Step AudioResumes) (.created config) ls s ↔
      Run (Guarded Step FewFailures) (.created config) ls s :=
  Run.marked_iff_guarded (fun backed _ step => step.backed backed) step_resumes_iff
    (created_backed config)

/-- A hundred sends fail, the session drops, the worker reconnects, and calls of
`SendAudio` alone never reach the backend from then on. -/
theorem audio_silenced_by_reconnect :
    ∃ ls s t, Run Step (.created { backendType := "webrtc", remoteUrl := "http" }) ls s ∧
      Step s (.worker .report) t ∧ ¬AudioResumes s (.worker .report) t ∧
      ∀ ms u, Run (Guarded Step AudioOnly) t ms u → ¬Forwards u := by
  have started : Run Step (.created { backendType := "webrtc", remoteUrl := "http" })
      startLabels (.streaming { backendType := "webrtc", remoteUrl := "http" }) := starts rfl
  obtain ⟨ls, status, fails, streaming, -⟩ :=
    failing_audio (s := .streaming { backendType := "webrtc", remoteUrl := "http" })
      rfl rfl rfl 100 (by omega)
  have emits := (started.trans fails).snoc (.backend (.emit rfl { state := .kDisconnected } rfl))
  have drops := emits.snoc (.backend (.deliver 0 rfl))
  rw [StreamImpl.onBackendStatusChange] at drops
  simp only [streaming] at drops
  have wakes := drops.snoc (.worker (.wakes rfl rfl))
  have fires := wakes.snoc (.worker (.fires rfl rfl))
  have connects := (fires.snoc (.worker (.connects rfl rfl))).snoc (.worker (.connected rfl .kOk))
  have succeeds := (connects.snoc (.worker (.disarms rfl))).snoc (.worker (.succeeds rfl))
  refine ⟨_, _, _, succeeds, .worker (.reports rfl), ?_, ?_⟩
  · intro resumes
    exact absurd (resumes rfl).room (by decide)
  · intro ms u run forwards
    obtain ⟨full, -⟩ := audio_stays_silenced (by decide) rfl run
    exact UInt32.not_lt.mpr full forwards.room

end Stream
end VideoCodec
