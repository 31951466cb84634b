import VideoCodec.Stream.Threads

/-! The frame counters over stretches of a run in which no backend snapshot is
delivered; a delivered snapshot replaces the status, counters included. -/
namespace VideoCodec

open Transition

namespace Stream

namespace Sent

/-- What the send call returned. -/
def status : Sent → Status
  | .refused _ st | .forwarded _ st => st
  | .shed => .kOk

/-- The call returned `kOk` and did not shed its packet. -/
def accepted (sent : Sent) : Bool := sent.status = .kOk && sent ≠ .shed

/-- The backend failed, or the packet was shed before it. -/
def lost : Sent → Bool
  | .forwarded _ st => st ≠ .kOk
  | .shed => true
  | .refused _ _ => false

end Sent

/-- No call of `OnBackendStatusChange`. -/
def Undisturbed (_ : Sys) (l : Label) : Prop := ∀ index, l ≠ .backend (.deliver index)

/-- From `s` to `t` the counters grew by the sends completed in between. -/
structure Counts (s t : Sys) (new : List Sent) : Prop where
  log : t.log = s.log ++ new
  sent : t.impl.status.framesSent = s.impl.status.framesSent + new.countP Sent.accepted
  dropped : t.impl.status.framesDropped = s.impl.status.framesDropped + new.countP Sent.lost

section Steps
variable {s t u : Sys} {l : Label}

theorem Counts.refl (s : Sys) : Counts s s [] := ⟨by simp, by simp, by simp⟩

theorem Counts.trans {first second : List Sent} (before : Counts s t first)
    (after : Counts t u second) : Counts s u (first ++ second) where
  log := by rw [after.log, before.log, List.append_assoc]
  sent := by rw [after.sent, before.sent, List.countP_append, Nat.add_assoc]
  dropped := by rw [after.dropped, before.dropped, List.countP_append, Nat.add_assoc]

/-- A step that neither counts nor completes a send. -/
theorem Counts.still (log : t.log = s.log)
    (sent : t.impl.status.framesSent = s.impl.status.framesSent)
    (dropped : t.impl.status.framesDropped = s.impl.status.framesDropped) : Counts s t [] :=
  ⟨by simp [log], by simp [sent], by simp [dropped]⟩

theorem CallerStep.counts {l : CallerLabel} (step : CallerStep s l t) : Counts s t [] := by
  cases step with
  | init step =>
    cases step with
    | initReturns idle guarded | initGoesOn idle guarded =>
      obtain ⟨-, -, rfl⟩ | ⟨-, -, -, rfl⟩ | ⟨-, -, -, rfl⟩ := StreamImpl.initGuard_cases guarded
      all_goals exact .still rfl rfl rfl
    | initFound | initMissed | initSpawns | initKeepsWorker | initReports =>
      exact .still rfl rfl rfl
  | start step =>
    cases step with
    | startReturns idle guarded | startGoesOn idle guarded =>
      obtain ⟨-, -, rfl⟩ | ⟨-, -, text, rfl⟩ := StreamImpl.startGuard_cases guarded
      all_goals exact .still rfl rfl rfl
    | startConnected connecting st =>
      exact .still (by simp) (by simp) (by simp)
    | startSchedules =>
      obtain ⟨-, same⟩ | ⟨-, armed⟩ := s.impl.scheduleReconnect_cases
      · rw [same]
        exact .still rfl rfl rfl
      · rw [armed]
        exact .still rfl rfl rfl
    | startReports | startConnects | startFails | startReconnects | startSucceeds
    | startStreams => exact .still rfl rfl rfl
  | stop step =>
    cases step with
    | releaseStopReturns | stopReports => exact .still (by simp) (by simp) (by simp)
    | stopReturns | stopGoesOn | releaseActive | releaseInactive | releaseStopGoesOn | storesStop
    | storesDisarmed | joinsForStop | joinsForRelease | disconnects | disconnectsNothing
    | releasesMembers | releaseReports => exact .still rfl rfl rfl
  | updateConfig idle updated =>
    obtain ⟨config, text, rfl⟩ := StreamImpl.updateConfig_cases updated
    exact .still rfl rfl rfl

theorem WorkerStep.counts {l : WorkerLabel} (step : WorkerStep s l t) : Counts s t [] := by
  cases step with
  | skips awake ran | fires awake ran =>
    obtain ⟨⟨handler, rfl, -⟩, -⟩ := StreamImpl.workerRound_cases ran
    exact .still rfl rfl rfl
  | connected connecting st =>
    exact .still (by simp) (by simp) (by simp)
  | wakes | exits | connects | connectsNothing | disarms | succeeds | reports | fails =>
    exact .still rfl rfl rfl

/-- Each send call is logged in the section that counts it, once and as it ended. -/
theorem SendStep.counts {l : SendLabel} (step : SendStep s l t) : ∃ new, Counts s t new := by
  cases step with
  | videoRefused guarded =>
    obtain rfl := StreamImpl.sendVideoGuard_eq_some guarded
    exact ⟨[_], rfl, rfl, rfl⟩
  | videoGoesOn guarded | forward => exact ⟨[], .still rfl rfl rfl⟩
  | audioRefused guarded failed =>
    obtain ⟨text, rfl, -⟩ | ⟨kOk, -⟩ := StreamImpl.sendAudioGuard_cases guarded
    · exact ⟨[_], rfl, by simp [Sent.accepted, Sent.status, failed], rfl⟩
    · exact absurd (Option.some.inj kOk) failed
  | audioShed guarded =>
    obtain ⟨text, -, failed⟩ | ⟨-, rfl⟩ := StreamImpl.sendAudioGuard_cases guarded
    · exact absurd rfl failed
    · exact ⟨[.shed], rfl, rfl, rfl⟩
  | audioGoesOn guarded =>
    obtain ⟨text, rfl, -⟩ | ⟨kOk, -⟩ := StreamImpl.sendAudioGuard_cases guarded
    · exact ⟨[], .still rfl rfl rfl⟩
    · contradiction
  | videoDone index pending stats =>
    rename_i st
    obtain ⟨abr, kbps, done, -⟩ :=
      StreamImpl.adaptBitrate_cases (s.impl.countSend st "SendVideo failed") stats
    refine ⟨[.forwarded .video st], rfl, ?_, ?_⟩
    all_goals
      rw [StreamImpl.sendVideoDone, done]
      by_cases ok : st = .kOk <;>
        simp [StreamImpl.countSend, ok, Sent.accepted, Sent.status, Sent.lost]
  | audioDone index pending stats =>
    rename_i st
    refine ⟨[.forwarded .audio st], rfl, ?_, ?_⟩
    all_goals
      by_cases ok : st = .kOk <;>
        simp [StreamImpl.sendAudioDone, StreamImpl.countSend, ok, Sent.accepted, Sent.status,
          Sent.lost]

theorem step_counts (step : Guarded Step Undisturbed s l t) : ∃ new, Counts s t new := by
  obtain ⟨step, undisturbed⟩ := step
  cases step with
  | caller step => exact ⟨[], step.counts⟩
  | worker step => exact ⟨[], step.counts⟩
  | backend step =>
    cases step with
    | emit => exact ⟨[], .still rfl rfl rfl⟩
    | deliver index => exact absurd rfl (undisturbed index)
  | send step => exact step.counts

theorem run_counts (run : Run (Guarded Step Undisturbed) s ls t) : ∃ new, Counts s t new := by
  induction run with
  | refl s => exact ⟨[], .refl s⟩
  | next head tail ih =>
    obtain ⟨first, before⟩ := step_counts head
    obtain ⟨rest, after⟩ := ih
    exact ⟨first ++ rest, before.trans after⟩

/-- A `SendAudio` of a streaming stream that ends with the status of the backend. -/
theorem audio_run (streaming : s.impl.status.state = .kStreaming) (free : s.sends = [])
    (room : s.impl.backpressureBufferCount < StreamImpl.kBackpressureMaxPackets) (st : Status) :
    Run Step s [.send .audio, .send (.forward 0 st), .send (.finish 0 {})]
      { s with impl := s.impl.sendAudioDone st, log := s.log ++ [.forwarded .audio st] } := by
  have guarded : s.impl.sendAudioGuard = (none, s.impl) := by
    simp [StreamImpl.sendAudioGuard, streaming, UInt32.not_le.mpr room]
  obtain ⟨impl, caller, worker, inFlight, sends⟩ := s
  obtain rfl : sends = [] := free
  exact .next (.send (.audioGoesOn guarded)) <| .next (.send (.forward 0 rfl st)) <|
    .single (.send (.audioDone 0 rfl {}))

theorem audioGuard_full {s : StreamImpl} {status : StreamStatus}
    (streaming : status.state = .kStreaming) :
    { s with status, backpressureBufferCount := 100 }.sendAudioGuard =
      (some .kOk,
        { s with
          status := { status with framesDropped := status.framesDropped + 1 }
          backpressureBufferCount := 100 }) := by
  simp [StreamImpl.sendAudioGuard, StreamImpl.kBackpressureMaxPackets, streaming]

/-- Failing sends fill the back-pressure buffer of a streaming stream. -/
theorem failing_audio (streaming : s.impl.status.state = .kStreaming) (free : s.sends = [])
    (empty : s.impl.backpressureBufferCount = 0) (n : Nat) (few : n ≤ 100) :
    ∃ ls status, Run Step s ls
        { s with
          impl := { s.impl with status, backpressureBufferCount := UInt32.ofNat n }
          log := s.log ++ List.replicate n (.forwarded .audio .kNetworkError) } ∧
      status.state = .kStreaming ∧ status.framesSent = s.impl.status.framesSent := by
  induction n with
  | zero =>
    refine ⟨[], s.impl.status, ?_, streaming, rfl⟩
    have zero : UInt32.ofNat 0 = s.impl.backpressureBufferCount := empty.symm
    rw [zero, List.replicate_zero, List.append_nil]
    exact .refl s
  | succ n ih =>
    obtain ⟨ls, status, run, streaming, sent⟩ := ih (by omega)
    have room : UInt32.ofNat n < StreamImpl.kBackpressureMaxPackets := by
      rw [UInt32.lt_iff_toNat_lt, UInt32.toNat_ofNat', Nat.mod_eq_of_lt (by omega)]
      exact few
    have fails := run.trans (audio_run (s := { s with
      impl := { s.impl with status, backpressureBufferCount := UInt32.ofNat n }
      log := s.log ++ List.replicate n (.forwarded .audio .kNetworkError) })
      streaming free room .kNetworkError)
    rw [UInt32.ofNat_add, List.replicate_succ', ← List.append_assoc]
    let failed := { status with
      framesDropped := status.framesDropped + 1, lastError := "SendAudio failed" }
    exact ⟨_, failed, fails, streaming, sent⟩

end Steps

/-- Over a stretch of a run without a delivered snapshot, wherever it begins,
`frames_sent` grows by the sends completed that returned `kOk` without being shed,
and `frames_dropped` by those that failed in the backend or were shed. -/
theorem counters_count_sends (stretch : Run (Guarded Step Undisturbed) s ls t) :
    s.impl.status.framesSent ≤ t.impl.status.framesSent ∧
    s.impl.status.framesDropped ≤ t.impl.status.framesDropped ∧
    ∃ new, t.log = s.log ++ new ∧
      t.impl.status.framesSent = s.impl.status.framesSent + new.countP Sent.accepted ∧
      t.impl.status.framesDropped = s.impl.status.framesDropped + new.countP Sent.lost := by
  obtain ⟨new, counts⟩ := run_counts stretch
  refine ⟨?_, ?_, new, counts.log, counts.sent, counts.dropped⟩
  · rw [counts.sent]
    exact Nat.le_add_right _ _
  · rw [counts.dropped]
    exact Nat.le_add_right _ _

theorem counters_count_sends_one :
    ∃ t, Run Step (.streaming { backendType := "webrtc", remoteUrl := "http" })
        [.send .audio, .send (.forward 0 .kOk), .send (.finish 0 {})] t ∧
      ∃ new, t.log = [] ++ new ∧ t.impl.status.framesSent = 0 + new.countP Sent.accepted := by
  have sends := audio_run (s := .streaming { backendType := "webrtc", remoteUrl := "http" })
    rfl rfl (by decide) .kOk
  obtain ⟨-, -, new, log, sent, -⟩ :=
    counters_count_sends (sends.guarded (C := Undisturbed) (by simp [Undisturbed]))
  exact ⟨_, sends, new, log, sent⟩

/-- A delivered snapshot takes a counted send back, and after a hundred failing
sends a `SendAudio` returns `kOk` uncounted. -/
theorem counters_lose_sends :
    (∃ ls s t, Run Step (.created { backendType := "webrtc", remoteUrl := "http" }) ls s ∧
      Step s (.backend (.deliver 0)) t ∧ s.impl.status.framesSent = 1 ∧
      t.impl.status.framesSent = 0) ∧
    ∃ ls s, Run Step (.created { backendType := "webrtc", remoteUrl := "http" }) ls s ∧
      s.impl.status.framesSent = 0 ∧ s.log.countP (·.status = .kOk) = 1 := by
  have started : Run Step (.created { backendType := "webrtc", remoteUrl := "http" })
      startLabels (.streaming { backendType := "webrtc", remoteUrl := "http" }) := starts rfl
  constructor
  · have sends := started.trans (audio_run rfl rfl (by decide) .kOk)
    have emits := sends.snoc (.backend (.emit rfl { state := .kIceConnected } rfl))
    exact ⟨_, _, _, emits, .backend (.deliver 0 rfl), rfl, rfl⟩
  · obtain ⟨ls, status, fails, streaming, sent⟩ :=
      failing_audio (s := .streaming { backendType := "webrtc", remoteUrl := "http" })
        rfl rfl rfl 100 (by omega)
    refine ⟨_, _, (started.trans fails).snoc (.send (.audioShed (audioGuard_full streaming))),
      sent, ?_⟩
    simp [Sys.streaming, Sent.status]

end Stream
end VideoCodec
