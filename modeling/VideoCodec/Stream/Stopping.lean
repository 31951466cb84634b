import VideoCodec.Stream.Reentrancy

/-! What a return of `Stop` means, whichever thread calls it. The guard of `Stop`
reads a state that backend events overwrite, so a started stream can look idle to
it; and on the worker's own thread `Stop` does not wait for the worker. -/
namespace VideoCodec

open Transition

namespace Stream

/-- Places of the worker with no attempt under way or ahead of its next look at `re_stop_`. -/
def Worker.resting : Worker → Bool
  | .asleep | .failed _ | .exited => true
  | _ => false

namespace Reentrant

/-- The worker is joined, or it is told to end and has no attempt under way. -/
def Quiet (s : Sys) : Prop :=
  s.worker = .absent ∨ s.impl.reStop = true ∧ s.worker.resting = true

/-- Only an `Init` that really initialises can bring a worker back. -/
def NoRebirth (s : Reentrant) (l : Label) : Prop :=
  l = .caller .init → s.sys.impl.status.state ≠ .kCreated

/-- The worker is stopped, the last `Connect` is undone, and this stays so. -/
structure Stopped (s : Reentrant) : Prop where
  worker : Quiet s.sys
  disconnected : s.sys.disconnected = true
  forever : ∀ ls t, Run (Guarded Step NoRebirth) s ls t →
    .worker .connect ∉ ls ∧ .worker .report ∉ ls

/-- The step ends a `Stop`, at its guard or with its last section. -/
def Ends (s : Reentrant) : Label → Prop
  | .caller .stop | .stop _ => s.sys.impl.status.state.active = false
  | .caller .proceed => ∃ st, s.sys.caller = .stopReport false st
  | .proceed thread => ∃ st rest, s.frames thread = .stopReport st :: rest
  | _ => False

/-- A `Stop` that ends after a `Start` has stopped the stream. -/
def StopHonoured (s : Reentrant) (l : Label) (t : Reentrant) : Prop :=
  Ends s l → s.sys.started = true → Stopped t

/-- A `Stop` that its guard ends finds nothing left to stop, and one on the worker's own
thread was not called from inside its `Connect`. -/
def Settles (s : Reentrant) : Label → Prop
  | .caller .stop | .stop _ => Quiet s.sys ∧ s.sys.disconnected = true
  | .proceed .worker => s.sys.worker ≠ .connecting
  | _ => True

def StopMeets (s : Reentrant) (l : Label) : Prop :=
  Ends s l → s.sys.started = true → Settles s l

section Steps
variable {s t : Reentrant} {l : Label}

/-- Without an `Init` in progress a quiet worker stays so. -/
def Resting (s : Reentrant) : Prop := Quiet s.sys ∧ s.sys.caller.initialising = false

/-- No section but the start of the worker makes a quiet one run. -/
theorem Quiet.keeps {s t : Sys} (quiet : Quiet s)
    (worker : t.worker = s.worker ∨ t.worker = .absent)
    (reStop : s.impl.reStop = true → t.impl.reStop = true) : Quiet t := by
  rcases worker with same | absent
  · rw [Quiet, same]
    exact quiet.imp_right (And.imp_left reStop)
  · exact .inl absent

theorem reStop_onBackendStatusChange (s : StreamImpl) (snapshot : StreamStatus) :
    (s.onBackendStatusChange snapshot).reStop = s.reStop := by
  obtain ⟨-, -, -, -, replaced⟩ | ⟨-, replaced⟩ := s.onBackendStatusChange_cases snapshot
  all_goals rw [replaced]

theorem resting_caller {s t : Sys} {l : CallerLabel} (quiet : Quiet s)
    (outside : s.caller.initialising = false) (step : CallerStep s l t)
    (reborn : l = .init → s.impl.status.state ≠ .kCreated) :
    Quiet t ∧ t.caller.initialising = false := by
  cases step with
  | init step =>
    cases step with
    | initReturns idle guarded =>
      refine ⟨?_, rfl⟩
      obtain ⟨-, -, rfl⟩ | ⟨-, -, -, rfl⟩ | ⟨-, -, result, -⟩ := StreamImpl.initGuard_cases guarded
      · exact quiet
      · exact quiet
      · contradiction
    | initGoesOn idle guarded =>
      obtain ⟨-, result, -⟩ | ⟨-, -, result, -⟩ | ⟨new, -, -, -⟩ :=
        StreamImpl.initGuard_cases guarded
      · contradiction
      · contradiction
      · exact absurd new (reborn rfl)
    | initFound place | initMissed place | initSpawns place | initKeepsWorker place
    | initReports place =>
      rw [place] at outside
      contradiction
  | start step =>
    cases step with
    | startReturns idle guarded | startGoesOn idle guarded =>
      refine ⟨?_, rfl⟩
      obtain ⟨-, -, rfl⟩ | ⟨-, -, text, rfl⟩ := StreamImpl.startGuard_cases guarded
      · exact quiet
      · exact quiet
    | startConnected connecting st =>
      refine ⟨quiet, ?_⟩
      by_cases ok : st = .kOk <;> simp [ok, Caller.initialising]
    | startSchedules scheduling =>
      refine ⟨quiet.keeps (.inl rfl) ?_, rfl⟩
      obtain ⟨-, scheduled⟩ | ⟨-, scheduled⟩ := s.impl.scheduleReconnect_cases
      all_goals
        simp only [Sys.goOn, scheduled]
        exact id
    | _ => exact ⟨quiet, rfl⟩
  | stop step =>
    cases step with
    | storesStop => exact ⟨quiet.keeps (.inl rfl) fun _ => rfl, rfl⟩
    | joinsForStop | joinsForRelease => exact ⟨.inl rfl, rfl⟩
    | stopReports reporting =>
      rename_i inRelease st
      cases inRelease <;> exact ⟨quiet, rfl⟩
    | _ => exact ⟨quiet, rfl⟩
  | updateConfig idle updated =>
    obtain ⟨config, text, rfl⟩ := StreamImpl.updateConfig_cases updated
    exact ⟨quiet, rfl⟩

/-- The worker's steps that connect or report the stream connected. -/
def Label.connects : Label → Bool
  | .worker .connect | .worker .report => true
  | _ => false

theorem resting_worker {s t : Sys} {l : WorkerLabel} (quiet : Quiet s) (step : WorkerStep s l t) :
    Quiet t ∧ (Label.worker l).connects = false := by
  obtain absent | ⟨told, resting⟩ := quiet
  · exact absurd absent step.frame.present
  · cases step with
    | wakes asleep go => exact absurd (go.symm.trans told) Bool.false_ne_true
    | exits | fails => exact ⟨.inr ⟨told, rfl⟩, rfl⟩
    | skips place | fires place | connects place | connectsNothing place | connected place
    | disarms place | succeeds place | reports place =>
      rw [place] at resting
      contradiction

theorem resting_step (resting : Resting s) (step : Guarded Step NoRebirth s l t) :
    Resting t ∧ l.connects = false := by
  obtain ⟨step, reborn⟩ := step
  obtain ⟨quiet, outside⟩ := resting
  cases step with
  | own step =>
    cases step with
    | caller own step =>
      exact ⟨resting_caller quiet outside step fun same => reborn (congrArg _ same), rfl⟩
    | worker own step =>
      obtain ⟨still, idles⟩ := resting_worker quiet step
      refine ⟨⟨still, ?_⟩, idles⟩
      rw [goOn_sys, step.frame.caller]
      exact outside
    | send step =>
      obtain ⟨status, abr, count, sends, log, rfl, -, -⟩ := step.frame
      exact ⟨⟨quiet, outside⟩, rfl⟩
    | deliver | report =>
      refine ⟨⟨quiet.keeps (.inl rfl) fun told => ?_, outside⟩, rfl⟩
      exact (reStop_onBackendStatusChange ..).trans told
    | enters | emit => exact ⟨⟨quiet, outside⟩, rfl⟩
  | call step =>
    cases step with
    | init calling guarded =>
      refine ⟨⟨?_, outside⟩, rfl⟩
      obtain ⟨-, -, rfl⟩ | ⟨-, -, -, rfl⟩ | ⟨-, -, -, rfl⟩ := StreamImpl.initGuard_cases guarded
      · exact quiet
      · exact quiet
      · exact quiet
    | start calling guarded =>
      refine ⟨⟨?_, outside⟩, rfl⟩
      obtain ⟨-, -, rfl⟩ | ⟨-, -, text, rfl⟩ := StreamImpl.startGuard_cases guarded
      · exact quiet
      · exact quiet
    | updateConfig calling updated =>
      obtain ⟨config, text, rfl⟩ := StreamImpl.updateConfig_cases updated
      exact ⟨⟨quiet, outside⟩, rfl⟩
    | storesStop => exact ⟨⟨quiet.keeps (.inl rfl) fun _ => rfl, outside⟩, rfl⟩
    | joins => exact ⟨⟨.inl rfl, outside⟩, rfl⟩
    | _ => exact ⟨⟨quiet, outside⟩, rfl⟩

/-- No run without a new initialisation has the worker connect or report. -/
theorem resting_run {ls : List Label} (resting : Resting s)
    (run : Run (Guarded Step NoRebirth) s ls t) : ∀ l ∈ ls, l.connects = false := by
  induction run with
  | refl =>
    intro l member
    contradiction
  | next head tail ih =>
    obtain ⟨still, idles⟩ := resting_step resting head
    intro l member
    rcases List.mem_cons.mp member with rfl | later
    · exact idles
    · exact ih still l later

theorem stopped_iff (outside : s.sys.caller.initialising = false) :
    Stopped s ↔ Quiet s.sys ∧ s.sys.disconnected = true := by
  constructor
  · intro stopped
    exact ⟨stopped.worker, stopped.disconnected⟩
  · rintro ⟨quiet, disconnected⟩
    refine ⟨quiet, disconnected, fun ls t run => ?_⟩
    have idles := resting_run ⟨quiet, outside⟩ run
    constructor
    · intro member
      exact Bool.false_ne_true (idles _ member).symm
    · intro member
      exact Bool.false_ne_true (idles _ member).symm

/-- Nothing is called back inside `Init`. -/
theorem Inv.outside (inv : Inv s) {thread : Thread} {frame : Frame} {rest : List Frame}
    (stands : s.frames thread = frame :: rest) : s.sys.caller.initialising = false := by
  by_contra within
  have created := inv.initialising (eq_true_of_ne_false within)
  have fresh := inv.fresh (.inl (not_left_of_created created))
  by_cases own : thread = .caller
  · subst own
    obtain rfl := fresh.callbacks frame (stands ▸ List.mem_cons_self)
    exact not_left_of_created created (inv.top stands)
  · rw [fresh.alone thread own] at stands
    contradiction

theorem stopReports_cases {s t : Sys} {st : Status} (step : CallerStep s .proceed t)
    (stands : s.caller = .stopReport false st) :
    t = s.ret .stop st (s.impl.updateStatus .kDisconnected) := by
  cases step with
  | init step => cases step <;> simp_all
  | start step => cases step <;> simp_all
  | stop step => cases step <;> simp_all [Sys.stopReturns]

theorem own_stopped_iff (inv : Inv s) (step : OwnStep s l t) (ends : Ends s l) :
    Stopped t ↔ Settles s l := by
  cases step with
  | caller own step =>
    rename_i l sys
    cases l with
    | stop =>
      cases step with
      | init step => cases step
      | start step => cases step
      | stop step =>
        cases step with
        | stopReturns idle guarded => exact stopped_iff rfl
        | stopGoesOn idle guarded =>
          have active := StreamImpl.stopGuard_eq_none.mp guarded
          exact absurd (ends.symm.trans active) Bool.false_ne_true
    | proceed =>
      obtain ⟨st, stands⟩ := ends
      obtain rfl := stopReports_cases step stands
      have place := inv.place
      rw [stands] at place
      exact iff_of_true ((stopped_iff rfl).mpr ⟨.inl place.1, place.2⟩) trivial
    | _ => exact ends.elim
  | enters own =>
    obtain ⟨st, rest, reporting⟩ := ends
    rw [own] at reporting
    contradiction
  | worker | send | emit | deliver | report => exact ends.elim

theorem call_stopped_iff {thread : Thread} (inv : Inv s) (step : CallStep thread s l t)
    (ends : Ends s l) : Stopped t ↔ Settles s l := by
  cases step with
  | stopReturns calling guarded => exact stopped_iff (inv.outside calling)
  | stopGoesOn calling guarded =>
    have active := StreamImpl.stopGuard_eq_none.mp guarded
    exact absurd (ends.symm.trans active) Bool.false_ne_true
  | stopReports stands =>
    obtain ⟨joined, disconnected⟩ := inv.top stands
    refine (stopped_iff ?_).trans ?_
    · exact inv.outside stands
    cases thread with
    | caller | backend => exact iff_of_true ⟨.inl joined, disconnected⟩ trivial
    | worker =>
      rcases inv.busy (by simp [stands]) with connecting | asleep
      · refine iff_of_false ?_ fun other => other connecting
        rintro ⟨absent | ⟨-, resting⟩, -⟩
        · rw [goOn_sys, connecting] at absent
          contradiction
        · rw [goOn_sys, connecting] at resting
          contradiction
      · refine iff_of_true ⟨.inr ⟨joined, ?_⟩, disconnected⟩ fun connecting => ?_
        · rw [goOn_sys, asleep]
          rfl
        · rw [asleep] at connecting
          contradiction
  | storesStop stands | storesDisarmed stands | joins stands | skipsJoin stands | enters stands
  | disconnectsNothing stands =>
    obtain ⟨st, rest, reporting⟩ := ends
    rw [stands] at reporting
    cases reporting
  | init | start | updateConfig | disconnects | finishes => exact ends.elim

theorem step_honoured_iff (inv : Inv s) (step : Step s l t) :
    StopHonoured s l t ↔ StopMeets s l := by
  refine forall_congr' fun ends => forall_congr' fun _ => ?_
  cases step with
  | own step => exact own_stopped_iff inv step ends
  | call step => exact call_stopped_iff inv step ends

end Steps

/-- Every `Stop` that ends in a run after a `Start` has stopped the stream exactly when each
that its guard ends finds nothing left to stop, and none comes out of the worker's `Connect`. -/
theorem stop_honoured_iff_meets (config : StreamConfig) {ls : List Label} {s : Reentrant} :
    Run (Marked Step StopHonoured) (.created config) ls s ↔
      Run (Guarded Step StopMeets) (.created config) ls s :=
  Run.marked_iff_guarded (Q := Inv) (fun inv _ step => step.inv inv) step_honoured_iff
    (created_inv config)

/-- A `kIceConnected` event hides a running stream from `Stop`. -/
theorem stop_misses_iceConnected :
    ∃ ls s t, Run Step (.created { backendType := "webrtc", remoteUrl := "http" }) ls s ∧
      Step s (.caller .stop) t ∧ t.sys.returned = some (.stop, .kOk) ∧
      t.sys.worker = .asleep ∧ t.sys.impl.reStop = false ∧ t.sys.disconnected = false ∧
      ¬StopHonoured s (.caller .stop) t := by
  have valid :
      StreamImpl.validateConfig { backendType := "webrtc", remoteUrl := "http" } = .kOk := rfl
  obtain ⟨ls, hidden⟩ := run_threads <| (starts valid).trans <|
    .next (.backend (.emit rfl { state := .kIceConnected } rfl)) <|
    .single (.backend (.deliver 0 rfl))
  refine ⟨ls, _, _, hidden, .own (.caller rfl (.stop (.stopReturns rfl rfl))), rfl, rfl, rfl, rfl,
    fun honoured => ?_⟩
  exact Bool.false_ne_true (honoured rfl rfl).disconnected

/-- The worker's `Connect` reports `kStreaming` itself; the callback's `Stop` returns, and
the worker goes on to report the stream it has connected. -/
theorem stop_inside_connect :
    ∃ ls s t u, Run Step (.created { backendType := "mock", remoteUrl := "http" })
        (ls ++ [.report .worker { state := .kStreaming }, .stop .worker, .proceed .worker,
          .proceed .worker, .proceed .worker, .proceed .worker,
          .disconnectReturns .worker .kOk]) s ∧
      Step s (.proceed .worker) t ∧ ¬StopHonoured s (.proceed .worker) t ∧
      Run Step t [.finish .worker, .finish .worker, .worker (.connectReturns .kOk),
        .worker .disarm, .worker .succeed, .worker .report] u ∧
      u.sys.impl.status.state = .kStreaming := by
  have valid :
      StreamImpl.validateConfig { backendType := "mock", remoteUrl := "http" } = .kOk := rfl
  obtain ⟨ls, connecting⟩ := run_threads <| (starts valid).trans <|
    .next (.backend (.emit rfl { state := .kDisconnected } rfl)) <|
    .next (.backend (.deliver 0 rfl)) <|
    .next (.worker (.wakes rfl rfl)) <| .next (.worker (.fires rfl rfl)) <|
    .single (.worker (.connects rfl rfl))
  refine ⟨_, _, _, _, connecting.trans <|
      .next (.own (.report .worker (inBackend_of_connecting rfl rfl)
        { state := .kStreaming } rfl)) <|
      .next (.call (.stopGoesOn rfl rfl)) <| .next (.call (.storesStop rfl)) <|
      .next (.call (.storesDisarmed rfl)) <| .next (.call (.skipsJoin rfl rfl)) <|
      .next (.call (.enters rfl rfl)) <| .single (.call (.disconnects rfl .kOk)),
    .call (.stopReports rfl), fun honoured => ?_,
    .next (.call (.finishes rfl)) <| .next (.call (.finishes rfl)) <|
      .next (.own (.worker rfl (.connected rfl .kOk))) <|
      .next (.own (.worker rfl (.disarms rfl))) <|
      .next (.own (.worker rfl (.succeeds rfl))) <| .single (.own (.worker rfl (.reports rfl))),
    rfl⟩
  rcases (honoured ⟨_, _, rfl⟩ rfl).worker with absent | resting
  · contradiction
  · exact Bool.false_ne_true resting.2

end Reentrant

end Stream
end VideoCodec
