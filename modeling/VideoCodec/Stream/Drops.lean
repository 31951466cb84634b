import VideoCodec.Stream.Invariant

/-! What becomes of a dropped session while the stream is neither stopped nor
released. A drop is heard when the calls in progress leave the worker armed for
good, that is until some later `Connect` succeeds. -/
namespace VideoCodec

open Transition

namespace Stream

/-- Steps of a stream that is not being stopped. -/
def Serving : Sys → Label → Sys → Prop :=
  Guarded Step fun _ l => l ≠ .caller .stop ∧ l ≠ .caller .release

/-- Steps by which neither `Start` nor the worker gets `kOk` from `Connect`. -/
def Failing : Sys → Label → Sys → Prop :=
  Guarded Serving fun _ l =>
    l ≠ .caller (.connectReturns .kOk) ∧ l ≠ .worker (.connectReturns .kOk)

/-- `Start` is under way. -/
def Caller.starting : Caller → Bool
  | .startReport | .startConnect | .startConnecting | .startFailed _ | .startSchedule _
  | .startReconnecting _ | .startSucceeded | .startStreaming => true
  | _ => false

/-- `Start` is on its way to `ScheduleReconnect`, unless its `Connect` succeeds. -/
def Caller.scheduling : Caller → Bool
  | .startReport | .startConnect | .startConnecting | .startFailed _ | .startSchedule _ => true
  | _ => false

/-- `AttemptReconnect` is under way. -/
def Worker.busy : Worker → Bool
  | .attempting | .connecting | .connected | .disarmed | .reporting | .failed _ => true
  | _ => false

/-- Neither `Start` nor `AttemptReconnect` is under way. -/
def Settled (s : Sys) : Prop := s.caller.starting = false ∧ s.worker.busy = false

/-- A call of `OnBackendStatusChange` with `kDisconnected` is under way. -/
def hearing (inFlight : List StreamStatus) : Bool := inFlight.any (·.state = .kDisconnected)

/-- Once the session of the last successful `Connect` has dropped and the calls in
progress have finished, the worker is armed and stays so until a `Connect`
succeeds. -/
def Heard (s : Sys) : Prop :=
  s.dropped = true → hearing s.inFlight = false →
    ∀ ls t, Run Failing s ls t → Settled t →
      ∀ ms u, Run Failing t ms u → u.impl.reconnectArmed = true

/-- The worker is armed and about to stay so. -/
def Armed (s : Sys) : Prop := s.impl.reconnectArmed = true ∧ s.worker ≠ .connected

/-- The worker is armed, or `Start` will arm it, and it is about to stay so. -/
def Due (s : Sys) : Prop :=
  (s.impl.reconnectArmed = true ∨ s.caller.scheduling = true) ∧ s.worker ≠ .connected

/-- The last status call for a dropped session does not come while the worker is
about to clear `reconnect_armed_`, and finds it set, or about to be set, or the
stream active. If it came before the `Connect` returned, it has armed the worker
by the time `Start` goes on; the worker's own `Connect` it must not precede. -/
def DropMeets (s : Sys) : Label → Prop
  | .backend (.deliver index) =>
    ∀ snapshot, s.inFlight[index]? = some snapshot → snapshot.state = .kDisconnected →
      s.dropped = true → hearing (s.inFlight.eraseIdx index) = false →
      Due s ∨ s.impl.status.state.active = true ∧ s.worker ≠ .connected
  | .caller (.connectReturns .kOk) =>
    s.dropping = true → hearing s.inFlight = false → Armed s
  | .worker (.connectReturns .kOk) => s.dropping = true → hearing s.inFlight = true
  | _ => True

/-- Places of `Stop` and `Release`. -/
def Caller.ending : Caller → Bool
  | .releaseStop | .storeStop _ | .storeDisarmed _ | .join _ | .disconnect _ | .stopReport _ _
  | .releaseMembers | .releaseReport => true
  | _ => false

structure Served (s : Sys) : Prop where
  inv : Inv s
  going : s.impl.reStop = false
  place : s.caller.ending = false

/-- Labels of the steps at which a drop may go unheard. -/
def Label.critical : Label → Bool
  | .backend (.deliver _) | .caller (.connectReturns .kOk) | .worker (.connectReturns .kOk) => true
  | _ => false

/-- What a step does to a drop on its way to the worker. -/
inductive Move (s : Sys) : Label → Sys → Prop where
  | deliver (index snapshot) (pending : s.inFlight[index]? = some snapshot) :
      Move s (.backend (.deliver index))
        { s with
          impl := s.impl.onBackendStatusChange snapshot
          inFlight := s.inFlight.eraseIdx index }
  | emit (snapshot : StreamStatus) :
      Move s (.backend (.emit snapshot))
        { s with
          inFlight := s.inFlight ++ [snapshot]
          dropping := s.dropping || snapshot.state = .kDisconnected
          dropped := s.dropped || (s.up && snapshot.state = .kDisconnected) }
  | started (renewed : t.dropped = s.dropping) (silent : t.inFlight = s.inFlight)
      (due : Due t ↔ Armed s) : Move s (.caller (.connectReturns .kOk)) t
  | reconnected (renewed : t.dropped = s.dropping) (silent : t.inFlight = s.inFlight)
      (connected : t.worker = .connected) : Move s (.worker (.connectReturns .kOk)) t
  | spawn (harmless : l.critical = false) (disarmed : ¬Due s)
      (renewed : t.dropped = false) : Move s l t
  | disarm (harmless : l.critical = false) (connected : s.worker = .connected)
      (same : t.dropped = s.dropped) (silent : t.inFlight = s.inFlight) : Move s l t
  | still (harmless : l.critical = false) (same : t.dropped = s.dropped)
      (silent : t.inFlight = s.inFlight)
      (armed : s.impl.reconnectArmed = true → t.impl.reconnectArmed = true)
      (scheduling : s.caller.scheduling = true →
        t.impl.reconnectArmed = true ∨ t.caller.scheduling = true)
      (connected : t.worker = .connected → s.worker = .connected) : Move s l t

section Steps
variable {s t : Sys} {l : Label}

theorem hearing_append (inFlight : List StreamStatus) (snapshot : StreamStatus) :
    hearing (inFlight ++ [snapshot]) = (hearing inFlight || snapshot.state = .kDisconnected) := by
  simp [hearing]

/-- A delivered snapshot was the only `kDisconnected` one, or leaves the others. -/
theorem hearing_eraseIdx {inFlight : List StreamStatus} {index : Nat} {snapshot : StreamStatus}
    (pending : inFlight[index]? = some snapshot) :
    hearing inFlight = (hearing (inFlight.eraseIdx index) || snapshot.state = .kDisconnected) := by
  induction inFlight generalizing index with
  | nil => simp at pending
  | cons first rest ih =>
    cases index with
    | zero =>
      obtain rfl : first = snapshot := by simpa using pending
      simp [hearing, Bool.or_comm]
    | succ index =>
      have later := @ih index (by simpa using pending)
      simp only [hearing, List.eraseIdx_cons_succ, List.any_cons] at later ⊢
      rw [later, Bool.or_assoc]

theorem InitStep.serves {l : CallerLabel} (step : InitStep s l t) (going : s.impl.reStop = false) :
    t.impl.reStop = false ∧ t.caller.ending = false := by
  cases step with
  | initReturns idle guarded | initGoesOn idle guarded =>
    obtain ⟨-, -, rfl⟩ | ⟨-, -, -, rfl⟩ | ⟨-, -, -, rfl⟩ := StreamImpl.initGuard_cases guarded
    all_goals exact ⟨going, rfl⟩
  | initSpawns => exact ⟨rfl, rfl⟩
  | initFound | initMissed | initKeepsWorker | initReports => exact ⟨going, rfl⟩

theorem StartStep.serves {l : CallerLabel} (step : StartStep s l t)
    (going : s.impl.reStop = false) : t.impl.reStop = false ∧ t.caller.ending = false := by
  cases step with
  | startReturns idle guarded | startGoesOn idle guarded =>
    obtain ⟨-, -, rfl⟩ | ⟨-, -, text, rfl⟩ := StreamImpl.startGuard_cases guarded
    all_goals exact ⟨going, rfl⟩
  | startConnected connecting st =>
    refine ⟨going, ?_⟩
    by_cases ok : st = .kOk <;> simp [ok, Caller.ending]
  | startSchedules =>
    obtain ⟨-, same⟩ | ⟨-, armed⟩ := s.impl.scheduleReconnect_cases
    · rw [same]
      exact ⟨going, rfl⟩
    · rw [armed]
      exact ⟨going, rfl⟩
  | startReports | startConnects | startFails | startReconnects | startSucceeds | startStreams =>
    exact ⟨going, rfl⟩

/-- `Stop` and `Release` take a call to begin. -/
theorem StopStep.ends {l : CallerLabel} (step : StopStep s l t) :
    s.caller.ending = true ∨ l = .stop ∨ l = .release := by
  cases step with
  | stopReturns | stopGoesOn => exact .inr (.inl rfl)
  | releaseActive | releaseInactive => exact .inr (.inr rfl)
  | releaseStopReturns place | releaseStopGoesOn place | storesStop place | storesDisarmed place
  | joinsForStop place | joinsForRelease place | disconnects place | disconnectsNothing place
  | stopReports place | releasesMembers place | releaseReports place =>
    rw [place]
    exact .inl rfl

theorem not_stopping {l : CallerLabel} (served : Served s) (stop : StopStep s l t)
    (serving : Label.caller l ≠ .caller .stop ∧ Label.caller l ≠ .caller .release) : False := by
  rcases stop.ends with ending | rfl | rfl
  · rw [served.place] at ending
    contradiction
  · exact serving.1 rfl
  · exact serving.2 rfl

theorem served_step (served : Served s) (step : Serving s l t) : Served t := by
  obtain ⟨step, serving⟩ := step
  suffices kept : t.impl.reStop = false ∧ t.caller.ending = false from
    ⟨step.inv served.inv, kept.1, kept.2⟩
  obtain ⟨inv, going, place⟩ := served
  cases step with
  | caller step =>
    cases step with
    | init step => exact step.serves going
    | start step => exact step.serves going
    | stop step => exact (not_stopping ⟨inv, going, place⟩ step serving).elim
    | updateConfig idle updated =>
      obtain ⟨config, text, rfl⟩ := StreamImpl.updateConfig_cases updated
      exact ⟨going, rfl⟩
  | worker step =>
    have kept := step.frame
    exact ⟨kept.reStop.trans going, (congrArg Caller.ending kept.caller).trans place⟩
  | backend step =>
    cases step with
    | emit => exact ⟨going, place⟩
    | deliver index pending =>
      rename_i snapshot
      obtain ⟨-, -, -, -, replaced⟩ | ⟨-, replaced⟩ :=
        s.impl.onBackendStatusChange_cases snapshot
      · rw [replaced]
        exact ⟨going, place⟩
      · rw [replaced]
        exact ⟨going, place⟩
  | send step =>
    obtain ⟨status, abr, count, sends, log, rfl, -, -⟩ := step.frame
    exact ⟨going, place⟩

theorem Settled.not_scheduling (settled : Settled s) : s.caller.scheduling = false := by
  have place := settled.1
  revert place
  cases s.caller <;> simp [Caller.starting, Caller.scheduling]

theorem harmless_of_failed {st : Status} (failed : st ≠ .kOk) :
    (Label.caller (.connectReturns st)).critical = false ∧
      (Label.worker (.connectReturns st)).critical = false := by
  cases st <;> first | exact absurd rfl failed | exact ⟨rfl, rfl⟩

theorem Armed.due (armed : Armed s) : Due s := ⟨.inl armed.1, armed.2⟩

/-- Outside `Start` and behind `ScheduleReconnect` only the flag counts. -/
theorem due_iff_armed {place : Caller} (stands : s.caller = place)
    (elsewhere : place.scheduling = false) : Due s ↔ Armed s := by
  simp [Due, Armed, stands, elsewhere]

theorem not_scheduling {P : Prop} {place : Caller} (stands : s.caller = place)
    (elsewhere : place.scheduling = false) (scheduling : s.caller.scheduling = true) : P := by
  rw [stands, elsewhere] at scheduling
  contradiction

theorem InitStep.move {l : CallerLabel} (inv : Inv s) (step : InitStep s l t) :
    Move s (.caller l) t := by
  cases step with
  | initReturns idle guarded | initGoesOn idle guarded =>
    obtain ⟨-, -, rfl⟩ | ⟨-, -, -, rfl⟩ | ⟨-, -, -, rfl⟩ := StreamImpl.initGuard_cases guarded
    all_goals exact .still rfl rfl rfl id (not_scheduling idle rfl) id
  | initSpawns spawning free =>
    have place := inv.caller
    rw [spawning] at place
    have untouched := inv.created place.1
    refine .spawn rfl (fun due => ?_) untouched.dropped
    exact nomatch ((due_iff_armed spawning rfl).mp due).1.symm.trans untouched.disarmed
  | initFound place | initMissed place | initKeepsWorker place | initReports place =>
    exact .still rfl rfl rfl id (not_scheduling place rfl) id

theorem StartStep.move {l : CallerLabel} (going : s.impl.reStop = false)
    (step : StartStep s l t) : Move s (.caller l) t := by
  cases step with
  | startReturns idle guarded | startGoesOn idle guarded =>
    obtain ⟨-, -, rfl⟩ | ⟨-, -, text, rfl⟩ := StreamImpl.startGuard_cases guarded
    all_goals exact .still rfl rfl rfl id (not_scheduling idle rfl) id
  | startConnected connecting st =>
    by_cases ok : st = .kOk
    · subst ok
      exact .started rfl rfl (due_iff_armed rfl rfl)
    · exact .still (harmless_of_failed ok).1 (by simp [ok]) rfl id
        (fun _ => .inr (by simp [ok, Caller.scheduling])) id
  | startSchedules =>
    obtain ⟨stop, -⟩ | ⟨-, armed⟩ := s.impl.scheduleReconnect_cases
    · exact nomatch stop.symm.trans going
    · rw [armed]
      exact .still rfl rfl rfl (fun _ => rfl) (fun _ => .inl rfl) id
  | startReports | startConnects | startFails =>
    exact .still rfl rfl rfl id (fun _ => .inr rfl) id
  | startReconnects place | startSucceeds place | startStreams place =>
    exact .still rfl rfl rfl id (not_scheduling place rfl) id

theorem WorkerStep.move {l : WorkerLabel} (step : WorkerStep s l t) : Move s (.worker l) t := by
  cases step with
  | skips awake ran | fires awake ran =>
    obtain ⟨⟨handler, rfl, -⟩, -⟩ := StreamImpl.workerRound_cases ran
    exact .still rfl rfl rfl id .inr nofun
  | connected connecting st =>
    by_cases ok : st = .kOk
    · subst ok
      exact .reconnected rfl rfl rfl
    · exact .still (harmless_of_failed ok).2 (by simp [ok]) rfl id .inr (by simp [ok])
  | disarms connected => exact .disarm rfl connected rfl rfl
  | wakes | exits | connects | connectsNothing | succeeds | reports | fails =>
    exact .still rfl rfl rfl id .inr nofun

theorem serving_move (served : Served s) (step : Serving s l t) : Move s l t := by
  obtain ⟨step, serving⟩ := step
  cases step with
  | caller step =>
    cases step with
    | init step => exact step.move served.inv
    | start step => exact step.move served.going
    | stop step => exact (not_stopping served step serving).elim
    | updateConfig idle updated =>
      obtain ⟨config, text, rfl⟩ := StreamImpl.updateConfig_cases updated
      exact .still rfl rfl rfl id (not_scheduling idle rfl) id
  | worker step => exact step.move
  | backend step =>
    cases step with
    | emit talking snapshot => exact .emit snapshot
    | deliver index pending => exact .deliver index _ pending
  | send step =>
    obtain ⟨status, abr, count, sends, log, rfl, -, -⟩ := step.frame
    exact .still rfl rfl rfl id .inr id

/-- A snapshot arms the worker when it reports a drop of an active stream, and
never disarms it. -/
theorem armed_onBackendStatusChange (served : Served s) (snapshot : StreamStatus) :
    (s.impl.onBackendStatusChange snapshot).reconnectArmed = true ↔
      s.impl.reconnectArmed = true ∨ snapshot.state = .kDisconnected ∧
        s.impl.status.state.active = true ∧ s.impl.reconnectHandler.isSome = true := by
  have going := served.going
  obtain ⟨state, active, handler, stop, replaced⟩ | ⟨quiet, replaced⟩ :=
    s.impl.onBackendStatusChange_cases snapshot
  · simp [replaced, state, active, handler]
  · simp only [going, and_true] at quiet
    simp [replaced, quiet]

/-- Only a `Connect` that succeeds leads to a disarmed worker. -/
theorem armed_step (served : Served s) (step : Failing s l t) :
    (Armed s → Armed t) ∧ (Due s → Due t) := by
  cases serving_move served step.1 with
  | deliver index snapshot pending =>
    have kept := (armed_onBackendStatusChange served snapshot).mpr ∘ .inl
    constructor
    · rintro ⟨flag, worker⟩
      exact ⟨kept flag, worker⟩
    · rintro ⟨flag, worker⟩
      exact ⟨flag.imp_left kept, worker⟩
  | emit snapshot => exact ⟨id, id⟩
  | started => exact absurd rfl step.2.1
  | reconnected => exact absurd rfl step.2.2
  | spawn _ disarmed =>
    constructor
    · intro armed
      exact absurd armed.due disarmed
    · intro due
      exact absurd due disarmed
  | disarm _ connected =>
    constructor
    · intro armed
      exact absurd connected armed.2
    · intro due
      exact absurd connected due.2
  | still _ _ _ armed scheduling connected =>
    constructor
    · rintro ⟨flag, worker⟩
      exact ⟨armed flag, mt connected worker⟩
    · rintro ⟨flag, worker⟩
      exact ⟨flag.elim (.inl ∘ armed) scheduling, mt connected worker⟩

theorem armed_run {ls : List Label} (served : Served s) (run : Run Failing s ls t) :
    Served t ∧ (Armed s → Armed t) ∧ (Due s → Due t) := by
  refine run.invariant (P := fun t => Served t ∧ (Armed s → Armed t) ∧ (Due s → Due t)) ?_
    ⟨served, id, id⟩
  rintro u l v ⟨served, armed, due⟩ step
  have kept := armed_step served step
  exact ⟨served_step served step.1, kept.1 ∘ armed, kept.2 ∘ due⟩

theorem failing_of_start {l : CallerLabel} (step : StartStep s l t)
    (failed : l ≠ .connectReturns .kOk) : Failing s (.caller l) t := by
  refine ⟨⟨.caller (.start step), ?_⟩, by simpa using failed, by simp⟩
  cases step <;> simp

/-- `Start` comes to its end when its `Connect` fails. -/
theorem connect_ends (place : s.caller = .startConnecting) :
    ∃ ls t, Run Failing s ls t ∧ t.caller.starting = false ∧ t.worker = s.worker := by
  have timeout : CallerLabel.connectReturns .kTimeout ≠ .connectReturns .kOk := by simp
  exact ⟨_, _, .next (failing_of_start (.startConnected place .kTimeout) timeout) <|
    .next (failing_of_start (.startFails rfl) nofun) <|
    .next (failing_of_start (.startSchedules rfl) nofun) <|
    .single (failing_of_start (.startReconnects rfl) nofun), rfl, rfl⟩

theorem start_ends (backend : s.impl.backend.isSome = true) :
    ∃ ls t, Run Failing s ls t ∧ t.caller.starting = false ∧ t.worker = s.worker ∧
      (t.impl.reconnectArmed = true →
        s.impl.reconnectArmed = true ∨ s.caller.scheduling = true) := by
  cases place : s.caller with
  | startReport =>
    obtain ⟨ls, t, run, ended, worker⟩ := connect_ends (s :=
      (s.goOn .startConnecting (s.impl.updateStatus .kConnecting)).enterConnect) rfl
    exact ⟨_, t, .next (failing_of_start (.startReports place) nofun) <|
      .next (failing_of_start (.startConnects rfl backend) nofun) run, ended, worker,
      fun _ => .inr rfl⟩
  | startConnect =>
    obtain ⟨ls, t, run, ended, worker⟩ :=
      connect_ends (s := (s.goOn .startConnecting s.impl).enterConnect) rfl
    exact ⟨_, t, .next (failing_of_start (.startConnects place backend) nofun) run, ended, worker,
      fun _ => .inr rfl⟩
  | startConnecting =>
    obtain ⟨ls, t, run, ended, worker⟩ := connect_ends place
    exact ⟨ls, t, run, ended, worker, fun _ => .inr rfl⟩
  | startFailed =>
    exact ⟨_, _, .next (failing_of_start (.startFails place) nofun) <|
      .next (failing_of_start (.startSchedules rfl) nofun) <|
      .single (failing_of_start (.startReconnects rfl) nofun), rfl, rfl, fun _ => .inr rfl⟩
  | startSchedule =>
    exact ⟨_, _, .next (failing_of_start (.startSchedules place) nofun) <|
      .single (failing_of_start (.startReconnects rfl) nofun), rfl, rfl, fun _ => .inr rfl⟩
  | startReconnecting =>
    exact ⟨_, _, .single (failing_of_start (.startReconnects place) nofun), rfl, rfl, .inl⟩
  | startSucceeded =>
    exact ⟨_, _, .next (failing_of_start (.startSucceeds place) nofun) <|
      .single (failing_of_start (.startStreams rfl) nofun), rfl, rfl, .inl⟩
  | startStreaming =>
    exact ⟨_, _, .single (failing_of_start (.startStreams place) nofun), rfl, rfl, .inl⟩
  | _ => exact ⟨[], s, .refl s, by rw [place]; rfl, rfl, .inl⟩

theorem failing_of_worker {l : WorkerLabel} (step : WorkerStep s l t)
    (failed : l ≠ .connectReturns .kOk) : Failing s (.worker l) t :=
  ⟨⟨.worker step, by simp⟩, by simp, by simpa using failed⟩

/-- `AttemptReconnect` comes to its end without another success. -/
theorem attempt_ends :
    ∃ ls t, Run Failing s ls t ∧ t.caller = s.caller ∧ t.worker.busy = false ∧
      (t.impl.reconnectArmed = true → Armed s) := by
  have timeout : WorkerLabel.connectReturns .kTimeout ≠ .connectReturns .kOk := by simp
  have armed {place : Worker} (stands : s.worker = place) (other : place ≠ .connected)
      (flag : s.impl.reconnectArmed = true) : Armed s := ⟨flag, stands ▸ other⟩
  cases place : s.worker with
  | attempting =>
    cases backend : s.impl.backend.isSome with
    | true =>
      exact ⟨_, _, .next (failing_of_worker (.connects place backend) nofun) <|
        .next (failing_of_worker (.connected rfl .kTimeout) timeout) <|
        .single (failing_of_worker (.fails rfl) nofun), rfl, rfl, armed place nofun⟩
    | false =>
      exact ⟨_, _, .single (failing_of_worker (.connectsNothing place backend) nofun), rfl, rfl,
        armed place nofun⟩
  | connecting =>
    exact ⟨_, _, .next (failing_of_worker (.connected place .kTimeout) timeout) <|
      .single (failing_of_worker (.fails rfl) nofun), rfl, rfl, armed place nofun⟩
  | failed =>
    exact ⟨_, _, .single (failing_of_worker (.fails place) nofun), rfl, rfl, armed place nofun⟩
  | connected =>
    exact ⟨_, _, .next (failing_of_worker (.disarms place) nofun) <|
      .next (failing_of_worker (.succeeds rfl) nofun) <|
      .single (failing_of_worker (.reports rfl) nofun), rfl, rfl, nofun⟩
  | disarmed =>
    exact ⟨_, _, .next (failing_of_worker (.succeeds place) nofun) <|
      .single (failing_of_worker (.reports rfl) nofun), rfl, rfl, armed place nofun⟩
  | reporting =>
    exact ⟨_, _, .single (failing_of_worker (.reports place) nofun), rfl, rfl, armed place nofun⟩
  | absent | asleep | awake | exited =>
    exact ⟨[], s, .refl s, rfl, by rw [place]; rfl, armed place nofun⟩

theorem heard_iff (served : Served s) :
    Heard s ↔ (s.dropped = true → hearing s.inFlight = false → Due s) := by
  constructor
  · intro heard dropped silent
    have backend := served.inv.connected (served.inv.session (.inr dropped))
    obtain ⟨ls, u, start, ended, same, scheduled⟩ := start_ends backend
    obtain ⟨ms, t, attempt, place, rests, armed⟩ := attempt_ends (s := u)
    have settled : Settled t := ⟨by rw [place, ended], rests⟩
    have kept := armed (heard dropped silent _ t (start.trans attempt) settled [] t (.refl t))
    exact ⟨scheduled kept.1, same ▸ kept.2⟩
  · intro now dropped silent ls t run settled ms u later
    obtain ⟨held, -, due⟩ := armed_run served run
    have armed : Armed t := (due_iff_armed rfl settled.not_scheduling).mp (due (now dropped silent))
    exact ((armed_run held later).2.1 armed).1

/-- A dropped session has a handler: `Init` ran before its `Connect`. -/
theorem handler_of_dropped (inv : Inv s) (dropped : s.dropped = true) :
    s.impl.reconnectHandler.isSome = true :=
  (inv.owned (inv.connected (inv.session (.inr dropped)))).2.2

theorem meets_of_harmless (harmless : l.critical = false) : DropMeets s l := by
  unfold DropMeets
  split
  case h_4 => trivial
  all_goals exact nomatch harmless

theorem step_heard_iff (served : Served s) (heard : Heard s) (step : Serving s l t) :
    Heard t ↔ DropMeets s l := by
  rw [heard_iff (served_step served step)]
  have now := (heard_iff served).mp heard
  cases serving_move served step with
  | deliver index snapshot pending =>
    have last := hearing_eraseIdx pending
    have armed := armed_onBackendStatusChange served snapshot
    constructor
    · intro after other found drop dropped silent
      obtain rfl : snapshot = other := Option.some.inj (pending.symm.trans found)
      have kept := after dropped silent
      rcases kept.1 with flag | scheduling
      · rcases armed.mp flag with before | ⟨-, active, -⟩
        · exact .inl ⟨.inl before, kept.2⟩
        · exact .inr ⟨active, kept.2⟩
      · exact .inl ⟨.inr scheduling, kept.2⟩
    · intro meets dropped silent
      by_cases drop : snapshot.state = .kDisconnected
      · rcases meets snapshot pending drop dropped silent with due | ⟨active, worker⟩
        · exact ⟨due.1.imp_left (armed.mpr ∘ .inl), due.2⟩
        · have handler := handler_of_dropped served.inv dropped
          exact ⟨.inl (armed.mpr (.inr ⟨drop, active, handler⟩)), worker⟩
      · have before := now dropped (by simpa [drop, silent] using last)
        exact ⟨before.1.imp_left (armed.mpr ∘ .inl), before.2⟩
  | emit snapshot =>
    apply iff_of_true _ trivial
    intro dropped silent
    simp only [hearing_append, Bool.or_eq_false_iff, decide_eq_false_iff_not] at silent
    exact now (by simpa [silent.2] using dropped) silent.1
  | started renewed silent due =>
    rw [renewed, silent, due]
    exact Iff.rfl
  | reconnected renewed silent connected =>
    -- the store of `reconnect_armed_` is still to come, so nothing may be heard yet
    have overtaken : ¬Due t := fun due => due.2 connected
    rw [renewed, silent]
    simp [DropMeets, overtaken]
  | spawn harmless _ renewed =>
    apply iff_of_true _ (meets_of_harmless harmless)
    intro dropped
    simp [renewed] at dropped
  | disarm harmless connected same quiet =>
    apply iff_of_true _ (meets_of_harmless harmless)
    intro dropped silent
    exact absurd connected (now (same ▸ dropped) (quiet ▸ silent)).2
  | still harmless same quiet armed scheduling connected =>
    apply iff_of_true _ (meets_of_harmless harmless)
    intro dropped silent
    have due := now (same ▸ dropped) (quiet ▸ silent)
    exact ⟨due.1.elim (.inl ∘ armed) scheduling, mt connected due.2⟩

theorem created_served (config : StreamConfig) : Served (.created config) :=
  ⟨created_inv config, rfl, rfl⟩

end Steps

/-- No drop is lost in a run without `Stop` and `Release` exactly when the last
status call for every dropped session meets an armed worker or an active stream,
outside the worker's window, which reaches from the `Connect` that opened the
session to the store behind it. -/
theorem drops_heard_iff_meets (config : StreamConfig) :
    Run (Keeping Serving Heard) (.created config) ls s ↔
      Run (Guarded Serving DropMeets) (.created config) ls s :=
  Run.keeping_iff_guarded (Q := Served) served_step step_heard_iff (created_served config)
    fun dropped => by simp [Sys.created] at dropped

/-- A drop that arrives in `kIceConnected` arms nobody. -/
theorem drop_lost_after_iceConnected :
    ∃ s, Run Serving (.created { backendType := "webrtc", remoteUrl := "http" })
        (startLabels ++ [.backend (.emit { state := .kIceConnected }), .backend (.deliver 0),
          .backend (.emit { state := .kDisconnected }), .backend (.deliver 0)]) s ∧
      s.dropped = true ∧ s.inFlight = [] ∧ s.caller = .idle ∧ s.worker = .asleep ∧
      s.impl.reconnectArmed = false ∧ ¬Heard s := by
  refine ⟨_, .trans ((starts rfl).guarded (by simp [startLabels])) <|
    .next ⟨.backend (.emit rfl { state := .kIceConnected } rfl), by simp⟩ <|
    .next ⟨.backend (.deliver 0 rfl), by simp⟩ <|
    .next ⟨.backend (.emit rfl { state := .kDisconnected } rfl), by simp⟩ <|
    .single ⟨.backend (.deliver 0 rfl), by simp⟩,
    rfl, rfl, rfl, rfl, rfl, fun heard => ?_⟩
  exact nomatch heard rfl rfl [] _ (.refl _) ⟨rfl, rfl⟩ [] _ (.refl _)

end Stream
end VideoCodec
