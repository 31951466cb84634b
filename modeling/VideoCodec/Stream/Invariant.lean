import VideoCodec.Stream.Threads

/-! What holds in every state of a stream, whatever the interleaving: an assertion
for each place of the caller, and what the threads share. -/
namespace VideoCodec

open Transition

namespace Stream

/-- Places the caller can be at while the stream is still `kCreated`. -/
def Caller.beforeStart : Caller → Bool
  | .idle | .initCreate | .initSpawn | .initReport | .storeStop .release
  | .storeDisarmed .release | .join .release | .releaseMembers | .releaseReport => true
  | _ => false

/-- Places between the store of `re_stop_` and the join. -/
def Caller.joining : Caller → Bool
  | .storeDisarmed _ | .join _ => true
  | _ => false

/-- A stream that has not left `kCreated` has no session and no events. -/
structure Untouched (s : Sys) : Prop where
  up : s.up = false
  dropped : s.dropped = false
  disconnected : s.disconnected = true
  silent : s.inFlight = []
  disarmed : s.impl.reconnectArmed = false
  place : s.caller.beforeStart = true
  worker : s.worker = .absent ∨ s.caller = .initReport ∧ (s.worker = .asleep ∨ s.worker = .awake)

/-- What holds where the caller stands. -/
def CallerHolds (s : Sys) : Caller → Prop
  | .idle => ∀ st, s.returned = some (.init, st) → s.impl.status.state ≠ .kCreated
  | .initCreate => s.impl.status.state = .kCreated
  | .initSpawn => s.impl.status.state = .kCreated ∧ s.impl.backend.isSome = true
  | .initReport => s.impl.status.state = .kCreated ∧ s.worker ≠ .absent
  | .startConnecting => s.disconnected = false
  | .disconnect _ | .releaseMembers | .releaseReport => s.worker = .absent
  | .stopReport _ _ => s.worker = .absent ∧ s.disconnected = true
  | _ => True

structure Inv (s : Sys) : Prop where
  created : s.impl.status.state = .kCreated → Untouched s
  caller : CallerHolds s s.caller
  /-- The worker needs a backend, its `Connect` has undone a `Disconnect`, and it
  ends only when told to. -/
  attached : s.worker ≠ .absent → s.impl.backend.isSome = true
  connecting : s.worker = .connecting → s.disconnected = false
  exited : s.worker = .exited → s.impl.reStop = true
  stopping : s.impl.reStop = true → s.worker = .absent ∨ s.caller.joining = true
  owned : s.impl.backend.isSome = true → s.impl.Owns
  session : s.up = true ∨ s.dropped = true → s.disconnected = false
  connected : s.disconnected = false → s.impl.backend.isSome = true
  reported : ∀ snapshot ∈ s.inFlight, snapshot.state.reported = true
  returned : s.returned ≠ none → s.caller = .idle
  released : s.released = true → s.worker = .absent ∧ s.impl.status.state ≠ .kCreated

theorem created_inv (config : StreamConfig) : Inv (.created config) where
  created _ := ⟨rfl, rfl, rfl, rfl, rfl, rfl, .inl rfl⟩
  caller := fun _ returned => nomatch returned
  attached := fun present => absurd rfl present
  connecting := fun connecting => nomatch connecting
  exited := fun exited => nomatch exited
  stopping := fun stop => nomatch stop
  owned := fun backend => nomatch backend
  session := fun session => by simp [Sys.created] at session
  connected := fun connected => nomatch connected
  reported := fun _ snapshot => nomatch snapshot
  returned := fun returned => absurd rfl returned
  released := fun released => nomatch released

section Places
variable {s t : Sys}

/-- Behind `Start` and `Stop` the stream has left `kCreated`. -/
theorem Inv.left {place : Caller} (inv : Inv s) (stands : s.caller = place)
    (later : place.beforeStart = false) : s.impl.status.state ≠ .kCreated := by
  intro new
  have before := (inv.created new).place
  rw [stands, later] at before
  contradiction

/-- The worker of a stream in `kCreated` has nothing to do. -/
theorem Inv.left_of_worker (inv : Inv s) (absent : s.worker ≠ .absent) (asleep : s.worker ≠ .asleep)
    (awake : s.worker ≠ .awake) : s.impl.status.state ≠ .kCreated := by
  intro new
  rcases (inv.created new).worker with gone | ⟨-, resting | resting⟩
  · exact absent gone
  · exact asleep resting
  · exact awake resting

theorem Inv.rests {place : Caller} (inv : Inv s) (stands : s.caller = place)
    (outside : place.joining = false) (stop : s.impl.reStop = true) : s.worker = .absent := by
  refine (inv.stopping stop).resolve_right fun joining => ?_
  rw [stands, outside] at joining
  contradiction

theorem Untouched.absent (untouched : Untouched s) (elsewhere : s.caller ≠ .initReport) :
    s.worker = .absent :=
  untouched.worker.resolve_right fun spawned => elsewhere spawned.1

theorem Untouched.spawned (untouched : Untouched s) (present : s.worker ≠ .absent) :
    s.caller = .initReport :=
  (untouched.worker.resolve_left present).1

theorem Untouched.not_talking (untouched : Untouched s) : s.talking = false := by
  obtain ⟨up, -, -, -, -, place, worker⟩ := untouched
  have elsewhere : s.caller ≠ .startConnecting ∧ ∀ inRelease, s.caller ≠ .disconnect inRelease := by
    constructor
    · intro stands
      simp [stands, Caller.beforeStart] at place
    · intro inRelease stands
      simp [stands, Caller.beforeStart] at place
  have waiting : s.worker ≠ .connecting := by
    rcases worker with absent | ⟨-, asleep | awake⟩ <;> simp [*]
  simp [Sys.talking, up, elsewhere, waiting]

/-- Other threads leave the caller's assertion alone. -/
theorem CallerHolds.frame {place : Caller} (holds : CallerHolds s place)
    (state : t.impl.status.state = .kCreated ↔ s.impl.status.state = .kCreated)
    (backend : t.impl.backend = s.impl.backend) (worker : t.worker = .absent ↔ s.worker = .absent)
    (disconnected : t.disconnected = s.disconnected ∨ t.disconnected = false ∧ s.worker ≠ .absent)
    (returned : t.returned = s.returned) : CallerHolds t place := by
  cases place with
  | idle =>
    intro st same new
    exact holds st (returned ▸ same) (state.mp new)
  | initCreate => exact state.mpr holds
  | initSpawn => exact ⟨state.mpr holds.1, backend ▸ holds.2⟩
  | initReport => exact ⟨state.mpr holds.1, fun gone => holds.2 (worker.mp gone)⟩
  | startConnecting =>
    rcases disconnected with same | ⟨connected, -⟩
    · exact same.trans holds
    · exact connected
  | disconnect | releaseMembers | releaseReport => exact worker.mpr holds
  | stopReport =>
    rcases disconnected with same | ⟨-, present⟩
    · exact ⟨worker.mpr holds.1, same.trans holds.2⟩
    · exact absurd holds.1 present
  | _ => trivial

end Places

/-- A send touches the counters, the error text, the bitrate and its own lists. -/
theorem SendStep.frame (step : SendStep s l t) :
    ∃ status abr count sends log,
      t = { s with
        impl := { s.impl with
          status, abrController := abr, backpressureBufferCount := count }
        sends, log } ∧
      status.state = s.impl.status.state ∧ abr.isSome = s.impl.abrController.isSome := by
  cases step with
  | videoRefused | videoGoesOn | forward => exact ⟨_, _, _, _, _, rfl, rfl, rfl⟩
  | audioRefused guarded | audioShed guarded | audioGoesOn guarded =>
    obtain ⟨text, rfl, -⟩ | ⟨-, rfl⟩ := StreamImpl.sendAudioGuard_cases guarded
    all_goals exact ⟨_, _, _, _, _, rfl, rfl, rfl⟩
  | videoDone index pending stats =>
    rename_i st
    obtain ⟨abr, kbps, done, has⟩ :=
      StreamImpl.adaptBitrate_cases (s.impl.countSend st "SendVideo failed") stats
    rw [StreamImpl.sendVideoDone, done]
    by_cases ok : st = .kOk
    · simp only [StreamImpl.countSend, ok, if_true] at has ⊢
      exact ⟨_, _, _, _, _, rfl, rfl, has⟩
    · simp only [StreamImpl.countSend, ok, if_false] at has ⊢
      exact ⟨_, _, _, _, _, rfl, rfl, has⟩
  | audioDone index pending stats =>
    rename_i st
    by_cases ok : st = .kOk
    · simp only [StreamImpl.sendAudioDone, StreamImpl.countSend, ok, if_true]
      exact ⟨_, _, _, _, _, rfl, rfl, rfl⟩
    · simp only [StreamImpl.sendAudioDone, StreamImpl.countSend, ok, if_false]
      exact ⟨_, _, _, _, _, rfl, rfl, rfl⟩

theorem SendStep.inv (inv : Inv s) (step : SendStep s l t) : Inv t := by
  obtain ⟨status, abr, count, sends, log, rfl, state, has⟩ := step.frame
  exact { inv with
    created := fun new => { inv.created (state ▸ new) with }
    caller := inv.caller.frame (by rw [state]) rfl .rfl (.inl rfl) rfl
    owned := fun backend =>
      have owns := inv.owned backend
      ⟨backend, has.trans owns.2.1, owns.2.2⟩
    released := fun gone => ⟨(inv.released gone).1, state ▸ (inv.released gone).2⟩ }

/-- What a step of the worker leaves alone. -/
structure Worked (s t : Sys) : Prop where
  caller : t.caller = s.caller
  returned : t.returned = s.returned
  released : t.released = s.released
  started : t.started = s.started
  inFlight : t.inFlight = s.inFlight
  reStop : t.impl.reStop = s.impl.reStop
  present : s.worker ≠ .absent
  still : t.worker ≠ .absent

theorem WorkerStep.frame (step : WorkerStep s l t) : Worked s t := by
  cases step with
  | skips awake ran | fires awake ran =>
    obtain ⟨⟨handler, rfl, -⟩, -⟩ := StreamImpl.workerRound_cases ran
    exact ⟨rfl, rfl, rfl, rfl, rfl, rfl, by simp [awake], nofun⟩
  | connected connecting st =>
    refine ⟨rfl, rfl, rfl, rfl, rfl, rfl, by simp [connecting], ?_⟩
    by_cases ok : st = .kOk <;> simp [ok]
  | wakes place | exits place | connects place | connectsNothing place | disarms place
  | succeeds place | reports place | fails place =>
    exact ⟨rfl, rfl, rfl, rfl, rfl, rfl, by simp [place], nofun⟩

/-- A call that returns at once, with another configuration or error text at most. -/
theorem Inv.answers (inv : Inv s) (idle : s.caller = .idle) (call : Call) (other : call ≠ .init)
    (st : Status) (config : StreamConfig) (text : String) :
    Inv (s.ret call st ({ s.impl with config }.withError text)) :=
  { inv with
    created := fun new =>
      have untouched := inv.created new
      { untouched with place := rfl, worker := .inl (untouched.absent (by simp [idle])) }
    caller := fun st same => absurd (congrArg Prod.fst (Option.some.inj same)) other
    stopping := fun stop => .inl (inv.rests idle rfl stop)
    returned := fun _ => rfl }

theorem InitStep.inv (inv : Inv s) (step : InitStep s l t) : Inv t := by
  have place := inv.caller
  cases step with
  | initReturns idle guarded =>
    obtain ⟨later, -, rfl⟩ | ⟨new, -, -, rfl⟩ | ⟨-, -, none, -⟩ :=
      StreamImpl.initGuard_cases guarded
    · exact { inv with
        created := fun new => absurd new later
        caller := fun _ _ => later
        stopping := fun stop => .inl (inv.rests idle rfl stop)
        returned := fun _ => rfl }
    · exact { inv with
        created := nofun
        caller := fun _ _ => nofun
        stopping := fun stop => .inl (inv.rests idle rfl stop)
        returned := fun _ => rfl
        released := fun gone => ⟨(inv.released gone).1, nofun⟩ }
    · contradiction
  | initGoesOn idle guarded =>
    obtain ⟨-, some, -⟩ | ⟨-, -, some, -⟩ | ⟨new, -, -, rfl⟩ :=
      StreamImpl.initGuard_cases guarded
    · contradiction
    · contradiction
    · have untouched := inv.created new
      exact { inv with
        created := fun _ => { untouched with
          place := rfl
          worker := .inl (untouched.absent (by simp [idle])) }
        caller := new
        stopping := fun stop => .inl (inv.rests idle rfl stop)
        returned := nofun }
  | initFound creating =>
    rw [creating] at place
    have untouched := inv.created place
    exact { inv with
      created := fun _ => { untouched with
        place := rfl
        worker := .inl (untouched.absent (by simp [creating])) }
      caller := ⟨place, rfl⟩
      attached := fun _ => rfl
      stopping := fun stop => .inl (inv.rests creating rfl stop)
      owned := fun _ => ⟨rfl, rfl, rfl⟩
      connected := fun _ => rfl
      returned := nofun }
  | initMissed creating =>
    rw [creating] at place
    have untouched := inv.created place
    exact { inv with
      created := nofun
      caller := fun _ _ => nofun
      attached := fun present => absurd (untouched.absent (by simp [creating])) present
      stopping := fun stop => .inl (inv.rests creating rfl stop)
      owned := nofun
      connected := fun connected => nomatch untouched.disconnected.symm.trans connected
      returned := fun _ => rfl
      released := fun gone => ⟨(inv.released gone).1, nofun⟩ }
  | initSpawns spawning free =>
    rw [spawning] at place
    obtain ⟨new, backend⟩ := place
    exact { inv with
      created := fun _ => { inv.created new with
        disarmed := rfl
        place := rfl
        worker := .inr ⟨rfl, .inl rfl⟩ }
      caller := ⟨new, nofun⟩
      attached := fun _ => backend
      connecting := nofun
      exited := nofun
      stopping := nofun
      returned := nofun
      released := fun gone => absurd new (inv.released gone).2 }
  | initKeepsWorker spawning joinable =>
    rw [spawning] at place
    exact absurd ((inv.created place.1).absent (by simp [spawning])) joinable
  | initReports reporting =>
    exact { inv with
      created := nofun
      caller := fun _ _ => nofun
      stopping := fun stop => .inl (inv.rests reporting rfl stop)
      returned := fun _ => rfl
      released := fun gone => ⟨(inv.released gone).1, nofun⟩ }

theorem StartStep.inv (inv : Inv s) (step : StartStep s l t) : Inv t := by
  have place := inv.caller
  cases step with
  | startReturns idle guarded =>
    obtain ⟨-, none, -⟩ | ⟨-, -, text, rfl⟩ := StreamImpl.startGuard_cases guarded
    · contradiction
    · rename_i st
      have answered := inv.answers idle .start nofun st s.impl.config text
      exact { answered with created := fun new => { answered.created new with } }
  | startGoesOn idle guarded =>
    obtain ⟨configured, -, rfl⟩ | ⟨-, some, -⟩ := StreamImpl.startGuard_cases guarded
    · exact { inv with
        created := fun new => nomatch configured.symm.trans new
        caller := trivial
        stopping := fun stop => .inl (inv.rests idle rfl stop)
        returned := nofun }
    · contradiction
  | startReports reporting =>
    exact { inv with
      created := nofun
      caller := trivial
      stopping := fun stop => .inl (inv.rests reporting rfl stop)
      returned := nofun
      released := fun gone => ⟨(inv.released gone).1, nofun⟩ }
  | startConnects entering backend =>
    exact { inv with
      created := fun new => absurd new (inv.left entering rfl)
      caller := rfl
      connecting := fun _ => rfl
      stopping := fun stop => .inl (inv.rests entering rfl stop)
      session := fun _ => rfl
      connected := fun _ => backend
      returned := nofun }
  | startConnected connecting st =>
    rw [connecting] at place
    have later := inv.left connecting rfl
    exact { inv with
      created := fun new => absurd new later
      caller := by
        simp only [Sys.leaveConnect, Sys.goOn]
        split <;> trivial
      stopping := fun stop => .inl (inv.rests connecting rfl stop)
      session := fun _ => place
      returned := nofun }
  | startSchedules scheduling =>
    have later := inv.left scheduling rfl
    obtain ⟨-, scheduled⟩ | ⟨-, scheduled⟩ := s.impl.scheduleReconnect_cases
    all_goals
      rw [scheduled]
      exact { inv with
        created := fun new => absurd new later
        caller := trivial
        stopping := fun stop => .inl (inv.rests scheduling rfl stop)
        returned := nofun }
  | startFails failed =>
    exact { inv with
      created := fun new => absurd new (inv.left failed rfl)
      caller := trivial
      stopping := fun stop => .inl (inv.rests failed rfl stop)
      returned := nofun }
  | startSucceeds succeeded =>
    exact { inv with
      created := fun new => absurd new (inv.left succeeded rfl)
      caller := trivial
      stopping := fun stop => .inl (inv.rests succeeded rfl stop)
      owned := fun backend =>
        have owns := inv.owned backend
        ⟨backend, by simp [owns.2.1], owns.2.2⟩
      returned := nofun }
  | startReconnects ending | startStreams ending =>
    exact { inv with
      created := nofun
      caller := nofun
      stopping := fun stop => .inl (inv.rests ending rfl stop)
      returned := fun _ => rfl
      released := fun gone => ⟨(inv.released gone).1, nofun⟩ }

theorem StopStep.inv (inv : Inv s) (step : StopStep s l t) : Inv t := by
  have place := inv.caller
  cases step with
  | stopReturns idle guarded =>
    exact inv.answers idle .stop nofun _ s.impl.config s.impl.status.lastError
  | stopGoesOn idle guarded =>
    have later := (StreamState.active_ne (StreamImpl.stopGuard_eq_none.mp guarded)).1
    exact { inv with
      created := fun new => absurd new later
      caller := trivial
      stopping := fun stop => .inl (inv.rests idle rfl stop)
      returned := nofun }
  | releaseActive idle active =>
    have later := (StreamState.active_ne active).1
    exact { inv with
      created := fun new => absurd new later
      caller := trivial
      stopping := fun stop => .inl (inv.rests idle rfl stop)
      returned := nofun }
  | releaseInactive idle inactive =>
    exact { inv with
      created := fun new =>
        have untouched := inv.created new
        { untouched with place := rfl, worker := .inl (untouched.absent (by simp [idle])) }
      caller := trivial
      stopping := fun stop => .inl (inv.rests idle rfl stop)
      returned := nofun }
  | releaseStopReturns stopping guarded | releaseStopGoesOn stopping guarded =>
    exact { inv with
      created := fun new => absurd new (inv.left stopping rfl)
      caller := trivial
      stopping := fun stop => .inl (inv.rests stopping rfl stop)
      returned := nofun }
  | storesStop storing =>
    rename_i call
    exact { inv with
      created := fun new =>
        have untouched := inv.created new
        { untouched with
          place := by
            have before := untouched.place
            rw [storing] at before
            cases call <;> exact before
          worker := .inl (untouched.absent (by simp [storing])) }
      caller := trivial
      exited := fun _ => rfl
      stopping := fun _ => .inr rfl
      returned := nofun }
  | storesDisarmed storing =>
    rename_i call
    exact { inv with
      created := fun new =>
        have untouched := inv.created new
        { untouched with
          disarmed := rfl
          place := by
            have before := untouched.place
            rw [storing] at before
            cases call <;> exact before
          worker := .inl (untouched.absent (by simp [storing])) }
      caller := trivial
      stopping := fun _ => .inr rfl
      returned := nofun }
  | joinsForStop joining ended =>
    exact { inv with
      created := fun new => absurd new (inv.left joining rfl)
      caller := rfl
      attached := fun present => absurd rfl present
      connecting := nofun
      exited := nofun
      stopping := fun _ => .inl rfl
      owned := fun backend =>
        have owns := inv.owned backend
        ⟨backend, owns.2.1, by simp [owns.2.2]⟩
      returned := nofun
      released := fun gone => ⟨rfl, (inv.released gone).2⟩ }
  | joinsForRelease joining ended =>
    exact { inv with
      created := fun new => { inv.created new with place := rfl, worker := .inl rfl }
      caller := rfl
      attached := fun present => absurd rfl present
      connecting := nofun
      exited := nofun
      stopping := fun _ => .inl rfl
      returned := nofun
      released := fun gone => ⟨rfl, (inv.released gone).2⟩ }
  | disconnects disconnecting backend st =>
    rw [disconnecting] at place
    exact { inv with
      created := fun new => absurd new (inv.left disconnecting rfl)
      caller := ⟨place, rfl⟩
      connecting := fun connecting => nomatch place.symm.trans connecting
      stopping := fun _ => .inl place
      session := by simp
      connected := nofun
      returned := nofun }
  | disconnectsNothing disconnecting backend =>
    rw [disconnecting] at place
    exact { inv with
      created := fun new => absurd new (inv.left disconnecting rfl)
      caller := ⟨place, eq_true_of_ne_false fun connected =>
        nomatch (inv.connected connected).symm.trans backend⟩
      stopping := fun _ => .inl place
      returned := nofun }
  | stopReports reporting =>
    rename_i inRelease st
    rw [reporting] at place
    cases inRelease with
    | true =>
      exact { inv with
        created := nofun
        caller := trivial
        stopping := fun _ => .inl place.1
        returned := nofun
        released := fun gone => ⟨(inv.released gone).1, nofun⟩ }
    | false =>
      exact { inv with
        created := nofun
        caller := nofun
        stopping := fun _ => .inl place.1
        returned := fun _ => rfl
        released := fun gone => ⟨(inv.released gone).1, nofun⟩ }
  | releasesMembers releasing =>
    rw [releasing] at place
    exact { inv with
      created := fun new => { inv.created new with
        up := rfl
        dropped := rfl
        disconnected := rfl
        place := rfl
        worker := .inl place }
      caller := place
      attached := fun present => absurd place present
      connecting := fun connecting => nomatch place.symm.trans connecting
      stopping := fun _ => .inl place
      owned := nofun
      session := by simp
      connected := nofun
      returned := nofun }
  | releaseReports reporting =>
    rw [reporting] at place
    exact { inv with
      created := nofun
      caller := nofun
      stopping := fun _ => .inl place
      returned := fun _ => rfl
      released := fun _ => ⟨place, nofun⟩ }

theorem CallerStep.inv (inv : Inv s) (step : CallerStep s l t) : Inv t := by
  cases step with
  | init step => exact step.inv inv
  | start step => exact step.inv inv
  | stop step => exact step.inv inv
  | updateConfig idle updated =>
    obtain ⟨config, text, rfl⟩ := StreamImpl.updateConfig_cases updated
    exact inv.answers idle .updateConfig nofun _ config text

/-- A round of the worker that is no `Connect`. -/
theorem Inv.works {impl : StreamImpl} {worker : Worker} (inv : Inv s) (present : s.worker ≠ .absent)
    (going : worker ≠ .absent ∧ worker ≠ .connecting ∧ worker ≠ .exited)
    (created : impl.status.state = .kCreated → Untouched { s with impl, worker })
    (state : impl.status.state = .kCreated ↔ s.impl.status.state = .kCreated)
    (backend : impl.backend = s.impl.backend) (stop : impl.reStop = s.impl.reStop)
    (owned : s.impl.Owns → impl.Owns) : Inv { s with impl, worker } :=
  { inv with
    created
    caller := inv.caller.frame state backend (iff_of_false going.1 present) (.inl rfl) rfl
    attached := fun _ => (congrArg Option.isSome backend).trans (inv.attached present)
    connecting := fun connecting => absurd connecting going.2.1
    exited := fun exited => absurd exited going.2.2
    stopping := fun stops => .inr ((inv.stopping (stop.symm.trans stops)).resolve_left present)
    owned := fun has => owned (inv.owned ((congrArg Option.isSome backend).symm.trans has))
    connected := fun up => (congrArg Option.isSome backend).trans (inv.connected up)
    released := fun gone => absurd (inv.released gone).1 present }

theorem WorkerStep.inv (inv : Inv s) (step : WorkerStep s l t) : Inv t := by
  cases step with
  | wakes asleep go =>
    have present : s.worker ≠ .absent := by simp [asleep]
    refine inv.works present (by simp) (fun new => ?_) .rfl rfl rfl id
    have untouched := inv.created new
    exact { untouched with worker := .inr ⟨untouched.spawned present, .inr rfl⟩ }
  | exits asleep stop =>
    have present : s.worker ≠ .absent := by simp [asleep]
    exact { inv with
      created := fun new =>
        absurd (inv.rests ((inv.created new).spawned present) rfl stop) present
      caller := inv.caller.frame .rfl rfl (iff_of_false nofun present) (.inl rfl) rfl
      attached := fun _ => inv.attached present
      connecting := nofun
      exited := fun _ => stop
      stopping := fun stop => .inr ((inv.stopping stop).resolve_left present)
      released := fun gone => absurd (inv.released gone).1 present }
  | skips awake ran =>
    have present : s.worker ≠ .absent := by simp [awake]
    obtain ⟨⟨handler, rfl, has⟩, -⟩ := StreamImpl.workerRound_cases ran
    refine inv.works present (by simp) (fun new => ?_) .rfl rfl rfl
      fun owns => ⟨owns.1, owns.2.1, has.trans owns.2.2⟩
    have untouched := inv.created new
    exact { untouched with worker := .inr ⟨untouched.spawned present, .inl rfl⟩ }
  | fires awake ran =>
    have present : s.worker ≠ .absent := by simp [awake]
    obtain ⟨⟨handler, rfl, has⟩, armed⟩ := StreamImpl.workerRound_cases ran
    refine inv.works present (by simp) (fun new => ?_) .rfl rfl rfl
      fun owns => ⟨owns.1, owns.2.1, has.trans owns.2.2⟩
    -- an untouched stream is not armed
    exact nomatch (inv.created new).disarmed.symm.trans (armed rfl).1
  | connects attempting backend =>
    have present : s.worker ≠ .absent := by simp [attempting]
    have later := inv.left_of_worker present (by simp [attempting]) (by simp [attempting])
    exact { inv with
      created := fun new => absurd new later
      caller := inv.caller.frame .rfl rfl (iff_of_false nofun present) (.inr ⟨rfl, present⟩) rfl
      attached := fun _ => backend
      connecting := fun _ => rfl
      exited := nofun
      stopping := fun stop => .inr ((inv.stopping stop).resolve_left present)
      session := fun _ => rfl
      connected := fun _ => backend
      released := fun gone => absurd (inv.released gone).1 present }
  | connectsNothing attempting backend =>
    exact nomatch (inv.attached (by simp [attempting])).symm.trans backend
  | connected connecting st =>
    have present : s.worker ≠ .absent := by simp [connecting]
    have later := inv.left_of_worker present (by simp [connecting]) (by simp [connecting])
    have connected : Inv { s with worker := if st = .kOk then .connected else .failed st } :=
      inv.works present (by split <;> simp) (fun new => absurd new later) .rfl rfl rfl id
    exact { connected with
      created := fun new => absurd new later
      caller := connected.caller.frame .rfl rfl .rfl (.inl rfl) rfl
      session := fun _ => inv.connecting connecting }
  | disarms connected =>
    have present : s.worker ≠ .absent := by simp [connected]
    have later := inv.left_of_worker present (by simp [connected]) (by simp [connected])
    exact inv.works present (by simp) (fun new => absurd new later) .rfl rfl rfl
      fun owns => ⟨owns.1, owns.2.1, by simp [owns.2.2]⟩
  | succeeds disarmed =>
    have present : s.worker ≠ .absent := by simp [disarmed]
    have later := inv.left_of_worker present (by simp [disarmed]) (by simp [disarmed])
    exact inv.works present (by simp) (fun new => absurd new later) .rfl rfl rfl
      fun owns => ⟨owns.1, by simp [owns.2.1], owns.2.2⟩
  | reports reporting =>
    have present : s.worker ≠ .absent := by simp [reporting]
    have later := inv.left_of_worker present (by simp [reporting]) (by simp [reporting])
    exact inv.works present (by simp) nofun (iff_of_false nofun later) rfl rfl id
  | fails failed =>
    have present : s.worker ≠ .absent := by simp [failed]
    have later := inv.left_of_worker present (by simp [failed]) (by simp [failed])
    exact inv.works present (by simp) (fun new => absurd new later) .rfl rfl rfl id

theorem BackendStep.inv (inv : Inv s) (step : BackendStep s l t) : Inv t := by
  cases step with
  | emit talking snapshot known =>
    exact { inv with
      created := fun new => nomatch (inv.created new).not_talking.symm.trans talking
      caller := inv.caller.frame .rfl rfl .rfl (.inl rfl) rfl
      session := fun session => inv.session <| by
        rcases session with up | dropped
        · exact .inl up
        · rw [Bool.or_eq_true, Bool.and_eq_true] at dropped
          exact dropped.elim .inr fun drop => .inl drop.1
      reported := List.forall_mem_append.mpr
        ⟨inv.reported, List.forall_mem_singleton.mpr known⟩ }
  | deliver index pending =>
    rename_i snapshot
    have member := List.mem_of_getElem? pending
    have later : s.impl.status.state ≠ .kCreated := fun new => by
      rw [(inv.created new).silent] at member
      contradiction
    have known := (StreamState.reported_ne (inv.reported _ member)).1
    have fewer : ∀ other ∈ s.inFlight.eraseIdx index, other.state.reported = true :=
      fun other left => inv.reported other (List.mem_of_mem_eraseIdx left)
    obtain ⟨-, -, -, -, replaced⟩ | ⟨-, replaced⟩ := s.impl.onBackendStatusChange_cases snapshot
    · rw [replaced]
      exact { inv with
        created := nofun
        caller := inv.caller.frame (iff_of_false nofun later) rfl .rfl (.inl rfl) rfl
        reported := fewer
        released := fun gone => ⟨(inv.released gone).1, nofun⟩ }
    · rw [replaced]
      exact { inv with
        created := fun new => absurd new known
        caller := inv.caller.frame (iff_of_false known later) rfl .rfl (.inl rfl) rfl
        reported := fewer
        released := fun gone => ⟨(inv.released gone).1, known⟩ }

theorem Step.inv (inv : Inv s) (step : Step s l t) : Inv t := by
  cases step with
  | caller step => exact step.inv inv
  | worker step => exact step.inv inv
  | backend step => exact step.inv inv
  | send step => exact step.inv inv

end Stream
end VideoCodec
