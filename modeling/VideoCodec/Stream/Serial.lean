import VideoCodec.Stream.Invariant

/-! When the calls on a backend follow one another. The worker can connect only
after a drop that found the stream active, and while `Start` connects only the
backend can make it so, by reporting `kStreaming` and `kDisconnected` both. -/
namespace VideoCodec

open Transition

namespace Stream

/-- Places where the caller is inside the backend: its `Connect`, its
`Disconnect` and its destructor. -/
def Caller.onBackend : Caller → Bool
  | .startConnecting | .disconnect _ | .releaseMembers => true
  | _ => false

/-- Neither thread is inside the backend while the other one is. -/
def Serial (s : Sys) : Prop := ¬(s.caller.onBackend = true ∧ s.worker = .connecting)

/-- While the caller's `Connect` runs, the backend does not report `missing`. -/
def Withholds (missing : StreamState) (s : Sys) (l : Label) : Prop :=
  s.caller = .startConnecting → ∀ snapshot, l = .backend (.emit snapshot) →
    snapshot.state ≠ missing

/-- Places of `Start` until its `Connect` returns. -/
def Caller.opening : Caller → Bool
  | .startReport | .startConnect | .startConnecting => true
  | _ => false

/-- The `Connect` of `Start` is ahead, or running. -/
def Starting (s : Sys) : Prop := s.impl.status.state = .kConfigured ∨ s.caller.opening = true

/-- Until the first `Connect` returns there is no session to lose, so that
nothing arms the worker. -/
structure Unarmed (missing : StreamState) (s : Sys) : Prop where
  up : s.up = false
  disarmed : s.impl.reconnectArmed = false
  worker : s.worker = .absent ∨ s.worker = .asleep ∨ s.worker = .awake ∨ s.worker = .exited
  silent : ∀ snapshot ∈ s.inFlight, snapshot.state ≠ missing
  inactive : missing = .kStreaming → s.impl.status.state.active = false

structure Orderly (missing : StreamState) (s : Sys) : Prop where
  inv : Inv s
  unarmed : Starting s → Unarmed missing s
  /-- `kConfigured` is stored once, and `Start` leaves it behind. -/
  left : s.caller.beforeStart = false → s.caller ≠ .startReport →
    s.impl.status.state ≠ .kConfigured

section Steps
variable {missing : StreamState} {s t : Sys}

theorem Unarmed.not_connecting (unarmed : Unarmed missing s) : s.worker ≠ .connecting := by
  rcases unarmed.worker with place | place | place | place <;> simp [place]

theorem Orderly.serial (orderly : Orderly missing s) : Serial s := by
  rintro ⟨inside, connecting⟩
  have place := orderly.inv.caller
  cases stands : s.caller with
  | startConnecting =>
    have starting : Starting s := .inr (by rw [stands]; rfl)
    exact (orderly.unarmed starting).not_connecting connecting
  | disconnect | releaseMembers =>
    rw [stands] at place
    exact nomatch connecting.symm.trans place
  | _ =>
    rw [stands] at inside
    contradiction

/-- Once `kConfigured` and `Start` are behind, only the invariant is left to keep. -/
theorem Inv.orderly (inv : Inv s) (state : s.impl.status.state ≠ .kConfigured)
    (place : s.caller.opening = false) : Orderly missing s where
  inv := inv
  unarmed starting := by
    rcases starting with configured | starting
    · exact absurd configured state
    · rw [place] at starting
      contradiction
  left _ _ := state

/-- The caller moves on without a status of its own. -/
theorem Orderly.moves (orderly : Orderly missing s) (inv : Inv t)
    (state : t.impl.status.state = s.impl.status.state)
    (armed : t.impl.reconnectArmed = s.impl.reconnectArmed ∨ t.impl.reconnectArmed = false)
    (up : t.up = s.up ∨ t.up = false) (worker : t.worker = s.worker ∨ t.worker = .absent)
    (inFlight : t.inFlight = s.inFlight) (place : t.caller.opening = false)
    (left : t.caller.beforeStart = false →
      s.caller.beforeStart = false ∧ s.caller ≠ .startReport) : Orderly missing t where
  inv := inv
  unarmed starting := by
    have configured : s.impl.status.state = .kConfigured := by
      rcases starting with configured | starting
      · exact state.symm.trans configured
      · rw [place] at starting
        contradiction
    have unarmed := orderly.unarmed (.inl configured)
    constructor
    · exact up.elim (fun same => same.trans unarmed.up) id
    · exact armed.elim (fun same => same.trans unarmed.disarmed) id
    · rcases worker with same | gone
      · exact same ▸ unarmed.worker
      · exact .inl gone
    · exact inFlight ▸ unarmed.silent
    · exact state ▸ unarmed.inactive
  left before _ := by
    obtain ⟨before, elsewhere⟩ := left before
    exact state ▸ orderly.left before elsewhere

theorem InitStep.orderly (orderly : Orderly missing s) (step : InitStep s l t) :
    Orderly missing t := by
  have inv := step.inv orderly.inv
  have place := orderly.inv.caller
  cases step with
  | initReturns idle guarded =>
    obtain ⟨-, -, rfl⟩ | ⟨-, -, -, rfl⟩ | ⟨-, -, none, -⟩ := StreamImpl.initGuard_cases guarded
    · exact orderly.moves inv rfl (.inl rfl) (.inl rfl) (.inl rfl) rfl rfl nofun
    · exact inv.orderly nofun rfl
    · contradiction
  | initGoesOn idle guarded =>
    obtain ⟨-, some, -⟩ | ⟨-, -, some, -⟩ | ⟨new, -, -, rfl⟩ := StreamImpl.initGuard_cases guarded
    · contradiction
    · contradiction
    · exact inv.orderly (by simp [new]) rfl
  | initFound creating =>
    rw [creating] at place
    exact inv.orderly (by simp [show s.impl.status.state = .kCreated from place]) rfl
  | initMissed => exact inv.orderly nofun rfl
  | initSpawns spawning =>
    rw [spawning] at place
    exact inv.orderly (by simp [place.1]) rfl
  | initKeepsWorker spawning =>
    rw [spawning] at place
    exact inv.orderly (by simp [place.1]) rfl
  | initReports reporting =>
    rw [reporting] at place
    have untouched := orderly.inv.created place.1
    refine ⟨inv, fun _ => ?_, nofun⟩
    constructor
    · exact untouched.up
    · exact untouched.disarmed
    · rcases untouched.worker with absent | ⟨-, asleep | awake⟩
      · exact .inl absent
      · exact .inr (.inl asleep)
      · exact .inr (.inr (.inl awake))
    · intro snapshot member
      have silent : snapshot ∈ ([] : List StreamStatus) := untouched.silent ▸ member
      contradiction
    · exact fun _ => rfl

theorem StartStep.orderly (orderly : Orderly missing s) (step : StartStep s l t) :
    Orderly missing t := by
  have inv := step.inv orderly.inv
  cases step with
  | startReturns idle guarded =>
    obtain ⟨-, none, -⟩ | ⟨-, -, text, rfl⟩ := StreamImpl.startGuard_cases guarded
    · contradiction
    · exact orderly.moves inv rfl (.inl rfl) (.inl rfl) (.inl rfl) rfl rfl nofun
  | startGoesOn idle guarded =>
    obtain ⟨configured, -, rfl⟩ | ⟨-, some, -⟩ := StreamImpl.startGuard_cases guarded
    · have unarmed := orderly.unarmed (.inl configured)
      exact ⟨inv, fun _ => { unarmed with }, fun _ other => absurd rfl other⟩
    · contradiction
  | startReports reporting =>
    have unarmed := orderly.unarmed (.inr (by rw [reporting]; rfl))
    exact ⟨inv, fun _ => { unarmed with inactive := fun _ => rfl }, fun _ _ => nofun⟩
  | startConnects entering =>
    have unarmed := orderly.unarmed (.inr (by rw [entering]; rfl))
    have later := orderly.left (by rw [entering]; rfl) (by simp [entering])
    exact ⟨inv, fun _ => { unarmed with up := rfl }, fun _ _ => later⟩
  | startConnected connecting st =>
    have later := orderly.left (by rw [connecting]; rfl) (by simp [connecting])
    refine inv.orderly later ?_
    by_cases ok : st = .kOk <;> simp [ok, Caller.opening]
  | startFails failed =>
    exact inv.orderly (orderly.left (by rw [failed]; rfl) (by simp [failed])) rfl
  | startSchedules scheduling =>
    have later := orderly.left (by rw [scheduling]; rfl) (by simp [scheduling])
    refine inv.orderly ?_ rfl
    obtain ⟨-, scheduled⟩ | ⟨-, scheduled⟩ := s.impl.scheduleReconnect_cases
    all_goals
      simp only [Sys.goOn, scheduled]
      exact later
  | startSucceeds succeeded =>
    exact inv.orderly (orderly.left (by rw [succeeded]; rfl) (by simp [succeeded])) rfl
  | startReconnects | startStreams => exact inv.orderly nofun rfl

theorem StopStep.orderly (orderly : Orderly missing s) (step : StopStep s l t) :
    Orderly missing t := by
  have inv := step.inv orderly.inv
  cases step with
  | stopReturns | releaseInactive =>
    exact orderly.moves inv rfl (.inl rfl) (.inl rfl) (.inl rfl) rfl rfl nofun
  | stopGoesOn idle guarded =>
    exact inv.orderly (StreamState.active_ne (StreamImpl.stopGuard_eq_none.mp guarded)).2 rfl
  | releaseActive idle active => exact inv.orderly (StreamState.active_ne active).2 rfl
  | releaseStopReturns place | releaseStopGoesOn place | joinsForStop place | disconnects place
  | disconnectsNothing place =>
    exact inv.orderly (orderly.left (by rw [place]; rfl) (by simp [place])) rfl
  | storesStop storing =>
    rename_i call
    refine orderly.moves inv rfl (.inl rfl) (.inl rfl) (.inl rfl) rfl rfl fun later => ?_
    rw [storing]
    cases call with
    | stop => exact ⟨rfl, nofun⟩
    | release => contradiction
  | storesDisarmed storing =>
    rename_i call
    refine orderly.moves inv rfl (.inr rfl) (.inl rfl) (.inl rfl) rfl rfl fun later => ?_
    rw [storing]
    cases call with
    | stop => exact ⟨rfl, nofun⟩
    | release => contradiction
  | joinsForRelease joining =>
    exact orderly.moves inv rfl (.inl rfl) (.inl rfl) (.inr rfl) rfl rfl nofun
  | stopReports reporting =>
    rename_i inRelease st
    cases inRelease <;> exact inv.orderly nofun rfl
  | releasesMembers releasing =>
    exact orderly.moves inv rfl (.inl rfl) (.inr rfl) (.inl rfl) rfl rfl nofun
  | releaseReports => exact inv.orderly nofun rfl

theorem CallerStep.orderly (orderly : Orderly missing s) (step : CallerStep s l t) :
    Orderly missing t := by
  have inv := step.inv orderly.inv
  cases step with
  | init step => exact step.orderly orderly
  | start step => exact step.orderly orderly
  | stop step => exact step.orderly orderly
  | updateConfig idle updated =>
    obtain ⟨config, text, rfl⟩ := StreamImpl.updateConfig_cases updated
    exact orderly.moves inv rfl (.inl rfl) (.inl rfl) (.inl rfl) rfl rfl nofun

/-- A step of a thread that leaves the caller where it stands and the stream's
state as it is, where the worker has nothing to do before `Start` has connected. -/
theorem Orderly.frame (orderly : Orderly missing s) (inv : Inv t) (caller : t.caller = s.caller)
    (state : t.impl.status.state = s.impl.status.state)
    (kept : Starting s → Unarmed missing s → Unarmed missing t) : Orderly missing t where
  inv := inv
  unarmed starting := by
    have before : Starting s := by
      rw [Starting, ← state, ← caller]
      exact starting
    exact kept before (orderly.unarmed before)
  left before elsewhere := by
    rw [caller] at before elsewhere
    exact state ▸ orderly.left before elsewhere

theorem WorkerStep.orderly (orderly : Orderly missing s) (step : WorkerStep s l t) :
    Orderly missing t := by
  have inv := step.inv orderly.inv
  cases step with
  | wakes =>
    exact orderly.frame inv rfl rfl fun _ unarmed =>
      { unarmed with worker := .inr (.inr (.inl rfl)) }
  | exits =>
    exact orderly.frame inv rfl rfl fun _ unarmed =>
      { unarmed with worker := .inr (.inr (.inr rfl)) }
  | skips awake ran =>
    obtain ⟨⟨handler, rfl, -⟩, -⟩ := StreamImpl.workerRound_cases ran
    exact orderly.frame inv rfl rfl fun _ unarmed => { unarmed with worker := .inr (.inl rfl) }
  | fires awake ran =>
    obtain ⟨⟨handler, rfl, -⟩, armed⟩ := StreamImpl.workerRound_cases ran
    exact orderly.frame inv rfl rfl fun _ unarmed =>
      nomatch unarmed.disarmed.symm.trans (armed rfl).1
  | connects place | connectsNothing place | connected place | disarms place | succeeds place
  | fails place =>
    refine orderly.frame inv rfl rfl fun _ unarmed => ?_
    have resting := unarmed.worker
    rw [place] at resting
    simp at resting
  | reports place =>
    refine ⟨inv, fun starting => ?_, fun _ _ => nofun⟩
    rcases starting with configured | starting
    · contradiction
    · have resting := (orderly.unarmed (.inr starting)).worker
      rw [place] at resting
      simp at resting

/-- Before the first `Connect` is back, the backend speaks only inside it. -/
theorem Orderly.speaks (orderly : Orderly missing s) (starting : Starting s)
    (talking : s.talking = true) : s.caller = .startConnecting := by
  have unarmed := orderly.unarmed starting
  simp only [Sys.talking, unarmed.up, unarmed.not_connecting, Bool.or_eq_true,
    decide_eq_true_eq, Bool.false_eq_true, false_or, or_false] at talking
  rcases talking with (inside | leaving) | leaving
  · exact inside
  all_goals
    rcases starting with configured | starting
    · exact absurd configured (orderly.left (by rw [leaving]; rfl) (by simp [leaving]))
    · rw [leaving] at starting
      contradiction

theorem BackendStep.orderly (known : missing = .kStreaming ∨ missing = .kDisconnected)
    (orderly : Orderly missing s) (withheld : Withholds missing s (.backend l))
    (step : BackendStep s l t) : Orderly missing t := by
  have inv := step.inv orderly.inv
  cases step with
  | emit talking snapshot =>
    refine orderly.frame inv rfl rfl fun starting unarmed => { unarmed with
      silent := List.forall_mem_append.mpr ⟨unarmed.silent, List.forall_mem_singleton.mpr ?_⟩ }
    exact withheld (orderly.speaks starting talking) snapshot rfl
  | deliver index pending =>
    rename_i snapshot
    have member := List.mem_of_getElem? pending
    have reported := orderly.inv.reported snapshot member
    have fewer : ∀ other ∈ s.inFlight.eraseIdx index, other ∈ s.inFlight :=
      fun other left => List.mem_of_mem_eraseIdx left
    obtain ⟨drop, active, -, -, replaced⟩ | ⟨-, replaced⟩ :=
      s.impl.onBackendStatusChange_cases snapshot
    · refine ⟨inv, fun starting => ?_, fun _ _ => by rw [replaced]; nofun⟩
      -- a drop that arms found the stream active, before its first session
      rcases starting with configured | starting
      · rw [replaced] at configured
        contradiction
      · have unarmed := orderly.unarmed (.inr starting)
        rcases known with rfl | rfl
        · rw [unarmed.inactive rfl] at active
          contradiction
        · exact absurd drop (unarmed.silent snapshot member)
    · have later := (StreamState.reported_ne reported).2
      refine ⟨inv, fun starting => ?_, fun _ _ => by rw [replaced]; exact later⟩
      rcases starting with configured | starting
      · rw [replaced] at configured
        exact absurd configured later
      · have unarmed := orderly.unarmed (.inr starting)
        rw [replaced]
        exact { unarmed with
          silent := fun other left => unarmed.silent other (fewer other left)
          inactive := fun streaming => by
            have other := streaming ▸ unarmed.silent snapshot member
            cases state : snapshot.state <;> simp_all [StreamState.active, StreamState.reported] }

theorem Step.orderly (known : missing = .kStreaming ∨ missing = .kDisconnected)
    (orderly : Orderly missing s) (step : Guarded Step (Withholds missing) s l t) :
    Orderly missing t := by
  obtain ⟨step, withheld⟩ := step
  cases step with
  | caller step => exact step.orderly orderly
  | worker step => exact step.orderly orderly
  | backend step => exact step.orderly known orderly withheld
  | send step =>
    have inv := step.inv orderly.inv
    obtain ⟨status, abr, count, sends, log, rfl, state, -⟩ := step.frame
    exact orderly.frame inv rfl state fun _ unarmed =>
      { unarmed with inactive := fun streaming => state ▸ unarmed.inactive streaming }

end Steps

theorem created_orderly (missing : StreamState) (config : StreamConfig) :
    Orderly missing (.created config) :=
  (created_inv config).orderly nofun rfl

/-- `Init` and `Start` up to the first `Connect`. -/
def connectLabels : List Label :=
  [.caller .init, .caller (.createBackend true), .caller .proceed, .caller .proceed,
    .caller .start, .caller .proceed, .caller .proceed]

/-- A stream inside its first `Connect`. -/
def Sys.connecting (config : StreamConfig) : Sys where
  impl := (StreamImpl.new config).adoptBackend.armWorker.updateStatus .kConnecting
  caller := .startConnecting
  worker := .asleep
  disconnected := false
  started := true

theorem connects (config : StreamConfig) (valid : StreamImpl.validateConfig config = .kOk) :
    Run Step (.created config) connectLabels (.connecting config) := by
  have guarded : (StreamImpl.new config).initGuard = (none, StreamImpl.new config) := by
    have passes : ¬StreamState.kConfigured ≤ .kCreated ∧ ¬StreamState.kDestroyed ≤ .kCreated := by
      decide
    simp [StreamImpl.initGuard, StreamImpl.new, passes, valid]
  exact .next (.caller (.init (.initGoesOn rfl guarded))) <|
    .next (.caller (.init (.initFound rfl))) <| .next (.caller (.init (.initSpawns rfl rfl))) <|
    .next (.caller (.init (.initReports rfl))) <|
    .next (.caller (.start (.startGoesOn rfl rfl))) <|
    .next (.caller (.start (.startReports rfl))) <|
    .single (.caller (.start (.startConnects rfl rfl)))

/-- The calls on the backend come one after another in every run in which the
first `Connect` reports no `kStreaming`, or no `kDisconnected`. -/
theorem backend_calls_serial (config : StreamConfig)
    (known : missing = .kStreaming ∨ missing = .kDisconnected)
    (run : Run (Guarded Step (Withholds missing)) (.created config) ls s) : Serial s :=
  have orderly : Orderly missing s :=
    run.invariant (fun held step => Step.orderly known held step) (created_orderly missing config)
  orderly.serial

/-- The first `Connect` loses its connection and fails, and the worker connects. -/
theorem backend_calls_serial_failed :
    ∃ s, Run (Guarded Step (Withholds .kStreaming))
        (.created { backendType := "webrtc", remoteUrl := "http" })
        (connectLabels ++ [.backend (.emit { state := .kDisconnected }), .backend (.deliver 0),
          .caller (.connectReturns .kNetworkError), .caller .proceed, .caller .proceed,
          .caller .proceed, .worker .wake, .worker .round, .worker .connect]) s ∧
      s.worker = .connecting ∧ Serial s := by
  have run := (connects { backendType := "webrtc", remoteUrl := "http" } rfl).trans <|
    .next (.backend (.emit rfl { state := .kDisconnected } rfl)) <|
    .next (.backend (.deliver 0 rfl)) <|
    .next (.caller (.start (.startConnected rfl .kNetworkError))) <|
    .next (.caller (.start (.startFails rfl))) <|
    .next (.caller (.start (.startSchedules rfl))) <|
    .next (.caller (.start (.startReconnects rfl))) <|
    .next (.worker (.wakes rfl rfl)) <| .next (.worker (.fires rfl rfl)) <|
    .single (.worker (.connects rfl rfl))
  have guarded := run.guarded (C := Withholds .kStreaming) fun s l member _ snapshot emitted => by
    subst emitted
    simp only [connectLabels, List.mem_append, List.mem_cons, List.not_mem_nil, or_false,
      reduceCtorEq, Label.backend.injEq, BackendLabel.emit.injEq, false_or, or_self] at member
    rw [member]
    nofun
  exact ⟨_, guarded, rfl, backend_calls_serial _ (.inl rfl) guarded⟩

/-- Where the backend reports both while `Start` connects, the worker connects as well. -/
theorem calls_overlap :
    ∃ s, Run Step (.created { backendType := "webrtc", remoteUrl := "http" })
        (connectLabels ++ [.backend (.emit { state := .kStreaming }), .backend (.deliver 0),
          .backend (.emit { state := .kDisconnected }), .backend (.deliver 0),
          .worker .wake, .worker .round, .worker .connect]) s ∧ ¬Serial s := by
  refine ⟨_, .trans (connects _ rfl) <|
    .next (.backend (.emit rfl { state := .kStreaming } rfl)) <|
    .next (.backend (.deliver 0 rfl)) <|
    .next (.backend (.emit rfl { state := .kDisconnected } rfl)) <|
    .next (.backend (.deliver 0 rfl)) <|
    .next (.worker (.wakes rfl rfl)) <| .next (.worker (.fires rfl rfl)) <|
    .single (.worker (.connects rfl rfl)), fun serial => ?_⟩
  exact serial ⟨rfl, rfl⟩

end Stream
end VideoCodec
