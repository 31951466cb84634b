import VideoCodec.Stream.Callbacks
import VideoCodec.Stream.Invariant

/-! What holds in every state of a stream whose callbacks make calls: an assertion
for each frame, and what the sections of the threads leave to one another. -/
namespace VideoCodec

open Transition

/-- The first states, which no stream comes back to. -/
def StreamState.early : StreamState → Bool
  | .kCreated | .kConfigured => true
  | _ => false

namespace Stream

/-- Places of `Init` behind its guard. -/
def Caller.initialising : Caller → Bool
  | .initCreate | .initSpawn | .initReport => true
  | _ => false

/-- Places behind the first report of `Start`. -/
def Caller.later : Caller → Bool
  | .startReport => false
  | place => !place.beforeStart

/-- Places that the worker can be at while nothing has armed it. -/
def Worker.unarmed : Worker → Bool
  | .absent | .asleep | .awake | .exited => true
  | _ => false

/-- Places of `Start` ahead of its `Connect`. -/
def Caller.beforeConnect : Caller → Bool
  | .startReport | .startConnect => true
  | _ => false

namespace Reentrant

/-- `kCreated` and `kConfigured` are behind. -/
def Left (s : Sys) : Prop := s.impl.status.state.early = false

/-- The first `Connect` is ahead. -/
def Unconnected (s : Sys) : Prop := ¬Left s ∨ s.caller.beforeConnect = true

/-- A stream that has not been connected has no session and no events. -/
structure Fresh (s : Reentrant) : Prop where
  up : s.sys.up = false
  disconnected : s.sys.disconnected = true
  silent : s.sys.inFlight = []
  disarmed : s.sys.impl.reconnectArmed = false
  inactive : s.sys.impl.status.state.active = false
  worker : s.sys.worker.unarmed = true
  alone : ∀ thread, thread ≠ .caller → s.frames thread = []
  callbacks : ∀ frame ∈ s.frames .caller, frame = .callback

/-- What the worker's own thread knows once its `Stop` has stored `re_stop_`. -/
def Told (s : Sys) : Thread → Prop
  | .worker => s.impl.reStop = true
  | _ => True

/-- What a thread knows behind the join of its `Stop`, or where it has left the join out. -/
def Joined (s : Sys) : Thread → Prop
  | .worker => s.impl.reStop = true
  | _ => s.worker = .absent

/-- What holds at a frame of the thread. -/
def FrameHolds (thread : Thread) (s : Sys) : Frame → Prop
  | .callback => Left s
  | .storeStop => True
  | .storeDisarmed | .join => Told s thread
  | .disconnect | .disconnecting => Joined s thread
  | .stopReport _ => Joined s thread ∧ s.disconnected = true

/-- What holds where the caller stands. -/
def PlaceHolds (s : Sys) : Caller → Prop
  | .disconnect _ => s.worker = .absent
  | .stopReport _ _ => s.worker = .absent ∧ s.disconnected = true
  | _ => True

structure Inv (s : Reentrant) : Prop where
  fresh : Unconnected s.sys → Fresh s
  left : s.sys.caller.later = true → Left s.sys
  initialising : s.sys.caller.initialising = true → s.sys.impl.status.state = .kCreated
  attached : s.sys.disconnected = true ∨ s.sys.impl.backend.isSome = true
  place : PlaceHolds s.sys s.sys.caller
  reported : ∀ snapshot ∈ s.sys.inFlight, snapshot.state.reported = true
  frames : ∀ thread, ∀ frame ∈ s.frames thread, FrameHolds thread s.sys frame
  busy : s.frames .worker ≠ [] → s.sys.worker = .connecting ∨ s.sys.worker = .asleep

theorem created_inv (config : StreamConfig) : Inv (.created config) where
  fresh _ := ⟨rfl, rfl, rfl, rfl, rfl, rfl, fun _ _ => rfl, nofun⟩
  left := nofun
  initialising := nofun
  attached := .inl rfl
  place := trivial
  reported := nofun
  frames := nofun
  busy other := absurd rfl other

/-- What no section takes back, but those that start the worker or a `Connect`. -/
structure Keeps (s t : Sys) : Prop where
  left : Left s → Left t
  reStop : s.impl.reStop = true → t.impl.reStop = true
  worker : s.worker = .absent → t.worker = .absent
  disconnected : s.disconnected = true → t.disconnected = true

section Keeps
variable {s t : Sys} {thread : Thread}

theorem Keeps.told (keeps : Keeps s t) (holds : Told s thread) : Told t thread := by
  cases thread with
  | worker => exact keeps.reStop holds
  | _ => trivial

theorem Keeps.joined (keeps : Keeps s t) (holds : Joined s thread) : Joined t thread := by
  cases thread with
  | worker => exact keeps.reStop holds
  | _ => exact keeps.worker holds

theorem Keeps.frame (keeps : Keeps s t) {frame : Frame} (holds : FrameHolds thread s frame) :
    FrameHolds thread t frame := by
  cases frame with
  | callback => exact keeps.left holds
  | storeStop => trivial
  | storeDisarmed | join => exact keeps.told holds
  | disconnect | disconnecting => exact keeps.joined holds
  | stopReport => exact ⟨keeps.joined holds.1, keeps.disconnected holds.2⟩

theorem Keeps.place (keeps : Keeps s t) {place : Caller} (holds : PlaceHolds s place) :
    PlaceHolds t place := by
  cases place with
  | disconnect => exact keeps.worker holds
  | stopReport => exact ⟨keeps.worker holds.1, keeps.disconnected holds.2⟩
  | _ => trivial

theorem left_of_active (active : s.impl.status.state.active = true) : Left s := by
  cases state : s.impl.status.state <;> simp_all [Left, StreamState.early, StreamState.active]

theorem left_of_reported (reported : s.impl.status.state.reported = true) : Left s := by
  cases state : s.impl.status.state <;> simp_all [Left, StreamState.early, StreamState.reported]

theorem not_left_of_early (early : s.impl.status.state.early = true) : ¬Left s :=
  fun left => Bool.false_ne_true (left.symm.trans early)

theorem not_left_of_created (created : s.impl.status.state = .kCreated) : ¬Left s :=
  not_left_of_early (by rw [created]; rfl)

theorem false_or_of_imp {b : Bool} {p : Prop} (implies : b = true → p) : b = false ∨ p := by
  cases b with
  | false => exact .inl rfl
  | true => exact .inr (implies rfl)

theorem told_of_stored (stored : s.impl.reStop = true) : Told s thread := by
  cases thread with
  | worker => exact stored
  | _ => trivial

theorem told_of_other (other : thread ≠ .worker) : Told s thread := by
  cases thread with
  | worker => contradiction
  | _ => trivial

theorem Joined.absent (joined : Joined s thread) (other : thread ≠ .worker) :
    s.worker = .absent := by
  cases thread with
  | worker => contradiction
  | _ => exact joined

theorem joined_of_absent (other : thread ≠ .worker) (absent : s.worker = .absent) :
    Joined s thread := by
  cases thread with
  | worker => contradiction
  | _ => exact absent

end Keeps

section Caller
variable {s : Reentrant} {t : Sys} {frames : List Frame}

/-- Without a backend there is no `Connect` to undo. -/
theorem Inv.undone (inv : Inv s) (backend : s.sys.impl.backend.isSome = false) :
    s.sys.disconnected = true :=
  inv.attached.resolve_right fun has => Bool.false_ne_true (backend.symm.trans has)

/-- Nobody joins a worker that is inside a callback. -/
theorem Inv.still_busy (inv : Inv s) (stacked : s.frames .worker ≠ [])
    (worker : t.worker = s.sys.worker ∨ s.sys.worker = .exited ∨ s.sys.worker = .absent) :
    t.worker = .connecting ∨ t.worker = .asleep := by
  have busy := inv.busy stacked
  rcases worker with same | ended | absent
  · exact same ▸ busy
  · rw [ended] at busy
    exact absurd busy (by decide)
  · rw [absent] at busy
    exact absurd busy (by decide)

theorem Inv.others (inv : Inv s) (keeps : Keeps s.sys t) (thread : Thread)
    (_ : thread ≠ .caller) : ∀ frame ∈ s.frames thread, FrameHolds thread t frame :=
  fun frame member => keeps.frame (inv.frames thread frame member)

/-- A section behind which the stream is no longer fresh. -/
theorem Inv.late (inv : Inv s)
    (others : ∀ thread, thread ≠ .caller → ∀ frame ∈ s.frames thread, FrameHolds thread t frame)
    (callbacks : ∀ frame ∈ frames, frame = .callback) (left : Left t)
    (elsewhere : t.caller.beforeConnect = false ∧ t.caller.initialising = false)
    (inFlight : t.inFlight = s.sys.inFlight)
    (worker : t.worker = s.sys.worker ∨ s.sys.worker = .exited ∨ s.sys.worker = .absent)
    (attached : t.disconnected = true ∨ t.impl.backend.isSome = true)
    (place : PlaceHolds t t.caller) : Inv (s.goOn .caller frames t) where
  fresh unconnected := by
    rcases unconnected with early | starting
    · exact absurd left early
    · exact absurd (elsewhere.1.symm.trans starting) Bool.false_ne_true
  left _ := left
  initialising started := absurd (elsewhere.2.symm.trans started) Bool.false_ne_true
  attached := attached
  place := place
  reported snapshot member := inv.reported snapshot (inFlight ▸ member)
  frames thread frame member := by
    by_cases own : thread = .caller
    · subst own
      rw [goOn_self] at member
      rw [callbacks frame member]
      exact left
    · rw [goOn_other _ _ _ own] at member
      exact others thread own frame member
  busy stacked := by
    rw [goOn_other _ _ _ (by decide)] at stacked
    exact inv.still_busy stacked worker

/-- A section of a stream that has not been connected, and does not connect it. -/
theorem Inv.opens (inv : Inv s) (unconnected : Unconnected s.sys)
    (callbacks : ∀ frame ∈ frames, frame = .callback ∧ Left t)
    (left : t.caller.later = false ∨ Left t)
    (initialising : t.caller.initialising = false ∨ t.impl.status.state = .kCreated)
    (inFlight : t.inFlight = s.sys.inFlight)
    (worker : t.worker = s.sys.worker ∨ t.worker = .absent ∨ t.worker = .asleep)
    (up : t.up = s.sys.up ∨ t.up = false)
    (disconnected : s.sys.disconnected = true → t.disconnected = true)
    (armed : t.impl.reconnectArmed = s.sys.impl.reconnectArmed ∨ t.impl.reconnectArmed = false)
    (inactive : t.impl.status.state.active = false) (place : PlaceHolds t t.caller) :
    Inv (s.goOn .caller frames t) := by
  have fresh := inv.fresh unconnected
  have alone : ∀ thread, thread ≠ .caller → (s.goOn .caller frames t).frames thread = [] := by
    intro thread other
    rw [goOn_other _ _ _ other]
    exact fresh.alone thread other
  constructor
  · intro _
    exact {
      up := up.elim (fun same => same.trans fresh.up) id
      disconnected := disconnected fresh.disconnected
      silent := inFlight.trans fresh.silent
      disarmed := armed.elim (fun same => same.trans fresh.disarmed) id
      inactive
      worker := by
        rcases worker with same | absent | asleep
        · exact same ▸ fresh.worker
        · rw [goOn_sys, absent]
          rfl
        · rw [goOn_sys, asleep]
          rfl
      alone
      callbacks := fun frame member => (callbacks frame (goOn_self s frames t ▸ member)).1 }
  · intro later
    exact left.resolve_left fun early => Bool.false_ne_true (early.symm.trans later)
  · intro starting
    exact initialising.resolve_left fun outside => Bool.false_ne_true (outside.symm.trans starting)
  · exact .inl (disconnected fresh.disconnected)
  · exact place
  · intro snapshot member
    exact inv.reported snapshot (inFlight ▸ member)
  · intro thread frame member
    by_cases own : thread = .caller
    · subst own
      rw [goOn_self] at member
      rw [(callbacks frame member).1]
      exact (callbacks frame member).2
    · rw [alone thread own] at member
      contradiction
  · intro stacked
    exact absurd (alone .worker (by decide)) stacked

/-- A section that changes no state and connects nothing. -/
theorem Inv.steady (inv : Inv s) (keeps : Keeps s.sys t)
    (state : t.impl.status.state = s.sys.impl.status.state)
    (elsewhere : t.caller.beforeConnect = false ∧ t.caller.initialising = false)
    (left : t.caller.later = false ∨ s.sys.caller.later = true)
    (inFlight : t.inFlight = s.sys.inFlight)
    (worker : t.worker = s.sys.worker ∨
      t.worker = .absent ∧ (s.sys.worker = .exited ∨ s.sys.worker = .absent))
    (up : t.up = s.sys.up ∨ t.up = false)
    (armed : t.impl.reconnectArmed = s.sys.impl.reconnectArmed ∨ t.impl.reconnectArmed = false)
    (attached : t.disconnected = true ∨ t.impl.backend.isSome = true)
    (place : PlaceHolds t t.caller) : Inv (s.goOn .caller [] t) := by
  by_cases late : Left s.sys
  · exact inv.late (inv.others keeps) (List.forall_mem_nil _) (keeps.left late) elsewhere inFlight
      (worker.imp_right And.right) attached place
  · apply inv.opens (.inl late)
    · exact List.forall_mem_nil _
    · exact left.imp_right fun later => absurd (inv.left later) late
    · exact .inl elsewhere.2
    · exact inFlight
    · exact worker.imp_right fun gone => .inl gone.1
    · exact up
    · exact keeps.disconnected
    · exact armed
    · exact state ▸ (inv.fresh (.inl late)).inactive
    · exact place

theorem Inv.init {l : CallerLabel} (inv : Inv s) (step : InitStep s.sys l t) :
    Inv (s.goOn .caller s.sys.caller.calls t) := by
  have starting := inv.initialising
  cases step with
  | initReturns idle guarded =>
    rw [idle]
    obtain ⟨-, -, rfl⟩ | ⟨-, -, -, rfl⟩ | ⟨-, -, result, -⟩ := StreamImpl.initGuard_cases guarded
    · exact inv.steady ⟨id, id, id, id⟩ rfl ⟨rfl, rfl⟩ (.inl rfl) rfl (.inl rfl) (.inl rfl)
        (.inl rfl) inv.attached trivial
    · exact inv.late (inv.others ⟨fun _ => rfl, id, id, id⟩) (List.forall_mem_nil _) rfl
        ⟨rfl, rfl⟩ rfl (.inl rfl) inv.attached trivial
    · contradiction
  | initGoesOn idle guarded =>
    rw [idle]
    obtain ⟨-, result, -⟩ | ⟨-, -, result, -⟩ | ⟨created, -, -, rfl⟩ :=
      StreamImpl.initGuard_cases guarded
    · contradiction
    · contradiction
    · have unconnected : Unconnected s.sys := .inl (not_left_of_created created)
      exact inv.opens unconnected (List.forall_mem_nil _) (.inl rfl) (.inr created) rfl (.inl rfl)
        (.inl rfl) id (.inl rfl) (inv.fresh unconnected).inactive trivial
  | initFound place | initKeepsWorker place =>
    rw [place] at starting ⊢
    have unconnected : Unconnected s.sys := .inl (not_left_of_created (starting rfl))
    exact inv.opens unconnected (List.forall_mem_nil _) (.inl rfl) (.inr (starting rfl)) rfl
      (.inl rfl) (.inl rfl) id (.inl rfl) (inv.fresh unconnected).inactive trivial
  | initMissed creating =>
    rw [creating] at starting ⊢
    have fresh := inv.fresh (.inl (not_left_of_created (starting rfl)))
    exact inv.late (inv.others ⟨fun _ => rfl, id, id, id⟩) (List.forall_mem_nil _) rfl
      ⟨rfl, rfl⟩ rfl (.inl rfl) (.inl fresh.disconnected) trivial
  | initSpawns spawning free =>
    rw [spawning] at starting ⊢
    have unconnected : Unconnected s.sys := .inl (not_left_of_created (starting rfl))
    exact inv.opens unconnected (List.forall_mem_nil _) (.inl rfl) (.inr (starting rfl)) rfl
      (.inr (.inr rfl)) (.inl rfl) id (.inr rfl) (inv.fresh unconnected).inactive trivial
  | initReports reporting =>
    rw [reporting] at starting ⊢
    exact inv.opens (.inl (not_left_of_created (starting rfl))) (List.forall_mem_nil _) (.inl rfl)
      (.inl rfl) rfl (.inl rfl) (.inl rfl) id (.inl rfl) rfl trivial

theorem Inv.start {l : CallerLabel} (inv : Inv s) (step : StartStep s.sys l t) :
    Inv (s.goOn .caller s.sys.caller.calls t) := by
  have left := inv.left
  cases step with
  | startReturns idle guarded =>
    rw [idle]
    obtain ⟨-, result, -⟩ | ⟨-, -, text, rfl⟩ := StreamImpl.startGuard_cases guarded
    · contradiction
    · exact inv.steady ⟨id, id, id, id⟩ rfl ⟨rfl, rfl⟩ (.inl rfl) rfl (.inl rfl) (.inl rfl)
        (.inl rfl) inv.attached trivial
  | startGoesOn idle guarded =>
    rw [idle]
    obtain ⟨configured, -, rfl⟩ | ⟨-, result, -⟩ := StreamImpl.startGuard_cases guarded
    · have unconnected : Unconnected s.sys := .inl (not_left_of_early (by rw [configured]; rfl))
      exact inv.opens unconnected (List.forall_mem_nil _) (.inl rfl) (.inl rfl) rfl (.inl rfl)
        (.inl rfl) id (.inl rfl) (inv.fresh unconnected).inactive trivial
    · contradiction
  | startReports reporting =>
    rw [reporting]
    have left : Left (s.sys.goOn .startConnect (s.sys.impl.updateStatus .kConnecting)) := rfl
    exact inv.opens (.inr (by rw [reporting]; rfl)) (List.forall_mem_singleton.mpr ⟨rfl, left⟩)
      (.inr left) (.inl rfl) rfl (.inl rfl) (.inl rfl) id (.inl rfl) rfl trivial
  | startConnects entering backend =>
    have alone := (inv.fresh (.inr (by rw [entering]; rfl))).alone
    rw [entering] at left ⊢
    refine inv.late ?_ (List.forall_mem_nil _) (left rfl) ⟨rfl, rfl⟩ rfl (.inl rfl)
      (.inr backend) trivial
    intro thread other
    rw [alone thread other]
    exact List.forall_mem_nil _
  | startConnected connecting st =>
    rw [connecting] at left ⊢
    refine inv.late (inv.others ⟨id, id, id, id⟩) (List.forall_mem_nil _) (left rfl) ?_ rfl
      (.inl rfl) inv.attached ?_
    · by_cases ok : st = .kOk <;> simp [ok, Caller.initialising, Caller.beforeConnect]
    · simp only [Sys.leaveConnect, Sys.goOn]
      split <;> trivial
  | startFails place | startSucceeds place =>
    rw [place] at left ⊢
    exact inv.late (inv.others ⟨id, id, id, id⟩) (List.forall_mem_nil _) (left rfl) ⟨rfl, rfl⟩ rfl
      (.inl rfl) inv.attached trivial
  | startSchedules scheduling =>
    rw [scheduling] at left ⊢
    obtain ⟨-, scheduled⟩ | ⟨-, scheduled⟩ := s.sys.impl.scheduleReconnect_cases
    all_goals
      rw [scheduled]
      exact inv.late (inv.others ⟨id, id, id, id⟩) (List.forall_mem_nil _) (left rfl) ⟨rfl, rfl⟩ rfl
        (.inl rfl) inv.attached trivial
  | startReconnects ending | startStreams ending =>
    rw [ending]
    exact inv.late (inv.others ⟨fun _ => rfl, id, id, id⟩) (List.forall_mem_nil _) rfl
      ⟨rfl, rfl⟩ rfl (.inl rfl) inv.attached trivial

theorem Inv.stop {l : CallerLabel} (inv : Inv s) (step : StopStep s.sys l t) :
    Inv (s.goOn .caller s.sys.caller.calls t) := by
  have left := inv.left
  have place := inv.place
  cases step with
  | stopReturns idle guarded | releaseInactive idle guarded =>
    rw [idle]
    exact inv.steady ⟨id, id, id, id⟩ rfl ⟨rfl, rfl⟩ (.inl rfl) rfl (.inl rfl) (.inl rfl)
      (.inl rfl) inv.attached trivial
  | stopGoesOn idle guarded =>
    rw [idle]
    have active := left_of_active (StreamImpl.stopGuard_eq_none.mp guarded)
    exact inv.late (inv.others ⟨id, id, id, id⟩) (List.forall_mem_nil _) active ⟨rfl, rfl⟩ rfl
      (.inl rfl) inv.attached trivial
  | releaseActive idle active =>
    rw [idle]
    exact inv.late (inv.others ⟨id, id, id, id⟩) (List.forall_mem_nil _) (left_of_active active)
      ⟨rfl, rfl⟩ rfl (.inl rfl) inv.attached trivial
  | releaseStopReturns stopping | releaseStopGoesOn stopping =>
    rw [stopping] at left ⊢
    exact inv.late (inv.others ⟨id, id, id, id⟩) (List.forall_mem_nil _) (left rfl) ⟨rfl, rfl⟩ rfl
      (.inl rfl) inv.attached trivial
  | storesStop storing =>
    rw [storing]
    rename_i call
    refine inv.steady ⟨id, fun _ => rfl, id, id⟩ rfl ⟨rfl, rfl⟩ ?_ rfl (.inl rfl)
      (.inl rfl) (.inl rfl) inv.attached trivial
    cases call with
    | stop => exact .inr (by rw [storing]; rfl)
    | release => exact .inl rfl
  | storesDisarmed storing =>
    rw [storing]
    rename_i call
    refine inv.steady ⟨id, id, id, id⟩ rfl ⟨rfl, rfl⟩ ?_ rfl (.inl rfl)
      (.inl rfl) (.inr rfl) inv.attached trivial
    cases call with
    | stop => exact .inr (by rw [storing]; rfl)
    | release => exact .inl rfl
  | joinsForStop joining ended =>
    rw [joining] at left ⊢
    exact inv.late (inv.others ⟨id, id, fun _ => rfl, id⟩) (List.forall_mem_nil _) (left rfl)
      ⟨rfl, rfl⟩ rfl (.inr ended) inv.attached rfl
  | joinsForRelease joining ended =>
    rw [joining]
    exact inv.steady ⟨id, id, fun _ => rfl, id⟩ rfl ⟨rfl, rfl⟩ (.inl rfl) rfl
      (.inr ⟨rfl, ended⟩) (.inl rfl) (.inl rfl) inv.attached trivial
  | disconnects disconnecting backend st =>
    rw [disconnecting] at left place ⊢
    exact inv.late (inv.others ⟨id, id, id, fun _ => rfl⟩) (List.forall_mem_nil _) (left rfl)
      ⟨rfl, rfl⟩ rfl (.inl rfl) (.inl rfl) ⟨place, rfl⟩
  | disconnectsNothing disconnecting backend =>
    rw [disconnecting] at left place ⊢
    have undone := inv.undone backend
    exact inv.late (inv.others ⟨id, id, id, id⟩) (List.forall_mem_nil _) (left rfl) ⟨rfl, rfl⟩ rfl
      (.inl rfl) inv.attached ⟨place, undone⟩
  | stopReports reporting =>
    rename_i inRelease st
    rw [reporting]
    cases inRelease
    · exact inv.late (inv.others ⟨fun _ => rfl, id, id, id⟩) (List.forall_mem_nil _) rfl
        ⟨rfl, rfl⟩ rfl (.inl rfl) inv.attached trivial
    · exact inv.late (inv.others ⟨fun _ => rfl, id, id, id⟩)
        (List.forall_mem_singleton.mpr rfl) rfl ⟨rfl, rfl⟩ rfl
        (.inl rfl) inv.attached trivial
  | releasesMembers releasing =>
    rw [releasing]
    exact inv.steady ⟨id, id, id, fun _ => rfl⟩ rfl ⟨rfl, rfl⟩ (.inl rfl) rfl (.inl rfl)
      (.inr rfl) (.inl rfl) (.inl rfl) trivial
  | releaseReports reporting =>
    rw [reporting]
    exact inv.late (inv.others ⟨fun _ => rfl, id, id, id⟩) (List.forall_mem_nil _) rfl
      ⟨rfl, rfl⟩ rfl (.inl rfl) inv.attached trivial

theorem Inv.caller {l : CallerLabel} (inv : Inv s) (step : CallerStep s.sys l t) :
    Inv (s.goOn .caller s.sys.caller.calls t) := by
  cases step with
  | init step => exact inv.init step
  | start step => exact inv.start step
  | stop step => exact inv.stop step
  | updateConfig idle updated =>
    rw [idle]
    obtain ⟨config, text, rfl⟩ := StreamImpl.updateConfig_cases updated
    exact inv.steady ⟨id, id, id, id⟩ rfl ⟨rfl, rfl⟩ (.inl rfl) rfl (.inl rfl) (.inl rfl)
      (.inl rfl) inv.attached trivial

end Caller

section Others
variable {s : Reentrant} {t : Sys} {thread : Thread} {frames : List Frame}

/-- Only callbacks that have called nothing run on a stream that has not been connected. -/
theorem Inv.connected_of_frame (inv : Inv s) {frame : Frame} (member : frame ∈ s.frames thread)
    (other : frame ≠ .callback) : ¬Unconnected s.sys := by
  intro unconnected
  have fresh := inv.fresh unconnected
  by_cases own : thread = .caller
  · subst own
    exact other (fresh.callbacks frame member)
  · rw [fresh.alone thread own] at member
    contradiction

/-- A thread moves on a stream that has been connected. -/
theorem Inv.goes (inv : Inv s) (connected : ¬Unconnected s.sys) (keeps : Keeps s.sys t)
    (caller : t.caller = s.sys.caller)
    (reported : ∀ snapshot ∈ t.inFlight, snapshot.state.reported = true)
    (worker : t.worker = s.sys.worker ∨ s.sys.worker = .exited ∨ s.sys.worker = .absent)
    (attached : t.disconnected = true ∨ t.impl.backend.isSome = true)
    (holds : ∀ frame ∈ frames, FrameHolds thread t frame)
    (busy : thread = .worker → t.worker = .connecting ∨ t.worker = .asleep) :
    Inv (s.goOn thread frames t) where
  fresh unconnected := by
    refine absurd ?_ connected
    rw [goOn_sys, Unconnected, caller] at unconnected
    exact unconnected.imp_left fun early left => early (keeps.left left)
  left later := by
    rw [goOn_sys, caller] at later
    exact keeps.left (inv.left later)
  initialising starting := by
    rw [goOn_sys, caller] at starting
    exact absurd (.inl (not_left_of_created (inv.initialising starting))) connected
  attached := attached
  place := by
    rw [goOn_sys, caller]
    exact keeps.place inv.place
  reported := reported
  frames other frame member := by
    by_cases own : other = thread
    · subst own
      rw [goOn_self] at member
      exact holds frame member
    · rw [goOn_other _ _ _ own] at member
      exact keeps.frame (inv.frames other frame member)
  busy stacked := by
    by_cases own : thread = .worker
    · exact busy own
    · rw [goOn_other _ _ _ (Ne.symm own)] at stacked
      exact inv.still_busy stacked worker

/-- Only `last_error` and the configuration change. -/
theorem Inv.answers (inv : Inv s) (config : StreamConfig) (text : String) (started : Bool) :
    Inv { s with
      sys := { s.sys with impl := { s.sys.impl with config }.withError text, started } } where
  fresh unconnected := { inv.fresh unconnected with }
  left := inv.left
  initialising := inv.initialising
  attached := inv.attached
  place := Keeps.place ⟨id, id, id, id⟩ inv.place
  reported := inv.reported
  frames thread frame member := Keeps.frame ⟨id, id, id, id⟩ (inv.frames thread frame member)
  busy := inv.busy

/-- The assertion of the frame that a thread is at. -/
theorem Inv.top (inv : Inv s) {frame : Frame} {rest : List Frame}
    (stands : s.frames thread = frame :: rest) : FrameHolds thread s.sys frame :=
  inv.frames thread frame (stands ▸ List.mem_cons_self)

/-- A `Stop` goes on to its next section, and the frames below wait. -/
theorem Inv.proceeds (inv : Inv s) {frame next : Frame} {rest : List Frame}
    (stands : s.frames thread = frame :: rest) (connected : ¬Unconnected s.sys)
    (keeps : Keeps s.sys t) (caller : t.caller = s.sys.caller)
    (inFlight : t.inFlight = s.sys.inFlight)
    (worker : t.worker = s.sys.worker ∨
      thread ≠ .worker ∧ (s.sys.worker = .exited ∨ s.sys.worker = .absent))
    (attached : t.disconnected = true ∨ t.impl.backend.isSome = true)
    (holds : FrameHolds thread t next) : Inv (s.goOn thread (next :: rest) t) := by
  apply inv.goes connected keeps caller
  · intro snapshot member
    exact inv.reported snapshot (inFlight ▸ member)
  · exact worker.imp_right And.right
  · exact attached
  · intro frame member
    rcases List.mem_cons.mp member with rfl | below
    · exact holds
    · exact keeps.frame (inv.frames thread frame (stands ▸ .tail _ below))
  · intro own
    rcases worker with same | ⟨other, -⟩
    · subst own
      exact same ▸ inv.busy (by simp [stands])
    · exact absurd own other

/-- A callback returns. -/
theorem Inv.finishes (inv : Inv s) {rest : List Frame}
    (calling : s.frames thread = .callback :: rest) : Inv (s.goOn thread rest s.sys) := by
  have holds : ∀ frame ∈ rest, FrameHolds thread s.sys frame := fun frame below =>
    inv.frames thread frame (calling ▸ .tail _ below)
  by_cases unconnected : Unconnected s.sys
  · have fresh := inv.fresh unconnected
    by_cases own : thread = .caller
    · subst own
      refine inv.opens unconnected (fun frame below => ?_) (false_or_of_imp inv.left)
        (false_or_of_imp inv.initialising) rfl (.inl rfl) (.inl rfl) id (.inl rfl) fresh.inactive
        inv.place
      obtain rfl := fresh.callbacks frame (calling ▸ .tail _ below)
      exact ⟨rfl, holds _ below⟩
    · rw [fresh.alone thread own] at calling
      contradiction
  · apply inv.goes unconnected ⟨id, id, id, id⟩ rfl inv.reported (.inl rfl) inv.attached holds
    rintro rfl
    exact inv.busy (by simp [calling])

theorem Inv.call {l : Label} {u : Reentrant} (inv : Inv s) (step : CallStep thread s l u) :
    Inv u := by
  have connected {frame : Frame} {rest : List Frame} (stands : s.frames thread = frame :: rest)
      (other : frame ≠ .callback) : ¬Unconnected s.sys :=
    inv.connected_of_frame (stands ▸ List.mem_cons_self) other
  cases step with
  | init calling guarded =>
    obtain ⟨-, -, rfl⟩ | ⟨new, -⟩ | ⟨-, -, result, -⟩ := StreamImpl.initGuard_cases guarded
    · exact inv
    · exact absurd (inv.top calling) (not_left_of_created new)
    · contradiction
  | start calling guarded =>
    obtain ⟨-, result, -⟩ | ⟨-, -, text, rfl⟩ := StreamImpl.startGuard_cases guarded
    · contradiction
    · exact inv.answers s.sys.impl.config text true
  | updateConfig calling updated =>
    obtain ⟨config, text, rfl⟩ := StreamImpl.updateConfig_cases updated
    exact inv.answers config text s.sys.started
  | stopReturns => exact inv
  | stopGoesOn calling guarded =>
    have active := StreamImpl.stopGuard_eq_none.mp guarded
    have connected : ¬Unconnected s.sys := fun unconnected =>
      Bool.false_ne_true ((inv.fresh unconnected).inactive.symm.trans active)
    have keeps : Keeps s.sys s.sys := ⟨id, id, id, id⟩
    apply inv.goes connected keeps rfl inv.reported (.inl rfl) inv.attached
    · intro frame member
      rcases List.mem_cons.mp member with rfl | below
      · trivial
      · exact inv.frames thread frame (calling ▸ below)
    · rintro rfl
      exact inv.busy (by simp [calling])
  | storesStop stands =>
    exact inv.proceeds stands (connected stands (by simp)) ⟨id, fun _ => rfl, id, id⟩ rfl rfl
      (.inl rfl) inv.attached (told_of_stored rfl)
  | storesDisarmed stands =>
    exact inv.proceeds stands (connected stands (by simp)) ⟨id, id, id, id⟩ rfl rfl (.inl rfl)
      inv.attached (inv.top stands)
  | joins stands other ended =>
    exact inv.proceeds stands (connected stands (by simp)) ⟨id, id, fun _ => rfl, id⟩ rfl rfl
      (.inr ⟨other, ended⟩) inv.attached (joined_of_absent other rfl)
  | skipsJoin stands own =>
    subst own
    exact inv.proceeds stands (connected stands (by simp)) ⟨id, id, id, id⟩ rfl rfl (.inl rfl)
      inv.attached (inv.top stands)
  | enters stands backend =>
    exact inv.proceeds stands (connected stands (by simp)) ⟨id, id, id, fun _ => rfl⟩ rfl rfl
      (.inl rfl) (.inl rfl) (inv.top stands)
  | disconnectsNothing stands backend =>
    have undone := inv.undone backend
    exact inv.proceeds stands (connected stands (by simp)) ⟨id, id, id, id⟩ rfl rfl (.inl rfl)
      inv.attached ⟨inv.top stands, undone⟩
  | disconnects stands st =>
    exact inv.proceeds stands (connected stands (by simp)) ⟨id, id, id, fun _ => rfl⟩ rfl rfl
      (.inl rfl) (.inl rfl) ⟨inv.top stands, rfl⟩
  | stopReports stands =>
    exact inv.proceeds stands (connected stands (by simp)) ⟨fun _ => rfl, id, id, id⟩ rfl
      rfl (.inl rfl) inv.attached rfl
  | finishes calling => exact inv.finishes calling

end Others

section Own
variable {s u : Reentrant} {l : Label}

/-- A snapshot replaces the status, and may arm the worker. -/
theorem keeps_of_reported {s t : Sys} {snapshot : StreamStatus}
    (reported : snapshot.state.reported = true)
    (impl : t.impl = s.impl.onBackendStatusChange snapshot) (worker : t.worker = s.worker)
    (disconnected : t.disconnected = s.disconnected) :
    Keeps s t ∧ Left t ∧ t.impl.backend = s.impl.backend := by
  have left : Left t := by
    obtain ⟨-, -, -, -, replaced⟩ | ⟨-, replaced⟩ := s.impl.onBackendStatusChange_cases snapshot
    · rw [Left, impl, replaced]
      rfl
    · apply left_of_reported
      rw [impl, replaced]
      exact reported
  obtain ⟨-, -, -, -, replaced⟩ | ⟨-, replaced⟩ := s.impl.onBackendStatusChange_cases snapshot
  all_goals
    rw [replaced] at impl
    refine ⟨⟨fun _ => left, ?_, ?_, ?_⟩, left, by rw [impl]⟩
    · exact fun told => (congrArg StreamImpl.reStop impl).trans told
    · exact fun absent => worker.trans absent
    · exact fun undone => disconnected.trans undone

/-- Behind `Start`'s first report the stream has been connected, or will be next. -/
theorem Inv.connected_of_place (inv : Inv s) {place : Caller} (stands : s.sys.caller = place)
    (later : place.later = true) (behind : place.beforeConnect = false) : ¬Unconnected s.sys := by
  rintro (early | starting)
  · exact early (inv.left (stands ▸ later))
  · rw [stands, behind] at starting
    contradiction

/-- Nothing of the backend runs before the first `Connect`. -/
theorem Inv.silent (inv : Inv s) (unconnected : Unconnected s.sys) :
    s.sys.talking = false ∧ ∀ thread, ¬s.InBackend thread := by
  have fresh := inv.fresh unconnected
  have waiting : s.sys.worker ≠ .connecting := fun connecting => by
    have unarmed := fresh.worker
    rw [connecting] at unarmed
    contradiction
  have connecting : s.sys.caller ≠ .startConnecting := fun stands =>
    inv.connected_of_place stands rfl rfl unconnected
  constructor
  · have disconnecting (inRelease : Bool) : s.sys.caller ≠ .disconnect inRelease := fun stands =>
      inv.connected_of_place stands rfl rfl unconnected
    simp [Sys.talking, fresh.up, connecting, disconnecting, waiting]
  · intro thread inside
    unfold InBackend at inside
    split at inside
    · rcases inside with ⟨-, stands⟩ | ⟨-, attempting⟩
      · exact connecting stands
      · exact waiting attempting
    · rename_i frame rest stands
      have member : Frame.disconnecting ∈ s.frames thread := by
        rw [stands, inside]
        exact List.mem_cons_self
      exact inv.connected_of_frame member (by decide) unconnected

/-- What the worker's section does to the members that are asserted of. -/
theorem worker_effect {s t : Sys} {l : WorkerLabel} (step : WorkerStep s l t) :
    t.impl.backend = s.impl.backend ∧
      (s.worker ≠ .reporting ∧ t.impl.status.state = s.impl.status.state ∨
        s.worker = .reporting ∧ t.worker = .asleep ∧ Left t) ∧
      (t.disconnected = s.disconnected ∨
        s.worker = .attempting ∧ s.impl.backend.isSome = true) := by
  cases step with
  | skips awake ran | fires awake ran =>
    obtain ⟨⟨handler, rfl, -⟩, -⟩ := StreamImpl.workerRound_cases ran
    exact ⟨rfl, .inl ⟨by simp [awake], rfl⟩, .inl rfl⟩
  | connects attempting backend =>
    exact ⟨rfl, .inl ⟨by simp [attempting], rfl⟩, .inr ⟨attempting, backend⟩⟩
  | reports reporting => exact ⟨rfl, .inr ⟨reporting, rfl, rfl⟩, .inl rfl⟩
  | wakes place | exits place | connectsNothing place | connected place | disarms place
  | succeeds place | fails place => exact ⟨rfl, .inl ⟨by simp [place], rfl⟩, .inl rfl⟩

/-- A worker that is not armed attempts nothing. -/
theorem Fresh.worker_step {t : Sys} {l : WorkerLabel} (fresh : Fresh s)
    (step : WorkerStep s.sys l t) : Fresh (s.goOn .worker s.sys.worker.calls t) := by
  have unarmed := fresh.worker
  have quiet : s.sys.worker.calls = [] := by
    cases stands : s.sys.worker with
    | reporting =>
      rw [stands] at unarmed
      contradiction
    | _ => rfl
  have alone (thread : Thread) (other : thread ≠ .caller) :
      (s.goOn .worker s.sys.worker.calls t).frames thread = [] := by
    by_cases own : thread = .worker
    · subst own
      exact (goOn_self ..).trans quiet
    · exact (goOn_other _ _ _ own).trans (fresh.alone thread other)
  have callbacks : ∀ frame ∈ (s.goOn .worker s.sys.worker.calls t).frames .caller,
      frame = .callback := by
    rw [goOn_other _ _ _ (by decide)]
    exact fresh.callbacks
  cases step with
  | wakes | exits => exact { fresh with worker := rfl, alone, callbacks }
  | skips awake ran =>
    obtain ⟨⟨handler, rfl, -⟩, -⟩ := StreamImpl.workerRound_cases ran
    exact { fresh with worker := rfl, alone, callbacks }
  | fires awake ran =>
    obtain ⟨-, armed⟩ := StreamImpl.workerRound_cases ran
    exact absurd (fresh.disarmed.symm.trans (armed rfl).1) Bool.false_ne_true
  | connects place | connectsNothing place | connected place | disarms place | succeeds place
  | reports place | fails place =>
    rw [place] at unarmed
    contradiction

theorem Inv.worker {t : Sys} {l : WorkerLabel} (inv : Inv s) (step : WorkerStep s.sys l t) :
    Inv (s.goOn .worker s.sys.worker.calls t) := by
  have kept := step.frame
  obtain ⟨backend, state, disconnected⟩ := worker_effect step
  have left (left : Left s.sys) : Left t := by
    rcases state with ⟨-, same⟩ | ⟨-, -, after⟩
    · rw [Left, same]
      exact left
    · exact after
  have reported (reporting : s.sys.worker = .reporting) : t.worker = .asleep ∧ Left t := by
    rcases state with ⟨other, -⟩ | ⟨-, after⟩
    · exact absurd reporting other
    · exact after
  have unconnected (early : Unconnected t) : Unconnected s.sys := by
    rw [Unconnected, kept.caller] at early
    exact early.imp_left fun early before => early (left before)
  constructor
  · intro early
    exact (inv.fresh (unconnected early)).worker_step step
  · intro later
    rw [goOn_sys, kept.caller] at later
    exact left (inv.left later)
  · intro starting
    rw [goOn_sys, kept.caller] at starting
    have created := inv.initialising starting
    rcases state with ⟨-, same⟩ | ⟨reporting, -⟩
    · exact same.trans created
    · have unarmed := (inv.fresh (.inl (not_left_of_created created))).worker
      rw [reporting] at unarmed
      contradiction
  · rw [goOn_sys, backend]
    rcases disconnected with same | ⟨-, has⟩
    · rw [same]
      exact inv.attached
    · exact .inr has
  · rw [goOn_sys, kept.caller]
    have place := inv.place
    cases stands : s.sys.caller with
    | disconnect | stopReport =>
      rw [stands] at place
      exact absurd (by first | exact place | exact place.1) kept.present
    | _ => trivial
  · intro snapshot member
    exact inv.reported snapshot (kept.inFlight ▸ member)
  · intro thread frame member
    by_cases mine : thread = .worker
    · subst mine
      rw [goOn_self] at member
      obtain ⟨reporting, rfl⟩ := Worker.mem_calls member
      exact (reported reporting).2
    · rw [goOn_other _ _ _ mine] at member
      have holds := inv.frames thread frame member
      cases frame with
      | callback => exact left holds
      | storeStop => trivial
      | storeDisarmed | join => exact told_of_other mine
      | disconnect | disconnecting => exact absurd (holds.absent mine) kept.present
      | stopReport => exact absurd (holds.1.absent mine) kept.present
  · intro stacked
    obtain ⟨frame, member⟩ := List.exists_mem_of_ne_nil _ stacked
    rw [goOn_self] at member
    exact .inr (reported (Worker.mem_calls member).1).1

theorem Inv.own (inv : Inv s) (step : OwnStep s l u) : Inv u := by
  cases step with
  | caller own step => exact inv.caller step
  | enters own disconnecting backend =>
    have place := inv.place
    rw [disconnecting] at place
    exact inv.goes (inv.connected_of_place disconnecting rfl rfl) ⟨id, id, id, fun _ => rfl⟩ rfl
      inv.reported (.inl rfl) (.inl rfl) (List.forall_mem_singleton.mpr place)
      fun same => by contradiction
  | worker own step => exact inv.worker step
  | send step =>
    obtain ⟨status, abr, count, sends, log, rfl, state, -⟩ := step.frame
    have keeps : Keeps s.sys { s.sys with
        impl := { s.sys.impl with
          status, abrController := abr, backpressureBufferCount := count }
        sends, log } := ⟨fun left => by rwa [Left, state], id, id, id⟩
    exact { inv with
      fresh := fun unconnected =>
        have fresh := inv.fresh (unconnected.imp_left fun early left => early (keeps.left left))
        { fresh with inactive := state ▸ fresh.inactive }
      left := fun later => keeps.left (inv.left later)
      initialising := fun starting => state.trans (inv.initialising starting)
      place := keeps.place inv.place
      frames := fun thread frame member => keeps.frame (inv.frames thread frame member) }
  | emit snapshot reported talking =>
    have connected : ¬Unconnected s.sys := by
      intro unconnected
      rcases talking with talking | ⟨thread, inside⟩
      · exact Bool.false_ne_true ((inv.silent unconnected).1.symm.trans talking)
      · exact inv.connected_of_frame inside (by decide) unconnected
    exact { inv with
      fresh := fun unconnected => absurd unconnected connected
      place := Keeps.place ⟨id, id, id, id⟩ inv.place
      reported := List.forall_mem_append.mpr
        ⟨inv.reported, List.forall_mem_singleton.mpr reported⟩
      frames := fun thread frame member =>
        Keeps.frame ⟨id, id, id, id⟩ (inv.frames thread frame member) }
  | deliver n index own pending =>
    rename_i snapshot
    have member := List.mem_of_getElem? pending
    have connected : ¬Unconnected s.sys := fun unconnected => by
      rw [(inv.fresh unconnected).silent] at member
      contradiction
    obtain ⟨keeps, left, backend⟩ := keeps_of_reported
      (t := { s.sys with
        impl := s.sys.impl.onBackendStatusChange snapshot
        inFlight := s.sys.inFlight.eraseIdx index }) (inv.reported snapshot member) rfl rfl rfl
    apply inv.goes connected keeps rfl
    · exact fun other left => inv.reported other (List.mem_of_mem_eraseIdx left)
    · exact .inl rfl
    · exact inv.attached.imp_right (congrArg Option.isSome backend).trans
    · exact List.forall_mem_singleton.mpr left
    · intro same
      contradiction
  | report thread inside snapshot reported =>
    have connected : ¬Unconnected s.sys := fun unconnected =>
      (inv.silent unconnected).2 thread inside
    obtain ⟨keeps, left, backend⟩ := keeps_of_reported
      (t := { s.sys.hears snapshot with impl := s.sys.impl.onBackendStatusChange snapshot })
      reported rfl rfl rfl
    apply inv.goes connected keeps rfl inv.reported (.inl rfl)
    · exact inv.attached.imp_right (congrArg Option.isSome backend).trans
    · intro frame member
      rcases List.mem_cons.mp member with rfl | below
      · exact left
      · exact keeps.frame (inv.frames thread frame below)
    · rintro rfl
      unfold InBackend at inside
      split at inside
      · rcases inside with ⟨other, -⟩ | ⟨-, connecting⟩
        · contradiction
        · exact .inl connecting
      · rename_i frame rest stands
        exact inv.busy (by simp [stands])

theorem Step.inv {s u : Reentrant} {l : Label} (inv : Inv s) (step : Step s l u) : Inv u := by
  cases step with
  | own step => exact inv.own step
  | call step => exact inv.call step

/-- Each call but `Release` has an answer in every callback: behind the first section of
`Start` no guard lets another `Init` or `Start` through. -/
theorem callback_answered {config : StreamConfig} {ls : List Label} {thread : Thread}
    {rest : List Frame} (run : Run Step (.created config) ls s)
    (calling : s.frames thread = .callback :: rest) :
    (∃ u, Step s (.init thread) u) ∧ (∃ u, Step s (.start thread) u) ∧
      (∃ u, Step s (.stop thread) u) ∧ ∀ other, ∃ u, Step s (.updateConfig thread other) u := by
  have inv := run.invariant (fun inv step => Step.inv inv step) (created_inv config)
  have left := inv.top calling
  refine ⟨?_, ?_, ?_, fun other => ⟨_, .call (.updateConfig calling rfl)⟩⟩
  · obtain ⟨-, result, -⟩ | ⟨new, -⟩ | ⟨new, -⟩ :=
      StreamImpl.initGuard_cases (show s.sys.impl.initGuard = (_, _) from rfl)
    · exact ⟨_, .call (.init calling (Prod.ext result rfl))⟩
    · exact absurd left (not_left_of_created new)
    · exact absurd left (not_left_of_created new)
  · obtain ⟨same, -⟩ | ⟨-, result, -⟩ :=
      StreamImpl.startGuard_cases (show s.sys.impl.startGuard = (_, _) from rfl)
    · exact absurd left (not_left_of_early (by rw [same]; rfl))
    · obtain ⟨st, result⟩ := Option.ne_none_iff_exists'.mp result
      exact ⟨_, .call (.start calling (Prod.ext result rfl))⟩
  · cases guarded : s.sys.impl.stopGuard with
    | none => exact ⟨_, .call (.stopGoesOn calling guarded)⟩
    | some st => exact ⟨_, .call (.stopReturns calling guarded)⟩

end Own

end Reentrant

end Stream
end VideoCodec
