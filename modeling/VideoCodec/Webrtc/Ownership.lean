import VideoCodec.Webrtc.Whip
import VideoCodec.Webrtc.Outcome

/-! Who deletes the sessions of the server: the runs of `Connect` and `Disconnect`
together with `whip_session_` and the worker that creates it. `stored` and
`deleted` record history that no thread reads. -/
namespace VideoCodec

open Transition

namespace WebrtcBackend

variable {b : WebrtcBackend} {gen : Nat}

/-- A callback of libdatachannel starts the worker of its session or none. -/
theorem handle_thread (b : WebrtcBackend) (gen : Nat) {event : Event}
    (outside : event.ofWorker = false) :
    (b.handle gen event).whipThread = b.whipThread ∨
      (b.whipThread = none ∧ gen = b.sessionGen ∧ (b.handle gen event).whipThread = some gen) := by
  have sends (b : WebrtcBackend) : (b.sendOfferToWhip b.sessionGen).whipThread = b.whipThread ∨
      (b.whipThread = none ∧ (b.sendOfferToWhip b.sessionGen).whipThread = some b.sessionGen) := by
    rw [sendOfferToWhip]
    cases thread : b.whipThread with
    | none => simp
    | some worker => simp [thread]
  by_cases current : gen = b.sessionGen
  case neg => exact .inl (by rw [handle_stale current])
  subst current
  cases event with
  | stateChange state =>
    obtain ⟨status, connected, opened, terminal, handled⟩ := onStateChange_frame b state
    simp [handle, handled]
  | localDescription =>
    simp only [handle, if_true, onLocalDescription, true_and]
    split
    · exact sends { b with offerReady := true }
    · exact .inl rfl
  | gatheringStateChange state described =>
    simp only [handle, if_true, onGatheringStateChange, true_and]
    split
    · split
      · exact .inl rfl
      · split
        · exact .inl rfl
        · split
          · exact .inl rfl
          · exact sends { b with gatheringComplete := true, offerReady := true }
    · exact .inl rfl
  | trackOpen =>
    obtain ⟨status, reported, handled⟩ := tryMarkStreaming_frame { b with trackOpen := true }
    simp [handle, onTrackOpen, handled]
  | trackClosed => simp [handle, onTrackClosed]
  | whipReady | whipError | createFailed => exact absurd outside.symm Bool.false_ne_true

/-- The worker's own events start nothing. -/
theorem handle_worker_thread {event : Event} (worker : event.ofWorker = true) :
    (b.handle gen event).whipThread = b.whipThread := by
  by_cases current : gen = b.sessionGen
  case neg => rw [handle_stale current]
  subst current
  cases event with
  | whipReady thrown =>
    simp only [handle, if_true, onWhipReady]
    split
    · rfl
    · cases thrown with
      | none => rfl
      | some what =>
        obtain ⟨status, failed⟩ := failConnect_frame b .kNetworkError
          ("setRemoteDescription failed: " ++ what)
        simp [failed]
  | whipError error =>
    obtain ⟨status, failed⟩ := failConnect_frame b .kNetworkError error
    simp [handle, onWhipError, failed]
  | createFailed =>
    obtain ⟨status, failed⟩ := failConnect_frame b .kNetworkError "WHIP Create failed"
    simp [handle, failed]
  | stateChange | localDescription | gatheringStateChange | trackOpen | trackClosed =>
    exact absurd worker Bool.false_ne_true

theorem answer_outside {event : Event} (outside : event.ofWorker = false) :
    b.answer gen event = none := by
  cases event with
  | whipReady | whipError | createFailed => exact absurd outside.symm Bool.false_ne_true
  | stateChange | localDescription | gatheringStateChange | trackOpen | trackClosed => rfl

theorem sendVideoDone_thread (b : WebrtcBackend) (outcome : SendOutcome) :
    (b.sendVideoDone outcome).2.whipThread = b.whipThread := by
  cases outcome with
  | sent =>
    obtain ⟨status, reported, marked⟩ := tryMarkStreaming_frame { b with firstFrameSent := true }
    simp [sendVideoDone, marked]
  | refused | thrown => rfl

theorem sendAudio_thread (b : WebrtcBackend) : b.sendAudio.2.whipThread = b.whipThread := by
  rw [sendAudio]
  dsimp only
  split
  · rfl
  · rfl

end WebrtcBackend

namespace Webrtc

open WebrtcBackend

/-- Where `WhipCreateWorker` stands. -/
inductive Worker where
  | none
  | fresh (gen : Nat) (endpoint : String)
  | entered (gen : Nat) (endpoint : String)
  | created (gen : Nat) (result : Except String String)
  | failing (gen : Nat)
  | finished

namespace Worker

/-- `Create` is still to come. -/
def pending : Worker → Bool
  | .fresh .. | .entered .. => true
  | _ => false

/-- The session of a worker that goes on. -/
def session : Worker → Option Nat
  | .fresh gen _ | .entered gen _ | .created gen _ | .failing gen => some gen
  | .none | .finished => Option.none

/-- What `whip_thread_` before and behind a section says of the worker. -/
def follow (worker : Worker) (endpoint : String) : Option Nat → Option Nat → Worker
  | .none, .some gen => .fresh gen endpoint
  | .some _, .none => .none
  | _, _ => worker

@[simp] theorem follow_self (worker : Worker) (endpoint : String) (thread : Option Nat) :
    worker.follow endpoint thread thread = worker := by
  cases thread <;> rfl

end Worker

def Label.ofWorker : Label → Bool
  | .event _ happened => happened.ofWorker
  | _ => false

structure Whole where
  sys : Sys
  whip : WhipSession
  worker : Worker := .none
  /-- The URL that a running `Delete` has read. -/
  reading : Option String := none
  /-- The URLs that a successful `Create` has stored. -/
  stored : List String := []
  /-- The targets of DELETE requests. -/
  deleted : List String := []

inductive WholeLabel where
  | sys (label : Label)
  | enter
  | create (reply : PostReply)
  | report (thrown : Option String)
  | fail
  | read
  | delete (reply : DeleteReply)

/-- The handler that `Create` calls. -/
def reportOf (thrown : Option String) : Except String String → Event
  | .ok _ => .whipReady thrown
  | .error error => .whipError error

inductive WholeStep : Whole → WholeLabel → Whole → Prop where
  | sys {s : Whole} (step : Step s.sys label t) (outside : label.ofWorker = false)
      (elsewhere : s.sys.place = .invalidated → label ≠ .proceed)
      (joined : ∀ after, s.sys.place = .joins after → label = .proceed →
        s.worker.session = none) :
      WholeStep s (.sys label)
        { s with
          sys := t
          whip :=
            if s.sys.place = .checksUrl ∧ t.place = .advances .connect then s.whip.reset
            else s.whip
          worker := s.worker.follow t.backend.whipEndpoint s.sys.backend.whipThread
            t.backend.whipThread }
  | enter {s : Whole} (fresh : s.worker = .fresh gen endpoint) :
      WholeStep s .enter
        { s with
          worker :=
            if gen = s.sys.backend.sessionGen then .entered gen endpoint else .finished }
  | create {s : Whole} (entered : s.worker = .entered gen endpoint) (reply : PostReply) :
      WholeStep s (.create reply)
        { s with
          whip := (s.whip.create endpoint reply).2
          worker := .created gen (s.whip.create endpoint reply).1
          stored := s.stored ++
            if (s.whip.create endpoint reply).1.isOk then (s.whip.create endpoint reply).2.held
            else [] }
  | report {s : Whole} (created : s.worker = .created gen result)
      (step : Step s.sys (.event gen (reportOf thrown result)) t) :
      WholeStep s (.report thrown)
        { s with sys := t, worker := if result.isOk then .finished else .failing gen }
  | fail {s : Whole} (failing : s.worker = .failing gen)
      (step : Step s.sys (.event gen .createFailed) t) :
      WholeStep s .fail { s with sys := t, worker := .finished }
  | read {s : Whole} (invalidated : s.sys.place = .invalidated) (first : s.reading = none) :
      WholeStep s .read { s with reading := some s.whip.resourceUrl }
  | delete {s : Whole} (invalidated : s.sys.place = .invalidated) (read : s.reading = some url)
      (step : Step s.sys .proceed t) (reply : DeleteReply) :
      WholeStep s (.delete reply)
        { s with
          sys := t
          whip := (s.whip.delete url reply).session
          reading := none
          deleted := s.deleted ++ (s.whip.delete url reply).request.toList }

namespace Whole

def created (config : StreamConfig) (client : Bool) : Whole :=
  { sys := .created config, whip := { client } }

end Whole

/-- Every stored URL is remembered, or was the target of one request. -/
def Accounted (s : Whole) : Prop := (s.deleted ++ s.whip.held).Perm s.stored

/-- `Reset` finds nothing to forget, and a DELETE for a stored URL can be built. -/
def ResourceMeets (s : Whole) : WholeLabel → Prop
  | .sys .proceed =>
    s.sys.place = .checksUrl → s.sys.backend.config.remoteUrl.isEmpty = false → s.whip.held = []
  | .delete reply => s.whip.held ≠ [] → reply ≠ .notBuilt
  | _ => True

/-- A teardown before a new session or behind a failed one. -/
def After.connects : After → Bool
  | .connect => true
  | _ => false

def After.fails : After → Bool
  | .fail _ => true
  | _ => false

namespace Place

/-- Elsewhere the session of the caller may still wait for its worker. -/
def settled : Place → Bool
  | .adds _ | .awaitsAnswer => false
  | .advances after | .disables after | .drops after | .joins after => !after.fails
  | _ => true

/-- Between `Reset` and the first callback. -/
def cleared : Place → Bool
  | .advances after | .disables after | .drops after | .joins after => after.connects
  | .resets | .loads | .creates _ | .registers _ => true
  | _ => false

/-- Between `ResetConnectState` and the first callback. -/
def reset : Place → Bool
  | .loads | .creates _ | .registers _ => true
  | _ => false

end Place

/-- `Create` is not under way, and no callback can start it. -/
structure Quiet (s : Whole) : Prop where
  done : s.worker.pending = false
  taken : s.sys.backend.sessionGen ∈ s.sys.opened → s.sys.backend.whipThread.isSome = true

structure Owning (s : Whole) : Prop where
  base : Inv s.sys
  session : ∀ gen, s.worker.session = some gen → s.sys.backend.whipThread = some gen
  quiet : s.sys.place.settled = true ∨ s.sys.backend.answerReady = true → Quiet s
  reset : s.sys.place.reset = true → s.sys.backend.answerReady = false
  pending : s.worker.pending = true → s.whip.held = []
  unstarted : s.sys.backend.whipThread = none → s.sys.backend.sessionGen ∈ s.sys.opened →
    s.whip.held = []
  cleared : s.sys.place.cleared = true → s.whip.held = []
  reading : ∀ url, s.reading = some url → s.sys.place = .invalidated ∧ url = s.whip.resourceUrl
  client : s.whip.held ≠ [] → s.whip.client = true

theorem created_owning (config : StreamConfig) (client : Bool) :
    Owning (.created config client) where
  base := created_inv config
  session _ running := by cases running
  quiet _ := ⟨rfl, fun known => absurd known List.not_mem_nil⟩
  reset resetting := absurd resetting Bool.false_ne_true
  pending running := absurd running Bool.false_ne_true
  unstarted _ _ := rfl
  cleared _ := rfl
  reading _ read := by cases read
  client held := absurd rfl held

section Sections
variable {s t : Sys} {l : Label} {gen : Nat}

/-- A callback of libdatachannel or a send. -/
structure Outside (s t : Sys) : Prop where
  place : t.place = s.place
  opened : t.opened = s.opened
  gen : t.backend.sessionGen = s.backend.sessionGen
  ready : t.backend.answerReady = s.backend.answerReady
  thread : t.backend.whipThread = s.backend.whipThread ∨
    s.backend.whipThread = none ∧ s.backend.sessionGen ∈ s.opened ∧
      t.backend.whipThread = some s.backend.sessionGen

/-- A section of the caller other than a join. -/
structure Section (s t : Sys) : Prop where
  thread : t.backend.whipThread = s.backend.whipThread
  opened : t.backend.sessionGen ∈ t.opened → s.backend.sessionGen ∈ s.opened ∨
    s.place.cleared = true ∧ t.place.settled = false ∧ t.backend.answerReady = false
  calm : t.place.settled = true ∨ t.backend.answerReady = true →
    s.place.settled = true ∨ s.backend.answerReady = true
  cleared : t.place.cleared = true →
    s.place.cleared = true ∨ s.place = .checksUrl ∧ t.place = .advances .connect
  reset : t.place.reset = true → t.backend.answerReady = false

inductive Moves (s : Sys) (l : Label) (t : Sys) : Prop where
  | outside (outside : Outside s t)
  | caller (elsewhere : s.place = .invalidated → l = .proceed) (moves : Section s t)
  | joins (after : After) (joining : s.place = .joins after) (proceed : l = .proceed)
      (joined : t = s.tornDown s.backend.joinWhipWorker after)

theorem Outside.of_handled {backend : WebrtcBackend} (handled : Handled s.backend backend none)
    (thread : backend.whipThread = s.backend.whipThread) (sends : Nat) :
    Outside s { s with backend, sends } where
  place := rfl
  opened := rfl
  gen := handled.same.sessionGen
  ready := by simpa using handled.ready
  thread := .inl thread

theorem Outside.of_event {event : Event} (opened : gen ∈ s.opened)
    (outside : event.ofWorker = false) : Outside s (s.callback gen event) where
  place := rfl
  opened := rfl
  gen := (s.backend.handle_handled gen event).same.sessionGen
  ready := by
    have ready := (s.backend.handle_handled gen event).ready
    rwa [answer_outside outside, Option.isSome_none, Bool.or_false] at ready
  thread := by
    rcases s.backend.handle_thread gen outside with same | ⟨idle, current, started⟩
    · exact .inl same
    · subst current
      exact .inr ⟨idle, opened, started⟩

theorem ready_of_answered {b : WebrtcBackend} (passes : b.answerFailure = none) :
    b.answerReady = true := by
  rw [answerFailure] at passes
  cases ready : b.answerReady with
  | true => rfl
  | false =>
    rw [ready] at passes
    split at passes <;> simp at passes

theorem ConnectStep.moves (reset : s.place.reset = true → s.backend.answerReady = false)
    (step : ConnectStep s l t) : Moves s l t := by
  cases step with
  | answered waiting signalled passes =>
    have ready := ready_of_answered passes
    refine .caller (by simp [waiting]) ⟨rfl, .inl, fun _ => .inr ready, ?_, ?_⟩
    all_goals simp [Place.cleared, Place.reset]
  | registers registering =>
    have silent := reset (by rw [registering]; rfl)
    refine .caller (by simp [registering]) ⟨rfl, fun _ => .inr ⟨?_, rfl, silent⟩, ?_, ?_, ?_⟩
    all_goals simp [registering, Place.settled, Place.cleared, Place.reset]
  | connect at_ | refuses at_ | accepts at_ | resets at_ | loads at_ | creates at_ | adds at_
  | answerTimeout at_ | answerFails at_ | iceTimeout at_ | iceSignalled at_ | iceFails at_
  | iceConnected at_ | enables at_ =>
    refine .caller (by simp [at_]) ⟨rfl, .inl, ?_, ?_, ?_⟩
    all_goals simp_all [Place.settled, Place.cleared, Place.reset, After.connects, After.fails]

theorem DisconnectStep.moves (bounded : ∀ gen ∈ s.opened, gen ≤ s.backend.sessionGen)
    (step : DisconnectStep s l t) : Moves s l t := by
  cases step with
  | disconnect idle =>
    refine .caller (by simp [idle]) ⟨rfl, fun known => ?_, ?_, ?_, ?_⟩
    · exact absurd (bounded _ known) (Nat.not_succ_le_self _)
    all_goals simp [idle, Place.settled, Place.cleared, Place.reset]
  | deletes at_ | clears at_ | reports at_ =>
    refine .caller (by simp [at_]) ⟨rfl, .inl, ?_, ?_, ?_⟩
    all_goals simp [at_, Place.settled, Place.cleared, Place.reset, After.connects]

theorem TeardownStep.moves (bounded : ∀ gen ∈ s.opened, gen ≤ s.backend.sessionGen)
    (step : TeardownStep s t) : Moves s .proceed t := by
  cases step with
  | advances advancing =>
    refine .caller (by simp [advancing]) ⟨rfl, fun known => ?_, ?_, ?_, ?_⟩
    · exact absurd (bounded _ known) (Nat.not_succ_le_self _)
    all_goals simp [advancing, Place.settled, Place.cleared, Place.reset]
  | disables at_ | drops at_ =>
    refine .caller (by simp [at_]) ⟨rfl, .inl, ?_, ?_, ?_⟩
    all_goals simp [at_, Place.settled, Place.cleared, Place.reset]
  | joins joining => exact .joins _ joining rfl rfl

theorem Step.moves (bounded : ∀ gen ∈ s.opened, gen ≤ s.backend.sessionGen)
    (reset : s.place.reset = true → s.backend.answerReady = false)
    (outside : l.ofWorker = false) (step : Step s l t) : Moves s l t := by
  cases step with
  | connect step => exact step.moves reset
  | disconnect step => exact step.moves bounded
  | teardown step => exact step.moves bounded
  | event gen event opened working => exact .outside (.of_event opened outside)
  | send guarded => exact .outside (.of_handled (.silent .rest rfl rfl) rfl _)
  | sent some outcome =>
    exact .outside (.of_handled (s.backend.sendVideoDone_handled outcome)
      (s.backend.sendVideoDone_thread outcome) _)
  | sendAudio =>
    exact .outside (.of_handled s.backend.sendAudio_handled s.backend.sendAudio_thread _)

/-- `Delete` stands between two sections of `Disconnect`. -/
theorem Step.behind_delete (invalidated : s.place = .invalidated) (step : Step s .proceed t) :
    t = s.goOn (.advances .disconnect) s.backend := by
  cases step with
  | connect step => cases step <;> simp_all
  | teardown step => cases step <;> simp_all
  | disconnect step =>
    cases step with
    | deletes => rfl
    | clears at_ | reports at_ => simp [at_] at invalidated

theorem Step.of_event {event : Event} (step : Step s (.event gen event) t) :
    t = s.callback gen event ∧ gen ∈ s.opened := by
  cases step with
  | event gen event opened => exact ⟨rfl, opened⟩
  | connect step => cases step
  | disconnect step => cases step

/-- The URL check is left for a new session by one step only. -/
theorem Step.accepts_iff (checking : s.place = .checksUrl) (step : Step s l t) :
    t.place = .advances .connect ↔ l = .proceed ∧ s.backend.config.remoteUrl.isEmpty = false := by
  cases step with
  | connect step => cases step <;> simp_all
  | disconnect step => cases step <;> simp_all
  | teardown step => cases step <;> simp_all
  | event | send | sent | sendAudio => simp [checking, Sys.callback]

theorem Inv.fresh_of_reset (inv : Inv s) (reset : s.place.reset = true) : Fresh s := by
  have holds := inv.holds
  cases place : s.place with
  | loads =>
    rw [place] at holds
    exact holds.1
  | creates gen | registers gen =>
    rw [place] at holds
    exact holds.2.1
  | _ =>
    rw [place] at reset
    cases reset

theorem Inv.stale_of_joins {after : After} (inv : Inv s) (joining : s.place = .joins after) :
    s.backend.sessionGen ∉ s.opened := by
  have holds := inv.holds
  rw [joining] at holds
  exact fun known => Nat.lt_irrefl _ (holds.2.1 _ known)

theorem Place.settled_of_cleared {place : Place} (cleared : place.cleared = true) :
    place.settled = true := by
  cases place with
  | advances after | disables after | drops after | joins after =>
    cases after with
    | connect => rfl
    | fail | disconnect => cases cleared
  | resets | loads | creates | registers => rfl
  | _ => cases cleared

end Sections

namespace Worker
variable {worker : Worker}

theorem pending_of_session (joined : worker.session = Option.none) : worker.pending = false := by
  cases worker with
  | fresh | entered => cases joined
  | none | created | failing | finished => rfl

theorem follow_joined (joined : worker.session = Option.none) (endpoint : String)
    (thread : Option Nat) : (worker.follow endpoint thread Option.none).session = Option.none := by
  cases thread with
  | none => exact joined
  | some gen => rfl

end Worker

section Wholes
variable {s t : Whole} {sys : Sys} {l : WholeLabel}

theorem Quiet.not_pending (quiet : Quiet s) (pending : s.worker.pending = true) : False :=
  Bool.false_ne_true (quiet.done.symm.trans pending)

theorem Owning.outside (owning : Owning s) (base : Inv sys) (outside : Outside s.sys sys) :
    Owning { s with
      sys
      worker := s.worker.follow sys.backend.whipEndpoint s.sys.backend.whipThread
        sys.backend.whipThread } := by
  obtain ⟨place, opened, gen, ready, same | ⟨idle, known, started⟩⟩ := outside
  · rw [same, Worker.follow_self]
    refine ⟨base, ?_, fun calm => ?_, ?_, owning.pending, ?_, ?_, ?_, owning.client⟩
    · rw [same]
      exact owning.session
    · rw [place, ready] at calm
      obtain ⟨done, taken⟩ := owning.quiet calm
      refine ⟨done, ?_⟩
      rw [gen, opened, same]
      exact taken
    · rw [place, ready]
      exact owning.reset
    · rw [gen, opened, same]
      exact owning.unstarted
    · rw [place]
      exact owning.cleared
    · rw [place]
      exact owning.reading
  · have waiting : ¬ (s.sys.place.settled = true ∨ s.sys.backend.answerReady = true) := by
      intro calm
      have taken := (owning.quiet calm).taken known
      rw [idle] at taken
      cases taken
    have held := owning.unstarted idle known
    rw [idle, started]
    refine ⟨base, fun other running => ?_, fun calm => ?_, ?_, fun _ => held, fun _ _ => held,
      fun _ => held, ?_, owning.client⟩
    · obtain rfl := Option.some.inj running
      exact started
    · rw [place, ready] at calm
      exact absurd calm waiting
    · rw [place, ready]
      exact owning.reset
    · rw [place]
      exact owning.reading

/-- `Reset` clears what is remembered, other sections keep it. -/
theorem held_of_reset {w : WhipSession} {forgets : Prop} [Decidable forgets] (empty : w.held = []) :
    (if forgets then w.reset else w).held = [] := by
  split
  · exact w.reset_held
  · exact empty

theorem Owning.caller (owning : Owning s) (base : Inv sys) (moves : Section s.sys sys)
    (unread : s.reading = none) :
    Owning { s with
      sys
      whip :=
        if s.sys.place = .checksUrl ∧ sys.place = .advances .connect then s.whip.reset
        else s.whip } := by
  refine ⟨base, ?_, fun calm => ?_, moves.reset, fun pending => ?_, fun idle known => ?_,
    fun cleared => ?_, fun url read => ?_, fun some => ?_⟩
  · rw [moves.thread]
    exact owning.session
  · obtain ⟨done, taken⟩ := owning.quiet (moves.calm calm)
    refine ⟨done, fun known => ?_⟩
    rw [moves.thread]
    rcases moves.opened known with known | ⟨_, unsettled, silent⟩
    · exact taken known
    · rcases calm with settled | ready
      · exact absurd (unsettled.symm.trans settled) Bool.false_ne_true
      · exact absurd (silent.symm.trans ready) Bool.false_ne_true
  · exact held_of_reset (owning.pending pending)
  · rw [moves.thread] at idle
    rcases moves.opened known with known | ⟨cleared, _⟩
    · exact held_of_reset (owning.unstarted idle known)
    · exact held_of_reset (owning.cleared cleared)
  · rcases moves.cleared cleared with cleared | resets
    · exact held_of_reset (owning.cleared cleared)
    · rw [if_pos resets]
      exact s.whip.reset_held
  · exact absurd (unread.symm.trans read) (by simp)
  · dsimp only at some ⊢
    split at some
    · exact absurd s.whip.reset_held some
    · rename_i keeps
      rw [if_neg keeps]
      exact owning.client some

theorem Owning.joins {after : After} (owning : Owning s)
    (base : Inv (s.sys.tornDown s.sys.backend.joinWhipWorker after))
    (joining : s.sys.place = .joins after) (finished : s.worker.session = none)
    (endpoint : String) :
    Owning { s with
      sys := s.sys.tornDown s.sys.backend.joinWhipWorker after
      worker := s.worker.follow endpoint s.sys.backend.whipThread none } := by
  have stale := owning.base.stale_of_joins joining
  have joined := Worker.follow_joined finished endpoint s.sys.backend.whipThread
  have done := Worker.pending_of_session joined
  have unread : s.reading = none := by
    cases read : s.reading with
    | none => rfl
    | some url => exact absurd (joining.symm.trans (owning.reading url read).1) (by simp)
  have backend : (s.sys.tornDown s.sys.backend.joinWhipWorker after).backend =
      s.sys.backend.joinWhipWorker := by cases after <;> rfl
  have opened : (s.sys.tornDown s.sys.backend.joinWhipWorker after).opened = s.sys.opened := by
    cases after <;> rfl
  refine ⟨base, fun gen running => ?_, fun _ => ⟨done, fun known => ?_⟩, fun resetting => ?_,
    fun pending => ?_, fun _ known => ?_, fun cleared => ?_, fun url read => ?_, owning.client⟩
  · exact absurd (joined.symm.trans running) (by simp)
  · rw [backend, opened] at known
    exact absurd known stale
  · cases after <;> cases resetting
  · exact absurd (done.symm.trans pending) Bool.false_ne_true
  · rw [backend, opened] at known
    exact absurd known stale
  · cases after with
    | connect =>
      apply owning.cleared
      rw [joining]
      rfl
    | fail st => cases cleared
    | disconnect => cases cleared
  · exact absurd (unread.symm.trans read) (by simp)

/-- The worker reports, or fails. -/
theorem Owning.report {event : Event} {gen : Nat} {worker : Worker} (owning : Owning s)
    (base : Inv (s.sys.callback gen event)) (known : gen ∈ s.sys.opened)
    (running : s.worker.session = some gen) (reports : event.ofWorker = true)
    (done : worker.pending = false) (same : ∀ other, worker.session = some other → other = gen) :
    Owning { s with sys := s.sys.callback gen event, worker } := by
  have thread : (s.sys.callback gen event).backend.whipThread = some gen :=
    (handle_worker_thread reports).trans (owning.session gen running)
  refine ⟨base, fun other going => ?_, fun _ => ⟨done, fun _ => ?_⟩, fun resetting => ?_,
    fun pending => ?_, fun idle => ?_, owning.cleared, owning.reading, owning.client⟩
  · obtain rfl := same other going
    exact thread
  · rw [thread]
    rfl
  · have fresh := owning.base.fresh_of_reset resetting
    rw [callback_stale (Nat.ne_of_lt (fresh gen known))]
    exact owning.reset resetting
  · exact absurd (done.symm.trans pending) Bool.false_ne_true
  · exact absurd (thread.symm.trans idle) (by simp)

theorem Owning.enter {gen : Nat} {endpoint : String} (owning : Owning s)
    (fresh : s.worker = .fresh gen endpoint) :
    Owning { s with
      worker :=
        if gen = s.sys.backend.sessionGen then .entered gen endpoint else .finished } := by
  have pending : s.worker.pending = true := by
    rw [fresh]
    rfl
  refine ⟨owning.base, fun other running => ?_, fun calm => ?_, owning.reset,
    fun _ => owning.pending pending, owning.unstarted, owning.cleared, owning.reading,
    owning.client⟩
  · apply owning.session
    dsimp only at running
    rw [fresh]
    split at running
    · exact running
    · cases running
  · exact ((owning.quiet calm).not_pending pending).elim

theorem Owning.create {gen : Nat} {endpoint : String} (owning : Owning s)
    (entered : s.worker = .entered gen endpoint) (reply : PostReply) (stored : List String) :
    Owning { s with
      whip := (s.whip.create endpoint reply).2
      worker := .created gen (s.whip.create endpoint reply).1
      stored } := by
  have pending : s.worker.pending = true := by
    rw [entered]
    rfl
  have running : s.worker.session = some gen := by
    rw [entered]
    rfl
  have waiting : ¬ (s.sys.place.settled = true ∨ s.sys.backend.answerReady = true) :=
    fun calm => (owning.quiet calm).not_pending pending
  refine ⟨owning.base, fun other going => ?_, fun calm => absurd calm waiting, owning.reset,
    fun pending => absurd pending Bool.false_ne_true, fun idle => ?_, fun cleared => ?_,
    fun url read => ?_, fun some => ?_⟩
  · exact owning.session other (running.trans going)
  · exact absurd ((owning.session gen running).symm.trans idle) (by simp)
  · exact absurd (.inl (Place.settled_of_cleared cleared)) waiting
  · refine absurd (.inl ?_) waiting
    rw [(owning.reading url read).1]
    rfl
  · dsimp only at some ⊢
    rw [WhipSession.create_client]
    cases client : s.whip.client with
    | true => rfl
    | false => exact absurd (WhipSession.create_offline client reply) some

theorem Owning.delete {url : String} (owning : Owning s) (base : Inv sys)
    (invalidated : s.sys.place = .invalidated) (read : s.reading = some url)
    (left : sys = s.sys.goOn (.advances .disconnect) s.sys.backend) (reply : DeleteReply)
    (deleted : List String) :
    Owning { s with
      sys
      whip := (s.whip.delete url reply).session
      reading := none
      deleted } := by
  obtain ⟨_, rfl⟩ := owning.reading url read
  have held := s.whip.delete_held reply
  have quiet : Quiet s := owning.quiet (.inl (by rw [invalidated]; rfl))
  subst left
  refine ⟨base, owning.session, fun _ => ⟨quiet.done, quiet.taken⟩, fun reset => ?_,
    fun _ => held, fun _ _ => held, fun _ => held, fun _ read => ?_, fun some => absurd held some⟩
  · cases reset
  · cases read

theorem WholeStep.owning (owning : Owning s) (step : WholeStep s l t) : Owning t := by
  cases step with
  | sys step outside elsewhere joined =>
    rename_i label sys
    have base := step.inv owning.base
    cases step.moves owning.base.opened owning.reset outside with
    | outside outside =>
      have keeps : ¬ (s.sys.place = .checksUrl ∧ sys.place = .advances .connect) := by
        rintro ⟨checking, advancing⟩
        exact absurd (checking.symm.trans (outside.place.symm.trans advancing)) (by simp)
      rw [if_neg keeps]
      exact owning.outside base outside
    | caller left moves =>
      rw [moves.thread, Worker.follow_self]
      apply owning.caller base moves
      cases read : s.reading with
      | none => rfl
      | some url =>
        have invalidated := (owning.reading url read).1
        exact absurd (left invalidated) (elsewhere invalidated)
    | joins after joining proceed joins =>
      subst joins
      have keeps : ¬ (s.sys.place = .checksUrl ∧
          (s.sys.tornDown s.sys.backend.joinWhipWorker after).place = .advances .connect) := by
        rintro ⟨checking, _⟩
        exact absurd (checking.symm.trans joining) (by simp)
      rw [if_neg keeps]
      have thread :
          (s.sys.tornDown s.sys.backend.joinWhipWorker after).backend.whipThread = none := by
        cases after <;> rfl
      rw [thread]
      exact owning.joins base joining (joined after joining proceed) _
  | enter fresh => exact owning.enter fresh
  | create entered reply => exact owning.create entered reply _
  | report created step =>
    rename_i gen result thrown sys
    have base := step.inv owning.base
    obtain ⟨rfl, known⟩ := step.of_event
    have running : s.worker.session = some gen := by
      rw [created]
      rfl
    cases result with
    | ok answer => exact owning.report base known running rfl rfl fun _ going => by cases going
    | error error =>
      exact owning.report base known running rfl rfl fun _ going => (Option.some.inj going).symm
  | fail failing step =>
    have base := step.inv owning.base
    obtain ⟨rfl, known⟩ := step.of_event
    refine owning.report base known ?_ rfl rfl fun _ going => by cases going
    rw [failing]
    rfl
  | read invalidated first =>
    obtain ⟨base, session, quiet, reset, pending, unstarted, cleared, _, client⟩ := owning
    refine ⟨base, session, fun calm => ?_, reset, pending, unstarted, cleared, fun url read => ?_,
      client⟩
    · exact ⟨(quiet calm).done, (quiet calm).taken⟩
    · exact ⟨invalidated, (Option.some.inj read).symm⟩
  | delete invalidated read step reply =>
    exact owning.delete (step.inv owning.base) invalidated read (step.behind_delete invalidated)
      reply _

/-- A remembered URL that is neither deleted nor kept is missing. -/
theorem Accounted.forgets_iff (accounted : Accounted s) :
    s.deleted.Perm s.stored ↔ s.whip.held = [] := by
  constructor
  · intro forgotten
    have sizes := (accounted.trans forgotten.symm).length_eq
    rw [List.length_append] at sizes
    exact List.length_eq_zero_iff.mp (by omega)
  · intro empty
    rw [Accounted, empty, List.append_nil] at accounted
    exact accounted

/-- Every step keeps the account exactly when it meets the condition. -/
theorem WholeStep.accounted_iff (owning : Owning s) (accounted : Accounted s)
    (step : WholeStep s l t) : Accounted t ↔ ResourceMeets s l := by
  have forgets := accounted.forgets_iff
  cases step with
  | sys step outside elsewhere joined =>
    rename_i label sys
    by_cases resets : s.sys.place = .checksUrl ∧ sys.place = .advances .connect
    · obtain ⟨rfl, url⟩ := (step.accepts_iff resets.1).mp resets.2
      rw [Accounted, if_pos resets, WhipSession.reset_held, List.append_nil, forgets]
      exact ⟨fun empty _ _ => empty, fun meets => meets resets.1 url⟩
    · have kept : Accounted s := accounted
      rw [Accounted, if_neg resets]
      refine ⟨fun _ => ?_, fun _ => kept⟩
      cases label with
      | proceed =>
        intro checking url
        exact absurd ⟨checking, (step.accepts_iff checking).mpr ⟨rfl, url⟩⟩ resets
      | _ => trivial
  | enter | read => exact ⟨fun _ => trivial, fun _ => accounted⟩
  | report | fail => exact ⟨fun _ => trivial, fun _ => accounted⟩
  | create entered reply =>
    rename_i gen endpoint
    refine ⟨fun _ => trivial, fun _ => ?_⟩
    have before := forgets.mpr (owning.pending (by rw [entered]; rfl))
    rw [Accounted]
    dsimp only
    cases result : (s.whip.create endpoint reply).1 with
    | ok answer => exact before.append_right _
    | error error =>
      rw [WhipSession.create_failed result, List.append_nil]
      rw [Except.isOk, Except.toBool, if_neg Bool.false_ne_true, List.append_nil]
      exact before
  | delete invalidated read step reply =>
    obtain ⟨_, rfl⟩ := owning.reading _ read
    have client : s.whip.resourceUrl ≠ "" → s.whip.client = true := fun some =>
      owning.client fun empty => some (WhipSession.held_eq_nil.mp empty)
    rw [Accounted, WhipSession.delete_held, WhipSession.delete_request client, List.append_nil]
    by_cases unbuilt : reply = .notBuilt
    · rw [if_pos unbuilt, List.append_nil, forgets]
      refine ⟨fun empty some => absurd empty some, fun meets => ?_⟩
      by_cases empty : s.whip.held = []
      · exact empty
      · exact absurd unbuilt (meets empty)
    · rw [if_neg unbuilt]
      exact ⟨fun _ _ => unbuilt, fun _ => accounted⟩

end Wholes

/-- Throughout a run every stored URL is remembered or deleted once, exactly when
no `Connect` forgets one and every DELETE for one can be built. -/
theorem resources_accounted_iff_meets (config : StreamConfig) (client : Bool)
    (labels : List WholeLabel) (s : Whole) :
    Run (Keeping WholeStep Accounted) (.created config client) labels s ↔
      Run (Guarded WholeStep ResourceMeets) (.created config client) labels s :=
  Run.keeping_iff_guarded (Q := Owning) (fun owning step => step.owning owning)
    (fun owning accounted step => step.accounted_iff owning accounted)
    (created_owning config client) .nil

/-- A session that is created, but not connected in time, is forgotten when the
next `Connect` starts afresh. -/
theorem timed_out_session_forgotten :
    ∃ labels s, Run WholeStep
        (.created { backendType := "webrtc", remoteUrl := "http://a/whip" } true) labels s ∧
      s.stored = ["http://a/r"] ∧ s.deleted = [] ∧ s.whip.resourceUrl = "" := by
  have run : Run WholeStep
      (.created { backendType := "webrtc", remoteUrl := "http://a/whip" } true) _ _ :=
    .next (.sys (.connect (.connect rfl { backendType := "webrtc", remoteUrl := "http://a/whip" }))
      rfl nofun nofun) <|
    .next (.sys (.connect (.accepts rfl rfl)) rfl nofun nofun) <|
    .next (.sys (.teardown (.advances rfl)) rfl nofun nofun) <|
    .next (.sys (.teardown (.disables rfl)) rfl nofun nofun) <|
    .next (.sys (.teardown (.drops rfl)) rfl nofun nofun) <|
    .next (.sys (.teardown (.joins rfl)) rfl nofun fun _ _ _ => rfl) <|
    .next (.sys (.connect (.resets rfl)) rfl nofun nofun) <|
    .next (.sys (.connect (.loads rfl)) rfl nofun nofun) <|
    .next (.sys (.connect (.creates rfl)) rfl nofun nofun) <|
    .next (.sys (.connect (.registers rfl)) rfl nofun nofun) <|
    .next (.sys (.connect (.adds rfl)) rfl nofun nofun) <|
    .next (.sys (.event 1 (.gatheringStateChange .complete true) (by decide) (by decide))
      rfl nofun nofun) <|
    .next (.enter rfl) <|
    .next (.create rfl
      (.response { status := 201, body := "v=0", location := some "http://a/r" })) <|
    .next (.report rfl (.event 1 (.whipReady none) (by decide) (by decide))) <|
    .next (.sys (.connect (.answered rfl rfl rfl)) rfl nofun nofun) <|
    .next (.sys (.connect (.iceTimeout rfl rfl)) rfl nofun nofun) <|
    .next (.sys (.teardown (.advances rfl)) rfl nofun nofun) <|
    .next (.sys (.teardown (.disables rfl)) rfl nofun nofun) <|
    .next (.sys (.teardown (.drops rfl)) rfl nofun nofun) <|
    .next (.sys (.teardown (.joins rfl)) rfl nofun fun _ _ _ => rfl) <|
    .next (.sys (.connect (.connect rfl { backendType := "webrtc", remoteUrl := "http://a/whip" }))
      rfl nofun nofun) <|
    .single (.sys (.connect (.accepts rfl rfl)) rfl nofun nofun)
  exact ⟨_, _, run, by decide, by decide, by decide⟩

end Webrtc
end VideoCodec
