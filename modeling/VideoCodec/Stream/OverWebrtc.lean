import Mathlib.Logic.Function.Basic
import VideoCodec.Stream.Progress
import VideoCodec.Webrtc.Reports

/-! A stream over the WebRTC backend: the `Connect` and `Disconnect` that sections of
`StreamImpl` call are those whose sections the backend has, and what a thread of the
backend reports is what arrives at the stream. What each side assumes of the other
when it stands alone is not assumed here: that calls do not overlap, and that the
backend is silent until a call or a session lets it speak. -/
namespace VideoCodec

open Transition Atomic
open VideoCodec.Stream (Party party)

namespace Streaming

open WebrtcBackend Webrtc

/-- The stream, its backend and who is inside it. -/
structure Sys where
  stream : Stream.Sys
  race : Race
  inside : Option Party := none
  /-- What the last call of a thread on the backend has returned. -/
  result : Party → Option Status := fun _ => none

inductive Label where
  | stream (l : Stream.Label)
  | backend (l : RaceLabel)

/-- The call on the backend at the end of a section. The destructor of the backend
is a `Disconnect`. -/
def calls (s : Stream.Sys) : Stream.Label → Option Call
  | .caller .proceed =>
    match s.caller with
    | .startConnect => some (.connect s.impl.config)
    | .join _ => if s.impl.backend.isSome then some .disconnect else none
    | _ => none
  | .worker .connect => some (.connect s.impl.config)
  | _ => none

/-- Sections that neither call the backend, nor build it, nor hear of it. -/
def own (s : Stream.Sys) : Stream.Label → Bool
  | .backend (.emit _) | .caller (.createBackend true) => false
  | .send .video => s.impl.sendVideoGuard.isSome
  | l => (calls s l).isNone

/-- A section behind a call goes on with what the call has returned. -/
def Sys.Resumes (s : Sys) : Stream.Label → Prop
  | .caller (.connectReturns st) | .caller (.disconnectReturns st) => s.result .caller = some st
  | .worker (.connectReturns st) => s.result .worker = some st
  | _ => True

/-- What is reported is on its way to the stream. -/
def hear (s : Stream.Sys) : Option StreamStatus → Stream.Sys
  | none => s
  | some snapshot =>
    { s with
      inFlight := s.inFlight ++ [snapshot]
      dropping := s.dropping || snapshot.state = .kDisconnected
      dropped := s.dropped || (s.up && snapshot.state = .kDisconnected) }

/-- The section of a call, which may have been its last one. -/
def Sys.settle (s : Sys) (race : Race) : Sys :=
  if race.sys.place = .idle then
    { s with
      race
      inside := none
      result := fun p => if s.inside = some p then race.sys.returned else s.result p }
  else { s with race }

@[simp] theorem settle_race (s : Sys) (race : Race) : (s.settle race).race = race := by
  rw [Sys.settle]
  split <;> rfl

@[simp] theorem settle_inside (s : Sys) (race : Race) :
    (s.settle race).inside = if race.sys.place = .idle then none else s.inside := by
  rw [Sys.settle]
  split <;> rfl

/-- Sections of a call that has been entered. -/
def Entered : Webrtc.Label → Prop
  | .connect _ | .disconnect => False
  | _ => True

@[simp] def entry : Call → Webrtc.Label
  | .connect config => .connect config
  | .disconnect => .disconnect

/-- A section of the stream, an operation of a thread of the backend, or both where
they meet. Sends pass the stream's guard first. -/
inductive Step : Sys → Label → Sys → Prop where
  | moves {s : Sys} (step : Stream.Step s.stream l stream) (alone : own s.stream l = true)
      (outside : ∀ p, party l = some p → s.inside ≠ some p) (resumes : s.Resumes l) :
      Step s (.stream l) { s with stream }
  | creates {s : Sys} (step : Stream.Step s.stream (.caller (.createBackend true)) stream) :
      Step s (.stream (.caller (.createBackend true)))
        { s with stream, race := .created s.stream.impl.config }
  | sends {s : Sys} (step : Stream.Step s.stream (.send .video) stream)
      (passes : s.stream.impl.sendVideoGuard = none) (begins : RaceStep s.race .send race) :
      Step s (.stream (.send .video)) { s with stream, race }
  | enters {s : Sys} (step : Stream.Step s.stream l stream)
      (calling : calls s.stream l = some call) (acts : party l = some p)
      (begins : RaceStep s.race (.caller (entry call)) race) :
      Step s (.stream l)
        { s with stream, race, inside := some p, result := Function.update s.result p none }
  | goesOn {s : Sys} (step : RaceStep s.race (.caller l) race) (entered : Entered l) :
      Step s (.backend (.caller l))
        { s.settle race with
          stream :=
            hear s.stream (if s.race.sys.place = .reports then some race.sys.backend.status
              else none) }
  | resets {s : Sys} (step : RaceStep s.race l race) (resetting : l = .clear ∨ l = .cleared) :
      Step s (.backend l) { s with race }
  | arrives {s : Sys} (step : RaceStep s.race (.arrive gen callback) race) :
      Step s (.backend (.arrive gen callback)) { s with race }
  | performs {s : Sys} {op : Op} {answer : op.Ans} {next : op.Ans → Thread Unit}
      (running : s.race.calls = before ++ ⟨gen, .ask op next⟩ :: others)
      (possible : op.answers s.race.sys.backend answer) :
      Step s (.backend .call)
        { s with
          race :=
            { s.race.perform gen op with
              calls := before ++ ⟨behalf gen op answer, next answer⟩ :: others }
          stream := hear s.stream (op.report s.race.sys.backend) }
  | works {s : Sys} {op : Op} {answer : op.Ans} {next : op.Ans → Thread Unit}
      (running : s.race.worker = some (gen, .ask op next))
      (possible : op.answers s.race.sys.backend answer) :
      Step s (.backend .work)
        { s with
          race := { s.race.perform (some gen) op with worker := some (gen, next answer) }
          stream := hear s.stream (op.report s.race.sys.backend) }

def Sys.created (config : StreamConfig) : Sys :=
  { stream := .created config, race := .created config }

section Frames
variable {s t : Stream.Sys} {l : Stream.Label}

@[simp] theorem hear_impl (s : Stream.Sys) (report : Option StreamStatus) :
    (hear s report).impl = s.impl := by
  cases report <;> rfl

@[simp] theorem hear_caller (s : Stream.Sys) (report : Option StreamStatus) :
    (hear s report).caller = s.caller := by
  cases report <;> rfl

@[simp] theorem hear_worker (s : Stream.Sys) (report : Option StreamStatus) :
    (hear s report).worker = s.worker := by
  cases report <;> rfl

/-- What is heard of a stream that has left `kCreated` keeps its invariant. -/
theorem hear_inv {report : Option StreamStatus} (inv : Stream.Inv s)
    (later : s.impl.status.state ≠ .kCreated)
    (known : ∀ snapshot, report = some snapshot → snapshot.state.reported = true) :
    Stream.Inv (hear s report) := by
  cases report with
  | none => exact inv
  | some snapshot =>
    exact { inv with
      created := fun new => absurd new later
      caller := inv.caller.frame .rfl rfl .rfl (.inl rfl) rfl
      session := fun session => inv.session <| by
        rcases session with up | dropped
        · exact .inl up
        · rw [hear, Bool.or_eq_true, Bool.and_eq_true] at dropped
          exact dropped.elim .inr fun drop => .inl drop.1
      reported := List.forall_mem_append.mpr
        ⟨inv.reported, List.forall_mem_singleton.mpr (known snapshot rfl)⟩ }

theorem hear_unarmed {report : Option StreamStatus} {missing : StreamState}
    (unarmed : Stream.Unarmed missing s)
    (withheld : ∀ snapshot, report = some snapshot → snapshot.state ≠ missing) :
    Stream.Unarmed missing (hear s report) := by
  cases report with
  | none => exact unarmed
  | some snapshot =>
    exact { unarmed with
      silent := List.forall_mem_append.mpr
        ⟨unarmed.silent, List.forall_mem_singleton.mpr (withheld snapshot rfl)⟩ }

/-- Where the thread that calls the backend comes from, and where it is then. -/
theorem calls_cases (step : Stream.Step s l t)
    (calling : calls s l = some call) :
    (party l = some .caller ∧ t.caller.onBackend = true ∧
      (s.caller = .startConnect ∧ t.caller = .startConnecting ∨
        (∃ stopping, s.caller = .join stopping) ∧ (s.worker = .exited ∨ s.worker = .absent) ∧
          s.impl.backend.isSome = true ∧ call = .disconnect)) ∨
    (party l = some .worker ∧ s.worker = .attempting ∧ t.worker = .connecting) := by
  cases step with
  | caller step =>
    cases step with
    | init step => cases step <;> simp_all [calls]
    | updateConfig => contradiction
    | start step =>
      cases step with
      | startConnects place => exact .inl ⟨rfl, rfl, .inl ⟨place, rfl⟩⟩
      | _ => simp_all [calls]
    | stop step =>
      cases step with
      | joinsForStop joining ended | joinsForRelease joining ended =>
        rw [calls, joining] at calling
        dsimp only at calling
        split at calling
        · exact .inl ⟨rfl, rfl, .inr ⟨⟨_, joining⟩, ended, ‹_›, (Option.some.inj calling).symm⟩⟩
        · contradiction
      | _ => simp_all [calls]
  | worker step =>
    cases step with
    | connects attempting => exact .inr ⟨rfl, attempting, rfl⟩
    | _ => contradiction
  | backend => contradiction
  | send => contradiction

end Frames

/-- Places of `Disconnect`, with the teardown that it calls. -/
def leaving : Webrtc.Place → Bool
  | .invalidated | .advances .disconnect | .disables .disconnect | .drops .disconnect
  | .joins .disconnect | .clears | .reports => true
  | _ => false

/-- A section that goes on is inside a call, and reports where `Disconnect` ends. -/
structure Going (s t : Webrtc.Sys) : Prop where
  busy : s.place ≠ .idle
  leaves : leaving s.place = true → t.place ≠ .idle → leaving t.place = true
  reports : s.place = .reports → t.backend.status.state = .kDisconnected
  enables : s.place = .enables → t.place = .idle

theorem going {s t : Webrtc.Sys} {l : Webrtc.Label} (step : CallerStep s l t)
    (entered : Entered l) : Going s t := by
  cases step with
  | connect step =>
    cases step with
    | connect => contradiction
    | _ => exact ⟨by simp [*], by simp [*, leaving], by simp [*], by simp [*]⟩
  | disconnect step =>
    cases step with
    | disconnect => contradiction
    | _ =>
      exact ⟨by simp [*], by simp [*, leaving], by simp [*, notifyStreamState], by simp [*]⟩
  | teardown step =>
    cases step with
    | joins joining =>
      rename_i after
      cases after <;>
        exact ⟨by simp [joining], by simp [joining, leaving], by simp [joining], by simp [joining]⟩
    | advances place | disables place | drops place =>
      rename_i after
      cases after <;>
        exact ⟨by simp [place], by simp [place, leaving], by simp [place], by simp [place]⟩

/-- The first `Connect` has left the backend, and `Start` has not gone on yet. -/
def Returning (s : Sys) : Prop := s.stream.caller = .startConnecting ∧ s.inside ≠ some .caller

structure Inv (s : Sys) : Prop where
  stream : Stream.Inv s.stream
  /-- `kConfigured` is stored once, and `Start` leaves it behind. -/
  left : s.stream.caller.beforeStart = false → s.stream.caller ≠ .startReport →
    s.stream.impl.status.state ≠ .kConfigured
  speaking : Speaking s.race
  new : s.stream.impl.status.state = .kCreated → ∃ config, s.race = .created config
  unbuilt : Stream.Unbuilt s.stream
  idle : s.inside = none ↔ s.race.sys.place = .idle
  caller : s.inside = some .caller → s.stream.caller.onBackend = true
  worker : s.inside = some .worker → s.stream.worker = .connecting
  disconnecting : s.inside = some .caller → s.stream.caller ≠ .startConnecting →
    leaving s.race.sys.place = true
  /-- Until the first `Connect` has left the backend there is nothing to lose. -/
  opening : Stream.Starting s.stream → ¬Returning s →
    Stream.Unarmed .kStreaming s.stream ∧ Unstarted s.race

theorem created_inv (config : StreamConfig) : Inv (.created config) where
  stream := Stream.created_inv config
  left := (Stream.created_orderly .kStreaming config).left
  speaking := created_speaking config
  new _ := ⟨config, rfl⟩
  unbuilt _ := nofun
  idle := iff_of_true rfl rfl
  caller := nofun
  worker := nofun
  disconnecting := nofun
  opening starting _ :=
    ⟨(Stream.created_orderly .kStreaming config).unarmed starting, created_unstarted config⟩

section Invariant
variable {s t : Sys} {l : Stream.Label} {stream : Stream.Sys}

theorem Inv.orderly (inv : Inv s) (elsewhere : ¬Returning s) :
    Stream.Orderly .kStreaming s.stream where
  inv := inv.stream
  unarmed starting := (inv.opening starting elsewhere).1
  left := inv.left

theorem Inv.unstarted (inv : Inv s) (elsewhere : ¬Returning s)
    (before : Stream.Starting s.stream ∨ s.stream.impl.status.state = .kCreated) :
    Unstarted s.race := by
  rcases before with starting | new
  · exact (inv.opening starting elsewhere).2
  · obtain ⟨config, fresh⟩ := inv.new new
    rw [fresh]
    exact created_unstarted config

/-- The caller leaves `Connect` behind. -/
theorem Inv.resumes (inv : Inv s) (place : s.stream.caller = .startConnecting)
    {l : Stream.CallerLabel} (step : Stream.CallerStep s.stream l stream) :
    Stream.Orderly .kStreaming stream ∧ ¬Stream.Starting stream := by
  have held := step.inv inv.stream
  have later := inv.left (by rw [place]; rfl) (by simp [place])
  obtain ⟨st, rfl⟩ := step.leaves_connect place
  have behind :
      (if st = .kOk then Stream.Caller.startSucceeded else .startFailed st).opening = false := by
    by_cases ok : st = .kOk <;> simp [ok, Stream.Caller.opening]
  refine ⟨held.orderly later behind, ?_⟩
  rintro (configured | opening)
  · exact later configured
  · exact absurd (behind.symm.trans opening) Bool.false_ne_true

/-- What a section of the stream leaves of the opening, the backend apart. -/
theorem Inv.proceeds (inv : Inv s) (step : Stream.Step s.stream l stream)
    (unheard : ∀ snapshot, l ≠ .backend (.emit snapshot)) :
    Stream.Orderly .kStreaming stream ∧ (Stream.Starting stream → Unstarted s.race) ∨
      Returning s ∧ stream.caller = .startConnecting ∧
        stream.impl.status.state ≠ .kConfigured := by
  by_cases returning : Returning s
  · by_cases own : party l = some .caller
    · cases step with
      | caller step =>
        obtain ⟨orderly, behind⟩ := inv.resumes returning.1 step
        exact .inl ⟨orderly, fun starting => absurd starting behind⟩
      | _ => cases own
    · have place := (step.caller_kept own).trans returning.1
      refine .inr ⟨returning, place, fun configured => ?_⟩
      have later := inv.left (by rw [returning.1]; rfl) (by rw [returning.1]; nofun)
      rcases step.advances inv.stream with same | ⟨-, first⟩
      · exact later (same.symm.trans configured)
      · exact inv.stream.left returning.1 rfl (first configured)
  · left
    constructor
    · refine Stream.Step.orderly (.inl rfl) (inv.orderly returning)
        ⟨step, fun _ snapshot emits => ?_⟩
      exact absurd emits (unheard snapshot)
    · exact fun starting =>
        inv.unstarted returning (step.starting_before inv.stream starting)

/-- A section of the stream, with what the backend and the threads inside it do. -/
theorem Inv.joins (inv : Inv s) (step : Stream.Step s.stream l stream)
    (unheard : ∀ snapshot, l ≠ .backend (.emit snapshot)) {race : Race} {inside : Option Party}
    {result : Party → Option Status} (speaking : Speaking race)
    (new : s.stream.impl.status.state = .kCreated → ∃ config, race = .created config)
    (unstarted : Unstarted s.race → Unstarted race)
    (idle : inside = none ↔ race.sys.place = .idle)
    (caller : inside = some .caller → stream.caller.onBackend = true)
    (worker : inside = some .worker → stream.worker = .connecting)
    (disconnecting : inside = some .caller → stream.caller ≠ .startConnecting →
      leaving race.sys.place = true)
    (returning : Returning s → stream.caller = .startConnecting → inside ≠ some .caller) :
    Inv ⟨stream, race, inside, result⟩ where
  stream := step.inv inv.stream
  left := by
    rcases inv.proceeds step unheard with ⟨orderly, -⟩ | ⟨-, -, later⟩
    · exact orderly.left
    · exact fun _ _ => later
  speaking := speaking
  new created := by
    rcases step.advances inv.stream with same | ⟨later, -⟩
    · exact new (same.symm.trans created)
    · exact absurd created later
  unbuilt := inv.unbuilt.step inv.stream step
  idle := idle
  caller := caller
  worker := worker
  disconnecting := disconnecting
  opening starting elsewhere := by
    rcases inv.proceeds step unheard with ⟨orderly, before⟩ | ⟨left, place, -⟩
    · exact ⟨orderly.unarmed starting, unstarted (before starting)⟩
    · exact absurd ⟨place, returning left place⟩ elsewhere

theorem Inv.moves (inv : Inv s) (step : Stream.Step s.stream l stream)
    (alone : own s.stream l = true) (outside : ∀ p, party l = some p → s.inside ≠ some p) :
    Inv { s with stream } := by
  have kept : s.inside = some .caller → stream.caller = s.stream.caller := fun inside =>
    step.caller_kept fun same => outside _ same inside
  refine inv.joins step ?_ inv.speaking inv.new id inv.idle ?_ ?_ ?_ ?_
  · rintro snapshot rfl
    contradiction
  · intro inside
    rw [kept inside]
    exact inv.caller inside
  · exact fun inside => step.worker_kept (fun same => outside _ same inside) (inv.worker inside)
  · intro inside
    rw [kept inside]
    exact inv.disconnecting inside
  · exact fun left _ => left.2

/-- The backend is built in `Init`, which finds nobody inside. -/
theorem Inv.creates (inv : Inv s)
    (step : Stream.Step s.stream (.caller (.createBackend true)) stream) :
    Inv { s with stream, race := .created s.stream.impl.config } := by
  have new : s.stream.impl.status.state = .kCreated := by
    have place := inv.stream.caller
    cases step with
    | caller step =>
      cases step with
      | init step =>
        cases step with
        | initFound creating => exact (creating ▸ place : Stream.CallerHolds _ .initCreate)
      | start step => cases step
      | stop step => cases step
  obtain ⟨config, fresh⟩ := inv.new new
  have nobody : s.inside = none := inv.idle.mpr (by rw [fresh]; rfl)
  refine inv.joins step nofun (created_speaking _) (fun _ => ⟨_, rfl⟩)
    (fun _ => created_unstarted _) (iff_of_true nobody rfl) ?_ ?_ ?_ ?_
  all_goals rw [nobody]
  all_goals nofun

theorem Inv.sends (inv : Inv s) (step : Stream.Step s.stream (.send .video) stream)
    (passes : s.stream.impl.sendVideoGuard = none) {race : Race}
    (begins : RaceStep s.race .send race) : Inv { s with stream, race } := by
  have later : s.stream.impl.status.state ≠ .kCreated := by
    intro new
    rw [StreamImpl.sendVideoGuard, if_pos (by rw [new]; decide)] at passes
    contradiction
  have elsewhere (p : Party) : Stream.party (.send .video) ≠ some p := by simp [Stream.party]
  have kept := step.caller_kept (elsewhere .caller)
  have place : race.sys.place = s.race.sys.place := by
    cases begins
    rfl
  refine inv.joins step (fun _ emits => by cases emits) (begins.speaking inv.speaking)
    (fun new => absurd new later)
    (fun held => RaceStep.unstarted held ⟨begins, fun _ _ => by simp⟩) ?_ ?_ ?_ ?_ ?_
  · rw [place]
    exact inv.idle
  · rw [kept]
    exact inv.caller
  · exact fun inside => step.worker_kept (elsewhere .worker) (inv.worker inside)
  · rw [kept, place]
    exact inv.disconnecting
  · exact fun left _ => left.2

/-- A thread that calls the backend finds nobody inside. -/
theorem Inv.free (inv : Inv s) (step : Stream.Step s.stream l stream)
    (calling : calls s.stream l = some call) : s.inside = none := by
  cases inside : s.inside with
  | none => rfl
  | some p =>
    cases p with
    | caller =>
      have within := inv.caller inside
      rcases calls_cases step calling with
        ⟨-, -, ⟨place, -⟩ | ⟨⟨_, place⟩, -⟩⟩ | ⟨-, attempting, -⟩
      · rw [place] at within
        contradiction
      · rw [place] at within
        contradiction
      · have place := inv.stream.caller
        cases stands : s.stream.caller with
        | startConnecting =>
          have opening := inv.opening (.inr (by rw [stands]; rfl)) fun left => left.2 inside
          have resting := opening.1.worker
          rw [attempting] at resting
          simp at resting
        | disconnect | releaseMembers =>
          rw [stands] at place
          exact nomatch attempting.symm.trans place
        | _ =>
          rw [stands] at within
          contradiction
    | worker =>
      have connecting := inv.worker inside
      rcases calls_cases step calling with
        ⟨-, -, ⟨place, -⟩ | ⟨-, ended, -⟩⟩ | ⟨-, attempting, -⟩
      · have elsewhere : ¬Returning s := fun left => nomatch place.symm.trans left.1
        have opening := inv.opening (.inr (by rw [place]; rfl)) elsewhere
        exact absurd connecting opening.1.not_connecting
      · rw [connecting] at ended
        simp at ended
      · exact nomatch connecting.symm.trans attempting

theorem Inv.enters (inv : Inv s) (step : Stream.Step s.stream l stream)
    (calling : calls s.stream l = some call) (acts : party l = some p) {race : Race}
    (begins : RaceStep s.race (.caller (entry call)) race) {result : Party → Option Status} :
    Inv ⟨stream, race, some p, result⟩ := by
  have vacant := inv.idle.mp (inv.free step calling)
  have cases_ := calls_cases step calling
  have busy : race.sys.place ≠ .idle ∧ (call = .disconnect → leaving race.sys.place = true) := by
    cases begins with
    | caller begins =>
      cases call with
      | connect config =>
        cases begins with
        | connect begins =>
          cases begins
          exact ⟨nofun, nofun⟩
        | disconnect begins => cases begins
      | disconnect =>
        cases begins with
        | connect begins => cases begins
        | disconnect begins =>
          cases begins
          exact ⟨nofun, fun _ => rfl⟩
  have later : s.stream.impl.status.state ≠ .kCreated := by
    intro new
    rcases cases_ with ⟨-, -, ⟨place, -⟩ | ⟨⟨_, place⟩, -, built, -⟩⟩ | ⟨-, attempting, -⟩
    · exact inv.stream.left place rfl new
    · rcases inv.unbuilt new built with elsewhere | elsewhere <;>
        exact nomatch place.symm.trans elsewhere
    · exact inv.stream.left_of_worker (by rw [attempting]; nofun) (by rw [attempting]; nofun)
        (by rw [attempting]; nofun) new
  refine inv.joins step ?_ (begins.speaking inv.speaking) (fun new => absurd new later) ?_
    (iff_of_false nofun busy.1) ?_ ?_ ?_ ?_
  · rintro snapshot rfl
    contradiction
  · refine fun held => RaceStep.unstarted held ⟨begins, fun place => ?_⟩
    exact nomatch place.symm.trans vacant
  all_goals
    intro first
    rcases cases_ with ⟨own, within, places⟩ | ⟨own, -, connecting⟩
  · exact within
  · cases own.symm.trans (acts.trans first)
  · cases own.symm.trans (acts.trans first)
  · exact connecting
  · intro elsewhere
    rcases places with ⟨-, inside⟩ | ⟨-, -, -, rfl⟩
    · exact absurd inside elsewhere
    · exact busy.2 rfl
  · cases own.symm.trans (acts.trans first)
  · intro inside
    rcases places with ⟨place, -⟩ | ⟨⟨_, place⟩, -⟩ <;> exact nomatch place.symm.trans first.1
  · rintro -
    rw [← acts, own]
    nofun

/-- What the backend does on its own, with what it reports. -/
theorem Inv.acts (inv : Inv s) (report : Option StreamStatus) {race : Race}
    {inside : Option Party} {result : Party → Option Status}
    (later : s.stream.impl.status.state ≠ .kCreated) (speaking : Speaking race)
    (known : ∀ snapshot, report = some snapshot → snapshot.state.reported = true)
    (idle : inside = none ↔ race.sys.place = .idle) (still : inside = s.inside ∨ inside = none)
    (disconnecting : inside ≠ none → leaving s.race.sys.place = true →
      leaving race.sys.place = true)
    (opening : Stream.Starting s.stream → Unstarted s.race →
      ¬(s.stream.caller = .startConnecting ∧ inside ≠ some .caller) →
      Unstarted race ∧ ∀ snapshot, report = some snapshot → snapshot.state ≠ .kStreaming) :
    Inv ⟨hear s.stream report, race, inside, result⟩ := by
  have own : ∀ p, inside = some p → s.inside = some p := by
    intro p within
    rcases still with same | none
    · exact same.symm.trans within
    · exact nomatch none.symm.trans within
  constructor
  · exact hear_inv inv.stream later known
  · simpa using inv.left
  · exact speaking
  · exact fun new => absurd (by simpa using new) later
  · exact fun new => absurd (by simpa using new) later
  · exact idle
  · simpa using fun within => inv.caller (own _ within)
  · simpa using fun within => inv.worker (own _ within)
  · intro within elsewhere
    refine disconnecting (by rw [show inside = _ from within]; nofun) ?_
    exact inv.disconnecting (own _ within) (by simpa using elsewhere)
  · intro starting elsewhere
    rw [Stream.Starting, hear_impl, hear_caller] at starting
    rw [Returning, hear_caller] at elsewhere
    have opened := inv.opening starting fun left =>
      elsewhere ⟨left.1, fun within => left.2 (own _ within)⟩
    obtain ⟨unstarted, withheld⟩ := opening starting opened.2 elsewhere
    exact ⟨hear_unarmed opened.1 withheld, unstarted⟩

/-- Nothing of the backend moves before `Init` is over. -/
theorem Inv.later (inv : Inv s) {race : Race} {l : RaceLabel} (step : RaceStep s.race l race)
    (inner : l ≠ .send ∧ ∀ entering, l = .caller entering → Entered entering) :
    s.stream.impl.status.state ≠ .kCreated := by
  intro new
  obtain ⟨config, fresh⟩ := inv.new new
  rw [fresh] at step
  cases step with
  | caller step =>
    have entered := inner.2 _ rfl
    cases step with
    | connect step =>
      cases step with
      | connect => exact entered
      | _ => contradiction
    | disconnect step =>
      cases step with
      | disconnect => exact entered
      | _ => contradiction
    | teardown step => cases step <;> contradiction
  | clear resets | cleared resets => contradiction
  | arrive registered => exact List.not_mem_nil registered
  | send => exact inner.1 rfl
  | call running => simp [Race.created] at running
  | work running => contradiction

theorem Inv.goesOn (inv : Inv s) {race : Race} {l : Webrtc.Label}
    (step : RaceStep s.race (.caller l) race) (entered : Entered l) :
    Inv { s.settle race with
      stream := hear s.stream (if s.race.sys.place = .reports then some race.sys.backend.status
        else none) } := by
  have later := inv.later step ⟨nofun, fun _ same => by cases same; exact entered⟩
  have speaking := step.speaking inv.speaking
  have section_ : Going s.race.sys race.sys := by
    cases step with
    | caller step => exact going step entered
  have busy : s.inside ≠ none := fun nobody => section_.busy (inv.idle.mp nobody)
  have state : ∀ snapshot, (if s.race.sys.place = .reports then some race.sys.backend.status
      else none) = some snapshot → snapshot.state = .kDisconnected := by
    intro snapshot same
    split at same
    · obtain rfl := Option.some.inj same
      exact section_.reports ‹_›
    · contradiction
  refine inv.acts _ later (by simpa using speaking) (fun snapshot same => ?_) ?_ ?_ ?_ ?_
  · rw [state snapshot same]
    rfl
  · rw [settle_race, settle_inside]
    split
    · exact iff_of_true rfl ‹_›
    · exact iff_of_false busy ‹_›
  · rw [settle_inside]
    split
    · exact .inr rfl
    · exact .inl rfl
  · rw [settle_race, settle_inside]
    split
    · exact fun none => absurd rfl none
    · exact fun _ held => section_.leaves held ‹_›
  · rw [settle_race, settle_inside]
    intro starting unstarted elsewhere
    refine ⟨RaceStep.unstarted unstarted ⟨step, fun enabling _ _ => ?_⟩, fun snapshot same => ?_⟩
    · -- a `Connect` that succeeds leaves the first one behind, or is not a stream's first
      rw [if_pos (section_.enables enabling)] at elsewhere
      have apart : s.stream.caller ≠ .startConnecting := fun place => elsewhere ⟨place, nofun⟩
      cases inside : s.inside with
      | none => exact busy inside
      | some p =>
        cases p with
        | caller =>
          have held := inv.disconnecting inside apart
          rw [enabling] at held
          contradiction
        | worker =>
          have opening := inv.opening starting fun left => apart left.1
          exact opening.1.not_connecting (inv.worker inside)
    · rw [state snapshot same]
      nofun

theorem Inv.resets (inv : Inv s) {race : Race} {l : RaceLabel} (step : RaceStep s.race l race)
    (resetting : l = .clear ∨ l = .cleared) : Inv { s with race } := by
  have later := inv.later step (by rcases resetting with rfl | rfl <;> exact ⟨nofun, nofun⟩)
  have places : s.race.sys.place = .resets ∧ race.sys.place ≠ .idle := by
    rcases resetting with rfl | rfl
    · cases step with
      | clear resets => exact ⟨resets, by rw [resets]; nofun⟩
    · cases step with
      | cleared resets => exact ⟨resets, nofun⟩
  have within : s.inside ≠ none := fun nobody => by
    exact nomatch places.1.symm.trans (inv.idle.mp nobody)
  refine inv.acts none later (step.speaking inv.speaking) nofun
    (iff_of_false within places.2) (.inl rfl) ?_ ?_
  · intro _ held
    rw [places.1] at held
    contradiction
  · intro _ unstarted _
    refine ⟨RaceStep.unstarted unstarted ⟨step, fun enabling => ?_⟩, nofun⟩
    exact nomatch places.1.symm.trans enabling

/-- A step of a thread that is not the caller's. -/
theorem Inv.threads (inv : Inv s) {race : Race} {l : RaceLabel} (step : RaceStep s.race l race)
    (report : Option StreamStatus)
    (inner : l = .call ∨ l = .work ∨ ∃ gen callback, l = .arrive gen callback)
    (place : race.sys.place = s.race.sys.place)
    (known : ∀ snapshot, report = some snapshot → snapshot.state.reported = true)
    (withheld : Unstarted s.race → ∀ snapshot, report = some snapshot →
      snapshot.state ≠ .kStreaming) : Inv { s with race, stream := hear s.stream report } := by
  have other : l ≠ .send ∧ ∀ entering, l ≠ .caller entering := by
    rcases inner with rfl | rfl | ⟨gen, callback, rfl⟩ <;> exact ⟨nofun, nofun⟩
  have later := inv.later step ⟨other.1, fun entering same => absurd same (other.2 entering)⟩
  refine inv.acts report later (step.speaking inv.speaking) known (place ▸ inv.idle) (.inl rfl)
    ?_ ?_
  · intro _ held
    rw [place]
    exact held
  · exact fun _ unstarted _ =>
      ⟨RaceStep.unstarted unstarted ⟨step, fun _ => other.2⟩, withheld unstarted⟩

/-- A thread that is quiet does not report `kStreaming`. -/
theorem withheld_of_quiet {b : WebrtcBackend} {op : Op} {next : op.Ans → Thread Unit}
    (quiet : Quiet (.ask op next)) {snapshot : StreamStatus}
    (reports : op.report b = some snapshot) : snapshot.state ≠ .kStreaming := by
  cases op with
  | notify state =>
    obtain rfl := Option.some.inj reports
    exact fun streaming => quiet.1 (decide_eq_true streaming)
  | _ => contradiction

theorem Step.inv {l : Label} (inv : Inv s) (step : Step s l t) : Inv t := by
  cases step with
  | moves step alone outside => exact inv.moves step alone outside
  | creates step => exact inv.creates step
  | sends step passes begins => exact inv.sends step passes begins
  | enters step calling acts begins => exact inv.enters step calling acts begins
  | goesOn step entered => exact inv.goesOn step entered
  | resets step resetting => exact inv.resets step resetting
  | arrives step =>
    refine inv.threads step none (.inr (.inr ⟨_, _, rfl⟩)) ?_ nofun fun _ => nofun
    cases step
    rfl
  | performs running possible =>
    have member : _ ∈ s.race.calls := running ▸ List.mem_append_right _ List.mem_cons_self
    refine inv.threads (.call running possible) _ (.inl rfl) rfl (fun snapshot => ?_)
      fun unstarted snapshot => ?_
    · exact reported_of_speaks (inv.speaking.calls _ member)
    · exact withheld_of_quiet (unstarted.calls _ member)
  | works running possible =>
    refine inv.threads (.work running possible) _ (.inr (.inl rfl)) rfl (fun snapshot => ?_)
      fun unstarted snapshot => ?_
    · exact reported_of_speaks (inv.speaking.worker _ _ running)
    · exact withheld_of_quiet (unstarted.worker _ _ running)

/-- The backend goes through a run of its own, with one caller at a time. -/
theorem Step.race_run {l : Label} (before : ∃ config ls, Run RaceStep (.created config) ls s.race)
    (step : Step s l t) : ∃ config ls, Run RaceStep (.created config) ls t.race := by
  obtain ⟨config, ls, run⟩ := before
  cases step with
  | moves => exact ⟨config, ls, run⟩
  | creates => exact ⟨_, [], .refl _⟩
  | sends _ _ begins => exact ⟨config, _, run.snoc begins⟩
  | enters _ _ _ begins => exact ⟨config, _, run.snoc begins⟩
  | goesOn step =>
    dsimp only
    rw [settle_race]
    exact ⟨config, _, run.snoc step⟩
  | resets step => exact ⟨config, _, run.snoc step⟩
  | arrives step => exact ⟨config, _, run.snoc step⟩
  | performs running possible => exact ⟨config, _, run.snoc (.call running possible)⟩
  | works running possible => exact ⟨config, _, run.snoc (.work running possible)⟩

/-- A backend that nobody is inside takes a call. -/
theorem entry_step (vacant : s.race.sys.place = .idle) (call : Call) :
    ∃ race, RaceStep s.race (.caller (entry call)) race := by
  have elsewhere : s.race.sys.place ≠ .resets := by rw [vacant]; nofun
  have joined : ∀ after, s.race.sys.place = .joins after →
      ∀ gen rest, s.race.worker = some (gen, rest) → rest = .done () := by
    rw [vacant]
    nofun
  cases call with
  | connect config => exact ⟨_, .caller (.connect (.connect vacant config)) elsewhere joined⟩
  | disconnect => exact ⟨_, .caller (.disconnect (.disconnect vacant)) elsewhere joined⟩

end Invariant

/-- Whatever callers, senders, handlers and workers do, a section of `StreamImpl` that
calls `Connect`, `Disconnect` or the destructor finds nobody inside the backend and
enters it; the backend goes through a run of its own; and while the `Connect` of
`Start` runs, the stream does not read as streaming. -/
theorem backend_calls_never_overlap (config : StreamConfig) {s : Sys}
    (run : Run Step (.created config) labels s) :
    (∀ l stream call, Stream.Step s.stream l stream → calls s.stream l = some call →
      s.race.sys.place = .idle ∧ ∃ t, Step s (.stream l) t) ∧
    (∃ config ls, Run RaceStep (.created config) ls s.race) ∧
    (s.stream.caller = .startConnecting → s.inside = some .caller →
      s.stream.impl.status.state ≠ .kStreaming) := by
  have inv : Inv s := run.invariant (fun held step => step.inv held) (created_inv config)
  refine ⟨fun l stream call step calling => ?_, ?_, fun place inside streaming => ?_⟩
  · have vacant := inv.idle.mp (inv.free step calling)
    obtain ⟨race, begins⟩ := entry_step vacant call
    obtain ⟨p, acts⟩ : ∃ p, party l = some p := by
      rcases calls_cases step calling with ⟨own, -⟩ | ⟨own, -⟩ <;> exact ⟨_, own⟩
    exact ⟨vacant, _, .enters step calling acts begins⟩
  · exact run.invariant (P := fun s => ∃ config ls, Run RaceStep (.created config) ls s.race)
      (fun held step => step.race_run held) ⟨config, [], .refl _⟩
  · have opening := inv.opening (.inr (by rw [place]; rfl)) fun left => left.2 inside
    have inactive := opening.1.inactive rfl
    rw [streaming] at inactive
    contradiction

/-- A stream whose `Start` has just called `Connect`. -/
theorem backend_calls_never_overlap_start :
    ∃ s : Sys, s.inside = some .caller ∧ s.race.sys.place = .checksUrl ∧
      s.stream.impl.status.state ≠ .kStreaming := by
  let config : StreamConfig := { backendType := "webrtc", remoteUrl := "http" }
  have guarded : (StreamImpl.new config).initGuard = (none, StreamImpl.new config) := by
    have passes : ¬StreamState.kConfigured ≤ .kCreated ∧ ¬StreamState.kDestroyed ≤ .kCreated := by
      decide
    have valid : StreamImpl.validateConfig config = .kOk := by decide
    simp [StreamImpl.initGuard, StreamImpl.new, passes, valid]
  have outside : ∀ l p, Stream.party l = some p → (none : Option Party) ≠ some p :=
    fun _ _ _ => Option.some_ne_none _ |>.symm
  have run : Run Step (.created config) _ _ :=
    .next (.moves (.caller (.init (.initGoesOn rfl guarded))) rfl (outside _) trivial) <|
    .next (.creates (.caller (.init (.initFound rfl)))) <|
    .next (.moves (.caller (.init (.initSpawns rfl rfl))) rfl (outside _) trivial) <|
    .next (.moves (.caller (.init (.initReports rfl))) rfl (outside _) trivial) <|
    .next (.moves (.caller (.start (.startGoesOn rfl rfl))) rfl (outside _) trivial) <|
    .next (.moves (.caller (.start (.startReports rfl))) rfl (outside _) trivial) <|
    .single (.enters (.caller (.start (.startConnects rfl rfl))) rfl rfl
      (.caller (.connect (.connect rfl _)) (fun resets => by cases resets)
        fun _ joins => by cases joins))
  exact ⟨_, rfl, rfl, (backend_calls_never_overlap config run).2.2 rfl rfl⟩

end Streaming
end VideoCodec
