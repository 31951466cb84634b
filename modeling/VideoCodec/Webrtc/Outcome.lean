import VideoCodec.Webrtc.Connect

/-! What a return of `Connect` means, whatever the callbacks, the waits and their
timeouts did in the meantime: an assertion for each place of the caller, kept by
the callbacks and passed on from section to section. -/
namespace VideoCodec

open Transition

namespace Webrtc

open WebrtcBackend

/-- Every session opened so far is stale. -/
def Fresh (s : Sys) : Prop := ∀ gen ∈ s.opened, gen < s.backend.sessionGen

/-- The answer flags agree with what the session has seen. -/
structure Answering (s : Sys) : Prop where
  current : s.session = s.backend.sessionGen
  silent : s.backend.answerReady = false →
    s.backend.connectResult = .kOk ∧ marksOf s.marks s.session = []
  heard : s.backend.answerReady = true → s.backend.connectResult = .kOk →
    (marksOf s.marks s.session).head? = some (.answer .answered)

/-- `setRemoteDescription` succeeded before any failure was recorded. -/
structure Answered (s : Sys) : Prop where
  current : s.session = s.backend.sessionGen
  first : (marksOf s.marks s.session).head? = some (.answer .answered)

/-- Moreover ICE was connected when `Connect` looked. -/
structure Established (s : Sys) : Prop where
  first : (marksOf s.marks s.session).head? = some (.answer .answered)
  checked : .checked true ∈ marksOf s.marks s.session

/-- Nothing of the session is left. -/
structure Closed (s : Sys) : Prop where
  pc : s.backend.pc = none
  videoTrack : s.backend.videoTrack = none
  rtpConfig : s.backend.rtpConfig = none
  rtcpSrReporter : s.backend.rtcpSrReporter = none
  sendEnabled : s.backend.sendEnabled = false
  advanced : s.session < s.backend.sessionGen

/-- What `Connect` promises of a non-empty URL. -/
def Promised (s : Sys) : Prop :=
  ∀ config st, s.call = .connect config → config.remoteUrl.isEmpty = false →
    s.returned = some st → (st = .kOk → Established s) ∧ (st ≠ .kOk → Closed s)

/-- Why the caller tears a session down. -/
def Going (s : Sys) : After → Prop
  | .connect => True
  | .fail st => st ≠ .kOk
  | .disconnect => s.call = .disconnect

/-- What holds where the caller stands. -/
def Holds (s : Sys) : Place → Prop
  | .idle => Promised s
  | .checksUrl => s.call = .connect s.backend.config
  | .advances after => Going s after ∧ ∀ st, after = .fail st → s.session = s.backend.sessionGen
  | .disables after =>
    Going s after ∧ Fresh s ∧ ∀ st, after = .fail st → s.session < s.backend.sessionGen
  | .drops after =>
    Going s after ∧ Fresh s ∧ ∀ st, after = .fail st →
      s.session < s.backend.sessionGen ∧ s.backend.sendEnabled = false
  | .joins after => Going s after ∧ Fresh s ∧ ∀ st, after = .fail st → Closed s
  | .resets => Fresh s
  | .loads => Fresh s ∧ s.backend.answerReady = false ∧ s.backend.connectResult = .kOk
  | .creates gen | .registers gen => gen = s.session ∧ Fresh s ∧ Answering s
  | .adds gen => gen = s.session ∧ s.session ∈ s.opened ∧ Answering s
  | .awaitsAnswer => s.session ∈ s.opened ∧ Answering s
  | .awaitsIce | .checksIce => s.session ∈ s.opened ∧ Answered s
  | .enables => Established s
  | .invalidated | .clears | .reports => s.call = .disconnect

structure Inv (s : Sys) : Prop where
  opened : ∀ gen ∈ s.opened, gen ≤ s.backend.sessionGen
  marked : ∀ mark ∈ s.marks, mark.1 ∈ s.opened
  holds : Holds s s.place

theorem created_inv (config : StreamConfig) : Inv (.created config) where
  opened := by simp [Sys.created]
  marked := by simp [Sys.created]
  holds := fun _ _ call _ _ => by simp [Sys.created] at call

section Marks
variable {marks : List (Nat × Mark)} {gen : Nat}

@[simp] theorem marksOf_append (marks more : List (Nat × Mark)) (gen : Nat) :
    marksOf (marks ++ more) gen = marksOf marks gen ++ marksOf more gen := by
  simp [marksOf]

@[simp] theorem marksOf_nil (gen : Nat) : marksOf [] gen = [] := rfl

@[simp] theorem marksOf_self (gen : Nat) (mark : Mark) : marksOf [(gen, mark)] gen = [mark] := by
  simp [marksOf]

theorem marksOf_eq_nil (other : ∀ mark ∈ marks, mark.1 ≠ gen) : marksOf marks gen = [] := by
  simpa [marksOf, List.filter_eq_nil_iff] using fun a mark seen => other (a, mark) seen

theorem head?_append {first : Mark} (more : List Mark) {seen : List Mark}
    (head : seen.head? = some first) : (seen ++ more).head? = some first := by
  rw [List.head?_append, head]
  rfl

end Marks

section Interference
variable {s t : Sys} {gen : Nat}

theorem callback_stale (stale : gen ≠ s.backend.sessionGen) (event : Event) :
    s.callback gen event = s := by
  simp [Sys.callback, handle_stale stale, answer_stale stale]

/-- A callback or a send: it leaves the caller and the session alone, and adds
to the marks. -/
structure Interferes (s t : Sys) : Prop where
  place : t.place = s.place
  opened : t.opened = s.opened
  session : t.session = s.session
  call : t.call = s.call
  returned : t.returned = s.returned
  members : SameSession s.backend t.backend
  marks : ∃ more, t.marks = s.marks ++ more ∧ ∀ mark ∈ more, mark.1 ∈ s.opened
  answering : Answering s → Answering t
  stale : Fresh s → t.backend.answerReady = s.backend.answerReady ∧
    t.backend.connectResult = s.backend.connectResult

theorem Answering.callback (answering : Answering s) (gen : Nat) (event : Event) :
    Answering (s.callback gen event) := by
  by_cases current : gen = s.backend.sessionGen
  case neg => rwa [callback_stale current]
  obtain ⟨same, ready, result⟩ := s.backend.handle_handled gen event
  have session : gen = s.session := current.trans answering.current.symm
  refine ⟨answering.current.trans same.sessionGen.symm, fun silent => ?_, fun heard ok => ?_⟩
  all_goals
    simp only [Sys.callback] at *
    rw [marksOf_append]
  · rw [ready, Bool.or_eq_false_iff] at silent
    obtain ⟨silent, none⟩ := silent
    rw [Option.isSome_eq_false_iff, Option.isNone_iff_eq_none] at none
    obtain ⟨ok, empty⟩ := answering.silent silent
    simp [result, none, ok, empty]
  · cases before : s.backend.answerReady with
    | true =>
      rw [result, before, if_neg (by simp)] at ok
      exact head?_append _ (answering.heard before ok)
    | false =>
      -- the first word of the session: a failure would show in the result
      rw [ready, before, Bool.false_or] at heard
      obtain ⟨answer, heard⟩ := Option.isSome_iff_exists.mp heard
      rw [(answering.silent before).2, heard, session]
      cases answer with
      | answered => rw [Option.map_some, Option.toList_some, marksOf_self]; rfl
      | failed => simp [result, before, heard] at ok

theorem callback_interferes (opened : gen ∈ s.opened) (event : Event) :
    Interferes s (s.callback gen event) where
  place := rfl
  opened := rfl
  session := rfl
  call := rfl
  returned := rfl
  members := (s.backend.handle_handled gen event).same
  marks := by
    refine ⟨_, rfl, fun mark seen => ?_⟩
    obtain ⟨heard, -, rfl⟩ := by simpa using seen
    exact opened
  answering answering := answering.callback gen event
  stale fresh := by
    rw [callback_stale (Nat.ne_of_lt (fresh gen opened))]
    exact ⟨rfl, rfl⟩

/-- Sends say nothing about the answer. -/
theorem send_interferes {backend : WebrtcBackend} (handled : Handled s.backend backend none)
    (sends : Nat) : Interferes s { s with backend, sends } := by
  obtain ⟨same, ready, result⟩ := handled
  simp only [Option.isSome_none, Bool.or_false] at ready
  simp only [reduceCtorEq, and_false, if_false] at result
  refine ⟨rfl, rfl, rfl, rfl, rfl, same, ⟨[], by simp, by simp⟩, fun answering => ?_,
    fun _ => ⟨ready, result⟩⟩
  obtain ⟨current, silent, heard⟩ := answering
  refine ⟨current.trans same.sessionGen.symm, ?_, ?_⟩
  · simpa only [ready, result] using silent
  · simpa only [ready, result] using heard

theorem Established.interferes (established : Established s) (interferes : Interferes s t) :
    Established t := by
  obtain ⟨more, marks, -⟩ := interferes.marks
  constructor
  all_goals rw [marks, interferes.session, marksOf_append]
  · exact head?_append _ established.first
  · exact List.mem_append_left _ established.checked

theorem Answered.interferes (answered : Answered s) (interferes : Interferes s t) : Answered t := by
  obtain ⟨more, marks, -⟩ := interferes.marks
  constructor
  · rw [interferes.session, interferes.members.sessionGen, answered.current]
  · rw [marks, interferes.session, marksOf_append]
    exact head?_append _ answered.first

theorem Closed.interferes (closed : Closed s) (interferes : Interferes s t) : Closed t := by
  obtain ⟨-, pc, track, rtp, sr, gen, send⟩ := interferes.members
  refine ⟨pc.trans closed.pc, track.trans closed.videoTrack, rtp.trans closed.rtpConfig,
    sr.trans closed.rtcpSrReporter, send.trans closed.sendEnabled, ?_⟩
  rw [interferes.session, gen]
  exact closed.advanced

theorem Fresh.interferes (fresh : Fresh s) (interferes : Interferes s t) : Fresh t := by
  rw [Fresh, interferes.opened, interferes.members.sessionGen]
  exact fresh

theorem Going.interferes {after : After} (going : Going s after) (interferes : Interferes s t) :
    Going t after := by
  cases after with
  | connect => exact trivial
  | fail st => exact going
  | disconnect => exact interferes.call.trans going

/-- No assertion is disturbed. -/
theorem holds_interferes {place : Place} (holds : Holds s place) (interferes : Interferes s t) :
    Holds t place := by
  have gen := interferes.members.sessionGen
  have session := interferes.session
  cases place with
  | idle =>
    intro config st call some returned
    have promised := holds config st (interferes.call ▸ call) some (interferes.returned ▸ returned)
    constructor
    · intro ok
      exact (promised.1 ok).interferes interferes
    · intro failed
      exact (promised.2 failed).interferes interferes
  | checksUrl => exact interferes.call.trans (interferes.members.config ▸ holds)
  | advances after =>
    refine ⟨holds.1.interferes interferes, ?_⟩
    simpa only [session, gen] using holds.2
  | disables after =>
    refine ⟨holds.1.interferes interferes, holds.2.1.interferes interferes, ?_⟩
    simpa only [session, gen] using holds.2.2
  | drops after =>
    refine ⟨holds.1.interferes interferes, holds.2.1.interferes interferes, ?_⟩
    simpa only [session, gen, interferes.members.sendEnabled] using holds.2.2
  | joins after =>
    exact ⟨holds.1.interferes interferes, holds.2.1.interferes interferes,
      fun st failing => (holds.2.2 st failing).interferes interferes⟩
  | resets => exact Fresh.interferes holds interferes
  | loads =>
    obtain ⟨fresh, ready, result⟩ := holds
    obtain ⟨sameReady, sameResult⟩ := interferes.stale fresh
    exact ⟨fresh.interferes interferes, sameReady.trans ready, sameResult.trans result⟩
  | creates gen | registers gen =>
    exact ⟨holds.1.trans session.symm, holds.2.1.interferes interferes,
      interferes.answering holds.2.2⟩
  | adds gen =>
    refine ⟨holds.1.trans session.symm, ?_, interferes.answering holds.2.2⟩
    rw [session, interferes.opened]
    exact holds.2.1
  | awaitsAnswer =>
    refine ⟨?_, interferes.answering holds.2⟩
    rw [session, interferes.opened]
    exact holds.1
  | awaitsIce | checksIce =>
    refine ⟨?_, holds.2.interferes interferes⟩
    rw [session, interferes.opened]
    exact holds.1
  | enables => exact Established.interferes holds interferes
  | invalidated | clears | reports => exact interferes.call.trans holds

theorem Inv.interferes (inv : Inv s) (interferes : Interferes s t) : Inv t where
  opened := by
    rw [interferes.opened, interferes.members.sessionGen]
    exact inv.opened
  marked := by
    obtain ⟨more, marks, known⟩ := interferes.marks
    rw [marks, interferes.opened]
    intro mark seen
    exact (List.mem_append.mp seen).elim (inv.marked mark) (known mark)
  holds := by
    rw [interferes.place]
    exact holds_interferes inv.holds interferes

end Interference

section Steps
variable {s t : Sys} {l : Label}

theorem TeardownStep.inv (inv : Inv s) (step : TeardownStep s t) : Inv t := by
  obtain ⟨opened, marked, holds⟩ := inv
  cases step with
  | advances advancing =>
    rename_i after
    rw [advancing] at holds
    refine ⟨fun gen known => Nat.le_succ_of_le (opened gen known), marked, ?_⟩
    obtain ⟨going, current⟩ := holds
    exact ⟨by cases after <;> exact going, fun gen known => Nat.lt_succ_of_le (opened gen known),
      fun st failing => by simp [current st failing]⟩
  | disables disabling =>
    rename_i after
    rw [disabling] at holds
    obtain ⟨going, fresh, advanced⟩ := holds
    exact ⟨opened, marked, by cases after <;> exact going, fresh,
      fun st failing => ⟨advanced st failing, rfl⟩⟩
  | drops dropping =>
    rename_i after
    rw [dropping] at holds
    obtain ⟨going, fresh, closing⟩ := holds
    exact ⟨opened, marked, by cases after <;> exact going, fresh,
      fun st failing => ⟨rfl, rfl, rfl, rfl, (closing st failing).2, (closing st failing).1⟩⟩
  | joins joining =>
    rename_i after
    rw [joining] at holds
    obtain ⟨going, fresh, closed⟩ := holds
    cases after with
    | connect => exact ⟨opened, marked, fresh⟩
    | disconnect => exact ⟨opened, marked, going⟩
    | fail st =>
      obtain ⟨pc, track, rtp, sr, send, advanced⟩ := closed st rfl
      refine ⟨opened, marked, fun config result call some returned => ?_⟩
      obtain rfl := Option.some.inj returned
      constructor
      · intro ok
        exact absurd ok going
      · intro _
        exact ⟨pc, track, rtp, sr, send, advanced⟩

/-- A good answer was heard before any failure. -/
theorem Answering.answered (answering : Answering s)
    (passes : s.backend.answerFailure = none) : Answered s := by
  obtain ⟨current, silent, heard⟩ := answering
  rw [answerFailure] at passes
  split at passes
  · contradiction
  · split at passes
    · contradiction
    · exact ⟨current, heard (by simpa using ‹¬(!_) = true›) (by simpa using ‹¬(_ ≠ _)›)⟩

theorem answerFailure_ne {b : WebrtcBackend} {st : Status} (failed : b.answerFailure = some st) :
    st ≠ .kOk := by
  rw [answerFailure] at failed
  split at failed
  · exact Option.some.inj failed ▸ ‹_›
  · split at failed
    · exact Option.some.inj failed ▸ by decide
    · contradiction

theorem ConnectStep.inv (inv : Inv s) (step : ConnectStep s l t) : Inv t := by
  obtain ⟨opened, marked, holds⟩ := inv
  cases step with
  | connect free config => exact ⟨opened, marked, rfl⟩
  | refuses checking empty =>
    rw [checking] at holds
    refine ⟨opened, marked, fun config st call some _ => ?_⟩
    obtain rfl := Call.connect.inj (call.symm.trans holds)
    exact absurd (empty.symm.trans some) (by decide)
  | accepts checking some => exact ⟨opened, marked, by simp [Holds, Going]⟩
  | resets resetting =>
    rw [resetting] at holds
    exact ⟨opened, marked, holds, rfl, rfl⟩
  | loads loading =>
    rw [loading] at holds
    obtain ⟨fresh, ready, result⟩ := holds
    refine ⟨opened, marked, rfl, fresh, rfl, fun _ => ⟨result, ?_⟩, fun heard => ?_⟩
    · exact marksOf_eq_nil fun mark seen => Nat.ne_of_lt (fresh mark.1 (marked mark seen))
    · exact absurd (ready.symm.trans heard) (by decide)
  | creates creating =>
    rw [creating] at holds
    obtain ⟨same, fresh, current, silent, heard⟩ := holds
    exact ⟨opened, marked, same, fresh, current, silent, heard⟩
  | registers registering =>
    rw [registering] at holds
    obtain ⟨rfl, fresh, current, silent, heard⟩ := holds
    refine ⟨?_, fun mark seen => List.mem_cons_of_mem _ (marked mark seen), rfl,
      List.mem_cons_self .., current, silent, heard⟩
    exact List.forall_mem_cons.mpr ⟨Nat.le_of_eq current, opened⟩
  | adds adding =>
    rw [adding] at holds
    obtain ⟨-, known, current, silent, heard⟩ := holds
    exact ⟨opened, marked, known, current, silent, heard⟩
  | answerTimeout waiting silent =>
    rw [waiting] at holds
    exact ⟨opened, marked, by simp [Going], fun _ _ => holds.2.current⟩
  | answerFails waiting signalled failed =>
    rw [waiting] at holds
    exact ⟨opened, marked, answerFailure_ne failed, fun _ _ => holds.2.current⟩
  | answered waiting signalled passes =>
    rw [waiting] at holds
    obtain ⟨current, first⟩ := holds.2.answered passes
    exact ⟨opened, marked, holds.1, current, first⟩
  | iceTimeout waiting silent =>
    rw [waiting] at holds
    exact ⟨opened, marked, by simp [Going], fun _ _ => holds.2.current⟩
  | iceSignalled waiting signalled =>
    rw [waiting] at holds
    exact ⟨opened, marked, holds.1, holds.2.current, holds.2.first⟩
  | iceFails checking lost =>
    rw [checking] at holds
    refine ⟨opened, ?_, by simp [Going], fun _ _ => holds.2.current⟩
    exact List.forall_mem_append.mpr ⟨marked, List.forall_mem_singleton.mpr holds.1⟩
  | iceConnected checking connected =>
    rw [checking] at holds
    refine ⟨opened, ?_, ?_, ?_⟩
    · exact List.forall_mem_append.mpr ⟨marked, List.forall_mem_singleton.mpr holds.1⟩
    · rw [marksOf_append]
      exact head?_append _ holds.2.first
    · simp
  | enables enabling =>
    rw [enabling] at holds
    refine ⟨opened, marked, fun config st call some returned => ?_⟩
    obtain rfl := Option.some.inj returned
    constructor
    · intro _
      exact ⟨holds.first, holds.checked⟩
    · intro failed
      exact absurd rfl failed

theorem DisconnectStep.inv (inv : Inv s) (step : DisconnectStep s l t) : Inv t := by
  obtain ⟨opened, marked, holds⟩ := inv
  cases step with
  | disconnect free =>
    exact ⟨fun gen known => Nat.le_succ_of_le (opened gen known), marked, rfl⟩
  | deletes invalidated =>
    rw [invalidated] at holds
    exact ⟨opened, marked, holds, by simp⟩
  | clears clearing =>
    rw [clearing] at holds
    exact ⟨opened, marked, holds⟩
  | reports reporting =>
    rw [reporting] at holds
    refine ⟨opened, marked, fun config st call _ _ => ?_⟩
    exact absurd (call.symm.trans holds) (by simp)

theorem Step.inv (inv : Inv s) (step : Step s l t) : Inv t := by
  cases step with
  | connect step => exact step.inv inv
  | disconnect step => exact step.inv inv
  | teardown step => exact step.inv inv
  | event gen event opened working => exact inv.interferes (callback_interferes opened event)
  | send guarded => exact inv.interferes (send_interferes (.silent .rest rfl rfl) _)
  | sent some outcome =>
    exact inv.interferes (send_interferes (s.backend.sendVideoDone_handled outcome) _)
  | sendAudio => exact inv.interferes (send_interferes s.backend.sendAudio_handled _)

/-- Generations only advance. -/
theorem Step.gen_le (step : Step s l t) : s.backend.sessionGen ≤ t.backend.sessionGen := by
  cases step with
  | connect step => cases step <;> exact Nat.le_refl _
  | disconnect step =>
    cases step with
    | disconnect free => exact Nat.le_succ _
    | deletes | clears | reports => exact Nat.le_refl _
  | teardown step =>
    cases step with
    | advances => exact Nat.le_succ _
    | disables | drops => exact Nat.le_refl _
    | joins joining =>
      rename_i after
      cases after <;> exact Nat.le_refl _
  | event gen event => exact Nat.le_of_eq (s.backend.handle_handled gen event).same.sessionGen.symm
  | send => exact Nat.le_refl _
  | sent some outcome =>
    exact Nat.le_of_eq (s.backend.sendVideoDone_handled outcome).same.sessionGen.symm
  | sendAudio => exact Nat.le_of_eq s.backend.sendAudio_handled.same.sessionGen.symm

/-- Events of a session that is over change nothing. -/
theorem ignores_stale {ls : List Label} {u : Sys} {gen : Nat} {event : Event}
    (past : gen < s.backend.sessionGen) (run : Run Step s ls t)
    (late : Step t (.event gen event) u) : u = t := by
  have stale : gen < t.backend.sessionGen :=
    run.invariant (P := fun s => gen < s.backend.sessionGen)
      (fun past step => Nat.lt_of_lt_of_le past step.gen_le) past
  cases late with
  | connect step => cases step
  | disconnect step => cases step
  | event gen event opened working => exact callback_stale (Nat.ne_of_lt stale) event

end Steps

/-- `Connect` with a URL returns `kOk` only for a session that was answered before
any failure and found connected; otherwise nothing of the session is left and
whatever it still reports is ignored for good. -/
theorem connect_outcome {initial config : StreamConfig} {ls : List Label} {s : Sys} {st : Status}
    (run : Run Step (.created initial) ls s) (called : s.call = .connect config)
    (url : config.remoteUrl.isEmpty = false) (back : s.place = .idle)
    (returned : s.returned = some st) :
    (st = .kOk →
      (marksOf s.marks s.session).head? = some (.answer .answered) ∧
        .checked true ∈ marksOf s.marks s.session) ∧
    (st ≠ .kOk →
      s.backend.pc = none ∧ s.backend.videoTrack = none ∧ s.backend.rtpConfig = none ∧
        s.backend.rtcpSrReporter = none ∧ s.backend.sendEnabled = false ∧
        s.session < s.backend.sessionGen ∧
        ∀ ms t event u, Run Step s ms t → Step t (.event s.session event) u → u = t) := by
  have inv : Inv s := run.invariant Step.inv (created_inv initial)
  have promised : Promised s := by
    have holds := inv.holds
    rwa [back] at holds
  obtain ⟨succeeds, fails⟩ := promised config st called url returned
  constructor
  · intro ok
    exact ⟨(succeeds ok).first, (succeeds ok).checked⟩
  · intro failed
    obtain ⟨pc, track, rtp, sr, send, advanced⟩ := fails failed
    refine ⟨pc, track, rtp, sr, send, advanced, ?_⟩
    intro ms t event u later late
    exact ignores_stale advanced later late

/-- A session whose offer is answered and whose ICE connects. -/
theorem connect_outcome_kOk :
    ∃ ls s, Run Step (.created { backendType := "webrtc", remoteUrl := "http" }) ls s ∧
      s.returned = some .kOk ∧ s.backend.sendEnabled = true ∧
      (marksOf s.marks s.session).head? = some (.answer .answered) := by
  have run : Run Step (.created { backendType := "webrtc", remoteUrl := "http" }) _ _ :=
    .next (.connect (.connect rfl { backendType := "webrtc", remoteUrl := "http" })) <|
    .next (.connect (.accepts rfl rfl)) <| .next (.teardown (.advances rfl)) <|
    .next (.teardown (.disables rfl)) <| .next (.teardown (.drops rfl)) <|
    .next (.teardown (.joins rfl)) <| .next (.connect (.resets rfl)) <|
    .next (.connect (.loads rfl)) <| .next (.connect (.creates rfl)) <|
    .next (.connect (.registers rfl)) <| .next (.connect (.adds rfl)) <|
    .next (.event 1 (.gatheringStateChange .complete true) (by decide) (by decide)) <|
    .next (.event 1 (.whipReady none) (by decide) (by decide)) <|
    .next (.event 1 (.stateChange .connected) (by decide) (by decide)) <|
    .next (.connect (.answered rfl rfl rfl)) <| .next (.connect (.iceSignalled rfl rfl)) <|
    .next (.connect (.iceConnected rfl rfl)) <| .single (.connect (.enables rfl))
  exact ⟨_, _, run, rfl, rfl, ((connect_outcome run rfl rfl rfl rfl).1 rfl).1⟩

end Webrtc
end VideoCodec
