import VideoCodec.Transition.Run
import VideoCodec.Webrtc.Handlers

/-! The report of `kStreaming` within one session: any number of `OnTrackOpen`,
`OnTrackClosed` and `SendVideo` calls take their operations one at a time.
`opened`, `sent` and `reports` record history that no thread reads. -/
namespace VideoCodec

open Transition Atomic WebrtcBackend

namespace Marking

inductive Call where
  | trackOpen (gen : Nat)
  | trackClosed (gen : Nat)
  | sendVideo
  deriving DecidableEq, Repr

def Call.thread : Call → Thread Unit
  | .trackOpen gen => Thread.onTrackOpen gen
  | .trackClosed gen => Thread.onTrackClosed gen
  | .sendVideo => do
    let _ ← Thread.sendVideo

structure Sys where
  backend : WebrtcBackend
  calls : List (Thread Unit) := []
  /-- Whether `OnTrackOpen` has set its flag. -/
  opened : Bool := false
  /-- Whether a frame was sent. -/
  sent : Bool := false
  /-- How often `kStreaming` was reported. -/
  reports : Nat := 0

/-- A session whose `ResetConnectState` is over. -/
def Sys.reset (b : WebrtcBackend) : Sys := { backend := b.resetConnectState }

def opens (op : Op) : Bool := op = .store .trackOpen true

def sends : (op : Op) → op.Ans → Bool
  | .sendTrack, outcome => outcome = .sent
  | _, _ => false

def reporting (op : Op) : Bool := op = .notify .kStreaming

def Sys.perform (s : Sys) (op : Op) (answer : op.Ans) : Sys :=
  { s with
    backend := op.effect s.backend
    opened := s.opened || opens op
    sent := s.sent || sends op answer
    reports := s.reports + (reporting op).toNat }

/-- What the rest of the backend leaves alone while the session lasts. -/
structure SameMarks (b c : WebrtcBackend) : Prop where
  sessionGen : c.sessionGen = b.sessionGen
  trackOpen : c.trackOpen = b.trackOpen
  firstFrameSent : c.firstFrameSent = b.firstFrameSent
  streamingReported : c.streamingReported = b.streamingReported

inductive Label where
  | enter (call : Call)
  | operate (index : Nat) (op : Op) (answer : op.Ans)
  | leave (index : Nat)
  /-- Whatever else the session does, such as the stores of `Connect`. -/
  | other

inductive Step : Sys → Label → Sys → Prop where
  | enter {s : Sys} (call : Call) :
      Step s (.enter call) { s with calls := s.calls ++ [call.thread] }
  | operate {s : Sys} (before after : List (Thread Unit)) {op : Op}
      {next : op.Ans → Thread Unit} (here : s.calls = before ++ .ask op next :: after)
      (answer : op.Ans) (possible : op.answers s.backend answer) :
      Step s (.operate before.length op answer)
        { s.perform op answer with calls := before ++ next answer :: after }
  | leave {s : Sys} (before after : List (Thread Unit))
      (here : s.calls = before ++ .done () :: after) :
      Step s (.leave before.length) { s with calls := before ++ after }
  | other {s : Sys} (same : SameMarks s.backend c) : Step s .other { s with backend := c }

/-- The thread is about to report, the exchange being its own. -/
def notifying : Thread α → Bool
  | .ask op _ => reporting op
  | .done _ => false

/-- The thread takes the exchange if the flags that it tests before stay set. -/
def marks : Thread α → Bool
  | .ask (.load .trackOpen) next | .ask (.load .firstFrameSent) next => marks (next true)
  | .ask (.exchange .streamingReported) _ => true
  | _ => false

/-- The operations that a thread takes without regard to what it knows. -/
def neutral : Op → Bool
  | .isCurrent _ | .loadSendEnabled | .captureTrack | .load .connectedState | .storeError _ => true
  | _ => false

/-- What a thread does that knows whether the track was opened and a frame sent. -/
inductive Sound : Bool → Bool → Thread Unit → Prop where
  | done (result) : Sound o f (.done result)
  | ask (free : neutral op = true) (quiet : ∀ answer, notifying (next answer) = false)
      (rest : ∀ answer, Sound o f (next answer)) : Sound o f (.ask op next)
  | track (quiet : ∀ value, notifying (next value) = false)
      (rest : ∀ value, Sound (o || value) f (next value)) : Sound o f (.ask (.load .trackOpen) next)
  | first (quiet : ∀ value, notifying (next value) = false)
      (rest : ∀ value, Sound o (f || value) (next value)) :
      Sound o f (.ask (.load .firstFrameSent) next)
  | send (quiet : ∀ outcome, notifying (next outcome) = false)
      (rest : ∀ outcome, Sound o (f || sends .sendTrack outcome) (next outcome)) :
      Sound o f (.ask .sendTrack next)
  | storeOpen (quiet : notifying (next ()) = false) (due : marks (next ()) = true)
      (rest : Sound true f (next ())) : Sound o f (.ask (.store .trackOpen true) next)
  | storeClosed (quiet : notifying (next ()) = false) (rest : Sound o f (next ())) :
      Sound o f (.ask (.store .trackOpen false) next)
  | storeFirst (quiet : notifying (next ()) = false) (due : marks (next ()) = true)
      (rest : Sound o true (next ())) : Sound o true (.ask (.store .firstFrameSent true) next)
  | exchange (won : notifying (next false) = true) (lost : notifying (next true) = false)
      (rest : ∀ value, Sound o f (next value)) :
      Sound o f (.ask (.exchange .streamingReported) next)
  | report (quiet : notifying (next ()) = false) (rest : Sound true true (next ())) :
      Sound true true (.ask (.notify .kStreaming) next)

section Threads
variable {o f : Bool} {tail : Thread Unit → Thread Unit}

/-- What stands behind an operation of a call only ends it. -/
structure Ends (tail : Thread Unit → Thread Unit) : Prop where
  ask (op : Op) (next : op.Ans → Thread Unit) :
    tail (.ask op next) = .ask op fun answer => tail (next answer)
  done : tail (.done ()) = .done ()

theorem done_sound (ends : Ends tail) : Sound o f (tail (.done ())) := by
  rw [ends.done]
  exact .done ()

theorem done_quiet (ends : Ends tail) : notifying (tail (.done ())) = false := by
  rw [ends.done]
  rfl

theorem notify_sound (ends : Ends tail) :
    Sound true true (tail (Thread.notify .kStreaming)) ∧
      notifying (tail (Thread.notify .kStreaming)) = true := by
  rw [Thread.notify, ask, ends.ask]
  exact ⟨.report (done_quiet ends) (done_sound ends), rfl⟩

/-- `TryMarkStreaming` behind its two tests. -/
def exchangeAndNotify : Thread Unit := do
  if ← Thread.exchange .streamingReported then return
  Thread.notify .kStreaming

theorem exchangeAndNotify_sound (ends : Ends tail) :
    Sound true true (tail exchangeAndNotify) ∧ marks (tail exchangeAndNotify) = true ∧
      notifying (tail exchangeAndNotify) = false := by
  change Sound true true (tail (.ask _ _)) ∧ marks (tail (.ask _ _)) = true ∧
    notifying (tail (.ask _ _)) = false
  rw [ends.ask]
  refine ⟨.exchange (notify_sound ends).2 (done_quiet ends) fun taken => ?_, rfl, rfl⟩
  cases taken with
  | false => exact (notify_sound ends).1
  | true => exact done_sound ends

/-- `TryMarkStreaming` behind its first test. -/
def testFirst : Thread Unit := do
  if !(← Thread.load .firstFrameSent) then return
  exchangeAndNotify

theorem testFirst_sound (ends : Ends tail) :
    Sound true f (tail testFirst) ∧ marks (tail testFirst) = true ∧
      notifying (tail testFirst) = false := by
  obtain ⟨sound, due, quiet⟩ := exchangeAndNotify_sound ends
  change Sound true f (tail (.ask _ _)) ∧ marks (tail (.ask _ _)) = true ∧
    notifying (tail (.ask _ _)) = false
  rw [ends.ask]
  refine ⟨.first (fun value => ?_) (fun value => ?_), due, rfl⟩
  · cases value with
    | false => exact done_quiet ends
    | true => exact quiet
  · cases value with
    | false => exact done_sound ends
    | true => exact (Bool.or_true f).symm ▸ sound

theorem tryMarkStreaming_sound (tail : Thread Unit → Thread Unit) (ends : Ends tail) :
    Sound o f (tail Thread.tryMarkStreaming) ∧ marks (tail Thread.tryMarkStreaming) = true ∧
      notifying (tail Thread.tryMarkStreaming) = false := by
  obtain ⟨sound, due, quiet⟩ := testFirst_sound (f := f) ends
  change Sound o f (tail (.ask _ _)) ∧ marks (tail (.ask _ _)) = true ∧
    notifying (tail (.ask _ _)) = false
  rw [ends.ask]
  refine ⟨.track (fun value => ?_) (fun value => ?_), due, rfl⟩
  · cases value with
    | false => exact done_quiet ends
    | true => exact quiet
  · cases value with
    | false => exact done_sound ends
    | true => exact (Bool.or_true o).symm ▸ sound

theorem onTrackOpen_sound (gen : Nat) :
    Sound false false (Call.trackOpen gen).thread ∧
      notifying (Call.trackOpen gen).thread = false := by
  obtain ⟨sound, due, quiet⟩ :=
    tryMarkStreaming_sound (o := true) (f := false) id ⟨fun _ _ => rfl, rfl⟩
  refine ⟨.ask rfl (fun current => ?_) (fun current => ?_), rfl⟩
  · cases current with
    | false => rfl
    | true => rfl
  · cases current with
    | false => exact .done ()
    | true => exact .storeOpen quiet due sound

theorem onTrackClosed_sound (gen : Nat) :
    Sound false false (Call.trackClosed gen).thread ∧
      notifying (Call.trackClosed gen).thread = false := by
  refine ⟨.ask rfl (fun current => ?_) (fun current => ?_), rfl⟩
  · cases current with
    | false => rfl
    | true => rfl
  · cases current with
    | false => exact .done ()
    | true => exact .storeClosed rfl (.done ())

theorem sendTrack_sound :
    Sound o false (Thread.sendTrack >>= fun _ => .done ()) := by
  obtain ⟨sound, due, quiet⟩ :=
    tryMarkStreaming_sound (o := o) (f := true)
      (fun mark => (mark >>= fun _ => .done Status.kOk) >>= fun _ => .done ())
      ⟨fun _ _ => rfl, rfl⟩
  refine .send (fun outcome => ?_) (fun outcome => ?_)
  · cases outcome <;> rfl
  · cases outcome with
    | sent => exact .storeFirst quiet due sound
    | refused => exact .done ()
    | thrown what => exact .ask rfl (fun _ => rfl) fun _ => .done ()

theorem sendVideo_sound :
    Sound false false Call.sendVideo.thread ∧ notifying Call.sendVideo.thread = false := by
  refine ⟨.ask rfl (fun enabled => ?_) (fun enabled => ?_), rfl⟩
  · cases enabled <;> rfl
  cases enabled with
  | false => exact .done ()
  | true =>
    refine .ask rfl (fun track => ?_) (fun track => ?_)
    · cases track <;> rfl
    cases track with
    | none => exact .done ()
    | some gen =>
      refine .ask rfl (fun connected => ?_) (fun connected => ?_)
      · cases connected <;> rfl
      cases connected with
      | true => exact sendTrack_sound
      | false =>
        refine .track (fun opened => ?_) (fun opened => ?_)
        · cases opened <;> rfl
        cases opened with
        | false => exact .done ()
        | true => exact sendTrack_sound

/-- Every call begins without knowing anything. -/
theorem call_sound (call : Call) :
    Sound false false call.thread ∧ notifying call.thread = false := by
  cases call with
  | trackOpen gen => exact onTrackOpen_sound gen
  | trackClosed gen => exact onTrackClosed_sound gen
  | sendVideo => exact sendVideo_sound

end Threads

/-- What holds of a session at any moment. -/
structure Inv (s : Sys) : Prop where
  sound : ∀ t ∈ s.calls, ∃ o f, Sound o f t ∧ (o = true → s.opened = true) ∧
    (f = true → s.sent = true)
  /-- The report is out, or about to go out, just when the exchange is taken. -/
  reported : s.reports + s.calls.countP notifying = s.backend.streamingReported.toNat
  /-- With both flags set somebody takes the exchange. -/
  due : s.backend.trackOpen = true → s.backend.firstFrameSent = true →
    s.backend.streamingReported = false → ∃ t ∈ s.calls, marks t = true
  opened : s.backend.trackOpen = true → s.opened = true
  sent : s.backend.firstFrameSent = true → s.sent = true
  told : 0 < s.reports → s.opened = true ∧ s.sent = true

section Steps
variable {s t : Sys} {l : Label}

theorem reset_inv (b : WebrtcBackend) : Inv (.reset b) where
  sound _ member := nomatch member
  reported := rfl
  due opened := nomatch opened
  opened opened := nomatch opened
  sent sent := nomatch sent
  told before := absurd before (Nat.lt_irrefl 0)

theorem enter_inv (inv : Inv s) (call : Call) :
    Inv { s with calls := s.calls ++ [call.thread] } := by
  obtain ⟨sound, reported, due, opened, sent, told⟩ := inv
  obtain ⟨new, quiet⟩ := call_sound call
  refine ⟨?_, ?_, ?_, opened, sent, told⟩
  · refine List.forall_mem_append.mpr ⟨sound, List.forall_mem_singleton.mpr ?_⟩
    exact ⟨false, false, new, nofun, nofun⟩
  · change s.reports + (s.calls ++ [call.thread]).countP notifying = _
    rw [List.countP_append, List.countP_singleton, quiet]
    exact reported
  · intro track first free
    obtain ⟨t, member, marking⟩ := due track first free
    exact ⟨t, List.mem_append_left _ member, marking⟩

theorem leave_inv (inv : Inv s) {before after : List (Thread Unit)}
    (here : s.calls = before ++ .done () :: after) : Inv { s with calls := before ++ after } := by
  obtain ⟨sound, reported, due, opened, sent, told⟩ := inv
  rw [here] at sound reported due
  refine ⟨?_, ?_, ?_, opened, sent, told⟩
  · intro t member
    exact sound t (by simp only [List.mem_append, List.mem_cons] at member ⊢; tauto)
  · rw [← reported, List.countP_append, List.countP_append]
    rfl
  · intro track first free
    obtain ⟨t, member, marking⟩ := due track first free
    refine ⟨t, ?_, marking⟩
    rcases List.mem_append.mp member with left | right
    · exact List.mem_append_left _ left
    · rcases List.mem_cons.mp right with rfl | right
      · cases marking
      · exact List.mem_append_right _ right

/-- Both flags are set and the exchange is not taken. -/
def Unmarked (b : WebrtcBackend) : Prop :=
  b.trackOpen = true ∧ b.firstFrameSent = true ∧ b.streamingReported = false

/-- One thread moves, the others stay; what it must show for itself. -/
structure Moves (s : Sys) (old new : Thread Unit) (u : Sys) : Prop where
  sound : ∃ o f, Sound o f new ∧ (o = true → u.opened = true) ∧ (f = true → u.sent = true)
  opened_mono : s.opened = true → u.opened = true
  sent_mono : s.sent = true → u.sent = true
  reported : u.reports + (notifying new).toNat + s.backend.streamingReported.toNat =
    s.reports + (notifying old).toNat + u.backend.streamingReported.toNat
  due : Unmarked u.backend → marks new = true ∨ Unmarked s.backend ∧ marks old = false
  opened : u.backend.trackOpen = true → u.opened = true
  sent : u.backend.firstFrameSent = true → u.sent = true
  told : 0 < u.reports → u.opened = true ∧ u.sent = true

theorem countP_cons_toNat (t : Thread Unit) (ts : List (Thread Unit)) :
    (t :: ts).countP notifying = ts.countP notifying + (notifying t).toNat := by
  rw [List.countP_cons]
  cases notifying t <;> rfl

theorem Moves.inv (inv : Inv s) {u : Sys} {old new : Thread Unit}
    {before after : List (Thread Unit)} (here : s.calls = before ++ old :: after)
    (calls : u.calls = before ++ new :: after) (moves : Moves s old new u) : Inv u := by
  refine ⟨?_, ?_, ?_, moves.opened, moves.sent, moves.told⟩
  · rw [calls, List.forall_mem_append, List.forall_mem_cons]
    have others : ∀ t ∈ s.calls, ∃ o f, Sound o f t ∧ (o = true → u.opened = true) ∧
        (f = true → u.sent = true) := by
      intro t member
      obtain ⟨o, f, sound, opened, sent⟩ := inv.sound t member
      exact ⟨o, f, sound, moves.opened_mono ∘ opened, moves.sent_mono ∘ sent⟩
    rw [here, List.forall_mem_append, List.forall_mem_cons] at others
    exact ⟨others.1, moves.sound, others.2.2⟩
  · have before_move := inv.reported
    have move := moves.reported
    rw [here, List.countP_append, countP_cons_toNat] at before_move
    rw [calls, List.countP_append, countP_cons_toNat]
    omega
  · intro track first free
    rw [calls]
    rcases moves.due ⟨track, first, free⟩ with marking | ⟨⟨track, first, free⟩, idle⟩
    · exact ⟨new, List.mem_append_right _ (List.mem_cons_self ..), marking⟩
    · obtain ⟨t, member, marking⟩ := inv.due track first free
      rw [here] at member
      refine ⟨t, ?_, marking⟩
      rcases List.mem_append.mp member with left | right
      · exact List.mem_append_left _ left
      · rcases List.mem_cons.mp right with rfl | right
        · exact absurd (marking.symm.trans idle) (by decide)
        · exact List.mem_append_right _ (List.mem_cons_of_mem _ right)

/-- A neutral operation changes nothing that is looked at here. -/
theorem neutral_cases {op : Op} (free : neutral op = true) (b : WebrtcBackend) (answer : op.Ans)
    (next : op.Ans → Thread Unit) :
    SameMarks b (op.effect b) ∧ opens op = false ∧ sends op answer = false ∧
      reporting op = false ∧ marks (.ask op next) = false := by
  cases op with
  | isCurrent | loadSendEnabled | captureTrack | storeError =>
    exact ⟨⟨rfl, rfl, rfl, rfl⟩, rfl, rfl, rfl, rfl⟩
  | load flag =>
    cases flag with
    | connectedState => exact ⟨⟨rfl, rfl, rfl, rfl⟩, rfl, rfl, rfl, rfl⟩
    | _ => cases free
  | _ => cases free

theorem perform_silent {op : Op} {answer : op.Ans} (opens : opens op = false)
    (sends : sends op answer = false) (reporting : reporting op = false) :
    s.perform op answer = { s with backend := op.effect s.backend } := by
  rw [Sys.perform, opens, sends, reporting, Bool.or_false, Bool.or_false]
  rfl

section Moving
variable {o f : Bool} {op : Op} {next : op.Ans → Thread Unit} {answer : op.Ans}

theorem neutral_moves (inv : Inv s) (free : neutral op = true)
    (quiet : notifying (next answer) = false) (rest : Sound o f (next answer))
    (knows_open : o = true → s.opened = true) (knows_sent : f = true → s.sent = true) :
    Moves s (.ask op next) (next answer) (s.perform op answer) := by
  obtain ⟨same, opens, sends, reporting, idle⟩ := neutral_cases free s.backend answer next
  have still : Unmarked (op.effect s.backend) = Unmarked s.backend := by
    rw [Unmarked, same.trackOpen, same.firstFrameSent, same.streamingReported]
    rfl
  rw [perform_silent opens sends reporting]
  refine ⟨⟨o, f, rest, knows_open, knows_sent⟩, id, id, ?_, ?_, ?_, ?_, inv.told⟩
  · rw [quiet, notifying, reporting, same.streamingReported]
  · intro unmarked
    exact .inr ⟨still ▸ unmarked, idle⟩
  · rw [same.trackOpen]
    exact inv.opened
  · rw [same.firstFrameSent]
    exact inv.sent

theorem send_moves (inv : Inv s) {next : SendOutcome → Thread Unit} {outcome : SendOutcome}
    (quiet : notifying (next outcome) = false)
    (rest : Sound o (f || sends .sendTrack outcome) (next outcome))
    (knows_open : o = true → s.opened = true) (knows_sent : f = true → s.sent = true) :
    Moves s (.ask .sendTrack next) (next outcome) (s.perform .sendTrack outcome) := by
  refine ⟨⟨o, _, rest, ?_, fun known => ?_⟩, ?_, ?_, ?_, ?_, ?_, ?_, ?_⟩
  · exact fun known => Bool.or_eq_true_iff.mpr (.inl (knows_open known))
  · rcases Bool.or_eq_true_iff.mp known with before | now
    · exact Bool.or_eq_true_iff.mpr (.inl (knows_sent before))
    · exact Bool.or_eq_true_iff.mpr (.inr now)
  · exact fun before => Bool.or_eq_true_iff.mpr (.inl before)
  · exact fun before => Bool.or_eq_true_iff.mpr (.inl before)
  · exact congrArg (s.reports + ·.toNat + _) quiet
  · exact fun unmarked => .inr ⟨unmarked, rfl⟩
  · exact fun set => Bool.or_eq_true_iff.mpr (.inl (inv.opened set))
  · exact fun set => Bool.or_eq_true_iff.mpr (.inl (inv.sent set))
  · intro before
    obtain ⟨opened, sent⟩ := inv.told before
    exact ⟨Bool.or_eq_true_iff.mpr (.inl opened), Bool.or_eq_true_iff.mpr (.inl sent)⟩

theorem storeOpen_moves (inv : Inv s) {next : Unit → Thread Unit}
    (quiet : notifying (next ()) = false) (due : marks (next ()) = true)
    (rest : Sound true f (next ())) (knows_sent : f = true → s.sent = true) :
    Moves s (.ask (.store .trackOpen true) next) (next ())
      (s.perform (.store .trackOpen true) ()) := by
  have history : s.perform (.store .trackOpen true) () =
      { s with backend := { s.backend with trackOpen := true }, opened := true } := by
    change Sys.mk _ _ (s.opened || true) (s.sent || false) _ = _
    rw [Bool.or_true, Bool.or_false]
    rfl
  rw [history]
  refine ⟨⟨true, f, rest, fun _ => rfl, knows_sent⟩, fun _ => rfl, id, ?_, fun _ => .inl due,
    fun _ => rfl, inv.sent, fun before => ⟨rfl, (inv.told before).2⟩⟩
  exact congrArg (s.reports + ·.toNat + _) quiet

theorem report_moves (inv : Inv s) {next : Unit → Thread Unit}
    (quiet : notifying (next ()) = false) (rest : Sound true true (next ()))
    (opened : s.opened = true) (sent : s.sent = true) :
    Moves s (.ask (.notify .kStreaming) next) (next ()) (s.perform (.notify .kStreaming) ()) := by
  have history : s.perform (.notify .kStreaming) () =
      { s with
        backend := s.backend.notifyStreamState .kStreaming, reports := s.reports + 1 } := by
    change Sys.mk _ _ (s.opened || false) (s.sent || false) _ = _
    rw [Bool.or_false, Bool.or_false]
    rfl
  rw [history]
  refine ⟨⟨true, true, rest, fun _ => opened, fun _ => sent⟩, id, id, ?_, ?_, inv.opened,
    inv.sent, fun _ => ⟨opened, sent⟩⟩
  · exact congrArg (s.reports + 1 + ·.toNat + _) quiet
  · exact fun unmarked => .inr ⟨unmarked, rfl⟩

end Moving

/-- A test that finds its flag set leads on to the exchange. -/
theorem marks_of_set {value : Bool} {next : Bool → Thread Unit} {p : Prop}
    (set : p → value = true) (held : p) :
    marks (next value) = true ∨ p ∧ marks (next true) = false := by
  rw [set held]
  cases marks (next true) with
  | true => exact .inl rfl
  | false => exact .inr ⟨held, rfl⟩

theorem operate_moves (inv : Inv s) {op : Op} {next : op.Ans → Thread Unit}
    (member : .ask op next ∈ s.calls) {answer : op.Ans} (possible : op.answers s.backend answer) :
    Moves s (.ask op next) (next answer) (s.perform op answer) := by
  obtain ⟨o, f, sound, knows_open, knows_sent⟩ := inv.sound _ member
  cases sound with
  | ask free quiet rest =>
    exact neutral_moves inv free (quiet answer) (rest answer) knows_open knows_sent
  | track quiet rest =>
    have value : answer = s.backend.trackOpen := possible
    rw [perform_silent rfl rfl rfl]
    refine ⟨⟨_, f, rest answer, fun known => ?_, knows_sent⟩, id, id, ?_, ?_, inv.opened,
      inv.sent, inv.told⟩
    · rcases Bool.or_eq_true_iff.mp known with before | seen
      · exact knows_open before
      · exact inv.opened (value ▸ seen)
    · exact congrArg (s.reports + ·.toNat + _) (quiet answer)
    · exact marks_of_set fun unmarked => value.trans unmarked.1
  | first quiet rest =>
    have value : answer = s.backend.firstFrameSent := possible
    rw [perform_silent rfl rfl rfl]
    refine ⟨⟨o, _, rest answer, knows_open, fun known => ?_⟩, id, id, ?_, ?_, inv.opened,
      inv.sent, inv.told⟩
    · rcases Bool.or_eq_true_iff.mp known with before | seen
      · exact knows_sent before
      · exact inv.sent (value ▸ seen)
    · exact congrArg (s.reports + ·.toNat + _) (quiet answer)
    · exact marks_of_set fun unmarked => value.trans unmarked.2.1
  | send quiet rest => exact send_moves inv (quiet answer) (rest answer) knows_open knows_sent
  | storeOpen quiet due rest => exact storeOpen_moves inv quiet due rest knows_sent
  | storeClosed quiet rest =>
    rw [perform_silent rfl rfl rfl]
    refine ⟨⟨o, f, rest, knows_open, knows_sent⟩, id, id, ?_, nofun, nofun, inv.sent, inv.told⟩
    exact congrArg (s.reports + ·.toNat + _) quiet
  | storeFirst quiet due rest =>
    rw [perform_silent rfl rfl rfl]
    refine ⟨⟨o, true, rest, knows_open, knows_sent⟩, id, id, ?_, fun _ => .inl due, inv.opened,
      fun _ => knows_sent rfl, inv.told⟩
    exact congrArg (s.reports + ·.toNat + _) quiet
  | exchange won lost rest =>
    have value : answer = s.backend.streamingReported := possible
    rw [perform_silent rfl rfl rfl]
    refine ⟨⟨o, f, rest answer, knows_open, knows_sent⟩, id, id, ?_, ?_, inv.opened, inv.sent,
      inv.told⟩
    · change s.reports + (notifying _).toNat + s.backend.streamingReported.toNat =
        s.reports + 0 + 1
      rw [← value]
      cases answer with
      | false => rw [won]; rfl
      | true => rw [lost]; rfl
    · exact fun unmarked => nomatch unmarked.2.2
  | report quiet rest => exact report_moves inv quiet rest (knows_open rfl) (knows_sent rfl)

theorem operate_inv (inv : Inv s) {before after : List (Thread Unit)} {op : Op}
    {next : op.Ans → Thread Unit} (here : s.calls = before ++ .ask op next :: after)
    {answer : op.Ans} (possible : op.answers s.backend answer) :
    Inv { s.perform op answer with calls := before ++ next answer :: after } := by
  have member : .ask op next ∈ s.calls := by
    rw [here]
    exact List.mem_append_right _ (List.mem_cons_self ..)
  obtain ⟨sound, opened_mono, sent_mono, reported, due, opened, sent, told⟩ :=
    operate_moves inv member possible
  exact Moves.inv inv here rfl
    ⟨sound, opened_mono, sent_mono, reported, due, opened, sent, told⟩

theorem step_inv (inv : Inv s) (step : Step s l t) : Inv t := by
  cases step with
  | enter call => exact enter_inv inv call
  | operate before after here answer possible => exact operate_inv inv here possible
  | leave before after here => exact leave_inv inv here
  | other same =>
    obtain ⟨sound, reported, due, opened, sent, told⟩ := inv
    rw [← same.streamingReported] at reported due
    rw [← same.trackOpen] at due opened
    rw [← same.firstFrameSent] at due sent
    exact ⟨sound, reported, due, opened, sent, told⟩

/-- In every interleaving `kStreaming` is reported at most once and only with the
track opened and a frame sent before, and when no call is under way it has been
reported if both flags are set. -/
theorem streaming_reported (b : WebrtcBackend) (run : Run Step (.reset b) ls s) :
    s.reports ≤ 1 ∧ (0 < s.reports → s.opened = true ∧ s.sent = true) ∧
      (s.calls = [] → s.backend.trackOpen = true → s.backend.firstFrameSent = true →
        s.reports = 1) := by
  obtain ⟨_, reported, due, _, _, told⟩ := run.invariant (P := Inv) step_inv (reset_inv b)
  refine ⟨?_, told, fun idle track first => ?_⟩
  · have bound := Bool.toNat_le s.backend.streamingReported
    omega
  · rw [idle] at reported due
    cases taken : s.backend.streamingReported with
    | false =>
      obtain ⟨t, member, _⟩ := due track first taken
      cases member
    | true =>
      rw [taken] at reported
      exact reported

/-- The track opens, `Connect` enables sending, a frame is sent. -/
theorem streaming_reported_once :
    ∃ ls s, Run Step (.reset { config := { backendType := "webrtc", remoteUrl := "http" } }) ls s ∧
      s.calls = [] ∧ s.reports = 1 := by
  let b : WebrtcBackend := { config := { backendType := "webrtc", remoteUrl := "http" } }
  let connected : WebrtcBackend :=
    { b with trackOpen := true, sendEnabled := true, videoTrack := some 0 }
  -- with one call under way the operation is that of the only thread
  have alone {s : Sys} (op : Op) {next : op.Ans → Thread Unit} (here : s.calls = [.ask op next])
      (answer : op.Ans) (possible : op.answers s.backend answer) :
      Step s (.operate 0 op answer) { s.perform op answer with calls := [next answer] } :=
    .operate [] [] here answer possible
  have opening : Run Step (.reset b) _ { backend := connected, opened := true } :=
    .next (.enter (.trackOpen 0)) <| .next (alone (.isCurrent 0) rfl true rfl) <|
    .next (alone (.store .trackOpen true) rfl () trivial) <|
    .next (alone (.load .trackOpen) rfl true rfl) <|
    .next (alone (.load .firstFrameSent) rfl false rfl) <| .next (.leave [] [] rfl) <|
    .single (.other ⟨rfl, rfl, rfl, rfl⟩)
  have sending : Run Step { backend := connected, opened := true } _ _ :=
    .next (.enter .sendVideo) <| .next (alone .loadSendEnabled rfl true rfl) <|
    .next (alone .captureTrack rfl (some 0) rfl) <|
    .next (alone (.load .connectedState) rfl false rfl) <|
    .next (alone (.load .trackOpen) rfl true rfl) <|
    .next (alone .sendTrack rfl SendOutcome.sent trivial) <|
    .next (alone (.store .firstFrameSent true) rfl () trivial) <|
    .next (alone (.load .trackOpen) rfl true rfl) <|
    .next (alone (.load .firstFrameSent) rfl true rfl) <|
    .next (alone (.exchange .streamingReported) rfl false rfl) <|
    .next (alone (.notify .kStreaming) rfl () trivial) <| .single (.leave [] [] rfl)
  have run := opening.trans sending
  exact ⟨_, _, run, rfl, (streaming_reported b run).2.2 rfl rfl rfl⟩

end Steps

end Marking
end VideoCodec
