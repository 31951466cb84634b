import VideoCodec.Queue.RingFifo

/-! `PacketQueue` under any number of threads, and the statuses that it makes of the
answers of its rings. A step ends a call: a push that waits takes effect when it returns,
and `MarkEos` marks one ring after the other. -/
namespace VideoCodec

open Transition

structure PacketQueue where
  ring : (m : Media) → Ring m.Pkt
  /-- Callers of `MarkEos` between the two rings. -/
  marking : Nat := 0

namespace PacketQueue

def new (capacity : Capacity) (policy : Backpressure) : PacketQueue :=
  { ring := fun _ => .new capacity policy }

def withRing (q : PacketQueue) (m : Media) (r : Ring m.Pkt) : PacketQueue :=
  { q with ring := Function.update q.ring m r }

/-- What `Push` returns when the ring has answered; the reason of a refusal is told from
the policy. -/
def pushStatus (policy : Backpressure) (accepted : Bool) : Status :=
  if accepted then .kOk
  else if policy = .kError then .kBackendUnavailable
  else .kInvalidArgument

def pushed (q : PacketQueue) (m : Media) (answer : Bool × Ring m.Pkt) : Status × PacketQueue :=
  (pushStatus answer.2.policy answer.1, q.withRing m answer.2)

/-- `Push` of a packet of medium `m` from its entry, `none` when it has to wait. -/
def pushEnter (q : PacketQueue) (m : Media) (pkt : m.Pkt) : Option (Status × PacketQueue) :=
  ((q.ring m).pushEnter pkt).map (q.pushed m)

/-- `Push` from a wake-up. -/
def pushResume (q : PacketQueue) (m : Media) (pkt : m.Pkt) : Option (Status × PacketQueue) :=
  ((q.ring m).pushResume pkt).map (q.pushed m)

inductive Label where
  | push (m : Media) (pkt : m.Pkt) (status : Status)
  | pull (m : Media) (status : Status) (out : Option m.Pkt)
  | markEos (m : Media)

inductive Step : PacketQueue → Label → PacketQueue → Prop where
  | pushEnter {q q' : PacketQueue} {m : Media} {pkt : m.Pkt}
      (entered : q.pushEnter m pkt = some (status, q')) : Step q (.push m pkt status) q'
  | pushResume {q q' : PacketQueue} {m : Media} {pkt : m.Pkt}
      (blocked : (q.ring m).policy = .kBlock)
      (resumed : q.pushResume m pkt = some (status, q')) : Step q (.push m pkt status) q'
  | pull {q : PacketQueue} {m : Media} {r : Ring m.Pkt} {out : Option m.Pkt} (deadlineUs : Int)
      (popped : Ring.Step (q.ring m) (.pop deadlineUs status out) r) :
      Step q (.pull m status out) (q.withRing m r)
  | markVideo {q : PacketQueue} : Step q (.markEos .video)
      { q.withRing .video (q.ring .video).markEos with marking := q.marking + 1 }
  | markAudio {q : PacketQueue} (between : 0 < q.marking) : Step q (.markEos .audio)
      { q.withRing .audio (q.ring .audio).markEos with marking := q.marking - 1 }

/-- What holds after the steps `ls` of a queue made with `policy`. -/
structure Inv (policy : Backpressure) (ls : List Label) (q : PacketQueue) : Prop where
  valid : ∀ m, (q.ring m).Valid
  policy_eq : ∀ m, (q.ring m).policy = policy
  eos_iff : ∀ m, (q.ring m).eos = true ↔ .markEos m ∈ ls

/-- What the status of a push tells, where `marked` says whether `MarkEos` has been
applied to its ring. -/
structure PushContract (q : PacketQueue) (marked : Prop) (m : Media) (pkt : m.Pkt) : Prop where
  returns : (q.ring m).policy ≠ .kBlock → ∃ status q', Step q (.push m pkt status) q'
  invalid : ∀ status q', Step q (.push m pkt status) q' → (status = .kInvalidArgument ↔ marked)
  unavailable : ∀ status q', Step q (.push m pkt status) q' →
    (status = .kBackendUnavailable ↔ (q.ring m).policy = .kError ∧
      (q.ring m).count = (q.ring m).capacity.size ∧ ¬ marked)
  ok : ∀ status q', Step q (.push m pkt status) q' →
    (status = .kOk ↔ ¬ marked ∧ ¬ ((q.ring m).policy = .kError ∧
      (q.ring m).count = (q.ring m).capacity.size))
  rejected : ∀ status q', Step q (.push m pkt status) q' → status ≠ .kOk → q' = q

/-- How a push of a queue whose contract holds ends. -/
inductive PushTells (q : PacketQueue) (marked : Prop) (m : Media) : Status → PacketQueue → Prop
  where
  | late (marks : marked) : PushTells q marked m .kInvalidArgument q
  | full (unmarked : ¬ marked) (strict : (q.ring m).policy = .kError)
      (full : (q.ring m).count = (q.ring m).capacity.size) :
      PushTells q marked m .kBackendUnavailable q
  | taken (unmarked : ¬ marked) (unrefused : ¬ ((q.ring m).policy = .kError ∧
      (q.ring m).count = (q.ring m).capacity.size)) : PushTells q marked m .kOk q'

section Steps
variable {q q' : PacketQueue} {m : Media} {pkt : m.Pkt} {status : Status} {l : Label}
  {ls : List Label} {capacity : Capacity} {policy : Backpressure}

@[simp] theorem withRing_self (q : PacketQueue) (m : Media) (r : Ring m.Pkt) :
    (q.withRing m r).ring m = r := by simp [withRing]

theorem withRing_other (q : PacketQueue) {m n : Media} (different : n ≠ m) (r : Ring m.Pkt) :
    (q.withRing m r).ring n = q.ring n := by simp [withRing, different]

/-- Putting back the ring that is there changes nothing. -/
theorem withRing_same (q : PacketQueue) (m : Media) : q.withRing m (q.ring m) = q := by
  simp [withRing]

/-- A push that returns ends as that of its ring, and leaves the other ring alone. -/
theorem Step.push_ends (valid : (q.ring m).Valid) (step : Step q (.push m pkt status) q') :
    ∃ accepted r, Ring.PushEnds (q.ring m) pkt accepted r ∧
      status = pushStatus (q.ring m).policy accepted ∧ q' = q.withRing m r := by
  have ended : ∃ answer : Bool × Ring m.Pkt,
      (q.ring m).pushEnter pkt = some answer ∧ q.pushed m answer = (status, q') := by
    cases step with
    | pushEnter entered => exact Option.map_eq_some_iff.mp entered
    | pushResume blocked resumed =>
      obtain ⟨answer, woken, same⟩ := Option.map_eq_some_iff.mp resumed
      exact ⟨answer, Ring.pushResume_eq_pushEnter woken, same⟩
  obtain ⟨⟨accepted, r⟩, entered, same⟩ := ended
  have ends := Ring.pushEnter_ends valid entered
  cases same
  exact ⟨accepted, r, ends, by rw [ends.frame.2.1], rfl⟩

/-- Without blocking there is no wait. -/
theorem push_returns (policy : (q.ring m).policy ≠ .kBlock) (pkt : m.Pkt) :
    ∃ status q', Step q (.push m pkt status) q' := by
  cases entered : (q.ring m).pushEnter pkt with
  | none => exact absurd (Ring.pushEnter_waits entered).2.2 policy
  | some answer => exact ⟨_, _, .pushEnter (by rw [PacketQueue.pushEnter, entered]; rfl)⟩

theorem new_inv (capacity : Capacity) (policy : Backpressure) :
    Inv policy [] (new capacity policy) where
  valid _ := Ring.new_valid capacity policy
  policy_eq _ := rfl
  eos_iff _ := ⟨fun ended => (by cases ended), fun member => (by cases member)⟩

/-- A step that changes one ring as its own operations do keeps the invariant. -/
theorem Inv.change (inv : Inv policy ls q) {r : Ring m.Pkt} (valid : r.Valid)
    (policy_eq : r.policy = (q.ring m).policy)
    (eos : r.eos = true ↔ (q.ring m).eos = true ∨ l = .markEos m)
    (other : ∀ n, n ≠ m → l ≠ .markEos n) (marking : Nat) :
    Inv policy (ls ++ [l]) { q.withRing m r with marking } := by
  have split : ∀ n, .markEos n ∈ ls ++ [l] ↔ .markEos n ∈ ls ∨ l = .markEos n := by
    intro n
    rw [List.mem_append, List.mem_singleton, eq_comm]
  have changed : ∀ n, ((q.withRing m r).ring n).Valid ∧ ((q.withRing m r).ring n).policy = policy ∧
      (((q.withRing m r).ring n).eos = true ↔ .markEos n ∈ ls ++ [l]) := by
    intro n
    by_cases same : n = m
    · subst same
      rw [withRing_self, split, ← inv.eos_iff]
      exact ⟨valid, policy_eq.trans (inv.policy_eq n), eos⟩
    · rw [withRing_other q same, split, inv.eos_iff, or_iff_left (other n same)]
      exact ⟨inv.valid n, inv.policy_eq n, Iff.rfl⟩
  exact ⟨fun n => (changed n).1, fun n => (changed n).2.1, fun n => (changed n).2.2⟩

theorem Step.inv (inv : Inv policy ls q) (step : Step q l q') : Inv policy (ls ++ [l]) q' := by
  cases l with
  | push m pkt status =>
    obtain ⟨accepted, r, ends, -, rfl⟩ := step.push_ends (inv.valid m)
    obtain ⟨-, policy_eq, eos⟩ := ends.frame
    exact inv.change (ends.valid (inv.valid m)) policy_eq (by simp [eos]) (by simp) q.marking
  | pull m status out =>
    cases step with
    | pull deadlineUs popped =>
      have ends := popped.pop_ends
      obtain ⟨-, policy_eq, eos⟩ := ends.frame
      dsimp only at eos
      exact inv.change (ends.valid (inv.valid m)) policy_eq (by simp [eos]) (by simp) q.marking
  | markEos m =>
    cases step with
    | markVideo | markAudio =>
      exact inv.change (Ring.markEos_valid (inv.valid _)) rfl (by simp)
        (by simp +contextual [eq_comm]) _

theorem reachable_inv (run : Run Step (new capacity policy) ls q) : Inv policy ls q :=
  run.history Step.inv (new_inv capacity policy)

/-- Unless the ring has been marked under `kError`, every push that returns tells why. -/
theorem Inv.push_tells (inv : Inv policy ls q) (tells : policy = .kError → .markEos m ∉ ls)
    (step : Step q (.push m pkt status) q') : PushTells q (.markEos m ∈ ls) m status q' := by
  obtain ⟨accepted, r, ends, rfl, rfl⟩ := step.push_ends (inv.valid m)
  have unmarked (opened : (q.ring m).eos = false) : .markEos m ∉ ls := by
    intro marks
    exact Bool.false_ne_true (opened.symm.trans ((inv.eos_iff m).mpr marks))
  cases ends with
  | late ended =>
    have marks := (inv.eos_iff m).mp ended
    have lenient : (q.ring m).policy ≠ .kError := by
      rw [inv.policy_eq m]
      exact fun strict => tells strict marks
    have told : pushStatus (q.ring m).policy false = .kInvalidArgument := by
      rw [pushStatus, if_neg Bool.false_ne_true, if_neg lenient]
    rw [told, withRing_same]
    exact .late marks
  | refused opened full strict =>
    have told : pushStatus (q.ring m).policy false = .kBackendUnavailable := by
      rw [pushStatus, if_neg Bool.false_ne_true, if_pos strict]
    rw [told, withRing_same]
    exact .full (unmarked opened) strict full
  | evicted opened full lossy =>
    exact .taken (unmarked opened) fun refused => by simp [lossy] at refused
  | stored opened room => exact .taken (unmarked opened) fun refused => room.ne refused.2

theorem PushContract.of_tells (returns : ∀ pkt, (q.ring m).policy ≠ .kBlock →
      ∃ status q', Step q (.push m pkt status) q') {marked : Prop}
    (tells : ∀ status q', Step q (.push m pkt status) q' → PushTells q marked m status q') :
    q.PushContract marked m pkt where
  returns := returns pkt
  invalid status q' step := by
    cases tells status q' step with
    | late marks => exact iff_of_true rfl marks
    | full unmarked | taken unmarked => exact iff_of_false (by decide) unmarked
  unavailable status q' step := by
    cases tells status q' step with
    | late marks => exact iff_of_false (by decide) fun refused => refused.2.2 marks
    | full unmarked strict full => exact iff_of_true rfl ⟨strict, full, unmarked⟩
    | taken unmarked unrefused =>
      exact iff_of_false (by decide) fun refused => unrefused ⟨refused.1, refused.2.1⟩
  ok status q' step := by
    cases tells status q' step with
    | late marks => exact iff_of_false (by decide) fun accepted => accepted.1 marks
    | full unmarked strict full =>
      exact iff_of_false (by decide) fun accepted => accepted.2 ⟨strict, full⟩
    | taken unmarked unrefused => exact iff_of_true rfl ⟨unmarked, unrefused⟩
  rejected status q' step refused := by
    cases tells status q' step with
    | late | full => rfl
    | taken => exact absurd rfl refused

/-- Behind `MarkEos` a `kError` queue says `kBackendUnavailable`. -/
theorem Inv.push_late (inv : Inv .kError ls q) (marks : .markEos m ∈ ls)
    (step : Step q (.push m pkt status) q') : status = .kBackendUnavailable := by
  have ended := (inv.eos_iff m).mpr marks
  obtain ⟨accepted, r, ends, rfl, -⟩ := step.push_ends (inv.valid m)
  rw [inv.policy_eq m]
  cases ends with
  | late | refused => rfl
  | evicted opened | stored opened => exact absurd (opened.symm.trans ended) Bool.false_ne_true

/-- In every state that the steps `ls` reach the status of a push tells a rejection that
can be retried from the end of the stream, except under `kError` when the ring has been
marked. -/
theorem push_tells_iff (run : Run Step (new capacity policy) ls q) (m : Media) (pkt : m.Pkt) :
    q.PushContract (.markEos m ∈ ls) m pkt ↔ (policy = .kError → .markEos m ∉ ls) := by
  have inv := reachable_inv run
  constructor
  · rintro contract rfl marks
    obtain ⟨status, q', step⟩ := contract.returns (by rw [inv.policy_eq m]; decide)
    have told := (contract.invalid status q' step).mpr marks
    rw [inv.push_late marks step] at told
    cases told
  · intro tells
    exact .of_tells (fun pkt unblocked => push_returns unblocked pkt)
      fun status q' step => inv.push_tells tells step

/-- Before the end of the stream a `kError` queue keeps the contract. -/
theorem push_tells_full :
    ∃ q, Run Step (new ⟨1, by decide⟩ .kError)
        [.push .video (default : VideoPacket) .kOk] q ∧
      q.PushContract (.markEos .video ∈ [Label.push .video (default : VideoPacket) .kOk])
        .video (default : VideoPacket) :=
  have run : Run Step (new ⟨1, by decide⟩ .kError)
      [.push .video (default : VideoPacket) .kOk] _ := .single (.pushEnter rfl)
  ⟨_, run, (push_tells_iff run .video _).mpr fun _ => by simp⟩

/-- A `kError` queue with room that has been marked returns `kBackendUnavailable`. -/
theorem push_after_eos_unavailable :
    ∃ q q', Run Step (new ⟨1, by decide⟩ .kError) [.markEos .video, .markEos .audio] q ∧
      Step q (.push .video (default : VideoPacket) .kBackendUnavailable) q' ∧
      ¬ q.PushContract (.markEos .video ∈ [Label.markEos .video, .markEos .audio])
        .video (default : VideoPacket) := by
  refine ⟨_, _, .next .markVideo (.single (.markAudio (by decide))), .pushEnter rfl, ?_⟩
  intro contract
  have told := (contract.invalid .kBackendUnavailable _ (.pushEnter rfl)).mpr (.head _)
  cases told

end Steps
end PacketQueue
end VideoCodec
