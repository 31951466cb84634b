import VideoCodec.Queue.RingFifo
import VideoCodec.Transition.WaitSet

/-! A ring with its two condition variables. The producer is the only thread
that waits on `not_full_` and the consumer the only one on `not_empty_`, so a
wait set is the state of one thread. `MarkEos` may come from any thread. -/
namespace VideoCodec

open Transition
open VideoCodec.Ring (Popped)

structure Monitor (Pkt : Type) where
  ring : Ring Pkt
  producer : Waiter Pkt
  consumer : Waiter Int

namespace Monitor
variable {Pkt : Type}

/-- Critical sections of the producer: a call, or its continuation after a
notification. -/
inductive PushSection (Pkt : Type) where
  | enter (pkt : Pkt)
  | resume
  deriving DecidableEq, Repr

/-- Critical sections of the consumer; the deadline may expire while it is
parked or before it reacts to a notification. -/
inductive PopSection where
  | enter (deadlineUs : Int)
  | resume
  | expire
  deriving DecidableEq, Repr

inductive Label (Pkt : Type) where
  | push (part : PushSection Pkt)
  | pop (part : PopSection)
  | markEos
  deriving DecidableEq, Repr

/-- Leaves the monitor after a section of `Push`: an accepted packet notifies
`not_empty_`, a wait releases the lock. -/
def leavePush (m : Monitor Pkt) (pkt : Pkt) : Option (Bool × Ring Pkt) → Monitor Pkt
  | some (accepted, ring) => ⟨ring, .running, m.consumer.notifyIf accepted⟩
  | none => { m with producer := .waiting pkt }

/-- Leaves the monitor after a section of `Pop`: only `kOk` frees a slot and
notifies `not_full_`. -/
def leavePop (m : Monitor Pkt) (deadlineUs : Int) : Option (Popped Pkt) → Monitor Pkt
  | some p => ⟨p.ring, m.producer.notifyIf (p.status = .kOk), .running⟩
  | none => { m with consumer := .waiting deadlineUs }

/-- `MarkEos` notifies `not_empty_` only. -/
def markEos (m : Monitor Pkt) : Monitor Pkt :=
  { m with ring := m.ring.markEos, consumer := m.consumer.notify }

/-- Only a blocking push waits, and only a pop with a positive deadline. -/
structure WellFormed (m : Monitor Pkt) : Prop where
  valid : m.ring.Valid
  producer : ∀ pkt ∈ m.producer.pending, m.ring.policy = .kBlock
  consumer : ∀ deadlineUs ∈ m.consumer.pending, 0 < deadlineUs

/-- A parked thread still has to wait, unless its notification was issued. -/
structure Parked (m : Monitor Pkt) : Prop where
  producer : ∀ pkt, m.producer = .waiting pkt →
    m.ring.count = m.ring.capacity.size ∧ m.ring.eos = false
  consumer : ∀ deadlineUs, m.consumer = .waiting deadlineUs →
    m.ring.count = 0 ∧ m.ring.eos = false

theorem parked_iff_sound {m : Monitor Pkt} (valid : m.ring.Valid) :
    m.Parked ↔ m.producer.Sound m.ring.pushReady ∧ m.consumer.Sound m.ring.popReady := by
  have within := valid.count_le
  constructor
  · intro parked
    constructor
    · intro waits
      cases state : m.producer with
      | waiting pkt =>
        obtain ⟨full, opened⟩ := parked.producer pkt state
        simp [Ring.pushReady, full, opened]
      | _ => simp [state, Waiter.isWaiting] at waits
    · intro waits
      cases state : m.consumer with
      | waiting d =>
        obtain ⟨drained, opened⟩ := parked.consumer d state
        simp [Ring.popReady, drained, opened]
      | _ => simp [state, Waiter.isWaiting] at waits
  · rintro ⟨producer, consumer⟩
    constructor
    · intro pkt state
      have blocked := producer (by simp [state, Waiter.isWaiting])
      simp only [Ring.pushReady, Bool.or_eq_false_iff, decide_eq_false_iff_not, not_lt] at blocked
      exact ⟨Nat.le_antisymm within blocked.1, blocked.2⟩
    · intro d state
      have blocked := consumer (by simp [state, Waiter.isWaiting])
      simpa [Ring.popReady] using blocked

/-- `MarkEos` wakes the consumer but not the producer. -/
theorem markEos_parked_iff {m : Monitor Pkt} (formed : m.WellFormed) :
    m.markEos.Parked ↔ m.producer.isWaiting = false := by
  rw [parked_iff_sound (Ring.markEos_valid formed.valid)]
  have ready : m.markEos.ring.pushReady = true := by simp [markEos, Ring.pushReady]
  rw [ready, Waiter.sound_true_iff]
  exact and_iff_left (Waiter.sound_notify _ _)

variable [Inhabited Pkt]

def new (capacity : Capacity) (policy : Backpressure) : Monitor Pkt :=
  ⟨.new capacity policy, .running, .running⟩

/-- The packet and result of the producer's section, `none` when it cannot run. -/
def pushSection (m : Monitor Pkt) : PushSection Pkt → Option (Pkt × Option (Bool × Ring Pkt))
  | .enter pkt =>
    match m.producer with
    | .running => some (pkt, m.ring.pushEnter pkt)
    | _ => none
  | .resume =>
    match m.producer with
    | .notified pkt => some (pkt, m.ring.pushResume pkt)
    | _ => none

/-- The deadline and result of the consumer's section, `none` when it cannot run. -/
def popSection (m : Monitor Pkt) : PopSection → Option (Int × Option (Popped Pkt))
  | .enter deadlineUs =>
    match m.consumer with
    | .running => some (deadlineUs, m.ring.popEnter deadlineUs)
    | _ => none
  | .resume =>
    match m.consumer with
    | .notified deadlineUs => some (deadlineUs, m.ring.popResume)
    | _ => none
  | .expire =>
    match m.consumer with
    | .waiting deadlineUs | .notified deadlineUs => some (deadlineUs, some m.ring.popExpire)
    | .running => none

def next (m : Monitor Pkt) : Label Pkt → Option (Monitor Pkt)
  | .push part => (m.pushSection part).map fun (pkt, result) => m.leavePush pkt result
  | .pop part => (m.popSection part).map fun (deadlineUs, result) => m.leavePop deadlineUs result
  | .markEos => some m.markEos

section Sections
variable {m t : Monitor Pkt} {pkt : Pkt} {deadlineUs : Int}

/-- Which part of `Push` a section runs. -/
theorem pushSection_cases {part : PushSection Pkt} {result : Option (Bool × Ring Pkt)}
    (ran : m.pushSection part = some (pkt, result)) :
    (part = .enter pkt ∧ m.producer = .running ∧ m.ring.pushEnter pkt = result) ∨
      (part = .resume ∧ m.producer = .notified pkt ∧ m.ring.pushResume pkt = result) := by
  unfold pushSection at ran
  cases part with
  | enter own =>
    cases state : m.producer with
    | running =>
      simp only [state, Option.some.injEq, Prod.mk.injEq] at ran
      obtain ⟨rfl, rfl⟩ := ran
      exact .inl ⟨rfl, rfl, rfl⟩
    | waiting | notified => simp [state] at ran
  | resume =>
    cases state : m.producer with
    | notified own =>
      simp only [state, Option.some.injEq, Prod.mk.injEq] at ran
      obtain ⟨rfl, rfl⟩ := ran
      exact .inr ⟨rfl, rfl, rfl⟩
    | running | waiting => simp [state] at ran

/-- Which part of `Pop` a section runs. -/
theorem popSection_cases {part : PopSection} {result : Option (Popped Pkt)}
    (ran : m.popSection part = some (deadlineUs, result)) :
    (part = .enter deadlineUs ∧ m.consumer = .running ∧ m.ring.popEnter deadlineUs = result) ∨
      (part = .resume ∧ m.consumer = .notified deadlineUs ∧ m.ring.popResume = result) ∨
      (part = .expire ∧ m.consumer.pending = some deadlineUs ∧ some m.ring.popExpire = result) := by
  unfold popSection at ran
  cases part with
  | enter own =>
    cases state : m.consumer with
    | running =>
      simp only [state, Option.some.injEq, Prod.mk.injEq] at ran
      obtain ⟨rfl, rfl⟩ := ran
      exact .inl ⟨rfl, rfl, rfl⟩
    | waiting | notified => simp [state] at ran
  | resume =>
    cases state : m.consumer with
    | notified own =>
      simp only [state, Option.some.injEq, Prod.mk.injEq] at ran
      obtain ⟨rfl, rfl⟩ := ran
      exact .inr (.inl ⟨rfl, rfl, rfl⟩)
    | running | waiting => simp [state] at ran
  | expire =>
    cases state : m.consumer with
    | waiting own | notified own =>
      simp only [state, Option.some.injEq, Prod.mk.injEq] at ran
      obtain ⟨rfl, rfl⟩ := ran
      exact .inr (.inr ⟨rfl, rfl, rfl⟩)
    | running => simp [state] at ran

/-- A section of `Push` that ends the call ends it as the ring does. -/
theorem pushSection_ends {accepted : Bool} {r : Ring Pkt} {part : PushSection Pkt}
    (formed : m.WellFormed) (ran : m.pushSection part = some (pkt, some (accepted, r))) :
    Ring.PushEnds m.ring pkt accepted r ∧
      Ring.Step m.ring (.push pkt accepted m.ring.displaced) r := by
  obtain ⟨-, -, entered⟩ | ⟨-, state, resumed⟩ := pushSection_cases ran
  · exact ⟨Ring.pushEnter_ends formed.valid entered, .pushEnter entered⟩
  · have blocked := formed.producer pkt (by simp [state, Waiter.pending])
    have kept : m.ring.displaced = none := by simp [Ring.displaced, blocked]
    have entered := Ring.pushResume_eq_pushEnter resumed
    exact ⟨Ring.pushEnter_ends formed.valid entered, kept ▸ .pushResume blocked resumed⟩

theorem pushSection_waits {part : PushSection Pkt} (formed : m.WellFormed)
    (ran : m.pushSection part = some (pkt, none)) :
    m.ring.eos = false ∧ m.ring.count = m.ring.capacity.size ∧ m.ring.policy = .kBlock := by
  obtain ⟨-, -, waits⟩ | ⟨-, state, waits⟩ := pushSection_cases ran
  · exact Ring.pushEnter_waits waits
  · obtain ⟨opened, full⟩ := Ring.pushResume_waits formed.valid waits
    exact ⟨opened, full, formed.producer pkt (by simp [state, Waiter.pending])⟩

/-- A section of `Pop` that ends the call ends it as the ring does. -/
theorem popSection_ends {p : Popped Pkt} {part : PopSection} (formed : m.WellFormed)
    (ran : m.popSection part = some (deadlineUs, some p)) :
    Ring.PopEnds m.ring p ∧ Ring.Step m.ring (.pop deadlineUs p.status p.out) p.ring := by
  obtain ⟨-, -, entered⟩ | ⟨-, state, resumed⟩ | ⟨-, state, expired⟩ := popSection_cases ran
  · exact ⟨Ring.popEnter_ends entered, .popEnter entered⟩
  · have mine := formed.consumer deadlineUs (by simp [state, Waiter.pending])
    exact ⟨Ring.popResume_ends resumed, .popResume mine resumed⟩
  · cases expired
    exact ⟨Ring.popSignaled_ends, .popExpire (formed.consumer _ state) rfl⟩

theorem popSection_waits {part : PopSection} (formed : m.WellFormed)
    (ran : m.popSection part = some (deadlineUs, none)) :
    0 < deadlineUs ∧ m.ring.count = 0 ∧ m.ring.eos = false := by
  obtain ⟨-, -, waits⟩ | ⟨-, state, waits⟩ | ⟨-, -, expired⟩ := popSection_cases ran
  · exact Ring.popEnter_waits waits
  · exact ⟨formed.consumer _ (by simp [state, Waiter.pending]), Ring.popResume_waits waits⟩
  · contradiction

/-- Every step is a section of the producer, one of the consumer, or `MarkEos`. -/
theorem next_cases {l : Label Pkt} (stepped : m.next l = some t) :
    (∃ part pkt result, l = .push part ∧ m.pushSection part = some (pkt, result) ∧
      t = m.leavePush pkt result) ∨
    (∃ part deadlineUs result, l = .pop part ∧ m.popSection part = some (deadlineUs, result) ∧
      t = m.leavePop deadlineUs result) ∨
    (l = .markEos ∧ t = m.markEos) := by
  cases l with
  | push part =>
    obtain ⟨⟨pkt, result⟩, ran, rfl⟩ := Option.map_eq_some_iff.mp stepped
    exact .inl ⟨part, pkt, result, rfl, ran, rfl⟩
  | pop part =>
    obtain ⟨⟨deadlineUs, result⟩, ran, rfl⟩ := Option.map_eq_some_iff.mp stepped
    exact .inr (.inl ⟨part, deadlineUs, result, rfl, ran, rfl⟩)
  | markEos => exact .inr (.inr ⟨rfl, (Option.some.inj stepped).symm⟩)

theorem new_wellFormed (capacity : Capacity) (policy : Backpressure) :
    (new capacity policy : Monitor Pkt).WellFormed :=
  ⟨Ring.new_valid capacity policy, by simp [new, Waiter.pending], by simp [new, Waiter.pending]⟩

theorem new_parked (capacity : Capacity) (policy : Backpressure) :
    (new capacity policy : Monitor Pkt).Parked := ⟨by simp [new], by simp [new]⟩

end Sections

section Invariants
variable {m t : Monitor Pkt} {l : Label Pkt}

theorem leavePush_wellFormed {part : PushSection Pkt} {result : Option (Bool × Ring Pkt)}
    (formed : m.WellFormed) (ran : m.pushSection part = some (pkt, result)) :
    (m.leavePush pkt result).WellFormed := by
  cases result with
  | none => exact ⟨formed.valid, fun _ _ => (pushSection_waits formed ran).2.2, formed.consumer⟩
  | some outcome =>
    have ends := (pushSection_ends formed ran).1
    exact ⟨ends.valid formed.valid, by simp [leavePush, Waiter.pending],
      by simpa [leavePush] using formed.consumer⟩

theorem leavePop_wellFormed {part : PopSection} {result : Option (Popped Pkt)}
    (formed : m.WellFormed) (ran : m.popSection part = some (deadlineUs, result)) :
    (m.leavePop deadlineUs result).WellFormed := by
  cases result with
  | none =>
    refine ⟨formed.valid, formed.producer, ?_⟩
    simpa [leavePop, Waiter.pending] using (popSection_waits formed ran).1
  | some p =>
    have ends := (popSection_ends formed ran).1
    refine ⟨ends.valid formed.valid, ?_, by simp [leavePop, Waiter.pending]⟩
    simpa [leavePop, ends.frame.2.1] using formed.producer

theorem next_wellFormed (formed : m.WellFormed) (stepped : m.next l = some t) : t.WellFormed := by
  obtain ⟨part, pkt, result, -, ran, rfl⟩ | ⟨part, d, result, -, ran, rfl⟩ | ⟨-, rfl⟩ :=
    next_cases stepped
  · exact leavePush_wellFormed formed ran
  · exact leavePop_wellFormed formed ran
  · exact ⟨Ring.markEos_valid formed.valid, formed.producer,
      by simpa [markEos] using formed.consumer⟩

theorem leavePush_frame {part : PushSection Pkt} {result : Option (Bool × Ring Pkt)}
    (formed : m.WellFormed) (ran : m.pushSection part = some (pkt, result)) :
    (m.leavePush pkt result).ring.capacity = m.ring.capacity ∧
      (m.leavePush pkt result).ring.policy = m.ring.policy ∧
      (m.leavePush pkt result).ring.eos = m.ring.eos ∧
      (m.leavePush pkt result).consumer.pending = m.consumer.pending := by
  cases result with
  | none => exact ⟨rfl, rfl, rfl, rfl⟩
  | some outcome =>
    obtain ⟨capacity, policy, eos⟩ := (pushSection_ends formed ran).1.frame
    exact ⟨capacity, policy, eos, Waiter.notifyIf_pending _ _⟩

theorem leavePop_frame {part : PopSection} {result : Option (Popped Pkt)}
    (formed : m.WellFormed) (ran : m.popSection part = some (deadlineUs, result)) :
    (m.leavePop deadlineUs result).ring.capacity = m.ring.capacity ∧
      (m.leavePop deadlineUs result).ring.policy = m.ring.policy ∧
      (m.leavePop deadlineUs result).ring.eos = m.ring.eos ∧
      (m.leavePop deadlineUs result).producer.pending = m.producer.pending := by
  cases result with
  | none => exact ⟨rfl, rfl, rfl, rfl⟩
  | some p =>
    obtain ⟨capacity, policy, eos⟩ := (popSection_ends formed ran).1.frame
    exact ⟨capacity, policy, eos, Waiter.notifyIf_pending _ _⟩

theorem leavePush_parked {part : PushSection Pkt} {result : Option (Bool × Ring Pkt)}
    (formed : m.WellFormed) (parked : m.Parked)
    (ran : m.pushSection part = some (pkt, result)) : (m.leavePush pkt result).Parked := by
  cases result with
  | none =>
    obtain ⟨opened, full, -⟩ := pushSection_waits formed ran
    exact ⟨fun _ _ => ⟨full, opened⟩, parked.consumer⟩
  | some outcome =>
    have ends := (pushSection_ends formed ran).1
    refine (parked_iff_sound (ends.valid formed.valid)).mpr ⟨Waiter.sound_running _, ?_⟩
    refine ((parked_iff_sound formed.valid).mp parked).2.notifyIf ?_
    obtain ⟨accepted, r⟩ := outcome
    intro ready blocked
    cases ends with
    | late | refused => simp_all [leavePush]
    | evicted | stored => rfl

theorem leavePop_parked {part : PopSection} {result : Option (Popped Pkt)}
    (formed : m.WellFormed) (parked : m.Parked)
    (ran : m.popSection part = some (deadlineUs, result)) :
    (m.leavePop deadlineUs result).Parked := by
  cases result with
  | none =>
    obtain ⟨-, drained, opened⟩ := popSection_waits formed ran
    exact ⟨parked.producer, fun _ _ => ⟨drained, opened⟩⟩
  | some p =>
    have ends := (popSection_ends formed ran).1
    refine (parked_iff_sound (ends.valid formed.valid)).mpr ⟨?_, Waiter.sound_running _⟩
    refine ((parked_iff_sound formed.valid).mp parked).1.notifyIf ?_
    intro ready blocked
    cases ends with
    | oldest => rfl
    | eos | empty => simp_all [leavePop]

/-- Nobody calls `MarkEos` while the producer is parked in `Push`. -/
def MarksUnparked (m : Monitor Pkt) (l : Label Pkt) : Prop :=
  l = .markEos → m.producer.isWaiting = false

theorem next_parked_iff (formed : m.WellFormed) (parked : m.Parked) (stepped : m.next l = some t) :
    t.Parked ↔ m.MarksUnparked l := by
  obtain ⟨part, pkt, result, rfl, ran, rfl⟩ | ⟨part, d, result, rfl, ran, rfl⟩ | ⟨rfl, rfl⟩ :=
    next_cases stepped
  · exact iff_of_true (leavePush_parked formed parked ran) (by simp [MarksUnparked])
  · exact iff_of_true (leavePop_parked formed parked ran) (by simp [MarksUnparked])
  · rw [markEos_parked_iff formed]
    simp [MarksUnparked]

/-- No wake-up is lost in a run, with or without expired deadlines, exactly
when every `MarkEos` of it finds the producer outside the wait set. -/
theorem parked_iff_marks_unparked (capacity : Capacity) (policy : Backpressure) :
    Run (Keeping (Takes next) Parked) (new capacity policy : Monitor Pkt) ls t ↔
      Run (Guarded (Takes next) MarksUnparked) (new capacity policy) ls t :=
  Run.keeping_iff_guarded (Q := WellFormed) next_wellFormed next_parked_iff
    (new_wellFormed capacity policy) (new_parked capacity policy)

/-- `MarkEos` at a full ring leaves the producer parked with nobody to wake it. -/
theorem markEos_strands_producer :
    ∃ m : Monitor VideoPacket,
      Run (Takes next) (new ⟨1, by decide⟩ .kBlock)
        [.push (.enter { ptsUs := 1 }), .push (.enter { ptsUs := 2 }), .markEos] m ∧
      m.producer = .waiting { ptsUs := 2 } ∧ m.ring.eos = true ∧ ¬m.Parked := by
  refine ⟨_, exec_run rfl, rfl, rfl, fun parked => ?_⟩
  exact absurd (parked.producer _ rfl).2 (by decide)

end Invariants
end Monitor
end VideoCodec
