import VideoCodec.Queue.Await
import VideoCodec.Queue.Monitor

/-! The closed system of one producer thread and one thread in `Await` over a
`kBlock` queue. The producer pushes its packets in order and then calls
`MarkEos`; a parked thread moves by a notification or an expired deadline. -/
namespace VideoCodec

open Transition
open VideoCodec.Ring (Popped)

/-- A packet with its medium. -/
abbrev Packet := (m : Media) × m.Pkt

/-- Rings the producer has marked. -/
inductive Marking where
  | none
  | video
  | both
  deriving DecidableEq, Repr

structure Pipeline where
  queue : (m : Media) → Monitor m.Pkt
  todo : List Packet
  marking : Marking
  await : Await

namespace Pipeline

/-- Both threads at their start; `todo` is the whole program of the producer. -/
def start (capacity : Capacity) (todo : List Packet) : Pipeline :=
  ⟨fun _ => .new capacity .kBlock, todo, .none, .start⟩

inductive Label where
  | push
  | pushWoken
  | markEos
  | pop
  | popWoken
  | popExpired
  | sinkPush (status : Status)
  | sinkFinish (status : Status)

def withQueue (s : Pipeline) (m : Media) (q : Monitor m.Pkt) : Pipeline :=
  { s with queue := Function.update s.queue m q }

/-- The producer's section at the packet it is pushing; a push that ends lets
it go on with the next packet. -/
def produce (s : Pipeline) (part : (m : Media) → m.Pkt → Monitor.PushSection m.Pkt) :
    Option Pipeline :=
  match s.todo with
  | [] => none
  | ⟨m, pkt⟩ :: rest =>
    ((s.queue m).pushSection (part m pkt)).map fun (pkt, result) =>
      { s.withQueue m ((s.queue m).leavePush pkt result) with
        todo := if result.isSome then rest else s.todo }

/-- The consumer's section in the `Pull` it stands at. -/
def consume (s : Pipeline) (part : Monitor.PopSection) : Option Pipeline :=
  match s.await.place with
  | .pull m =>
    ((s.queue m).popSection part).map fun (deadlineUs, result) =>
      { s.withQueue m ((s.queue m).leavePop deadlineUs result) with
        await := result.elim s.await fun p => s.await.pulled m p.status p.out }
  | _ => none

/-- The producer's two steps of `MarkEos`, after its last packet. -/
def mark (s : Pipeline) : Option Pipeline :=
  match s.todo, s.marking with
  | [], .none => some { s.withQueue .video (s.queue .video).markEos with marking := .video }
  | [], .video => some { s.withQueue .audio (s.queue .audio).markEos with marking := .both }
  | _, _ => none

def next (deadlineUs : Int) (s : Pipeline) : Label → Option Pipeline
  | .push => s.produce fun _ pkt => .enter pkt
  | .pushWoken => s.produce fun _ _ => .resume
  | .markEos => s.mark
  | .pop => s.consume (.enter deadlineUs)
  | .popWoken => s.consume .resume
  | .popExpired => s.consume .expire
  | .sinkPush status =>
    match s.await.place with
    | .deliver m pkt => some { s with await := s.await.pushed m pkt status }
    | _ => none
  | .sinkFinish status =>
    match s.await.place with
    | .abort => some { s with await := s.await.aborted status }
    | .finish => some { s with await := s.await.finished status }
    | _ => none

/-- The producer has not finished and no thread can move. -/
def Deadlock (deadlineUs : Int) (s : Pipeline) : Prop :=
  s.marking ≠ .both ∧ ∀ l, s.next deadlineUs l = none

/-- Packets of medium `m` whose push has not ended. -/
def remaining (m : Media) (todo : List Packet) : Nat := todo.countP (·.1 = m)

/-- Of each medium, what the producer still has to push fits in the free slots. -/
def Fits (s : Pipeline) : Prop :=
  ∀ m, (s.queue m).ring.count + remaining m s.todo ≤ (s.queue m).ring.capacity.size

/-- A sink call fails only when nothing the producer has left can fill a ring. -/
def FailsFitting (s : Pipeline) (l : Label) : Prop :=
  ∀ status, l = .sinkPush status → status ≠ .kOk → s.Fits

structure Inv (s : Pipeline) : Prop where
  formed : ∀ m, (s.queue m).WellFormed
  blocking : ∀ m, (s.queue m).ring.policy = .kBlock
  parked : ∀ m, (s.queue m).Parked
  pushing : ∀ m, ∀ pkt ∈ (s.queue m).producer.pending, ∃ rest, s.todo = ⟨m, pkt⟩ :: rest
  pulling : ∀ m, ∀ d ∈ (s.queue m).consumer.pending, s.await.place = .pull m
  ended : ∀ m, (s.queue m).ring.eos = true → s.todo = []
  marking : s.marking ≠ .none → s.todo = []
  done : ∀ m, s.await.done m = true → (s.queue m).ring.eos = true
  sound : s.await.Sound

section Steps
variable {s t : Pipeline} {deadlineUs : Int}

@[simp] theorem withQueue_self (s : Pipeline) (m : Media) (q : Monitor m.Pkt) :
    (s.withQueue m q).queue m = q := by simp [withQueue]

theorem withQueue_other (s : Pipeline) {m n : Media} (different : n ≠ m) (q : Monitor m.Pkt) :
    (s.withQueue m q).queue n = s.queue n := by simp [withQueue, different]

/-- A fact about every queue after one of them changed. -/
theorem withQueue_forall {P : (n : Media) → Monitor n.Pkt → Prop} {m : Media} {q : Monitor m.Pkt}
    (changed : P m q) (others : ∀ n, n ≠ m → P n (s.queue n)) (n : Media) :
    P n ((s.withQueue m q).queue n) := by
  by_cases same : n = m
  · subst same
    simpa using changed
  · simpa [withQueue_other, same] using others n same

theorem remaining_cons (m : Media) (packet : Packet) (todo : List Packet) :
    remaining m (packet :: todo) = remaining m todo + if packet.1 = m then 1 else 0 := by
  simp [remaining, List.countP_cons]

theorem start_inv (capacity : Capacity) (todo : List Packet) : (start capacity todo).Inv where
  formed _ := Monitor.new_wellFormed capacity .kBlock
  blocking _ := rfl
  parked _ := Monitor.new_parked capacity .kBlock
  pushing _ _ waits := absurd waits (by simp [start, Monitor.new, Waiter.pending])
  pulling _ _ waits := absurd waits (by simp [start, Monitor.new, Waiter.pending])
  ended _ flag := absurd flag (by simp [start, Monitor.new, Ring.new])
  marking begun := absurd rfl begun
  done _ flag := absurd flag (by simp [start, Await.start])
  sound := Await.start_sound

/-- A section of the producer concerns the first packet of its program. -/
theorem produce_cases {part : (m : Media) → m.Pkt → Monitor.PushSection m.Pkt} (inv : s.Inv)
    (kind : ∀ m pkt, part m pkt = .enter pkt ∨ part m pkt = .resume)
    (ran : s.produce part = some t) :
    ∃ m pkt rest result, s.todo = ⟨m, pkt⟩ :: rest ∧
      (s.queue m).pushSection (part m pkt) = some (pkt, result) ∧
      t = { s.withQueue m ((s.queue m).leavePush pkt result) with
        todo := if result.isSome then rest else s.todo } := by
  rw [produce] at ran
  split at ran
  · contradiction
  · rename_i m pkt rest todo
    obtain ⟨⟨own, result⟩, entered, rfl⟩ := Option.map_eq_some_iff.mp ran
    have same : own = pkt := by
      obtain ⟨enters, -, -⟩ | ⟨-, woken, -⟩ := Monitor.pushSection_cases entered
      · obtain named | named := kind m pkt <;> rw [named] at enters <;> simp_all
      · obtain ⟨rest', todo'⟩ := inv.pushing m own (by simp [woken, Waiter.pending])
        simp_all
    subst same
    exact ⟨m, own, rest, result, todo, entered, rfl⟩

theorem consume_cases {part : Monitor.PopSection} (ran : s.consume part = some t) :
    ∃ m d result, s.await.place = .pull m ∧ (s.queue m).popSection part = some (d, result) ∧
      t = { s.withQueue m ((s.queue m).leavePop d result) with
        await := result.elim s.await fun p => s.await.pulled m p.status p.out } := by
  rw [consume] at ran
  split at ran
  · rename_i m place
    obtain ⟨⟨d, result⟩, entered, rfl⟩ := Option.map_eq_some_iff.mp ran
    exact ⟨m, d, result, place, entered, rfl⟩
  · contradiction

theorem Inv.opened (inv : s.Inv) (left : s.todo ≠ []) (m : Media) :
    (s.queue m).ring.eos = false := by
  cases flag : (s.queue m).ring.eos with
  | false => rfl
  | true => exact absurd (inv.ended m flag) left

theorem Inv.produce {m : Media} {pkt : m.Pkt} {rest : List Packet}
    {part : Monitor.PushSection m.Pkt} {result : Option (Bool × Ring m.Pkt)} (inv : s.Inv)
    (todo : s.todo = ⟨m, pkt⟩ :: rest) (ran : (s.queue m).pushSection part = some (pkt, result)) :
    Inv { s.withQueue m ((s.queue m).leavePush pkt result) with
      todo := if result.isSome then rest else s.todo } := by
  have left : s.todo ≠ [] := by simp [todo]
  have parked := Monitor.leavePush_parked (inv.formed m) (inv.parked m) ran
  obtain ⟨-, policy, eos, consumer⟩ := Monitor.leavePush_frame (inv.formed m) ran
  constructor
  · exact withQueue_forall (P := fun _ q => q.WellFormed)
      (Monitor.leavePush_wellFormed (inv.formed m) ran) fun n _ => inv.formed n
  · exact withQueue_forall (P := fun _ q => q.ring.policy = .kBlock)
      (policy.trans (inv.blocking m)) fun n _ => inv.blocking n
  · exact withQueue_forall (P := fun _ q => q.Parked) parked fun n _ => inv.parked n
  · refine withQueue_forall (P := fun n q => ∀ own ∈ q.producer.pending, ∃ more,
      (if result.isSome then rest else s.todo) = ⟨n, own⟩ :: more) ?_ ?_
    · intro own waits
      cases result with
      | none =>
        obtain rfl : pkt = own := by simpa [Monitor.leavePush, Waiter.pending] using waits
        exact ⟨rest, todo⟩
      | some outcome => simp [Monitor.leavePush, Waiter.pending] at waits
    · intro n different own waits
      obtain ⟨more, other⟩ := inv.pushing n own waits
      rw [todo] at other
      simp only [List.cons.injEq, Sigma.mk.injEq] at other
      exact absurd other.1.1.symm different
  · exact withQueue_forall (P := fun n q => ∀ d ∈ q.consumer.pending, s.await.place = .pull n)
      (consumer ▸ inv.pulling m) fun n _ => inv.pulling n
  · refine withQueue_forall (P := fun _ q => q.ring.eos = true → _) ?_ ?_
    · intro flag
      exact absurd (inv.ended m (eos ▸ flag)) left
    · intro n _ flag
      exact absurd (inv.ended n flag) left
  · intro begun
    exact absurd (inv.marking begun) left
  · intro n flag
    exact absurd (inv.ended n (inv.done n flag)) left
  · exact inv.sound

theorem Inv.consume {m : Media} {d : Int} {part : Monitor.PopSection}
    {result : Option (Popped m.Pkt)} (inv : s.Inv) (place : s.await.place = .pull m)
    (ran : (s.queue m).popSection part = some (d, result)) :
    Inv { s.withQueue m ((s.queue m).leavePop d result) with
      await := result.elim s.await fun p => s.await.pulled m p.status p.out } := by
  obtain ⟨-, policy, eos, producer⟩ := Monitor.leavePop_frame (inv.formed m) ran
  constructor
  · exact withQueue_forall (P := fun _ q => q.WellFormed)
      (Monitor.leavePop_wellFormed (inv.formed m) ran) fun n _ => inv.formed n
  · exact withQueue_forall (P := fun _ q => q.ring.policy = .kBlock)
      (policy.trans (inv.blocking m)) fun n _ => inv.blocking n
  · exact withQueue_forall (P := fun _ q => q.Parked)
      (Monitor.leavePop_parked (inv.formed m) (inv.parked m) ran) fun n _ => inv.parked n
  · exact withQueue_forall (P := fun n q => ∀ own ∈ q.producer.pending, ∃ more,
      s.todo = ⟨n, own⟩ :: more) (producer ▸ inv.pushing m) fun n _ => inv.pushing n
  · refine withQueue_forall (P := fun n q => ∀ d ∈ q.consumer.pending,
      (result.elim s.await fun p => s.await.pulled m p.status p.out).place = .pull n) ?_ ?_
    · cases result with
      | none =>
        intro _ _
        exact place
      | some p =>
        intro _ waits
        simp [Monitor.leavePop, Waiter.pending] at waits
    · intro n different own waits
      have elsewhere := inv.pulling n own waits
      rw [place] at elsewhere
      exact absurd (Place.pull.inj elsewhere).symm different
  · exact withQueue_forall (P := fun _ q => q.ring.eos = true → s.todo = [])
      (eos ▸ inv.ended m) fun n _ => inv.ended n
  · exact inv.marking
  · have kept := withQueue_forall (s := s) (P := fun n q => q.ring.eos = (s.queue n).ring.eos) eos
      fun _ _ => rfl
    intro n flag
    refine (kept n).trans ?_
    cases result with
    | none => exact inv.done n flag
    | some p =>
      obtain before | ⟨rfl, drained⟩ := Await.pulled_done flag
      · exact inv.done n before
      · exact ((Monitor.popSection_ends (inv.formed n) ran).1.eos_iff.mp drained).1
  · cases result with
    | none => exact inv.sound
    | some p => exact Await.pulled_sound inv.sound place p.out

theorem Inv.mark {m : Media} {marking : Marking} (inv : s.Inv) (todo : s.todo = []) :
    Inv { s.withQueue m (s.queue m).markEos with marking } := by
  have free : (s.queue m).producer.isWaiting = false := by
    refine Waiter.not_waiting_of_pending (Option.eq_none_iff_forall_ne_some.mpr fun pkt waits => ?_)
    obtain ⟨rest, left⟩ := inv.pushing m pkt waits
    simp [todo] at left
  constructor
  · exact withQueue_forall (P := fun _ q => q.WellFormed)
      (Monitor.next_wellFormed (l := .markEos) (inv.formed m) rfl) fun n _ => inv.formed n
  · exact withQueue_forall (P := fun _ q => q.ring.policy = .kBlock) (inv.blocking m)
      fun n _ => inv.blocking n
  · exact withQueue_forall (P := fun _ q => q.Parked)
      ((Monitor.markEos_parked_iff (inv.formed m)).mpr free) fun n _ => inv.parked n
  · exact withQueue_forall (P := fun n q => ∀ own ∈ q.producer.pending, ∃ more,
      s.todo = ⟨n, own⟩ :: more) (inv.pushing m) fun n _ => inv.pushing n
  · refine withQueue_forall (P := fun n q => ∀ d ∈ q.consumer.pending, s.await.place = .pull n) ?_
      fun n _ => inv.pulling n
    simpa [Monitor.markEos] using inv.pulling m
  · intro _ _
    exact todo
  · intro _
    exact todo
  · intro n flag
    exact withQueue_forall (P := fun n q => (s.queue n).ring.eos = true → q.ring.eos = true)
      (fun _ => rfl) (fun _ _ same => same) n (inv.done n flag)
  · exact inv.sound

theorem Inv.sink {a : Await} (inv : s.Inv) (outside : ∀ m, s.await.place ≠ .pull m)
    (done : a.done = s.await.done) (sound : a.Sound) : Inv { s with await := a } where
  formed := inv.formed
  blocking := inv.blocking
  parked := inv.parked
  pushing := inv.pushing
  pulling m d waits := absurd (inv.pulling m d waits) (outside m)
  ended := inv.ended
  marking := inv.marking
  done m flag := inv.done m (done ▸ flag)
  sound := sound

/-- Every step is a section of one of the two threads, the producer's `MarkEos`
or the consumer's call on its sink. -/
theorem next_cases {l : Label} (inv : s.Inv) (stepped : s.next deadlineUs l = some t) :
    (∃ m pkt rest part result, s.todo = ⟨m, pkt⟩ :: rest ∧
      (s.queue m).pushSection part = some (pkt, result) ∧
      t = { s.withQueue m ((s.queue m).leavePush pkt result) with
        todo := if result.isSome then rest else s.todo }) ∨
    (∃ m part d result, s.await.place = .pull m ∧ (s.queue m).popSection part = some (d, result) ∧
      t = { s.withQueue m ((s.queue m).leavePop d result) with
        await := result.elim s.await fun p => s.await.pulled m p.status p.out }) ∨
    (∃ m marking, l = .markEos ∧ s.todo = [] ∧
      t = { s.withQueue m (s.queue m).markEos with marking }) ∨
    (∃ m pkt status, l = .sinkPush status ∧ s.await.place = .deliver m pkt ∧
      t = { s with await := s.await.pushed m pkt status }) ∨
    (∃ status, l = .sinkFinish status ∧ s.await.place = .abort ∧
      t = { s with await := s.await.aborted status }) ∨
    (∃ status, l = .sinkFinish status ∧ s.await.place = .finish ∧
      t = { s with await := s.await.finished status }) := by
  cases l with
  | push =>
    obtain ⟨m, pkt, rest, result, todo, ran, rfl⟩ := produce_cases inv (fun _ _ => .inl rfl) stepped
    exact .inl ⟨m, pkt, rest, _, result, todo, ran, rfl⟩
  | pushWoken =>
    obtain ⟨m, pkt, rest, result, todo, ran, rfl⟩ := produce_cases inv (fun _ _ => .inr rfl) stepped
    exact .inl ⟨m, pkt, rest, _, result, todo, ran, rfl⟩
  | markEos =>
    refine .inr (.inr (.inl ?_))
    simp only [next, mark] at stepped
    split at stepped
    · rename_i todo _
      exact ⟨.video, .video, rfl, todo, (Option.some.inj stepped).symm⟩
    · rename_i todo _
      exact ⟨.audio, .both, rfl, todo, (Option.some.inj stepped).symm⟩
    · contradiction
  | pop | popWoken | popExpired =>
    obtain ⟨m, d, result, place, ran, rfl⟩ := consume_cases stepped
    exact .inr (.inl ⟨m, _, d, result, place, ran, rfl⟩)
  | sinkPush status =>
    simp only [next] at stepped
    split at stepped
    · rename_i m pkt place
      exact .inr (.inr (.inr (.inl ⟨m, pkt, status, rfl, place, (Option.some.inj stepped).symm⟩)))
    · contradiction
  | sinkFinish status =>
    simp only [next] at stepped
    split at stepped
    · rename_i place
      exact .inr (.inr (.inr (.inr (.inl ⟨status, rfl, place, (Option.some.inj stepped).symm⟩))))
    · rename_i place
      exact .inr (.inr (.inr (.inr (.inr ⟨status, rfl, place, (Option.some.inj stepped).symm⟩))))
    · contradiction

theorem next_inv {l : Label} (inv : s.Inv) (stepped : s.next deadlineUs l = some t) : t.Inv := by
  obtain ⟨m, pkt, rest, part, result, todo, ran, rfl⟩ | ⟨m, part, d, result, place, ran, rfl⟩ |
    ⟨m, marking, -, todo, rfl⟩ | ⟨m, pkt, status, -, place, rfl⟩ | ⟨status, -, place, rfl⟩ |
    ⟨status, -, place, rfl⟩ := next_cases inv stepped
  · exact inv.produce todo ran
  · exact inv.consume place ran
  · exact inv.mark todo
  · exact inv.sink (by simp [place]) rfl (Await.pushed_sound inv.sound place)
  · exact inv.sink (by simp [place]) rfl (Await.aborted_sound inv.sound place)
  · exact inv.sink (by simp [place]) rfl (Await.finished_sound inv.sound place)

/-- The consumer is gone and the producer is parked. -/
def Stranded (s : Pipeline) : Prop :=
  (∃ status, s.await.place = .returned status) ∧ ∃ m pkt, (s.queue m).producer = .waiting pkt

theorem consumer_moves (deadlineUs : Int) {m : Media} (place : s.await.place = .pull m) :
    ∃ l, s.next deadlineUs l ≠ none := by
  cases state : (s.queue m).consumer with
  | running => exact ⟨.pop, by simp [next, consume, place, Monitor.popSection, state]⟩
  | waiting d => exact ⟨.popExpired, by simp [next, consume, place, Monitor.popSection, state]⟩
  | notified d => exact ⟨.popWoken, by simp [next, consume, place, Monitor.popSection, state]⟩

theorem Deadlock.stranded (dead : s.Deadlock deadlineUs) : s.Stranded := by
  obtain ⟨unfinished, stuck⟩ := dead
  constructor
  · cases place : s.await.place with
    | pull m =>
      obtain ⟨l, moves⟩ := consumer_moves deadlineUs place
      exact absurd (stuck l) moves
    | deliver m pkt => simpa [next, place] using stuck (.sinkPush .kOk)
    | abort | finish => simpa [next, place] using stuck (.sinkFinish .kOk)
    | returned status => exact ⟨status, rfl⟩
  · cases todo : s.todo with
    | nil =>
      have blocked : s.mark = none := stuck .markEos
      cases marking : s.marking <;> simp_all [mark]
    | cons packet rest =>
      obtain ⟨m, pkt⟩ := packet
      cases state : (s.queue m).producer with
      | running => simpa [next, produce, todo, Monitor.pushSection, state] using stuck .push
      | waiting own => exact ⟨m, own, state⟩
      | notified own =>
        simpa [next, produce, todo, Monitor.pushSection, state] using stuck .pushWoken

theorem Stranded.deadlock (inv : s.Inv) (stranded : s.Stranded) : s.Deadlock deadlineUs := by
  obtain ⟨⟨status, place⟩, m, pkt, state⟩ := stranded
  obtain ⟨rest, todo⟩ := inv.pushing m pkt (by simp [state, Waiter.pending])
  constructor
  · intro both
    have none := inv.marking (by simp [both])
    simp [todo] at none
  · intro l
    cases l with
    | push | pushWoken => simp [next, produce, todo, Monitor.pushSection, state]
    | markEos => simp [next, mark, todo]
    | _ => simp [next, consume, place]

/-- A push moves its packet from the program to the ring, or leaves both. -/
theorem produce_load {m : Media} {pkt : m.Pkt} {rest : List Packet}
    {part : Monitor.PushSection m.Pkt} {result : Option (Bool × Ring m.Pkt)} (inv : s.Inv)
    (todo : s.todo = ⟨m, pkt⟩ :: rest) (ran : (s.queue m).pushSection part = some (pkt, result))
    (n : Media) :
    ((s.withQueue m ((s.queue m).leavePush pkt result)).queue n).ring.count +
        remaining n (if result.isSome then rest else s.todo) =
      (s.queue n).ring.count + remaining n s.todo := by
  cases result with
  | none =>
    have count := withQueue_forall (s := s) (q := (s.queue m).leavePush pkt none)
      (P := fun n q => q.ring.count = (s.queue n).ring.count) rfl (fun _ _ => rfl) n
    rw [count]
    rfl
  | some outcome =>
    obtain ⟨accepted, r⟩ := outcome
    have opened := inv.opened (by simp [todo]) m
    have blocking := inv.blocking m
    have stored : r.count = (s.queue m).ring.count + 1 := by
      cases (Monitor.pushSection_ends (inv.formed m) ran).1 with
      | late ended => simp [ended] at opened
      | refused _ _ policy => simp [policy] at blocking
      | evicted _ _ policy => simp [policy] at blocking
      | stored => rfl
    have count := withQueue_forall (s := s) (q := (s.queue m).leavePush pkt (some (accepted, r)))
      (P := fun n q => q.ring.count = (s.queue n).ring.count + if m = n then 1 else 0)
      (by simpa [Monitor.leavePush] using stored)
      (fun n different => by simp [Ne.symm different]) n
    rw [count, todo, remaining_cons]
    simp only [Option.isSome_some, if_true]
    omega

theorem produce_capacity {m : Media} {pkt : m.Pkt} {part : Monitor.PushSection m.Pkt}
    {result : Option (Bool × Ring m.Pkt)} (inv : s.Inv)
    (ran : (s.queue m).pushSection part = some (pkt, result)) (n : Media) :
    ((s.withQueue m ((s.queue m).leavePush pkt result)).queue n).ring.capacity =
      (s.queue n).ring.capacity :=
  withQueue_forall (P := fun n q => q.ring.capacity = (s.queue n).ring.capacity)
    (Monitor.leavePush_frame (inv.formed m) ran).1 (fun _ _ => rfl) n

theorem produce_fits_iff {m : Media} {pkt : m.Pkt} {rest : List Packet}
    {part : Monitor.PushSection m.Pkt} {result : Option (Bool × Ring m.Pkt)} (inv : s.Inv)
    (todo : s.todo = ⟨m, pkt⟩ :: rest) (ran : (s.queue m).pushSection part = some (pkt, result)) :
    Fits { s.withQueue m ((s.queue m).leavePush pkt result) with
      todo := if result.isSome then rest else s.todo } ↔ s.Fits := by
  apply forall_congr'
  intro n
  have load := produce_load inv todo ran n
  have capacity := produce_capacity inv ran n
  simp only [load, capacity]

theorem fits_of_nil (inv : s.Inv) (todo : s.todo = []) : s.Fits := by
  intro m
  simpa [remaining, todo] using (inv.formed m).valid.count_le

/-- The consumer has left the loop by a failure, or returned. -/
def Left (s : Pipeline) : Prop :=
  s.await.place = .abort ∨ ∃ status, s.await.place = .returned status

theorem next_fits {l : Label} (inv : s.Inv) (fits : s.Left → s.Fits)
    (stepped : s.next deadlineUs l = some t) (meets : s.FailsFitting l) : t.Left → t.Fits := by
  obtain ⟨m, pkt, rest, part, result, todo, ran, rfl⟩ | ⟨m, part, d, result, place, ran, rfl⟩ |
    ⟨m, marking, -, todo, rfl⟩ | ⟨m, pkt, status, rfl, place, rfl⟩ | ⟨status, -, place, rfl⟩ |
    ⟨status, -, place, rfl⟩ := next_cases inv stepped
  · intro left
    exact (produce_fits_iff inv todo ran).mpr (fits left)
  · intro left
    have inside := Await.pulled_inside s.await m
    cases result with
    | none => simp [Left, place] at left
    | some p => simp [Left, inside p.status p.out] at left
  · intro _
    exact fits_of_nil (inv.mark todo) todo
  · intro left
    by_cases ok : status = .kOk
    · simp [Left, Await.pushed, ok, Await.resume_inside] at left
    · exact meets status rfl ok
  · intro _
    exact fits (.inl place)
  · have ended : Await.Clean s.await.calls ∧ ∀ m, s.await.done m = true := by
      simpa only [Await.Sound, place] using inv.sound
    have fits : s.Fits := fits_of_nil inv (inv.ended .video (inv.done .video (ended.2 .video)))
    intro _
    exact fits

/-- A parked producer has a packet left that does not fit. -/
theorem Stranded.not_fits (inv : s.Inv) (stranded : s.Stranded) : ¬s.Fits := by
  obtain ⟨-, m, pkt, state⟩ := stranded
  obtain ⟨rest, todo⟩ := inv.pushing m pkt (by simp [state, Waiter.pending])
  have full := ((inv.parked m).producer pkt state).1
  intro fits
  have room := fits m
  rw [full, todo, remaining_cons, if_pos rfl] at room
  omega

/-- The producer can run unless it is parked. -/
theorem producer_moves (deadlineUs : Int) {m : Media} {pkt : m.Pkt} {rest : List Packet}
    (inv : s.Inv) (todo : s.todo = ⟨m, pkt⟩ :: rest)
    (awake : ∀ own, (s.queue m).producer ≠ .waiting own) :
    ∃ l part result, (s.queue m).pushSection part = some (pkt, result) ∧
      s.next deadlineUs l = some { s.withQueue m ((s.queue m).leavePush pkt result) with
        todo := if result.isSome then rest else s.todo } := by
  cases state : (s.queue m).producer with
  | running =>
    exact ⟨.push, .enter pkt, (s.queue m).ring.pushEnter pkt,
      by simp [Monitor.pushSection, state],
      by simp [next, produce, todo, Monitor.pushSection, state]⟩
  | waiting own => exact absurd state (awake own)
  | notified own =>
    obtain ⟨more, same⟩ := inv.pushing m own (by simp [state, Waiter.pending])
    obtain rfl : pkt = own := by simp_all
    exact ⟨.pushWoken, .resume, (s.queue m).ring.pushResume pkt,
      by simp [Monitor.pushSection, state],
      by simp [next, produce, todo, Monitor.pushSection, state]⟩

/-- With the consumer gone, a program that does not fit parks the producer in
the end. The induction is on what is left of the program. -/
theorem strand (deadlineUs : Int) {program : List Packet} (inv : s.Inv) (todo : s.todo = program)
    (gone : s.await.place = .returned status) (excess : ¬s.Fits) :
    ∃ ls t, Run (Takes (next deadlineUs)) s ls t ∧ t.Deadlock deadlineUs := by
  induction program generalizing s with
  | nil => exact absurd (fits_of_nil inv todo) excess
  | cons packet rest ih =>
    obtain ⟨m, pkt⟩ := packet
    by_cases parked : ∃ own, (s.queue m).producer = .waiting own
    · obtain ⟨own, state⟩ := parked
      exact ⟨[], s, .refl s, Stranded.deadlock inv ⟨⟨status, gone⟩, m, own, state⟩⟩
    · obtain ⟨l, part, result, ran, stepped⟩ :=
        producer_moves deadlineUs inv todo (not_exists.mp parked)
      have still := (not_congr (produce_fits_iff inv todo ran)).mpr excess
      have inv' := inv.produce todo ran
      cases result with
      | none =>
        refine ⟨[l], _, .single stepped, Stranded.deadlock inv' ⟨⟨status, gone⟩, m, pkt, ?_⟩⟩
        simp [Monitor.leavePush]
      | some outcome =>
        obtain ⟨ls, t, run, dead⟩ := ih inv' rfl gone still
        exact ⟨l :: ls, t, .next stepped run, dead⟩

end Steps

/-- A run whose failing sink calls all leave room for the rest of the program
never deadlocks; any other failing call can be continued to a deadlock. -/
theorem deadlock_iff_failure_without_room (capacity : Capacity) (deadlineUs : Int)
    (todo : List Packet) :
    (∀ ls s, Run (Guarded (Takes (next deadlineUs)) FailsFitting) (start capacity todo) ls s →
      ¬s.Deadlock deadlineUs) ∧
    (∀ ls s status t, Run (Takes (next deadlineUs)) (start capacity todo) ls s →
      s.next deadlineUs (.sinkPush status) = some t → status ≠ .kOk → ¬s.Fits →
      ∃ more u, Run (Takes (next deadlineUs)) t more u ∧ u.Deadlock deadlineUs) := by
  constructor
  · intro ls s run dead
    have kept : s.Inv ∧ (s.Left → s.Fits) := run.invariant (P := fun s => s.Inv ∧ (s.Left → s.Fits))
      (fun held step => ⟨next_inv held.1 step.1, next_fits held.1 held.2 step.1 step.2⟩)
      ⟨start_inv capacity todo, fun left => absurd left (by simp [Left, start, Await.start])⟩
    have stranded := dead.stranded
    exact stranded.not_fits kept.1 (kept.2 (.inr stranded.1))
  · intro ls s status t run failing failed excess
    have inv : s.Inv := run.invariant next_inv (start_inv capacity todo)
    have inv' : t.Inv := next_inv inv failing
    obtain ⟨m, pkt, place, rfl⟩ : ∃ m pkt, s.await.place = .deliver m pkt ∧
        t = { s with await := s.await.pushed m pkt status } := by
      simp only [next] at failing
      split at failing
      · rename_i m pkt place
        exact ⟨m, pkt, place, (Option.some.inj failing).symm⟩
      · contradiction
    have aborting : (s.await.pushed m pkt status).place = .abort := by simp [Await.pushed, failed]
    have finishing : Takes (next deadlineUs) { s with await := s.await.pushed m pkt status }
        (.sinkFinish .kOk) { s with await := (s.await.pushed m pkt status).aborted .kOk } := by
      simp [Takes, next, aborting]
    obtain ⟨more, u, after, dead⟩ := strand deadlineUs (next_inv inv' finishing) rfl rfl excess
    exact ⟨_, u, .next finishing after, dead⟩

/-- A sink that fails at its first packet, one slot and two packets behind it. -/
theorem failing_sink_strands_producer :
    ∃ s, Run (Takes (next 100000))
        (start ⟨1, by decide⟩ [⟨.video, { ptsUs := 1 }⟩, ⟨.video, { ptsUs := 2 }⟩,
          ⟨.video, { ptsUs := 3 }⟩])
        [.push, .pop, .push, .push, .sinkPush .kEncodeFailed, .sinkFinish .kOk] s ∧
      s.await.place = .returned .kEncodeFailed ∧
      (s.queue .video).producer = .waiting { ptsUs := 3 } ∧ s.Deadlock 100000 := by
  refine ⟨_, exec_run rfl, rfl, rfl, by decide, fun l => ?_⟩
  cases l <;> rfl

end Pipeline
end VideoCodec
