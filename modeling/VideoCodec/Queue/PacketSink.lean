import VideoCodec.Mux.Types
import VideoCodec.Queue.Delivery

/-! `Await` with a sink behind it: the sink is a state of its own, and what a call
on it returns is what the loop goes by. Sinks are put together as the pushing
example does it. -/
namespace VideoCodec

open Transition

/-- An implementation of `PacketSink` with the answers of the code outside it. -/
structure PacketSink (σ ρ : Type) where
  pushVideo : σ → VideoPacket → ρ → Status × σ
  pushAudio : σ → AudioPacket → ρ → Status × σ
  finish : σ → ρ → Status × σ

namespace SinkCall

def status : SinkCall → Status
  | .push _ _ status => status
  | .finish status => status

def packet? : SinkCall → Option MuxPacket
  | .push .video pkt _ => some (.video pkt)
  | .push .audio pkt _ => some (.audio pkt)
  | .finish _ => none

end SinkCall

/-- What is handed to a sink, in order. -/
def packets (calls : List SinkCall) : List MuxPacket := calls.filterMap SinkCall.packet?

theorem packets_video (calls : List SinkCall) :
    (packets calls).filterMap MuxPacket.video? = handed .video calls := by
  induction calls with
  | nil => rfl
  | cons c calls ih =>
    rw [handed, List.flatMap_cons, ← handed, ← ih]
    rcases c with ⟨_ | _, pkt, status⟩ | status <;> rfl

theorem packets_audio (calls : List SinkCall) :
    (packets calls).filterMap MuxPacket.audio? = handed .audio calls := by
  induction calls with
  | nil => rfl
  | cons c calls ih =>
    rw [handed, List.flatMap_cons, ← handed, ← ih]
    rcases c with ⟨_ | _, pkt, status⟩ | status <;> rfl

namespace PacketSink
variable {σ ρ τ π : Type}

def push (k : PacketSink σ ρ) : (m : Media) → σ → m.Pkt → ρ → Status × σ
  | .video => k.pushVideo
  | .audio => k.pushAudio

/-- A call on the sink, with the status that it returned. -/
inductive Serves (k : PacketSink σ ρ) : σ → SinkCall → σ → Prop where
  | push (s : σ) (m : Media) (pkt : m.Pkt) (reply : ρ) :
      Serves k s (.push m pkt (k.push m s pkt reply).1) (k.push m s pkt reply).2
  | finish (s : σ) (reply : ρ) : Serves k s (.finish (k.finish s reply).1) (k.finish s reply).2

theorem Serves.finished {k : PacketSink σ ρ} {s t : σ} (serves : k.Serves s (.finish status) t) :
    ∃ reply, k.finish s reply = (status, t) := by
  generalize same : SinkCall.finish status = c at serves
  cases serves with
  | push => contradiction
  | finish reply =>
    obtain rfl := SinkCall.finish.inj same
    exact ⟨reply, rfl⟩

/-- `TeeSink`: both sinks get a copy, and both have to succeed. -/
def both (first second : Status) : Status :=
  if first = .kOk ∧ second = .kOk then .kOk else .kEncodeFailed

def tee (a : PacketSink σ ρ) (b : PacketSink τ π) : PacketSink (σ × τ) (ρ × π) where
  pushVideo s pkt reply :=
    let sa := a.pushVideo s.1 pkt reply.1
    let sb := b.pushVideo s.2 pkt reply.2
    (both sa.1 sb.1, sa.2, sb.2)
  pushAudio s pkt reply :=
    let sa := a.pushAudio s.1 pkt reply.1
    let sb := b.pushAudio s.2 pkt reply.2
    (both sa.1 sb.1, sa.2, sb.2)
  finish s reply :=
    let sa := a.finish s.1 reply.1
    let sb := b.finish s.2 reply.2
    (both sa.1 sb.1, sa.2, sb.2)

/-- The call that one of two sinks gets where their tee gets `c`. -/
def Shares (c d : SinkCall) : Prop :=
  d.packet? = c.packet? ∧ (d.IsPush ↔ c.IsPush) ∧ (c.status = .kOk → d.status = .kOk)

section Tee
variable {a : PacketSink σ ρ} {b : PacketSink τ π} {s t : σ × τ} {c : SinkCall}
  {cs : List SinkCall}

theorem both_ok {first second : Status} (ok : both first second = .kOk) :
    first = .kOk ∧ second = .kOk := by
  rw [both] at ok
  split at ok
  · assumption
  · contradiction

theorem tee_serves (serves : (tee a b).Serves s c t) :
    ∃ d e, a.Serves s.1 d t.1 ∧ b.Serves s.2 e t.2 ∧ Shares c d ∧ Shares c e := by
  cases serves with
  | push m pkt reply =>
    cases m with
    | video =>
      exact ⟨_, _, .push s.1 .video pkt reply.1, .push s.2 .video pkt reply.2,
        ⟨rfl, .rfl, fun ok => (both_ok ok).1⟩, ⟨rfl, .rfl, fun ok => (both_ok ok).2⟩⟩
    | audio =>
      exact ⟨_, _, .push s.1 .audio pkt reply.1, .push s.2 .audio pkt reply.2,
        ⟨rfl, .rfl, fun ok => (both_ok ok).1⟩, ⟨rfl, .rfl, fun ok => (both_ok ok).2⟩⟩
  | finish reply =>
    exact ⟨_, _, .finish s.1 reply.1, .finish s.2 reply.2,
      ⟨rfl, .rfl, fun ok => (both_ok ok).1⟩, ⟨rfl, .rfl, fun ok => (both_ok ok).2⟩⟩

/-- Each of two sinks behind a tee sees a run of its own with the same packets. -/
theorem tee_run (run : Run (tee a b).Serves s cs t) :
    ∃ ds es, Run a.Serves s.1 ds t.1 ∧ Run b.Serves s.2 es t.2 ∧
      List.Forall₂ Shares cs ds ∧ List.Forall₂ Shares cs es := by
  induction run with
  | refl => exact ⟨[], [], .refl _, .refl _, .nil, .nil⟩
  | next head tail ih =>
    obtain ⟨d, e, first, second, left, right⟩ := tee_serves head
    obtain ⟨ds, es, firsts, seconds, lefts, rights⟩ := ih
    exact ⟨d :: ds, e :: es, .next first firsts, .next second seconds, .cons left lefts,
      .cons right rights⟩

theorem packets_shared {ds : List SinkCall} (shared : List.Forall₂ Shares cs ds) :
    packets ds = packets cs := by
  induction shared with
  | nil => rfl
  | cons first rest ih =>
    rw [packets, List.filterMap_cons, first.1, packets, List.filterMap_cons, ← packets, ih]
    rfl

theorem clean_shared {ds : List SinkCall} (shared : List.Forall₂ Shares cs ds)
    (clean : ∀ c ∈ cs, c.IsPush ∧ c.status = .kOk) : ∀ d ∈ ds, d.IsPush ∧ d.status = .kOk := by
  induction shared with
  | nil => exact fun _ member => absurd member List.not_mem_nil
  | cons first rest ih =>
    obtain ⟨⟨isPush, ok⟩, later⟩ := List.forall_mem_cons.mp clean
    exact List.forall_mem_cons.mpr ⟨⟨first.2.1.mpr isPush, first.2.2 ok⟩, ih later⟩

/-- A `Finish` of the tee that succeeds is one of both sinks. -/
theorem tee_finishes (serves : (tee a b).Serves s (.finish .kOk) t) :
    a.Serves s.1 (.finish .kOk) t.1 ∧ b.Serves s.2 (.finish .kOk) t.2 := by
  obtain ⟨reply, result⟩ := serves.finished
  obtain rfl : t = ((a.finish s.1 reply.1).2, (b.finish s.2 reply.2).2) :=
    (congrArg Prod.snd result).symm
  obtain ⟨first, second⟩ := both_ok (congrArg Prod.fst result)
  exact ⟨first ▸ .finish s.1 reply.1, second ▸ .finish s.2 reply.2⟩

end Tee
end PacketSink

/-- The call on the sink that a step makes. -/
def Delivery.Label.call : Delivery.Label → Option SinkCall
  | .sinkPush m pkt status => some (.push m pkt status)
  | .sinkFinish status => some (.finish status)
  | _ => none

namespace Piped
variable {σ ρ : Type}

structure Sys (σ : Type) where
  queue : Delivery.Sys
  sink : σ

/-- A step of the queue, which takes the sink along where it calls it. -/
inductive Step (k : PacketSink σ ρ) (deadlineUs : Int) :
    Sys σ → Delivery.Label → Sys σ → Prop where
  | aside {s : Sys σ} (silent : l.call = none) (step : Delivery.Step deadlineUs s.queue l q) :
      Step k deadlineUs s l ⟨q, s.sink⟩
  | calls {s : Sys σ} (asks : l.call = some c) (step : Delivery.Step deadlineUs s.queue l q)
      (serves : k.Serves s.sink c t) : Step k deadlineUs s l ⟨q, t⟩

section Steps
variable {k : PacketSink σ ρ} {deadlineUs : Int} {s t : Sys σ} {l : Delivery.Label}
  {ls : List Delivery.Label}

theorem Step.queue (step : Step k deadlineUs s l t) :
    Delivery.Step deadlineUs s.queue l t.queue := by
  cases step with
  | aside _ step | calls _ step => exact step

/-- The sink makes the steps that the loop notes down, and no other. -/
theorem Step.sink (step : Step k deadlineUs s l t) :
    Run k.Serves s.sink l.call.toList t.sink := by
  cases step with
  | aside silent =>
    rw [silent]
    exact .refl _
  | calls asks step serves =>
    rw [asks]
    exact .single serves

theorem calls_step {q r : Delivery.Sys} (step : Delivery.Step deadlineUs q l r) :
    r.await.calls = q.await.calls ++ l.call.toList := by
  cases step with
  | push | markVideo | markAudio => exact (List.append_nil _).symm
  | pull place popped =>
    obtain ⟨pkt, -, pulled⟩ | ⟨done, pulled, -⟩ := q.await.pulled_cases _ _ _
    · rw [pulled]
      exact (List.append_nil _).symm
    · rw [pulled]
      exact (List.append_nil _).symm
  | deliver | abort | finish => rfl

theorem run_queue (run : Run (Step k deadlineUs) s ls t) :
    Run (Delivery.Step deadlineUs) s.queue ls t.queue := by
  induction run with
  | refl => exact .refl _
  | next head tail ih => exact .next head.queue ih

/-- The pipe refines `Await` over an unknown sink, and its sink has served exactly
the calls of the loop. -/
theorem run_serves {capacity : Capacity} {policy : Backpressure} {sink : σ}
    (run : Run (Step k deadlineUs) ⟨.new capacity policy, sink⟩ ls t) :
    Run (Delivery.Step deadlineUs) (.new capacity policy) ls t.queue ∧
      Run k.Serves sink t.queue.await.calls t.sink := by
  refine ⟨run_queue run, ?_⟩
  suffices served : Run k.Serves sink t.queue.await.calls t.sink from served
  refine run.invariant (P := fun t => Run k.Serves sink t.queue.await.calls t.sink) ?_ (.refl _)
  intro s l t served step
  rw [calls_step step.queue]
  exact served.trans step.sink

/-- The status that the loop returns is that of `Finish`, unless a push failed. -/
def Settled (a : Await) : Prop :=
  ∀ status, a.place = .returned status →
    status = .kEncodeFailed ∨ a.calls.getLast? = some (.finish status)

theorem settled_step {q r : Delivery.Sys} (settled : Settled q.await)
    (step : Delivery.Step deadlineUs q l r) : Settled r.await := by
  cases step with
  | push | markVideo | markAudio => exact settled
  | pull place popped =>
    intro status returned
    exact absurd returned ((q.await.pulled_inside _ _ _).2 status)
  | @deliver _ m pkt place answer =>
    intro status returned
    rw [Await.pushed] at returned
    split at returned
    · exact absurd returned ((Await.resume_inside q.await.done m).2 status)
    · contradiction
  | abort place answer =>
    intro status returned
    obtain rfl := Place.returned.inj returned
    exact .inl rfl
  | finish place answer =>
    intro status returned
    obtain rfl := Place.returned.inj returned
    right
    exact List.getLast?_concat

theorem run_settled {capacity : Capacity} {policy : Backpressure} {q : Delivery.Sys}
    (run : Run (Delivery.Step deadlineUs) (.new capacity policy) ls q) : Settled q.await :=
  run.invariant (P := fun q => Settled q.await) settled_step
    fun status returned => absurd returned (by simp [Delivery.Sys.new, Await.start])

/-- Nothing is pushed behind a failure or behind `Finish`. -/
def Halting (calls : List SinkCall) : Prop :=
  calls.Pairwise fun before later => later.IsPush → before.IsPush ∧ before.status = .kOk

theorem clean_ok {calls : List SinkCall} {c : SinkCall} (clean : Await.Clean calls)
    (member : c ∈ calls) : c.IsPush ∧ c.status = .kOk := by
  obtain ⟨isPush, succeeded⟩ := clean c member
  cases c with
  | push m pkt status => exact ⟨isPush, not_not.mp succeeded⟩
  | finish status => exact isPush.elim

theorem halting_clean {calls : List SinkCall} (clean : Await.Clean calls) : Halting calls := by
  rw [Halting, List.pairwise_iff_forall_sublist]
  intro before later pair _
  exact clean_ok clean (pair.subset List.mem_cons_self)

theorem halting_broken {calls : List SinkCall} (broken : Await.Broken calls) : Halting calls := by
  obtain ⟨oks, m, pkt, status, rfl, clean, -⟩ := broken
  refine List.pairwise_append.mpr ⟨halting_clean clean, List.pairwise_singleton .., ?_⟩
  intro before member later last _
  exact clean_ok clean member

theorem halting_calls {a : Await} (sound : a.Sound) : Halting a.calls := by
  rw [Await.Sound] at sound
  split at sound
  · exact halting_clean sound
  · exact halting_clean sound
  · exact halting_clean sound.1
  · exact halting_broken sound
  · obtain ⟨pushes, result, whole, how⟩ := sound
    rw [whole]
    refine List.pairwise_append.mpr ⟨?_, List.pairwise_singleton .., ?_⟩
    · rcases how with ⟨clean, -⟩ | ⟨broken, -⟩
      · exact halting_clean clean
      · exact halting_broken broken
    · intro before member later last isPush
      rw [List.mem_singleton.mp last] at isPush
      exact isPush.elim

/-- A loop that has returned `kOk` saw every push succeed, and then `Finish`. -/
theorem returned_ok {a : Await} (sound : a.Sound) (settled : Settled a)
    (place : a.place = .returned .kOk) :
    ∃ pushes, a.calls = pushes ++ [.finish .kOk] ∧
      ∀ c ∈ pushes, c.IsPush ∧ c.status = .kOk := by
  rw [Await.Sound, place] at sound
  obtain ⟨pushes, result, whole, ⟨clean, -⟩ | ⟨-, failed⟩⟩ := sound
  · obtain failed | last := settled .kOk place
    · contradiction
    · rw [whole, List.getLast?_concat] at last
      cases last
      exact ⟨pushes, whole, fun c member => clean_ok clean member⟩
  · contradiction

/-- Without eviction the sink then got every packet that the queue accepted. -/
theorem returned_delivers {capacity : Capacity} {policy : Backpressure} {q : Delivery.Sys}
    (keeps : policy ≠ .kLatest) (run : Run (Delivery.Step deadlineUs) (.new capacity policy) ls q)
    (place : q.await.place = .returned .kOk) :
    ∃ pushes, q.await.calls = pushes ++ [.finish .kOk] ∧
      (∀ c ∈ pushes, c.IsPush ∧ c.status = .kOk) ∧
      ∀ m, handed m pushes = Delivery.accepted m ls := by
  have inv : Delivery.Inv ls q :=
    run.history Delivery.step_inv (Delivery.new_inv capacity policy keeps)
  obtain ⟨pushes, calls, clean⟩ := returned_ok inv.sound (run_settled run) place
  refine ⟨pushes, calls, clean, fun m => ?_⟩
  have succeeded : ∀ c ∈ q.await.calls, ¬c.Failed := by
    rw [calls]
    intro c member failed
    rcases List.mem_append.mp member with earlier | last
    · cases c with
      | push n pkt status => exact failed (clean _ earlier).2
      | finish status => exact failed
    · rw [List.mem_singleton.mp last] at failed
      exact failed
  rw [← (inv.complete place succeeded m).2, calls]
  simp [handed, SinkCall.handed]

end Steps
end Piped
end VideoCodec
