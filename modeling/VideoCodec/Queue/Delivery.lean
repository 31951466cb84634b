import VideoCodec.Queue.Await
import VideoCodec.Queue.RingFifo

/-! One thread in `Await`, any producers of either medium and any callers of
`MarkEos`, whose two ring updates are separate steps. A push that waits takes
effect when it ends, so only the end of a call is a step here. -/
namespace VideoCodec

open Transition

namespace Delivery

structure Sys where
  ring : (m : Media) → Ring m.Pkt
  marking : Nat
  await : Await

/-- A packet queue whose consumer has just entered `Await`; `marking` counts the
callers of `MarkEos` between the two rings. -/
def Sys.new (capacity : Capacity) (policy : Backpressure) : Sys :=
  ⟨fun _ => .new capacity policy, 0, .start⟩

inductive Label where
  | push (m : Media) (pkt : m.Pkt) (accepted : Bool)
  | markVideo
  | markAudio
  | pull (m : Media) (status : Status) (out : Option m.Pkt)
  | sinkPush (m : Media) (pkt : m.Pkt) (status : Status)
  | sinkFinish (status : Status)

/-- The packet of medium `m` that the step lets into its ring. -/
def Label.accepted (m : Media) : Label → List m.Pkt
  | .push n pkt true => n.only pkt m
  | _ => []

/-- Packets of medium `m` accepted so far, in order. -/
def accepted (m : Media) (ls : List Label) : List m.Pkt := ls.flatMap (·.accepted m)

def Sys.withRing (s : Sys) (m : Media) (r : Ring m.Pkt) : Sys :=
  { s with ring := Function.update s.ring m r }

/-- The steps of an `Await` called with `deadlineUs` and of its environment. -/
inductive Step (deadlineUs : Int) : Sys → Label → Sys → Prop where
  | push {s : Sys} {m : Media} {r : Ring m.Pkt} {pkt : m.Pkt} (displaced : Option m.Pkt)
      (ended : Ring.Step (s.ring m) (.push pkt took displaced) r) :
      Step deadlineUs s (.push m pkt took) (s.withRing m r)
  | markVideo : Step deadlineUs s .markVideo
      { s.withRing .video (s.ring .video).markEos with marking := s.marking + 1 }
  | markAudio (between : 0 < s.marking) : Step deadlineUs s .markAudio
      { s.withRing .audio (s.ring .audio).markEos with marking := s.marking - 1 }
  | pull {s : Sys} {m : Media} {r : Ring m.Pkt} {out : Option m.Pkt}
      (place : s.await.place = .pull m)
      (popped : Ring.Step (s.ring m) (.pop deadlineUs status out) r) :
      Step deadlineUs s (.pull m status out)
        { s.withRing m r with await := s.await.pulled m status out }
  | deliver (place : s.await.place = .deliver m pkt) (status) :
      Step deadlineUs s (.sinkPush m pkt status) { s with await := s.await.pushed m pkt status }
  | abort (place : s.await.place = .abort) (status) :
      Step deadlineUs s (.sinkFinish status) { s with await := s.await.aborted status }
  | finish (place : s.await.place = .finish) (status) :
      Step deadlineUs s (.sinkFinish status) { s with await := s.await.finished status }

/-- What holds after the steps `ls`: of each medium, the packets handed to the
sink, the one in hand and those in the ring are the accepted ones in order. -/
structure Inv (ls : List Label) (s : Sys) : Prop where
  valid : ∀ m, (s.ring m).Valid
  keeps : ∀ m, (s.ring m).policy ≠ .kLatest
  conserved : ∀ m, s.await.custody m ++ (s.ring m).contents = accepted m ls
  drained : ∀ m, s.await.done m = true → (s.ring m).eos = true ∧ (s.ring m).contents = []
  sound : s.await.Sound

section Step
variable {s t : Sys} {l : Label} {ls : List Label} {deadlineUs : Int}

theorem accepted_snoc (m : Media) (ls : List Label) (l : Label) :
    accepted m (ls ++ [l]) = accepted m ls ++ l.accepted m := by simp [accepted]

@[simp] theorem withRing_self (s : Sys) (m : Media) (r : Ring m.Pkt) :
    (s.withRing m r).ring m = r := by simp [Sys.withRing]

theorem withRing_other (s : Sys) {m n : Media} (different : n ≠ m) (r : Ring m.Pkt) :
    (s.withRing m r).ring n = s.ring n := by simp [Sys.withRing, different]

theorem new_inv (capacity : Capacity) (policy : Backpressure) (keeps : policy ≠ .kLatest) :
    Inv [] (.new capacity policy) where
  valid _ := Ring.new_valid capacity policy
  keeps _ := keeps
  conserved m := by
    simp [Sys.new, Await.start, Await.custody, handed, Await.inHand, accepted, Ring.new,
      Ring.contents]
  drained m done := by simp [Sys.new, Await.start] at done
  sound := Await.start_sound

/-- A step of one ring keeps the invariant when it moves packets of its medium
only between acceptance, the ring and the thread's custody. -/
theorem Inv.transfer {m : Media} {r : Ring m.Pkt} {a : Await} (inv : Inv ls s)
    (valid : r.Valid) (policy : r.policy = (s.ring m).policy) (sound : a.Sound)
    (moved : a.custody m ++ r.contents =
      s.await.custody m ++ (s.ring m).contents ++ l.accepted m)
    (drained : a.done m = true → r.eos = true ∧ r.contents = [])
    (others : ∀ n, n ≠ m → a.custody n = s.await.custody n ∧ l.accepted n = [] ∧
      a.done n = s.await.done n) :
    Inv (ls ++ [l]) { s.withRing m r with await := a } where
  valid n := by
    by_cases same : n = m
    · subst same
      simpa using valid
    · simpa [withRing_other, same] using inv.valid n
  keeps n := by
    by_cases same : n = m
    · subst same
      simpa [policy] using inv.keeps n
    · simpa [withRing_other, same] using inv.keeps n
  conserved n := by
    rw [accepted_snoc, ← inv.conserved n]
    by_cases same : n = m
    · subst same
      simpa using moved
    · obtain ⟨custody, none, -⟩ := others n same
      simp [withRing_other, same, custody, none]
  drained n done := by
    by_cases same : n = m
    · subst same
      simpa using drained done
    · obtain ⟨-, -, flag⟩ := others n same
      simpa [withRing_other, same] using inv.drained n (flag ▸ done)
  sound := sound

theorem push_inv {m : Media} {pkt : m.Pkt} {took : Bool} {r : Ring m.Pkt} (inv : Inv ls s)
    (ends : Ring.PushEnds (s.ring m) pkt took r) :
    Inv (ls ++ [.push m pkt took]) (s.withRing m r) := by
  obtain ⟨contents, opened⟩ := ends.contents_eq (inv.valid m) (inv.keeps m)
  have label : ∀ n, (Label.push m pkt took).accepted n = if took then m.only pkt n else [] := by
    intro n
    cases took <;> rfl
  refine inv.transfer (m := m) (a := s.await) (ends.valid (inv.valid m)) ends.frame.2.1 inv.sound
    ?_ ?_ ?_
  · rw [contents, label]
    cases took <;> simp
  · intro done
    obtain ⟨ended, drained⟩ := inv.drained m done
    refine ⟨ends.frame.2.2.trans ended, ?_⟩
    cases took with
    | true => exact absurd (opened rfl) (by simp [ended])
    | false => simpa [drained] using contents
  · intro n different
    refine ⟨rfl, ?_, rfl⟩
    rw [label, Media.only_other (Ne.symm different)]
    simp

theorem mark_inv {m : Media} (inv : Inv ls s) (nothing : ∀ n, l.accepted n = []) :
    Inv (ls ++ [l]) (s.withRing m (s.ring m).markEos) := by
  refine inv.transfer (m := m) (a := s.await) (Ring.markEos_valid (inv.valid m)) rfl inv.sound
    ?_ ?_ (fun n _ => ⟨rfl, nothing n, rfl⟩)
  · simp [nothing]
  · intro done
    exact ⟨rfl, (inv.drained m done).2⟩

theorem pull_inv {m : Media} {status : Status} {out : Option m.Pkt} {r : Ring m.Pkt}
    (inv : Inv ls s) (place : s.await.place = .pull m)
    (ends : Ring.PopEnds (s.ring m) ⟨status, out, r⟩) :
    Inv (ls ++ [.pull m status out])
      { s.withRing m r with await := s.await.pulled m status out } := by
  have valid := ends.valid (inv.valid m)
  have sound : (s.await.pulled m status out).Sound := Await.pulled_sound inv.sound place out
  obtain ⟨oldest, rfl, rfl, first⟩ | ⟨rfl, rfl, ended, none⟩ | ⟨rfl, rfl, opened, none⟩ :=
    ends.contents_eq (inv.valid m)
  · have took := Await.pulled_custody place oldest
    refine inv.transfer valid ends.frame.2.1 sound ?_ ?_ ?_
    · rw [took, first]
      simp [Label.accepted]
    · intro done
      have drained := (inv.drained m done).2
      rw [first] at drained
      contradiction
    · intro n different
      rw [took, Media.only_other (Ne.symm different), List.append_nil]
      exact ⟨rfl, rfl, rfl⟩
  · have kept := Await.pulled_none_custody place (show Status.kEos ≠ .kOk by decide) out
    refine inv.transfer valid rfl sound ?_ (fun _ => ⟨ended, none⟩) ?_
    · simp [kept, Label.accepted]
    · intro n different
      exact ⟨kept n, rfl, by simp [Await.pulled, different]⟩
  · have kept := Await.pulled_none_custody place (show Status.kEmpty ≠ .kOk by decide) out
    refine inv.transfer valid rfl sound ?_ (fun done => inv.drained m done) ?_
    · simp [kept, Label.accepted]
    · intro n _
      exact ⟨kept n, rfl, rfl⟩

/-- A step of the thread outside the rings keeps the invariant. -/
theorem Inv.sink {a : Await} (inv : Inv ls s) (sound : a.Sound)
    (custody : ∀ n, a.custody n = s.await.custody n) (done : a.done = s.await.done)
    (nothing : ∀ n, l.accepted n = []) : Inv (ls ++ [l]) { s with await := a } where
  valid := inv.valid
  keeps := inv.keeps
  conserved n := by
    rw [accepted_snoc, nothing, List.append_nil, ← inv.conserved n, ← custody n]
  drained n flag := inv.drained n (done ▸ flag)
  sound := sound

theorem step_inv (inv : Inv ls s) (step : Step deadlineUs s l t) : Inv (ls ++ [l]) t := by
  cases step with
  | push displaced ended => exact push_inv inv (ended.push_ends (inv.valid _))
  | markVideo =>
    have marked := mark_inv (m := .video) (l := .markVideo) inv (fun _ => rfl)
    exact ⟨marked.valid, marked.keeps, marked.conserved, marked.drained, marked.sound⟩
  | markAudio between =>
    have marked := mark_inv (m := .audio) (l := .markAudio) inv (fun _ => rfl)
    exact ⟨marked.valid, marked.keeps, marked.conserved, marked.drained, marked.sound⟩
  | pull place popped => exact pull_inv inv place popped.pop_ends
  | deliver place status =>
    exact inv.sink (Await.pushed_sound inv.sound place) (Await.pushed_custody place) rfl
      (fun _ => rfl)
  | abort place status =>
    exact inv.sink (Await.aborted_sound inv.sound place) (Await.aborted_custody place) rfl
      (fun _ => rfl)
  | finish place status =>
    exact inv.sink (Await.finished_sound inv.sound place) (Await.finished_custody place) rfl
      (fun _ => rfl)

/-- What a user of `Await` relies on, after the steps `ls`. -/
structure Contract (deadlineUs : Int) (ls : List Label) (s : Sys) : Prop where
  in_order : ∀ m, handed m s.await.calls <+: accepted m ls
  complete : ∀ status, s.await.place = .returned status → (∀ c ∈ s.await.calls, ¬c.Failed) →
    ∀ m, (s.ring m).eos = true ∧ handed m s.await.calls = accepted m ls
  failure_last : ∀ before c after, s.await.calls = before ++ c :: after → c.Failed →
    (∀ later ∈ after, ¬later.IsPush) ∧
      (s.await.place = .abort ∨ s.await.place = .returned .kEncodeFailed)
  abort_returns : s.await.place = .abort →
    (∃ l t, Step deadlineUs s l t ∧ t.await.place = .returned .kEncodeFailed) ∧
      ∀ l t, Step deadlineUs s l t →
        t.await = s.await ∨ t.await.place = .returned .kEncodeFailed
  finished_once : ∀ status, s.await.place = .returned status →
    ∃ pushes result, s.await.calls = pushes ++ [.finish result] ∧ ∀ c ∈ pushes, c.IsPush

theorem abort_step (place : s.await.place = .abort) (step : Step deadlineUs s l t) :
    t.await = s.await ∨ t.await.place = .returned .kEncodeFailed := by
  cases step with
  | push | markVideo | markAudio => exact .inl rfl
  | abort => exact .inr rfl
  | pull at_pull => rw [place] at at_pull; contradiction
  | deliver at_deliver => rw [place] at at_deliver; contradiction
  | finish at_finish => rw [place] at at_finish; contradiction

theorem Inv.complete (inv : Inv ls s) (place : s.await.place = .returned status)
    (succeeded : ∀ c ∈ s.await.calls, ¬c.Failed) (m : Media) :
    (s.ring m).eos = true ∧ handed m s.await.calls = accepted m ls := by
  obtain ⟨ended, none⟩ := inv.drained m (Await.returned_done inv.sound place succeeded m)
  refine ⟨ended, ?_⟩
  rw [← inv.conserved m, none]
  simp [Await.custody, Await.inHand, place]

/-- For every deadline, capacity, lossless policy and interleaving, `Await`
meets its contract in every state it reaches. -/
theorem await_delivers (capacity : Capacity) (keeps : policy ≠ .kLatest)
    (run : Run (Step deadlineUs) (.new capacity policy) ls s) : Contract deadlineUs ls s := by
  have inv : Inv ls s := run.history step_inv (new_inv capacity policy keeps)
  exact {
    in_order := fun m => by
      rw [← inv.conserved m, Await.custody, List.append_assoc]
      exact List.prefix_append _ _
    complete := fun status place succeeded => inv.complete place succeeded
    failure_last := fun before c after split failed => Await.failed_last inv.sound split failed
    abort_returns := fun place =>
      ⟨⟨_, _, .abort place .kOk, rfl⟩, fun l t step => abort_step place step⟩
    finished_once := fun status place => Await.returned_calls inv.sound place }

/-- One video packet delivered between the two updates of `MarkEos` and the end. -/
theorem await_delivers_one :
    ∃ s, Contract 1000 [.push .video (default : VideoPacket) true, .markVideo,
        .pull .video .kOk (some (default : VideoPacket)),
        .sinkPush .video (default : VideoPacket) .kOk, .markAudio, .pull .audio .kEos none,
        .pull .video .kEos none, .sinkFinish .kOk] s ∧ s.await.place = .returned .kOk := by
  have keeps : Backpressure.kBlock ≠ .kLatest := by decide
  refine ⟨_, await_delivers ⟨1, by decide⟩ keeps
    (.next (.push none (.pushEnter rfl)) <| .next .markVideo <| .next (.pull rfl (.popEnter rfl)) <|
      .next (.deliver rfl .kOk) <| .next (.markAudio (by decide)) <|
      .next (.pull rfl (.popEnter rfl)) <| .next (.pull rfl (.popEnter rfl)) <|
      .single (.finish rfl .kOk)), rfl⟩

end Step
end Delivery
end VideoCodec
