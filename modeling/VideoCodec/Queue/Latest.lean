import VideoCodec.Fifo.Newest
import VideoCodec.Queue.Delivery

/-! The delivery of a queue under any back-pressure policy, `kLatest` included:
a live consumer may miss packets, never the newest ones, and it never meets a
packet that is more than one capacity behind the producers. -/
namespace VideoCodec

open Transition

namespace Ring
variable {Pkt : Type} [Inhabited Pkt] {r r' : Ring Pkt} {pkt : Pkt} {out all : List Pkt}
  {took : Bool}

theorem contents_within (valid : r.Valid) : r.contents.length ≤ r.capacity.size := by
  rw [contents_length]
  exact valid.count_le

/-- A push that ends keeps the newest packets, whatever the policy. -/
theorem PushEnds.selects (ends : PushEnds r pkt took r') (valid : r.Valid)
    (held : Fifo.Selects r.capacity.size out r.contents all) :
    Fifo.Selects r.capacity.size out r'.contents (all ++ if took then [pkt] else []) := by
  cases ends with
  | late | refused => simpa using held
  | stored opened room =>
    rw [store_contents valid room]
    exact held.join pkt
  | evicted opened full policy =>
    have nonempty : 0 < r.count := by rw [full]; exact r.capacity.asserted.1
    have dropped := dropHead_valid valid nonempty
    have room : r.dropHead.count < r.dropHead.capacity.size := by
      simp only [dropHead_count, dropHead_capacity]
      omega
    have split := contents_eq_cons valid nonempty
    rw [split] at held
    rw [store_contents dropped room]
    refine held.displace ?_ pkt
    rw [contents_length, dropHead_count]
    omega

theorem PushEnds.opened (ends : PushEnds r pkt true r') : r.eos = false := by
  cases ends with
  | evicted opened | stored opened => exact opened

theorem PushEnds.declined (ends : PushEnds r pkt false r') : r' = r := by
  cases ends <;> rfl

theorem PopEnds.written (ends : PopEnds r ⟨status, some pkt, r'⟩) (valid : r.Valid) :
    r.contents = pkt :: r'.contents := by
  cases ends with
  | oldest nonempty => exact contents_eq_cons valid nonempty

end Ring

namespace Delivery

/-- What holds after the steps `ls` under every policy: of each medium, the
packets handed to the sink, the one in hand and those in the ring select from
the accepted ones. -/
structure Live (capacity : Nat) (ls : List Label) (s : Sys) : Prop where
  valid : ∀ m, (s.ring m).Valid
  sized : ∀ m, (s.ring m).capacity.size = capacity
  selects : ∀ m, Fifo.Selects capacity (s.await.custody m) (s.ring m).contents (accepted m ls)
  drained : ∀ m, s.await.done m = true → (s.ring m).eos = true ∧ (s.ring m).contents = []
  sound : s.await.Sound

section Live
variable {s t : Sys} {l : Label} {ls : List Label} {deadlineUs : Int} {capacity : Nat}

theorem new_live (capacity : Capacity) (policy : Backpressure) :
    Live capacity.size [] (.new capacity policy) where
  valid _ := Ring.new_valid capacity policy
  sized _ := rfl
  selects m := by
    have empty : ((Sys.new capacity policy).ring m).contents = [] := by
      simp [Sys.new, Ring.new, Ring.contents]
    rw [empty]
    exact .nil capacity.size
  drained m done := by simp [Sys.new, Await.start] at done
  sound := Await.start_sound

/-- A step of the ring of one medium, with what the thread makes of it. -/
theorem Live.transfer {m : Media} {r : Ring m.Pkt} {a : Await} (live : Live capacity ls s)
    (valid : r.Valid) (sized : r.capacity = (s.ring m).capacity) (sound : a.Sound)
    (selects : Fifo.Selects capacity (a.custody m) r.contents (accepted m ls ++ l.accepted m))
    (drained : a.done m = true → r.eos = true ∧ r.contents = [])
    (others : ∀ n, n ≠ m → a.custody n = s.await.custody n ∧ l.accepted n = [] ∧
      a.done n = s.await.done n) :
    Live capacity (ls ++ [l]) { s.withRing m r with await := a } where
  valid n := by
    by_cases same : n = m
    · subst same
      simpa using valid
    · simpa [withRing_other, same] using live.valid n
  sized n := by
    by_cases same : n = m
    · subst same
      simpa [sized] using live.sized n
    · simpa [withRing_other, same] using live.sized n
  selects n := by
    rw [accepted_snoc]
    by_cases same : n = m
    · subst same
      simpa using selects
    · obtain ⟨custody, none, -⟩ := others n same
      simpa [withRing_other, same, custody, none] using live.selects n
  drained n done := by
    by_cases same : n = m
    · subst same
      simpa using drained done
    · obtain ⟨-, -, flag⟩ := others n same
      simpa [withRing_other, same] using live.drained n (flag ▸ done)
  sound := sound

theorem push_live {m : Media} {pkt : m.Pkt} {took : Bool} {r : Ring m.Pkt}
    (live : Live capacity ls s) (ends : Ring.PushEnds (s.ring m) pkt took r) :
    Live capacity (ls ++ [.push m pkt took]) (s.withRing m r) := by
  have label : ∀ n, (Label.push m pkt took).accepted n = if took then m.only pkt n else [] := by
    intro n
    cases took <;> rfl
  have held : Fifo.Selects (s.ring m).capacity.size (s.await.custody m) (s.ring m).contents
      (accepted m ls) := (live.sized m).symm ▸ live.selects m
  refine live.transfer (m := m) (a := s.await) (ends.valid (live.valid m)) ends.frame.1 live.sound
    ?_ ?_ ?_
  · rw [label, Media.only_self, ← live.sized m]
    exact ends.selects (live.valid m) held
  · intro done
    obtain ⟨ended, none⟩ := live.drained m done
    cases took with
    | true => exact absurd ends.opened (by simp [ended])
    | false =>
      rw [ends.declined]
      exact ⟨ended, none⟩
  · intro n different
    refine ⟨rfl, ?_, rfl⟩
    rw [label, Media.only_other (Ne.symm different)]
    simp

theorem mark_live {m : Media} (live : Live capacity ls s) (nothing : ∀ n, l.accepted n = []) :
    Live capacity (ls ++ [l]) (s.withRing m (s.ring m).markEos) := by
  refine live.transfer (m := m) (a := s.await) (Ring.markEos_valid (live.valid m)) rfl live.sound
    ?_ ?_ (fun n _ => ⟨rfl, nothing n, rfl⟩)
  · rw [nothing, List.append_nil, Ring.markEos_contents]
    exact live.selects m
  · intro done
    exact ⟨rfl, (live.drained m done).2⟩

theorem pull_live {m : Media} {status : Status} {out : Option m.Pkt} {r : Ring m.Pkt}
    (live : Live capacity ls s) (place : s.await.place = .pull m)
    (ends : Ring.PopEnds (s.ring m) ⟨status, out, r⟩) :
    Live capacity (ls ++ [.pull m status out])
      { s.withRing m r with await := s.await.pulled m status out } := by
  have valid := ends.valid (live.valid m)
  have sound : (s.await.pulled m status out).Sound := Await.pulled_sound live.sound place out
  have held := live.selects m
  obtain ⟨oldest, rfl, rfl, first⟩ | ⟨rfl, rfl, ended, none⟩ | ⟨rfl, rfl, opened, none⟩ :=
    ends.contents_eq (live.valid m)
  · have took := Await.pulled_custody place oldest
    refine live.transfer valid ends.frame.1 sound ?_ ?_ ?_
    · rw [took, Media.only_self]
      rw [first] at held
      simpa [Label.accepted] using held.take
    · intro done
      have drained := (live.drained m done).2
      rw [first] at drained
      contradiction
    · intro n different
      rw [took, Media.only_other (Ne.symm different), List.append_nil]
      exact ⟨rfl, rfl, rfl⟩
  · have kept := Await.pulled_none_custody place (show Status.kEos ≠ .kOk by decide) out
    refine live.transfer valid rfl sound ?_ (fun _ => ⟨ended, none⟩) ?_
    · simpa [kept, Label.accepted] using held
    · intro n different
      exact ⟨kept n, rfl, by simp [Await.pulled, different]⟩
  · have kept := Await.pulled_none_custody place (show Status.kEmpty ≠ .kOk by decide) out
    refine live.transfer valid rfl sound ?_ (fun done => live.drained m done) ?_
    · simpa [kept, Label.accepted] using held
    · intro n _
      exact ⟨kept n, rfl, rfl⟩

/-- A call on the sink moves no packet between the thread and the rings. -/
theorem Live.sink {a : Await} (live : Live capacity ls s) (sound : a.Sound)
    (custody : ∀ n, a.custody n = s.await.custody n) (done : a.done = s.await.done)
    (nothing : ∀ n, l.accepted n = []) : Live capacity (ls ++ [l]) { s with await := a } where
  valid := live.valid
  sized := live.sized
  selects n := by
    rw [accepted_snoc, nothing, List.append_nil, custody n]
    exact live.selects n
  drained n flag := live.drained n (done ▸ flag)
  sound := sound

theorem step_live (live : Live capacity ls s) (step : Step deadlineUs s l t) :
    Live capacity (ls ++ [l]) t := by
  cases step with
  | push displaced ended => exact push_live live (ended.push_ends (live.valid _))
  | markVideo =>
    have marked := mark_live (m := .video) (l := .markVideo) live (fun _ => rfl)
    exact ⟨marked.valid, marked.sized, marked.selects, marked.drained, marked.sound⟩
  | markAudio between =>
    have marked := mark_live (m := .audio) (l := .markAudio) live (fun _ => rfl)
    exact ⟨marked.valid, marked.sized, marked.selects, marked.drained, marked.sound⟩
  | pull place popped => exact pull_live live place popped.pop_ends
  | deliver place status =>
    exact live.sink (Await.pushed_sound live.sound place) (Await.pushed_custody place) rfl
      (fun _ => rfl)
  | abort place status =>
    exact live.sink (Await.aborted_sound live.sound place) (Await.aborted_custody place) rfl
      (fun _ => rfl)
  | finish place status =>
    exact live.sink (Await.finished_sound live.sound place) (Await.finished_custody place) rfl
      (fun _ => rfl)

/-- What a live consumer relies on, after the steps `ls`. -/
structure LiveContract (deadlineUs : Int) (capacity : Nat) (ls : List Label) (s : Sys) : Prop where
  in_order : ∀ m, (handed m s.await.calls).Sublist (accepted m ls)
  recent : ∀ m, (s.ring m).contents <:+ accepted m ls
  latency : ∀ m status pkt t, Step deadlineUs s (.pull m status (some pkt)) t →
    ∃ older newer, accepted m ls = older ++ pkt :: newer ∧ newer.length < capacity
  complete : ∀ status, s.await.place = .returned status → (∀ c ∈ s.await.calls, ¬c.Failed) →
    ∀ m, (s.ring m).eos = true ∧ (accepted m ls).rtake capacity <:+ handed m s.await.calls

theorem Live.latency {m : Media} {status : Status} {pkt : m.Pkt} (live : Live capacity ls s)
    (step : Step deadlineUs s (.pull m status (some pkt)) t) :
    ∃ older newer, accepted m ls = older ++ pkt :: newer ∧ newer.length < capacity := by
  cases step with
  | pull place popped =>
    have first := popped.pop_ends.written (live.valid m)
    have held := live.selects m
    have within := Ring.contents_within (live.valid m)
    rw [live.sized m, first, List.length_cons] at within
    rw [first] at held
    exact held.behind within

theorem Live.complete (live : Live capacity ls s) (place : s.await.place = .returned status)
    (succeeded : ∀ c ∈ s.await.calls, ¬c.Failed) (m : Media) :
    (s.ring m).eos = true ∧ (accepted m ls).rtake capacity <:+ handed m s.await.calls := by
  obtain ⟨ended, none⟩ := live.drained m (Await.returned_done live.sound place succeeded m)
  have held := live.selects m
  have custody : s.await.custody m = handed m s.await.calls := by
    simp [Await.custody, Await.inHand, place]
  rw [none, custody] at held
  exact ⟨ended, held.drained.2⟩

/-- For every deadline, capacity, policy and interleaving: the sink gets accepted
packets in order, each pulled while fewer than `capacity` newer ones had been
accepted, and once `Await` returns without failure it has got the newest
`capacity` of them. -/
theorem await_keeps_newest (capacity : Capacity) (policy : Backpressure)
    (run : Run (Step deadlineUs) (.new capacity policy) ls s) :
    LiveContract deadlineUs capacity.size ls s := by
  have live : Live capacity.size ls s := run.history step_live (new_live capacity policy)
  exact {
    in_order := fun m => by
      refine List.Sublist.trans ?_ (live.selects m).ordered
      rw [Await.custody, List.append_assoc]
      exact List.sublist_append_left _ _
    recent := fun m => (live.selects m).recent
    latency := fun m status pkt t step => live.latency step
    complete := fun status place succeeded => live.complete place succeeded }

/-- A ring of one slot loses the first of two packets; the second is delivered. -/
theorem await_keeps_newest_second :
    ∃ s, LiveContract 1000 1 [.push .video (default : VideoPacket) true,
        .push .video { (default : VideoPacket) with ptsUs := 33333 } true, .markVideo, .markAudio,
        .pull .video .kOk (some { (default : VideoPacket) with ptsUs := 33333 })] s := by
  refine ⟨_, await_keeps_newest ⟨1, by decide⟩ .kLatest
    (.next (.push _ (.pushEnter rfl)) <| .next (.push _ (.pushEnter rfl)) <| .next .markVideo <|
      .next (.markAudio (by decide)) <| .single (.pull rfl (.popEnter rfl)))⟩

end Live
end Delivery
end VideoCodec
