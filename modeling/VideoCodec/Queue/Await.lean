import Mathlib.Logic.Function.Basic
import VideoCodec.Core.Types

/-! The draining loop of `PacketQueue::Await`, as the thread sees it: what it
does with the result of each `Pull` and of each call on its sink. The two media
share `DrainOne`, a template in the packet type. -/
namespace VideoCodec

/-- A call on the sink with the status it returned. -/
inductive SinkCall where
  | push (m : Media) (pkt : m.Pkt) (status : Status)
  | finish (status : Status)

namespace SinkCall

def IsPush : SinkCall → Prop
  | .push _ _ _ => True
  | .finish _ => False

def Failed : SinkCall → Prop
  | .push _ _ status => status ≠ .kOk
  | .finish _ => False

/-- The packet of medium `m` that the call hands to the sink. -/
def handed (m : Media) : SinkCall → List m.Pkt
  | .push n pkt _ => n.only pkt m
  | .finish _ => []

end SinkCall

/-- Packets of medium `m` handed to the sink, in order. -/
def handed (m : Media) (calls : List SinkCall) : List m.Pkt := calls.flatMap (·.handed m)

/-- Where the thread stands between two critical sections. -/
inductive Place where
  | pull (m : Media)
  | deliver (m : Media) (pkt : m.Pkt)
  | abort
  | finish
  | returned (status : Status)

structure Await where
  place : Place
  done : Media → Bool
  calls : List SinkCall

namespace Await

/-- The next medium to drain after `m`: a done one is skipped, and the loop ends
when both are done. -/
def resume (done : Media → Bool) (m : Media) : Place :=
  if done m.other then
    if done m then .finish else .pull m
  else .pull m.other

def start : Await := ⟨.pull .video, fun _ => false, []⟩

/-- `DrainOne` after `Pull`. -/
def pulled (a : Await) (m : Media) : Status → Option m.Pkt → Await
  | .kOk, some pkt => { a with place := .deliver m pkt }
  | .kEos, _ =>
    { a with
      done := Function.update a.done m true
      place := resume (Function.update a.done m true) m }
  | _, _ => { a with place := resume a.done m }

/-- `DrainOne` after `sink.Push`. -/
def pushed (a : Await) (m : Media) (pkt : m.Pkt) (status : Status) : Await :=
  { a with
    calls := a.calls ++ [.push m pkt status]
    place := if status = .kOk then resume a.done m else .abort }

/-- The `Finish` of a failed `DrainOne`, whose result is dropped. -/
def aborted (a : Await) (status : Status) : Await :=
  { a with calls := a.calls ++ [.finish status], place := .returned .kEncodeFailed }

/-- The final `return sink.Finish()`. -/
def finished (a : Await) (status : Status) : Await :=
  { a with calls := a.calls ++ [.finish status], place := .returned status }

/-- The packet of medium `m` pulled but not handed to the sink yet. -/
def inHand (a : Await) (m : Media) : List m.Pkt :=
  match a.place with
  | .deliver n pkt => n.only pkt m
  | _ => []

/-- Packets of medium `m` that left the ring, in order. -/
def custody (a : Await) (m : Media) : List m.Pkt := handed m a.calls ++ a.inHand m

/-- Successful pushes only. -/
def Clean (calls : List SinkCall) : Prop := ∀ c ∈ calls, c.IsPush ∧ ¬c.Failed

/-- Successful pushes, then one that failed. -/
def Broken (calls : List SinkCall) : Prop :=
  ∃ before m pkt status, calls = before ++ [.push m pkt status] ∧ Clean before ∧ status ≠ .kOk

/-- What each place tells about the done flags and the calls made so far. -/
def Sound (a : Await) : Prop :=
  match a.place with
  | .pull _ | .deliver _ _ => Clean a.calls
  | .finish => Clean a.calls ∧ ∀ m, a.done m = true
  | .abort => Broken a.calls
  | .returned status => ∃ pushes result, a.calls = pushes ++ [.finish result] ∧
      (Clean pushes ∧ (∀ m, a.done m = true) ∨ Broken pushes ∧ status = .kEncodeFailed)

section Transitions
variable {a : Await} {m : Media} {pkt : m.Pkt} {status : Status}

theorem resume_cases (done : Media → Bool) (m : Media) :
    (resume done m = .finish ∧ ∀ n, done n = true) ∨ ∃ n, resume done m = .pull n := by
  rw [resume]
  split
  · rename_i skipped
    split
    · rename_i last
      refine .inl ⟨rfl, fun n => ?_⟩
      obtain rfl | rfl := m.eq_or_eq_other n
      · exact last
      · exact skipped
    · exact .inr ⟨m, rfl⟩
  · exact .inr ⟨m.other, rfl⟩

@[simp] theorem inHand_resume (done : Media → Bool) (calls : List SinkCall) (m n : Media) :
    (⟨resume done m, done, calls⟩ : Await).inHand n = [] := by
  obtain ⟨place, -⟩ | ⟨k, place⟩ := resume_cases done m <;> simp [inHand, place]

theorem custody_resume {done : Media → Bool} {calls : List SinkCall} (m n : Media) :
    (⟨resume done m, done, calls⟩ : Await).custody n = handed n calls := by simp [custody]

theorem pull_custody (place : a.place = .pull m) (n : Media) : a.custody n = handed n a.calls := by
  simp [custody, inHand, place]

theorem pulled_custody (place : a.place = .pull m) (oldest : m.Pkt) (n : Media) :
    (a.pulled m .kOk (some oldest)).custody n = a.custody n ++ m.only oldest n := by
  rw [pull_custody place]
  rfl

/-- A pull hands over a packet, or the loop goes on; then the medium is done if the
queue was at its end. -/
theorem pulled_cases (a : Await) (m : Media) (status : Status) (out : Option m.Pkt) :
    (∃ pkt, status = .kOk ∧ a.pulled m status out = { a with place := .deliver m pkt }) ∨
      ∃ done, a.pulled m status out = ⟨resume done m, done, a.calls⟩ ∧
        ∀ n, done n = true → a.done n = true ∨ (n = m ∧ status = .kEos) := by
  rw [pulled.eq_def]
  split
  · exact .inl ⟨_, rfl, rfl⟩
  · refine .inr ⟨_, rfl, fun n flag => ?_⟩
    by_cases same : n = m
    · exact .inr ⟨same, rfl⟩
    · exact .inl (by simpa [same] using flag)
  · exact .inr ⟨_, rfl, fun n flag => .inl flag⟩

theorem pulled_none_custody (place : a.place = .pull m) (other : status ≠ .kOk)
    (out : Option m.Pkt) (n : Media) : (a.pulled m status out).custody n = a.custody n := by
  rw [pull_custody place]
  obtain ⟨pkt, ok, -⟩ | ⟨done, pulled, -⟩ := a.pulled_cases m status out
  · exact absurd ok other
  · rw [pulled]
    exact custody_resume m n

theorem pushed_custody (place : a.place = .deliver m pkt) (n : Media) :
    (a.pushed m pkt status).custody n = a.custody n := by
  have before : a.custody n = handed n a.calls ++ m.only pkt n := by
    simp [custody, inHand, place]
  have after : handed n (a.calls ++ [.push m pkt status]) = handed n a.calls ++ m.only pkt n := by
    simp [handed, SinkCall.handed]
  rw [before, ← after]
  rw [pushed]
  split
  · exact custody_resume m n
  · simp [custody, inHand]

theorem aborted_custody (place : a.place = .abort) (n : Media) :
    (a.aborted status).custody n = a.custody n := by
  simp [custody, aborted, inHand, place, handed, SinkCall.handed]

theorem finished_custody (place : a.place = .finish) (n : Media) :
    (a.finished status).custody n = a.custody n := by
  simp [custody, finished, inHand, place, handed, SinkCall.handed]

theorem sound_resume {done : Media → Bool} {calls : List SinkCall} (clean : Clean calls) :
    Sound ⟨resume done m, done, calls⟩ := by
  obtain ⟨place, all⟩ | ⟨n, place⟩ := resume_cases done m
  · rw [place]
    exact ⟨clean, all⟩
  · rw [place]
    exact clean

theorem start_sound : start.Sound := fun _ member => absurd member List.not_mem_nil

theorem pulled_sound (sound : a.Sound) (place : a.place = .pull m) (out : Option m.Pkt) :
    (a.pulled m status out).Sound := by
  have clean : Clean a.calls := by simpa only [Sound, place] using sound
  obtain ⟨pkt, -, pulled⟩ | ⟨done, pulled, -⟩ := a.pulled_cases m status out
  · rw [pulled]
    exact clean
  · rw [pulled]
    exact sound_resume clean

/-- Neither exit of the loop is taken at a pull, nor after a successful push. -/
theorem resume_inside (done : Media → Bool) (m : Media) :
    resume done m ≠ .abort ∧ ∀ status, resume done m ≠ .returned status := by
  obtain ⟨place, -⟩ | ⟨n, place⟩ := resume_cases done m <;> simp [place]

theorem pulled_inside (a : Await) (m : Media) (status : Status) (out : Option m.Pkt) :
    (a.pulled m status out).place ≠ .abort ∧
      ∀ result, (a.pulled m status out).place ≠ .returned result := by
  obtain ⟨pkt, -, pulled⟩ | ⟨done, pulled, -⟩ := a.pulled_cases m status out
  · simp [pulled]
  · rw [pulled]
    exact resume_inside done m

theorem pulled_done {out : Option m.Pkt} {n : Media}
    (flag : (a.pulled m status out).done n = true) :
    a.done n = true ∨ (n = m ∧ status = .kEos) := by
  obtain ⟨pkt, -, pulled⟩ | ⟨done, pulled, ended⟩ := a.pulled_cases m status out
  · rw [pulled] at flag
    exact .inl flag
  · rw [pulled] at flag
    exact ended n flag

theorem pushed_sound (sound : a.Sound) (place : a.place = .deliver m pkt) :
    (a.pushed m pkt status).Sound := by
  have clean : Clean a.calls := by simpa only [Sound, place] using sound
  by_cases ok : status = .kOk
  · have longer : Clean (a.calls ++ [.push m pkt status]) := by
      intro c member
      rcases List.mem_append.mp member with earlier | last
      · exact clean c earlier
      · obtain rfl := List.mem_singleton.mp last
        exact ⟨trivial, fun failed => failed ok⟩
    simpa only [pushed, if_pos ok] using sound_resume longer
  · simp only [pushed, if_neg ok]
    exact ⟨a.calls, m, pkt, status, rfl, clean, ok⟩

theorem aborted_sound (sound : a.Sound) (place : a.place = .abort) : (a.aborted status).Sound := by
  have broken : Broken a.calls := by simpa only [Sound, place] using sound
  exact ⟨a.calls, status, rfl, .inr ⟨broken, rfl⟩⟩

theorem finished_sound (sound : a.Sound) (place : a.place = .finish) :
    (a.finished status).Sound := by
  have ended : Clean a.calls ∧ ∀ m, a.done m = true := by simpa only [Sound, place] using sound
  exact ⟨a.calls, status, rfl, .inl ended⟩

/-- A failed push is the last of a broken sequence. -/
theorem Broken.last {calls before after : List SinkCall} {c : SinkCall} (broken : Broken calls)
    (split : calls = before ++ c :: after) (failed : c.Failed) : after = [] := by
  obtain ⟨oks, n, pkt, status, whole, clean, -⟩ := broken
  obtain none | ⟨init, last, rfl⟩ := after.eq_nil_or_concat
  · exact none
  · rw [whole, List.concat_eq_append, ← List.cons_append, ← List.append_assoc] at split
    have inside : c ∈ oks := by
      rw [List.append_inj_left' split rfl]
      simp
    exact absurd failed (clean c inside).2

theorem Broken.isPush {calls : List SinkCall} (broken : Broken calls) : ∀ c ∈ calls, c.IsPush := by
  obtain ⟨oks, n, pkt, status, rfl, clean, -⟩ := broken
  intro c member
  rcases List.mem_append.mp member with earlier | last
  · exact (clean c earlier).1
  · obtain rfl := List.mem_singleton.mp last
    trivial

/-- After a failed push nothing else is pushed, and only `kEncodeFailed` is returned. -/
theorem failed_last {before after : List SinkCall} {c : SinkCall} (sound : a.Sound)
    (split : a.calls = before ++ c :: after) (failed : c.Failed) :
    (∀ later ∈ after, ¬later.IsPush) ∧ (a.place = .abort ∨ a.place = .returned .kEncodeFailed) := by
  have inside : c ∈ a.calls := by rw [split]; simp
  rw [Sound] at sound
  cases place : a.place with
  | pull n | deliver n pkt =>
    rw [place] at sound
    exact absurd failed (sound c inside).2
  | finish =>
    rw [place] at sound
    exact absurd failed (sound.1 c inside).2
  | abort =>
    rw [place] at sound
    rw [sound.last split failed]
    exact ⟨by simp, .inl rfl⟩
  | returned status =>
    rw [place] at sound
    obtain ⟨pushes, result, whole, how⟩ := sound
    obtain rfl | ⟨init, last, rfl⟩ := after.eq_nil_or_concat
    · rw [whole] at split
      have final := List.append_inj_right' split rfl
      simp only [List.cons.injEq, and_true] at final
      rw [← final] at failed
      exact failed.elim
    · rw [whole, List.concat_eq_append, ← List.cons_append, ← List.append_assoc] at split
      have earlier := List.append_inj_left' split rfl
      have final := List.append_inj_right' split rfl
      obtain ⟨clean, -⟩ | ⟨broken, rfl⟩ := how
      · exact absurd failed (clean c (by rw [earlier]; simp)).2
      · obtain rfl := broken.last earlier failed
        simp only [List.cons.injEq, and_true] at final
        subst final
        exact ⟨by simp [SinkCall.IsPush], .inr rfl⟩

theorem returned_calls (sound : a.Sound) (place : a.place = .returned status) :
    ∃ pushes result, a.calls = pushes ++ [.finish result] ∧ ∀ c ∈ pushes, c.IsPush := by
  simp only [Sound, place] at sound
  obtain ⟨pushes, result, whole, ⟨clean, -⟩ | ⟨broken, -⟩⟩ := sound
  · exact ⟨pushes, result, whole, fun c member => (clean c member).1⟩
  · exact ⟨pushes, result, whole, broken.isPush⟩

theorem returned_done (sound : a.Sound) (place : a.place = .returned status)
    (succeeded : ∀ c ∈ a.calls, ¬c.Failed) (m : Media) : a.done m = true := by
  simp only [Sound, place] at sound
  obtain ⟨pushes, result, whole, ⟨-, all⟩ | ⟨broken, -⟩⟩ := sound
  · exact all m
  · obtain ⟨oks, n, pkt, failure, rfl, -, failed⟩ := broken
    exact absurd failed (succeeded (.push n pkt failure) (by rw [whole]; simp))

end Transitions
end Await
end VideoCodec
