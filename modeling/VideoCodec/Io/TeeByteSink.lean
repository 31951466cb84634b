import VideoCodec.Control.FanOut
import VideoCodec.Transition.Run

/-! `TeeByteSink` over any writers. What a writer answers is an argument, given by its
index: how many bytes it stores, or whether it succeeds. -/
namespace VideoCodec

open Control Transition

/-- A `ByteSink`: a file, or a stream, which cannot seek. -/
structure Writer where
  seekable : Bool
  pos : Int := 0
  /-- What it has received, with the positions at which it did. -/
  received : List (Int × List UInt8) := []
  deriving DecidableEq, Repr

namespace Writer

/-- A write that stores the first `stored` bytes; it fails unless these are all. -/
def write (data : List UInt8) (stored : Nat) (w : Writer) : Bool × Writer :=
  (data.length ≤ stored,
    { w with
      pos := w.pos + (data.take stored).length
      received := w.received ++ [(w.pos, data.take stored)] })

def accepts (w : Writer) (pos : Int) (ok : Bool) : Bool := w.seekable && 0 ≤ pos && ok

/-- A seek that fails leaves the position alone. -/
def seek (pos : Int) (ok : Bool) (w : Writer) : Bool × Writer :=
  if w.accepts pos ok then (true, { w with pos }) else (false, w)

def tell (ok : Bool) (w : Writer) : Int := if w.seekable && ok then w.pos else -1

def flush (ok : Bool) (w : Writer) : Bool × Writer := (ok, w)

end Writer

structure TeeByteSink where
  writers : List Writer
  /-- Whether a `Write` has returned false. -/
  writeFailed : Bool := false
  deriving DecidableEq, Repr

namespace TeeByteSink

/-- A tee over new writers. -/
def new (seekable : List Bool) : TeeByteSink :=
  { writers := seekable.map fun seekable => { seekable } }

def write (t : TeeByteSink) (data : List UInt8) (stored : Nat → Nat) : Bool × TeeByteSink :=
  let called := fanOut (fun i w => w.write data (stored i)) t.writers
  (called.1, { writers := called.2, writeFailed := t.writeFailed || !called.1 })

def seek (t : TeeByteSink) (pos : Int) (ok : Nat → Bool) : Bool × TeeByteSink :=
  let called := fanOut (fun i w => w.seek pos (ok i)) t.writers
  (called.1, { t with writers := called.2 })

/-- The loop of `Tell`; `pos` is what it has found so far. -/
def tellFrom (pos : Int) (ok : Nat → Bool) : List Writer → Int
  | [] => pos
  | w :: rest =>
    let p := w.tell (ok 0)
    if p < 0 then -1 else tellFrom (if pos < 0 then p else pos) (fun i => ok (i + 1)) rest

def tell (t : TeeByteSink) (ok : Nat → Bool) : Int := tellFrom (-1) ok t.writers

def flush (t : TeeByteSink) (ok : Nat → Bool) : Bool × TeeByteSink :=
  let called := fanOut (fun i w => w.flush (ok i)) t.writers
  (called.1, { t with writers := called.2 })

inductive Label where
  | write (data : List UInt8) (stored : Nat → Nat)
  | seek (pos : Int) (ok : Nat → Bool)
  | tell (ok : Nat → Bool)
  | flush (ok : Nat → Bool)

def next (t : TeeByteSink) : Label → TeeByteSink
  | .write data stored => (t.write data stored).2
  | .seek pos ok => (t.seek pos ok).2
  | .tell _ => t
  | .flush ok => (t.flush ok).2

def Step (s : TeeByteSink) (l : Label) (t : TeeByteSink) : Prop := t = s.next l

/-- All writers stand at one position and have received the same bytes at the same ones. -/
def Aligned (t : TeeByteSink) : Prop :=
  ∀ v ∈ t.writers, ∀ w ∈ t.writers, v.pos = w.pos ∧ v.received = w.received

/-- A seek that fails moves no writer; as long as no write has failed the writers are
aligned, and a position that is told is that of all of them. -/
structure Coherent (s : TeeByteSink) (l : Label) (t : TeeByteSink) : Prop where
  unmoved : ∀ pos ok, l = .seek pos ok → (s.seek pos ok).1 = false →
    t.writers.map Writer.pos = s.writers.map Writer.pos
  aligned : t.writeFailed = false → t.Aligned
  told : ∀ ok, l = .tell ok → s.writeFailed = false → 0 ≤ s.tell ok →
    ∀ w ∈ s.writers, w.pos = s.tell ok

/-- Where a writer refuses to seek, those that are asked before it stand there already. -/
def Harmless (s : TeeByteSink) : Label → Prop
  | .seek pos ok => ∀ (j : Nat) (w : Writer), s.writers[j]? = some w →
      w.accepts pos (ok j) = false →
      (∀ i < j, ∀ v : Writer, s.writers[i]? = some v → v.accepts pos (ok i) = true) →
      ∀ i < j, ∀ v : Writer, s.writers[i]? = some v → v.pos = pos
  | _ => True

/-- The writers are aligned as long as no write has failed. -/
def InStep (t : TeeByteSink) : Prop := t.writeFailed = false → t.Aligned

section Steps
variable {s t : TeeByteSink} {l : Label} {ls : List Label} {pos : Int} {ok : Nat → Bool}

theorem seek_accepts (pos : Int) (ok : Bool) (w : Writer) :
    (w.seek pos ok).1 = w.accepts pos ok := by
  rw [Writer.seek]
  cases w.accepts pos ok <;> rfl

theorem seek_accepted {ok : Bool} {w : Writer} (accepts : w.accepts pos ok = true) :
    (w.seek pos ok).2 = { w with pos } := by
  rw [Writer.seek, if_pos accepts]

theorem seek_refused {ok : Bool} {w : Writer} (refuses : w.accepts pos ok = false) :
    (w.seek pos ok).2 = w := by
  rw [Writer.seek, refuses]
  rfl

/-- Writers that all do the same stay aligned. -/
theorem Aligned.map (aligned : s.Aligned) {act : Nat → Writer → Writer}
    (changed : ∀ i : Nat, t.writers[i]? = s.writers[i]?.map (act i))
    (alike : ∀ (i j : Nat) (v w : Writer), s.writers[i]? = some v → s.writers[j]? = some w →
      v.pos = w.pos → v.received = w.received →
      (act i v).pos = (act j w).pos ∧ (act i v).received = (act j w).received) : t.Aligned := by
  intro v first w second
  obtain ⟨i, found⟩ := List.mem_iff_getElem?.mp first
  obtain ⟨j, found'⟩ := List.mem_iff_getElem?.mp second
  rw [changed] at found found'
  obtain ⟨v, there, rfl⟩ := Option.map_eq_some_iff.mp found
  obtain ⟨w, there', rfl⟩ := Option.map_eq_some_iff.mp found'
  obtain ⟨pos, received⟩ :=
    aligned v (List.mem_of_getElem? there) w (List.mem_of_getElem? there')
  exact alike i j v w there there' pos received

theorem write_inStep (inStep : InStep s) (data : List UInt8) (stored : Nat → Nat) :
    InStep (s.write data stored).2 := by
  intro clean
  simp only [write, Bool.or_eq_false_iff, Bool.not_eq_false'] at clean
  obtain ⟨before, succeeds⟩ := clean
  apply Aligned.map (inStep before) (fanOut_all succeeds)
  intro i j v w there there' pos received
  have whole (i : Nat) (v : Writer) (there : s.writers[i]? = some v) :
      data.take (stored i) = data :=
    List.take_of_length_le (of_decide_eq_true (fanOut_succeeds.mp succeeds i v there))
  simp only [Writer.write, whole i v there, whole j w there', pos, received, and_self]

theorem flush_writers (s : TeeByteSink) (ok : Nat → Bool) :
    (s.flush ok).2.writers = s.writers := by
  apply List.ext_getElem?
  intro i
  rw [flush]
  by_cases reached : Reached (fun i w => Writer.flush (ok i) w) s.writers i
  · rw [fanOut_reached reached]
    exact congrFun Option.map_id _
  · rw [fanOut_unreached reached]

theorem seek_aligned (aligned : s.Aligned) (succeeds : (s.seek pos ok).1 = true) :
    (s.seek pos ok).2.Aligned := by
  apply Aligned.map aligned (fanOut_all succeeds)
  intro i j v w there there' _ received
  have accepted (i : Nat) (v : Writer) (there : s.writers[i]? = some v) :
      (v.seek pos (ok i)).2 = { v with pos } := by
    apply seek_accepted
    rw [← seek_accepts]
    exact fanOut_succeeds.mp succeeds i v there
  rw [accepted i v there, accepted j w there']
  exact ⟨rfl, received⟩

/-- Where those asked first stand at the target, a seek that fails changes nothing. -/
theorem seek_unmoved (harmless : s.Harmless (.seek pos ok)) (fails : (s.seek pos ok).1 = false) :
    (s.seek pos ok).2.writers = s.writers := by
  obtain ⟨j, w, refuser, reached, refuses⟩ := fanOut_fails.mp fails
  rw [seek_accepts] at refuses
  apply List.ext_getElem?
  intro i
  rw [seek]
  by_cases asked : Reached (fun i w => Writer.seek pos (ok i) w) s.writers i
  · rw [fanOut_reached asked]
    cases there : s.writers[i]? with
    | none => rfl
    | some v =>
      rw [Option.map_some]
      cases accepts : v.accepts pos (ok i) with
      | false => rw [seek_refused accepts]
      | true =>
        -- A writer that has moved is asked before the one that refuses.
        have before : i < j := by
          by_contra later
          obtain rfl | after := Nat.eq_or_lt_of_not_lt later
          · rw [there] at refuser
            cases refuser
            exact Bool.false_ne_true (refuses.symm.trans accepts)
          · have accepted := asked j after w refuser
            rw [seek_accepts] at accepted
            exact Bool.false_ne_true (refuses.symm.trans accepted)
        have stands : v.pos = pos := by
          apply harmless j w refuser refuses _ i before v there
          intro k earlier u member
          rw [← seek_accepts]
          exact reached k earlier u member
        rw [seek_accepted accepts, ← stands]
  · rw [fanOut_unreached asked]

theorem harmless_of_unmoved
    (unmoved : (s.seek pos ok).2.writers.map Writer.pos = s.writers.map Writer.pos) :
    s.Harmless (.seek pos ok) := by
  intro j w refuser refuses before i earlier v there
  have asked : Reached (fun i w => Writer.seek pos (ok i) w) s.writers i := by
    intro k first u member
    rw [seek_accepts]
    exact before k (Nat.lt_trans first earlier) u member
  have moved : (s.seek pos ok).2.writers[i]? = some { v with pos } := by
    rw [seek, fanOut_reached asked, there, Option.map_some,
      seek_accepted (before i earlier v there)]
  have same := congrArg (·[i]?) unmoved
  simp only [List.getElem?_map, moved, there, Option.map_some, Option.some.injEq] at same
  exact same.symm

/-- A position that is told is that of some writer. -/
theorem tellFrom_found {found : Int} {ws : List Writer} (told : 0 ≤ tellFrom found ok ws) :
    0 ≤ found ∧ tellFrom found ok ws = found ∨ ∃ w ∈ ws, tellFrom found ok ws = w.pos := by
  induction ws generalizing found ok with
  | nil => exact .inl ⟨told, rfl⟩
  | cons w ws ih =>
    rw [tellFrom] at told ⊢
    split at told
    · exact absurd told (by decide)
    · rename_i nonneg
      rw [if_neg nonneg]
      have here : w.tell (ok 0) = w.pos := by
        rw [Writer.tell] at nonneg ⊢
        split
        · rfl
        · rename_i silent
          exact absurd (by rw [if_neg silent]; decide) nonneg
      obtain ⟨positive, same⟩ | ⟨v, member, same⟩ := ih told
      · by_cases first : found < 0
        · rw [if_pos first] at same ⊢
          exact .inr ⟨w, List.mem_cons_self, same.trans here⟩
        · rw [if_neg first] at positive same ⊢
          exact .inl ⟨positive, same⟩
      · exact .inr ⟨v, List.mem_cons_of_mem w member, same⟩

theorem tell_aligned (aligned : s.Aligned) (told : 0 ≤ s.tell ok) :
    ∀ w ∈ s.writers, w.pos = s.tell ok := by
  intro w member
  obtain ⟨negative, -⟩ | ⟨v, other, same⟩ := tellFrom_found told
  · exact absurd negative (by decide)
  · exact (aligned w member v other).1.trans same.symm

theorem InStep.next (inStep : InStep s) (harmless : s.Harmless l) (step : Step s l t) :
    InStep t := by
  obtain rfl := step
  cases l with
  | write data stored => exact write_inStep inStep data stored
  | seek pos ok =>
    intro clean
    cases result : (s.seek pos ok).1 with
    | true => exact seek_aligned (inStep clean) result
    | false =>
      have same : (s.next (.seek pos ok)).writers = s.writers := seek_unmoved harmless result
      rw [Aligned, same]
      exact inStep clean
  | tell ok => exact inStep
  | flush ok =>
    intro clean
    have same : (s.next (.flush ok)).writers = s.writers := flush_writers s ok
    rw [Aligned, same]
    exact inStep clean

theorem InStep.coherent_iff (inStep : InStep s) (step : Step s l t) :
    Coherent s l t ↔ s.Harmless l := by
  constructor
  · intro coherent
    cases l with
    | seek pos ok =>
      obtain rfl := step
      cases result : (s.seek pos ok).1 with
      | false => exact harmless_of_unmoved (coherent.unmoved pos ok rfl result)
      | true =>
        intro j w refuser refuses
        have accepts := fanOut_succeeds.mp result j w refuser
        rw [seek_accepts] at accepts
        exact absurd (refuses.symm.trans accepts) Bool.false_ne_true
    | write | tell | flush => trivial
  · intro harmless
    refine ⟨?_, inStep.next harmless step, ?_⟩
    · rintro pos ok rfl fails
      obtain rfl := step
      exact congrArg _ (seek_unmoved harmless fails)
    · rintro ok rfl clean told
      exact tell_aligned (inStep clean) told

theorem new_inStep (seekable : List Bool) : InStep (new seekable) := by
  intro _ v first w second
  obtain ⟨_, _, rfl⟩ := List.mem_map.mp first
  obtain ⟨_, _, rfl⟩ := List.mem_map.mp second
  exact ⟨rfl, rfl⟩

/-- In a whole run no seek that fails moves a writer, and the writers stay aligned as long
as no write fails, exactly when no refused seek has moved a writer asked before. -/
theorem coherent_iff_harmless (seekable : List Bool) (ls : List Label) (t : TeeByteSink) :
    Run (Marked Step Coherent) (new seekable) ls t ↔
      Run (Guarded Step Harmless) (new seekable) ls t :=
  Run.marked_iff_guarded InStep.next InStep.coherent_iff (new_inStep seekable)

/-- A file before a stream: the seek is refused, and the next byte overwrites the first one
in the file only. -/
theorem refused_seek_moves_file :
    ∃ t, Run Step (new [true, false])
        [.write [1] fun _ => 1, .seek 0 fun _ => true, .write [2] fun _ => 1] t ∧
      t.writeFailed = false ∧
      t.writers.map Writer.received = [[(0, [1]), (0, [2])], [(0, [1]), (1, [2])]] ∧
      ¬ Run (Marked Step Coherent) (new [true, false])
        [.write [1] fun _ => 1, .seek 0 fun _ => true, .write [2] fun _ => 1] t := by
  refine ⟨_, .next rfl (.next rfl (.single rfl)), rfl, rfl, fun run => ?_⟩
  have aligned := run.invariant (P := InStep) (fun _ step => step.2.aligned) (new_inStep _)
  exact absurd (aligned rfl _ (.head _) _ (.tail _ (.head _))).1 (by decide)

end Steps
end TeeByteSink
end VideoCodec
