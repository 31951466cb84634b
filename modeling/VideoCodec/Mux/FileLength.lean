import VideoCodec.Memory.File
import VideoCodec.Mux.FFmpegMuxer
import VideoCodec.Transition.Run

/-! The callbacks of `FFmpegMuxer` on a sink that is a file, and whether `written_`, which
`SEEK_END` counts from, is its length. -/
namespace VideoCodec

open Memory Transition

/-- What the callbacks reach, with the file behind the sink. -/
structure Recorded where
  out : Output
  file : File UInt8 := {}
  deriving DecidableEq, Repr

namespace Recorded

/-- A muxer that has written nothing, on an empty file. -/
def start (sink : Nat) : Recorded := { out := { sink := some sink } }

/-- A call of libavformat with what the file makes of it: the bytes that a write stores
before it ends, and whether a seek succeeds. -/
inductive Label where
  | write (data : List UInt8) (stored : Nat)
  | seek (offset whence : Int) (accepted : Bool)
  deriving DecidableEq, Repr

/-- The file behind a seek that `SinkSeek` asks for, if it asks. -/
def sought (r : Recorded) (offset whence : Int) (accepted : Bool) : File UInt8 :=
  match r.out.seekTarget offset whence r.file.pos with
  | some target => if 0 ≤ target ∧ accepted then r.file.seek target.toNat else r.file
  | none => r.file

def call (r : Recorded) : Label → Int × Recorded
  | .write data stored =>
    let (ret, out) := r.out.sinkWrite .frame data (data.length ≤ stored)
    (ret, { out, file := r.file.write 0 (data.take stored) })
  | .seek offset whence accepted =>
    let file := r.sought offset whence accepted
    let (ret, out) := r.out.sinkSeek .frame offset whence r.file.pos accepted file.pos
    (ret, { out, file })

def Step (r : Recorded) (l : Label) (s : Recorded) : Prop := s = (r.call l).2

/-- Behind the call `written_` is the length of the file, and a seek from the end has
counted from there. -/
structure Tracks (r : Recorded) (l : Label) (s : Recorded) : Prop where
  written : s.out.written = s.file.bytes.length
  fromEnd : ∀ offset, l = .seek offset 2 true → 0 ≤ r.file.bytes.length + offset →
    s.file.pos = r.file.bytes.length + offset ∧ (r.call l).1 = r.file.bytes.length + offset

/-- A write that succeeds stands at the end of the file, and one that fails on the way
has stayed inside it. -/
def Appends (r : Recorded) : Label → Prop
  | .write data stored =>
    if data.length ≤ stored then data = [] ∨ r.file.pos = r.file.bytes.length
    else stored = 0 ∨ r.file.pos + stored ≤ r.file.bytes.length
  | .seek .. => True

/-- The sink is attached, and its length has been counted so far. -/
structure Counted (r : Recorded) : Prop where
  sink : r.out.sink.isSome = true
  written : r.out.written = r.file.bytes.length

section Steps
variable {r s : Recorded} {l : Label} {ls : List Label}

theorem write_written (sink : r.out.sink.isSome = true) (data : List UInt8) (stored : Nat) :
    (r.call (.write data stored)).2.out.written =
      r.out.written + if data.length ≤ stored then (data.length : Int) else 0 := by
  obtain ⟨sink, attached⟩ := Option.isSome_iff_exists.mp sink
  dsimp only [call]
  rw [Output.sinkWrite, attached]
  by_cases all : data.length ≤ stored
  · simp [all, Output.ask]
  · simp [all, Output.ask]

/-- What a seek leaves alone. -/
theorem seek_frame (r : Recorded) (offset whence : Int) (accepted : Bool) :
    (r.call (.seek offset whence accepted)).2.out.written = r.out.written ∧
      (r.call (.seek offset whence accepted)).2.file.bytes = r.file.bytes := by
  constructor
  · dsimp only [call]
    rw [Output.sinkSeek]
    split
    · split
      · rfl
      · cases accepted <;> rfl
    · rfl
  · dsimp only [call]
    rw [sought]
    split
    · split <;> rfl
    · rfl

theorem call_sink (r : Recorded) (l : Label) : (r.call l).2.out.sink = r.out.sink := by
  cases l with
  | write data stored => exact r.out.sinkWrite_sink ..
  | seek offset whence accepted => exact r.out.sinkSeek_sink ..

/-- A seek from the end of what has been counted. -/
theorem seek_end (sink : r.out.sink.isSome = true) {offset : Int}
    (inside : 0 ≤ r.out.written + offset) :
    (r.call (.seek offset 2 true)).2.file.pos = r.out.written + offset ∧
      (r.call (.seek offset 2 true)).1 = r.out.written + offset := by
  obtain ⟨sink, attached⟩ := Option.isSome_iff_exists.mp sink
  have target : r.out.seekTarget offset 2 r.file.pos = some (r.out.written + offset) := rfl
  have moved : r.sought offset 2 true = r.file.seek (r.out.written + offset).toNat := by
    rw [sought, target]
    exact if_pos ⟨inside, rfl⟩
  dsimp only [call]
  rw [Output.sinkSeek, attached, target, moved]
  simp only [Int.not_lt.mpr inside, if_false, if_true, File.seek_pos, and_self]
  omega

theorem write_tracks_iff (counted : Counted r) (data : List UInt8) (stored : Nat) :
    (r.call (.write data stored)).2.out.written =
        (r.call (.write data stored)).2.file.bytes.length ↔
      r.Appends (.write data stored) := by
  have file : (r.call (.write data stored)).2.file = r.file.write 0 (data.take stored) := rfl
  rw [write_written counted.sink, file, counted.written, Appends]
  by_cases all : data.length ≤ stored
  · have appended := @File.write_length_eq_add_iff _ 0 r.file data
    rw [if_pos all, if_pos all, List.take_of_length_le all, ← appended]
    omega
  · have inside := @File.write_length_eq_iff _ 0 r.file (data.take stored)
    have taken : (data.take stored).length = stored := by
      rw [List.length_take]
      omega
    have none : data.take stored = [] ↔ stored = 0 := by rw [← List.length_eq_zero_iff, taken]
    rw [taken, none] at inside
    rw [if_neg all, if_neg all, ← inside]
    omega

theorem Counted.tracks_iff (counted : Counted r) (step : Step r l s) :
    Tracks r l s ↔ r.Appends l := by
  obtain rfl := step
  cases l with
  | write data stored =>
    rw [← write_tracks_iff counted]
    exact ⟨fun tracks => tracks.written, fun written => ⟨written, fun _ seeks => by cases seeks⟩⟩
  | seek offset whence accepted =>
    obtain ⟨written, bytes⟩ := r.seek_frame offset whence accepted
    refine iff_of_true ⟨?_, ?_⟩ trivial
    · rw [written, bytes, counted.written]
    · rintro offset ⟨⟩ inside
      rw [← counted.written] at inside ⊢
      exact seek_end counted.sink inside

theorem Counted.next (counted : Counted r) (appends : r.Appends l) (step : Step r l s) :
    Counted s := by
  have tracks := (counted.tracks_iff step).mpr appends
  obtain rfl := step
  exact ⟨by rw [call_sink]; exact counted.sink, tracks.written⟩

/-- `written_` is the length of the file in a whole run of callbacks exactly when every
write of it adds to the end of the file what it counts. -/
theorem length_tracked_iff (sink : Nat) (ls : List Label) (s : Recorded) :
    Run (Marked Step Tracks) (start sink) ls s ↔
      Run (Guarded Step Appends) (start sink) ls s :=
  Run.marked_iff_guarded Counted.next Counted.tracks_iff ⟨rfl, rfl⟩

/-- Two bytes, and the first of them written again: the end of the file is now sought at 3. -/
theorem rewrite_counted_twice :
    ∃ s, Run Step (start 0) [.write [1, 2] 2, .seek 0 0 true, .write [3] 1] s ∧
      s.file.bytes = [3, 2] ∧ s.out.written = 3 ∧ (s.call (.seek 0 2 true)).1 = 3 ∧
      ¬ Run (Marked Step Tracks) (start 0)
        [.write [1, 2] 2, .seek 0 0 true, .write [3] 1] s := by
  refine ⟨_, .next rfl (.next rfl (.single rfl)), rfl, rfl, rfl, fun run => ?_⟩
  have tracked := run.invariant (P := fun s => s.out.written = s.file.bytes.length)
    (fun _ step => step.2.written) rfl
  exact absurd tracked (by decide)

end Steps
end Recorded
end VideoCodec
