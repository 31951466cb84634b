import VideoCodec.Nal.AnnexB
import VideoCodec.Queue.PacketSink

/-! `FileConsumer` and `RawH264Sink` over files that may take only a part of what
they are given, through a stdio that may hold it back: what is in the file at any moment,
and what is in it when `Await` returns. -/
namespace VideoCodec

open Transition

def Media.data : (m : Media) → m.Pkt → List UInt8
  | .video, pkt => VideoPacket.data pkt
  | .audio, pkt => AudioPacket.data pkt

/-- Answers of stdio: how many bytes of a write it takes, and how many of those that it
holds go to the file. -/
structure FileReply where
  taken : Nat := 0
  stored : Nat := 0
  deriving DecidableEq, Repr

/-- A `FileByteSink` that is only written to: whether `fopen` succeeded, what has come to
the file, and what stdio still holds. -/
structure FileByteSink where
  isOpen : Bool
  bytes : List UInt8 := []
  buffer : List UInt8 := []
  deriving DecidableEq, Repr

namespace FileByteSink

def taken (f : FileByteSink) : List UInt8 := f.bytes ++ f.buffer

/-- The first `stored` bytes of those held go to the file. -/
def store (f : FileByteSink) (stored : Nat) : FileByteSink :=
  { f with bytes := f.bytes ++ f.buffer.take stored, buffer := f.buffer.drop stored }

/-- `fwrite`, which takes the first bytes of `data`. -/
def write (f : FileByteSink) (data : List UInt8) (reply : FileReply) : Bool × FileByteSink :=
  if f.isOpen then
    (data.length ≤ reply.taken,
      { f with buffer := f.buffer ++ data.take reply.taken }.store reply.stored)
  else (false, f)

/-- `fflush`. -/
def flush (f : FileByteSink) (reply : FileReply) : Bool × FileByteSink :=
  if f.isOpen then (f.buffer.length ≤ reply.stored, f.store reply.stored) else (false, f)

end FileByteSink

structure FileConsumer where
  /-- `video_sink_` and `audio_sink_`, null where there is no path and after `Finish`. -/
  sink : Media → Option FileByteSink
  /-- What a destroyed sink leaves in its file. -/
  left : Media → List UInt8 := fun _ => []
  /-- What its `fclose` failed to write. -/
  lost : Media → List UInt8 := fun _ => []

namespace FileConsumer

/-- `paths` tells which of the two are not empty, `opened` which files can be opened. -/
def new (paths opened : Media → Bool) : FileConsumer where
  sink m := if paths m then some { isOpen := opened m } else none

def ready (c : FileConsumer) (m : Media) : Bool := (c.sink m).any FileByteSink.isOpen

/-- A push where there is a file. -/
def writeTo (c : FileConsumer) (m : Media) (data : List UInt8) (reply : FileReply) :
    Status × FileConsumer :=
  match c.sink m with
  | none => (.kOk, c)
  | some f =>
    if data = [] then (.kOk, c)
    else
      (if (f.write data reply).1 then .kOk else .kEncodeFailed,
        { c with sink := Function.update c.sink m (some (f.write data reply).2) })

/-- Video needs its file. -/
def pushVideo (c : FileConsumer) (pkt : VideoPacket) (reply : Media → FileReply) :
    Status × FileConsumer :=
  if !c.ready .video then (.kInvalidArgument, c) else c.writeTo .video pkt.data (reply .video)

/-- Audio goes nowhere without one. -/
def pushAudio (c : FileConsumer) (pkt : AudioPacket) (reply : Media → FileReply) :
    Status × FileConsumer :=
  if !c.ready .audio then (.kOk, c) else c.writeTo .audio pkt.data (reply .audio)

/-- What is in the file of a medium. -/
def disk (c : FileConsumer) (m : Media) : List UInt8 :=
  match c.sink m with
  | some f => f.bytes
  | none => c.left m

/-- What a medium has taken that is not in its file. -/
def missing (c : FileConsumer) (m : Media) : List UInt8 :=
  match c.sink m with
  | some f => f.buffer
  | none => c.lost m

def taken (c : FileConsumer) (m : Media) : List UInt8 := c.disk m ++ c.missing m

/-- `Finish` destroys the sinks, and does not learn what `fclose` returns. -/
def finish (c : FileConsumer) (reply : Media → FileReply) : Status × FileConsumer :=
  let closed : FileConsumer :=
    { c with sink := fun m => (c.sink m).map (FileByteSink.store · (reply m).stored) }
  (.kOk, { sink := fun _ => none, left := closed.disk, lost := closed.missing })

def packetSink : PacketSink FileConsumer (Media → FileReply) := ⟨pushVideo, pushAudio, finish⟩

end FileConsumer

/-- `RawH264Sink`; its file may be null. -/
structure RawH264Sink where
  file : Option FileByteSink
  deriving DecidableEq, Repr

namespace RawH264Sink

/-- `file_->Write`, false without a file. -/
def write (s : RawH264Sink) (data : List UInt8) (reply : FileReply) : Bool × RawH264Sink :=
  match s.file with
  | none => (false, s)
  | some f => ((f.write data reply).1, ⟨some (f.write data reply).2⟩)

def pushVideo (s : RawH264Sink) (pkt : VideoPacket) (reply : FileReply) : Status × RawH264Sink :=
  if pkt.data = [] then (.kOk, s)
  else (if (s.write pkt.data reply).1 then .kOk else .kEncodeFailed, (s.write pkt.data reply).2)

def pushAudio (s : RawH264Sink) : Status × RawH264Sink := (.kOk, s)

def finish (s : RawH264Sink) (reply : FileReply) : Status × RawH264Sink :=
  match s.file with
  | none => (.kOk, s)
  | some f => (if (f.flush reply).1 then .kOk else .kEncodeFailed, ⟨some (f.flush reply).2⟩)

def packetSink : PacketSink RawH264Sink FileReply := ⟨pushVideo, fun s _ _ => s.pushAudio, finish⟩

def disk (s : RawH264Sink) : List UInt8 := (s.file.map FileByteSink.bytes).getD []

def taken (s : RawH264Sink) : List UInt8 := (s.file.map FileByteSink.taken).getD []

def ready (s : RawH264Sink) : Bool := s.file.any FileByteSink.isOpen

end RawH264Sink

/-- A sink that takes the packets of a medium for a file while it is ready for them.
A push that fails may have taken a part of its packet. -/
structure Storing {σ ρ : Type} (k : PacketSink σ ρ) (m : Media) where
  taken : σ → List UInt8
  ready : σ → Bool
  kept : k.Serves s c t → c.IsPush → ready t = ready s
  takes : k.Serves s c t → ∃ stored, taken t = taken s ++ stored ∧
    stored <+: (c.handed m).flatMap m.data ∧ (ready s = false → stored = []) ∧
    (ready s = true → c.status = .kOk → stored = (c.handed m).flatMap m.data)

namespace Storing
variable {σ ρ : Type} {k : PacketSink σ ρ} {m : Media} {s t : σ} {cs : List SinkCall}

theorem finish_taken (d : Storing k m) (serves : k.Serves s (.finish status) t) :
    d.taken t = d.taken s := by
  obtain ⟨stored, taken, part, -⟩ := d.takes serves
  rw [taken, List.prefix_nil.mp part, List.append_nil]

/-- While every push succeeds, all that is pushed is taken. -/
theorem run_takes (d : Storing k m) (run : Run k.Serves s cs t)
    (clean : ∀ c ∈ cs, c.IsPush ∧ c.status = .kOk) (ready : d.ready s = true) :
    d.ready t = true ∧ d.taken t = d.taken s ++ (handed m cs).flatMap m.data := by
  induction run with
  | refl => exact ⟨ready, (List.append_nil _).symm⟩
  | next head tail ih =>
    obtain ⟨⟨isPush, ok⟩, later⟩ := List.forall_mem_cons.mp clean
    obtain ⟨stored, taken, -, -, all⟩ := d.takes head
    obtain ⟨still, rest⟩ := ih later ((d.kept head isPush).trans ready)
    refine ⟨still, ?_⟩
    rw [rest, taken, all ready ok, handed, handed, List.flatMap_cons, List.flatMap_append,
      List.append_assoc]

theorem run_finishes (d : Storing k m) (run : Run k.Serves s cs t)
    (finishes : ∀ c ∈ cs, ¬c.IsPush) : d.taken t = d.taken s ∧ handed m cs = [] := by
  induction run with
  | refl => exact ⟨rfl, rfl⟩
  | @next s c s' cs t head tail ih =>
    obtain ⟨first, later⟩ := List.forall_mem_cons.mp finishes
    obtain ⟨taken, none⟩ := ih later
    cases c with
    | push n pkt status => exact absurd trivial first
    | finish status => exact ⟨taken.trans (d.finish_taken head), none⟩

/-- Nothing is taken where the sink is not ready. -/
theorem run_unready (d : Storing k m) (run : Run k.Serves s cs t) (halting : Piped.Halting cs)
    (unready : d.ready s = false) : d.taken t = d.taken s := by
  induction run with
  | refl => rfl
  | @next s c s' cs t head tail ih =>
    obtain ⟨first, rest⟩ := List.pairwise_cons.mp halting
    by_cases isPush : c.IsPush
    · obtain ⟨stored, taken, -, none, -⟩ := d.takes head
      rw [ih rest ((d.kept head isPush).trans unready), taken, none unready, List.append_nil]
    · obtain ⟨taken, -⟩ := d.run_finishes tail fun later member pushes =>
        isPush (first later member pushes).1
      cases c with
      | push n pkt status => exact absurd trivial isPush
      | finish status => exact taken.trans (d.finish_taken head)

/-- Whatever fails, a prefix of what is pushed is taken. -/
theorem run_prefix (d : Storing k m) (run : Run k.Serves s cs t) (halting : Piped.Halting cs)
    (ready : d.ready s = true) :
    ∃ written, d.taken t = d.taken s ++ written ∧ written <+: (handed m cs).flatMap m.data := by
  induction run with
  | refl => exact ⟨[], (List.append_nil _).symm, List.nil_prefix⟩
  | @next s c s' cs t head tail ih =>
    obtain ⟨first, rest⟩ := List.pairwise_cons.mp halting
    obtain ⟨stored, taken, part, -, all⟩ := d.takes head
    by_cases goes : c.IsPush ∧ c.status = .kOk
    · obtain ⟨written, taken', part'⟩ := ih rest ((d.kept head goes.1).trans ready)
      refine ⟨stored ++ written, by rw [taken', taken, List.append_assoc], ?_⟩
      rw [handed, List.flatMap_cons, List.flatMap_append, all ready goes.2]
      exact List.prefix_append_right_inj _ |>.mpr part'
    · obtain ⟨taken', none⟩ := d.run_finishes tail fun later member isPush =>
        goes (first later member isPush)
      refine ⟨stored, taken'.trans taken, ?_⟩
      rw [handed, List.flatMap_cons, ← handed, none, List.append_nil]
      exact part

/-- What has been taken once a queue has made the steps `ls`. -/
structure Recorded (d : Storing k m) (s : σ) (ls : List Delivery.Label) (t : Piped.Sys σ) :
    Prop where
  partly : ∃ written, d.taken t.sink = d.taken s ++ written ∧
    written <+: (Delivery.accepted m ls).flatMap m.data
  whole : t.queue.await.place = .returned .kOk → d.ready s = true →
    d.taken t.sink = d.taken s ++ (Delivery.accepted m ls).flatMap m.data

/-- A queue that evicts nothing hands on the packets that it accepts: a prefix of their
bytes is taken at any moment, all of them once `Await` has returned `kOk`. -/
theorem recorded (d : Storing k m) {capacity : Capacity} {policy : Backpressure}
    {deadlineUs : Int} {ls : List Delivery.Label} {t : Piped.Sys σ} (keeps : policy ≠ .kLatest)
    (run : Run (Piped.Step k deadlineUs) ⟨.new capacity policy, s⟩ ls t) : d.Recorded s ls t := by
  obtain ⟨queue, serves⟩ := Piped.run_serves run
  have inv : Delivery.Inv ls t.queue :=
    queue.history Delivery.step_inv (Delivery.new_inv capacity policy keeps)
  have conserved := inv.conserved m
  rw [Await.custody, List.append_assoc] at conserved
  refine ⟨?_, fun place ready => ?_⟩
  · have halting := Piped.halting_calls inv.sound
    cases ready : d.ready s with
    | false =>
      exact ⟨[], by rw [d.run_unready serves halting ready, List.append_nil], List.nil_prefix⟩
    | true =>
      obtain ⟨written, taken, part⟩ := d.run_prefix serves halting ready
      refine ⟨written, taken, part.trans ?_⟩
      rw [← conserved, List.flatMap_append]
      exact List.prefix_append _ _
  · obtain ⟨pushes, calls, clean, all⟩ := Piped.returned_delivers keeps queue place
    rw [calls] at serves
    obtain ⟨u, pushed, finished⟩ := serves.split
    obtain ⟨-, taken⟩ := d.run_takes pushed clean ready
    cases finished with
    | next head tail =>
      cases tail
      rw [d.finish_taken head, taken, all]

end Storing

section Files
variable {c : FileConsumer} {m n : Media} {data : List UInt8}

/-- What goes to the file was held before. -/
theorem FileByteSink.store_taken (f : FileByteSink) (stored : Nat) :
    (f.store stored).taken = f.taken := by
  rw [taken, store, List.append_assoc, List.take_append_drop, taken]

/-- An open file takes a prefix of what is written, and all of it if that succeeds. -/
theorem FileByteSink.write_cases (f : FileByteSink) (opened : f.isOpen = true)
    (data : List UInt8) (reply : FileReply) :
    (f.write data reply).2.isOpen = true ∧
      (f.write data reply).2.taken = f.taken ++ data.take reply.taken ∧
      ((f.write data reply).1 = true → data.take reply.taken = data) := by
  rw [write, if_pos opened]
  refine ⟨opened, ?_, fun all => List.take_of_length_le (of_decide_eq_true all)⟩
  rw [store_taken, taken, taken, List.append_assoc]

/-- Behind an `fflush` that succeeds the file has all that was taken. -/
theorem FileByteSink.flush_bytes {f : FileByteSink} {reply : FileReply}
    (ok : (f.flush reply).1 = true) : (f.flush reply).2.bytes = f.taken := by
  rw [flush] at ok ⊢
  split at ok
  · rw [if_pos ‹_›, store, List.take_of_length_le (of_decide_eq_true ok), taken]
  · contradiction

/-- What a push without a file returns. -/
def FileConsumer.absent : Media → Status
  | .video => .kInvalidArgument
  | .audio => .kOk

theorem FileConsumer.push_eq (c : FileConsumer) (n : Media) (pkt : n.Pkt)
    (reply : Media → FileReply) :
    FileConsumer.packetSink.push n c pkt reply =
      if !c.ready n then (FileConsumer.absent n, c) else c.writeTo n (n.data pkt) (reply n) := by
  cases n <;> rfl

theorem FileConsumer.taken_of_sink {f : FileByteSink} (sink : c.sink m = some f) :
    c.taken m = f.taken := by
  rw [taken, disk, missing, sink, FileByteSink.taken]

theorem FileConsumer.taken_congr {d : FileConsumer} (sink : d.sink m = c.sink m)
    (left : d.left = c.left) (lost : d.lost = c.lost) : d.taken m = c.taken m := by
  rw [taken, disk, missing, sink, left, lost, taken, disk, missing]

theorem FileConsumer.writeTo_takes {reply : FileReply} (ready : c.ready n = true) :
    ∃ part, (c.writeTo n data reply).2.taken = Function.update c.taken n (c.taken n ++ part) ∧
      part <+: data ∧ ((c.writeTo n data reply).1 = .kOk → part = data) ∧
      (c.writeTo n data reply).2.ready = c.ready := by
  obtain ⟨f, sink, opened⟩ := (Option.any_eq_true ..).mp ready
  rw [writeTo, sink]
  by_cases empty : data = []
  · refine ⟨[], ?_, List.nil_prefix, fun _ => empty.symm, by simp [empty]⟩
    simp [empty]
  · obtain ⟨still, wrote, whole⟩ := f.write_cases opened data reply
    simp only [if_neg empty]
    refine ⟨data.take reply.taken, ?_, List.take_prefix ..,
      fun ok => whole (by_contra fun failed => ?_), ?_⟩
    · funext m
      by_cases same : m = n
      · subst same
        rw [Function.update_self, taken_of_sink (Function.update_self ..), wrote,
          taken_of_sink sink]
      · rw [Function.update_of_ne same]
        exact taken_congr (Function.update_of_ne same ..) rfl rfl
    · rw [if_neg failed] at ok
      contradiction
    · funext m
      by_cases same : m = n
      · subst same
        simp [FileConsumer.ready, still, sink, opened]
      · simp [FileConsumer.ready, same]

/-- What is in the file and what `fclose` fails to write have been taken. -/
theorem FileConsumer.finish_taken (c : FileConsumer) (reply : Media → FileReply) (m : Media) :
    (c.finish reply).2.taken m = c.taken m := by
  let closed : FileConsumer :=
    { c with sink := fun m => (c.sink m).map (FileByteSink.store · (reply m).stored) }
  change closed.disk m ++ closed.missing m = _
  cases sink : c.sink m with
  | none => simp [closed, taken, disk, missing, sink]
  | some f =>
    rw [taken_of_sink sink, ← f.store_taken (reply m).stored]
    simp [closed, disk, missing, sink, FileByteSink.taken]

/-- A `FileConsumer` takes each medium for the file that it has for it. -/
def FileConsumer.storing (m : Media) : Storing FileConsumer.packetSink m where
  taken c := c.taken m
  ready c := c.ready m
  kept := by
    intro s c t serves isPush
    cases serves with
    | finish => exact isPush.elim
    | push n pkt reply =>
      rw [push_eq]
      cases ready : s.ready n with
      | false => rfl
      | true =>
        obtain ⟨part, -, -, -, kept⟩ := @writeTo_takes s n (n.data pkt) (reply n) ready
        exact congrFun kept m
  takes := by
    intro s c t serves
    cases serves with
    | finish reply =>
      refine ⟨[], ?_, List.nil_prefix, fun _ => rfl, fun _ _ => rfl⟩
      rw [List.append_nil]
      exact s.finish_taken reply m
    | push n pkt reply =>
      rw [push_eq]
      cases ready : s.ready n with
      | false =>
        refine ⟨[], (List.append_nil _).symm, List.nil_prefix, fun _ => rfl, fun here ok => ?_⟩
        have different : n ≠ m := by
          rintro rfl
          rw [here] at ready
          contradiction
        simp [SinkCall.handed, Media.only_other different]
      | true =>
        obtain ⟨part, took, isPart, whole, -⟩ := @writeTo_takes s n (n.data pkt) (reply n) ready
        by_cases same : n = m
        · subst same
          refine ⟨part, ?_, ?_, ?_, ?_⟩
          · exact (congrFun took n).trans (Function.update_self ..)
          · simpa [SinkCall.handed] using isPart
          · intro unready
            rw [ready] at unready
            contradiction
          · intro _ ok
            simpa [SinkCall.handed] using whole ok
        · refine ⟨[], ?_, List.nil_prefix, fun _ => rfl, fun _ _ => ?_⟩
          · rw [List.append_nil]
            exact (congrFun took m).trans (Function.update_of_ne (Ne.symm same) ..)
          · simp [SinkCall.handed, Media.only_other same]

/-- A video packet that finds no file fails. -/
theorem FileConsumer.run_absent {s t : FileConsumer} {calls : List SinkCall}
    (run : Run FileConsumer.packetSink.Serves s calls t) (pushes : ∀ c ∈ calls, c.IsPush)
    (absent : s.ready .video = false) :
    ∀ pkt status, .push .video pkt status ∈ calls → status = .kInvalidArgument := by
  induction run with
  | refl => exact fun _ _ member => absurd member List.not_mem_nil
  | next head tail ih =>
    obtain ⟨first, later⟩ := List.forall_mem_cons.mp pushes
    intro pkt status member
    rcases List.mem_cons.mp member with rfl | rest
    · cases head with
      | push m pkt stored =>
        rw [push_eq, absent]
        rfl
    · exact ih later (((storing .video).kept head first).trans absent) pkt status rest

theorem RawH264Sink.write_cases (s : RawH264Sink) (data : List UInt8) (reply : FileReply) :
    (s.write data reply).2.ready = s.ready ∧
      ∃ part, (s.write data reply).2.taken = s.taken ++ part ∧ part <+: data ∧
        (s.ready = false → part = []) ∧ ((s.write data reply).1 = true → part = data) := by
  rw [write]
  rcases file : s.file with _ | f
  · refine ⟨by simp [ready, file], [], by simp, List.nil_prefix, fun _ => rfl, nofun⟩
  · cases opened : f.isOpen with
    | false =>
      simp [FileByteSink.write, opened, ready, taken, file]
    | true =>
      obtain ⟨still, wrote, whole⟩ := f.write_cases opened data reply
      refine ⟨by simp [ready, file, opened, still], data.take reply.taken, ?_,
        List.take_prefix .., ?_, whole⟩
      · simp [taken, file, wrote]
      · simp [ready, file, opened]

theorem RawH264Sink.finish_taken (s : RawH264Sink) (reply : FileReply) :
    (s.finish reply).2.taken = s.taken := by
  rw [finish]
  split
  · rfl
  · rename_i f file
    rw [taken, taken, file, FileByteSink.flush]
    split
    · exact f.store_taken reply.stored
    · rfl

/-- A `Finish` that succeeds leaves all that was taken in the file. -/
theorem RawH264Sink.finish_disk {s t : RawH264Sink}
    (serves : RawH264Sink.packetSink.Serves s (.finish .kOk) t) : t.disk = s.taken := by
  obtain ⟨reply, finished⟩ := serves.finished
  simp only [packetSink, finish] at finished
  split at finished
  · rename_i file
    cases finished
    simp [disk, taken, file]
  · rename_i f file
    obtain ⟨ok, rfl⟩ := Prod.mk.inj finished
    rw [taken, file]
    refine FileByteSink.flush_bytes (by_contra fun failed => ?_)
    rw [if_neg failed] at ok
    contradiction

/-- `RawH264Sink` takes the video packets. -/
def RawH264Sink.storing : Storing RawH264Sink.packetSink .video where
  taken := taken
  ready := ready
  kept := by
    intro s c t serves isPush
    cases serves with
    | finish => exact isPush.elim
    | push m pkt reply =>
      cases m with
      | audio => rfl
      | video =>
        simp only [PacketSink.push, packetSink, pushVideo]
        split
        · rfl
        · exact (s.write_cases pkt.data reply).1
  takes := by
    intro s c t serves
    cases serves with
    | finish reply =>
      refine ⟨[], ?_, List.nil_prefix, fun _ => rfl, fun _ _ => rfl⟩
      rw [List.append_nil]
      exact s.finish_taken reply
    | push m pkt reply =>
      cases m with
      | audio =>
        exact ⟨[], (List.append_nil _).symm, List.nil_prefix, fun _ => rfl, fun _ _ => rfl⟩
      | video =>
        simp only [PacketSink.push, packetSink, pushVideo]
        split
        · rename_i empty
          refine ⟨[], (List.append_nil _).symm, List.nil_prefix, fun _ => rfl, fun _ _ => ?_⟩
          simp [SinkCall.handed, Media.data, empty]
        · obtain ⟨-, part, took, isPart, none, whole⟩ := s.write_cases pkt.data reply
          refine ⟨part, took, ?_, none, fun _ ok => ?_⟩
          · simpa [SinkCall.handed, Media.data] using isPart
          · rw [SinkCall.status] at ok
            split at ok
            · rename_i wrote
              simpa [SinkCall.handed, Media.data] using whole wrote
            · contradiction

/-- The units of packets that begin as Annex-B files do, one packet after the other. -/
theorem nalUnits_packets {pkts : List VideoPacket}
    (coded : ∀ pkt ∈ pkts, pkt.data ≠ [] → Android.kStartCode <+: pkt.data) :
    Android.nalUnits (pkts.flatMap VideoPacket.data) =
      pkts.flatMap fun pkt => Android.nalUnits pkt.data := by
  rw [List.flatMap_def, Android.nalUnits_flatten]
  · rw [List.flatMap_map]
  · intro part member
    obtain ⟨pkt, among, rfl⟩ := List.mem_map.mp member
    exact coded pkt among

section Recordings
variable {capacity : Capacity} {policy : Backpressure} {deadlineUs : Int}
  {paths opened : Media → Bool} {ls : List Delivery.Label} {t : Piped.Sys FileConsumer}

theorem FileConsumer.new_taken (paths opened : Media → Bool) (m : Media) :
    (FileConsumer.new paths opened).taken m = [] := by
  cases here : paths m <;> simp [taken, disk, missing, FileConsumer.new, here]

theorem FileConsumer.new_ready (paths opened : Media → Bool) (m : Media) :
    (FileConsumer.new paths opened).ready m = (paths m && opened m) := by
  cases here : paths m <;> simp [FileConsumer.ready, FileConsumer.new, here]

theorem FileConsumer.taken_head (keeps : policy ≠ .kLatest)
    (run : Run (Piped.Step FileConsumer.packetSink deadlineUs)
      ⟨.new capacity policy, .new paths opened⟩ ls t) (m : Media) :
    t.sink.taken m <+: (Delivery.accepted m ls).flatMap m.data := by
  obtain ⟨written, took, part⟩ := ((FileConsumer.storing m).recorded keeps run).partly
  change t.sink.taken m = (FileConsumer.new paths opened).taken m ++ written at took
  rw [took, new_taken, List.nil_append]
  exact part

theorem FileConsumer.disk_prefix (keeps : policy ≠ .kLatest)
    (run : Run (Piped.Step FileConsumer.packetSink deadlineUs)
      ⟨.new capacity policy, .new paths opened⟩ ls t) (m : Media) :
    t.sink.disk m <+: (Delivery.accepted m ls).flatMap m.data :=
  (List.prefix_append ..).trans (taken_head keeps run m)

theorem FileConsumer.taken_whole (keeps : policy ≠ .kLatest)
    (run : Run (Piped.Step FileConsumer.packetSink deadlineUs)
      ⟨.new capacity policy, .new paths opened⟩ ls t)
    (place : t.queue.await.place = .returned .kOk) {m : Media}
    (here : (paths m && opened m) = true) :
    t.sink.taken m = (Delivery.accepted m ls).flatMap m.data := by
  have ready := (new_ready paths opened m).trans here
  have took := ((FileConsumer.storing m).recorded keeps run).whole place ready
  change t.sink.taken m = (FileConsumer.new paths opened).taken m ++ _ at took
  rwa [new_taken, List.nil_append] at took

/-- Without a file no video packet can have succeeded, so there was none. -/
theorem FileConsumer.taken_video (keeps : policy ≠ .kLatest)
    (run : Run (Piped.Step FileConsumer.packetSink deadlineUs)
      ⟨.new capacity policy, .new paths opened⟩ ls t)
    (place : t.queue.await.place = .returned .kOk) :
    t.sink.taken .video = (Delivery.accepted .video ls).flatMap VideoPacket.data := by
  cases here : paths .video && opened .video with
  | true => exact taken_whole keeps run place here
  | false =>
    obtain ⟨queue, serves⟩ := Piped.run_serves run
    obtain ⟨pushes, calls, clean, all⟩ := Piped.returned_delivers keeps queue place
    rw [calls] at serves
    obtain ⟨u, pushed, -⟩ := serves.split
    have absent := FileConsumer.run_absent pushed (fun c member => (clean c member).1)
      ((new_ready paths opened .video).trans here)
    have none : handed .video pushes = [] := by
      rw [handed, List.flatMap_eq_nil_iff]
      intro c member
      rcases c with ⟨_ | _, pkt, status⟩ | status
      · have failed := absent pkt status member
        have ok := (clean _ member).2
        rw [SinkCall.status, failed] at ok
        contradiction
      · rfl
      · rfl
    have part := taken_head keeps run .video
    rw [← all, none] at part ⊢
    exact List.prefix_nil.mp part

/-- Once `Await` has returned `kOk` the files are closed: what is not in them is lost. -/
theorem FileConsumer.returned_closed (keeps : policy ≠ .kLatest)
    (run : Run (Piped.Step FileConsumer.packetSink deadlineUs)
      ⟨.new capacity policy, .new paths opened⟩ ls t)
    (place : t.queue.await.place = .returned .kOk) (m : Media) :
    t.sink.taken m = t.sink.disk m ++ t.sink.lost m := by
  obtain ⟨queue, serves⟩ := Piped.run_serves run
  obtain ⟨pushes, calls, -, -⟩ := Piped.returned_delivers keeps queue place
  rw [calls] at serves
  obtain ⟨u, -, finished⟩ := serves.split
  cases finished with
  | next head tail =>
    cases tail
    obtain ⟨reply, closes⟩ := head.finished
    rw [← (Prod.mk.inj closes).2]
    rfl

/-- What a raw recording holds: of each medium with a file, a prefix of the bytes that
the queue has accepted at any moment, and once `Await` has returned `kOk` all of them but
those that `fclose` failed to write. If it wrote them all, the video file is then one of
Annex-B units, where the packets begin as such files do. -/
theorem raw_recording (keeps : policy ≠ .kLatest)
    (run : Run (Piped.Step FileConsumer.packetSink deadlineUs)
      ⟨.new capacity policy, .new paths opened⟩ ls t) :
    (∀ m, t.sink.disk m <+: (Delivery.accepted m ls).flatMap m.data) ∧
    (t.queue.await.place = .returned .kOk →
      (∀ m, m = .video ∨ (paths m && opened m) = true →
        t.sink.disk m ++ t.sink.lost m = (Delivery.accepted m ls).flatMap m.data) ∧
      (t.sink.lost .video = [] →
        (∀ pkt ∈ Delivery.accepted .video ls, VideoPacket.data pkt ≠ [] →
          Android.kStartCode <+: VideoPacket.data pkt) →
        Android.nalUnits (t.sink.disk .video) =
          (Delivery.accepted .video ls).flatMap fun pkt => Android.nalUnits pkt.data)) := by
  refine ⟨FileConsumer.disk_prefix keeps run, fun place => ?_⟩
  have closed := FileConsumer.returned_closed keeps run place
  refine ⟨fun m here => ?_, fun wrote coded => ?_⟩
  · rw [← closed]
    rcases here with rfl | here
    · exact FileConsumer.taken_video keeps run place
    · exact FileConsumer.taken_whole keeps run place here
  · have disk := FileConsumer.taken_video keeps run place
    rw [closed, wrote, List.append_nil] at disk
    rw [disk]
    exact nalUnits_packets coded

/-- One frame between the two updates of `MarkEos`, in a file of video only: stdio takes
it, and `fclose` writes three of its bytes. -/
theorem raw_recording_frame :
    ∃ t : Piped.Sys FileConsumer, t.queue.await.place = .returned .kOk ∧
      t.sink.disk .video = [0, 0, 0] ∧ t.sink.disk .video ++ t.sink.lost .video =
        [0, 0, 0, 1, 0x65] := by
  let frame : VideoPacket := ⟨[0, 0, 0, 1, 0x65], 0, true⟩
  let takes : Media → FileReply := fun _ => { taken := 5 }
  let closes : Media → FileReply := fun _ => { stored := 3 }
  have run : Run (Piped.Step FileConsumer.packetSink 1000)
      ⟨.new ⟨1, by decide⟩ .kBlock, .new (· = .video) fun _ => true⟩
      [.push .video frame true, .markVideo, .pull .video .kOk (some frame),
        .sinkPush .video frame .kOk, .markAudio, .pull .audio .kEos none,
        .pull .video .kEos none, .sinkFinish .kOk] _ :=
    .next (.aside rfl (.push none (.pushEnter rfl))) <| .next (.aside rfl .markVideo) <|
      .next (.aside rfl (.pull rfl (.popEnter rfl))) <|
      .next (.calls rfl (.deliver rfl .kOk) (.push _ .video frame takes)) <|
      .next (.aside rfl (.markAudio (by decide))) <|
      .next (.aside rfl (.pull rfl (.popEnter rfl))) <|
      .next (.aside rfl (.pull rfl (.popEnter rfl))) <|
      .single (.calls rfl (.finish rfl .kOk) (.finish _ closes))
  exact ⟨_, rfl, rfl, ((raw_recording (by decide) run).2 rfl).1 .video (.inl rfl)⟩

end Recordings
end Files
end VideoCodec
