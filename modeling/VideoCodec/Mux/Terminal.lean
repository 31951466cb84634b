import Mathlib.Data.List.Nodup
import VideoCodec.Transition.Run
import VideoCodec.Mux.FFmpegMuxer
import VideoCodec.Mux.MediaCodecMuxer

/-! Whether `Finish` is terminal, for each of the two muxers: a lifetime records
what has been finished and released, and what pushes do behind that. -/
namespace VideoCodec

open Transition

def SinkRequest.isWrite : SinkRequest → Bool
  | .write .. => true
  | _ => false

def AvioCall.isWrite : AvioCall → Bool
  | .write .. => true
  | .seek .. => false

def FileRequest.isWrite : FileRequest → Bool
  | .write .. => true
  | .flush _ => false

/-- The number of writes that sinks were asked for. -/
def Output.writes (out : Output) : Nat := out.events.countP fun event => event.request.isWrite

namespace Output
variable (out : Output) (origin : Origin)

theorem ask_writes (sink : Nat) (request : SinkRequest) :
    (out.ask origin sink request).writes = out.writes + if request.isWrite then 1 else 0 := by
  unfold ask writes
  rw [List.countP_append, List.countP_singleton]

theorem sinkWrite_writes (data : List UInt8) (accepted : Bool) :
    (out.sinkWrite origin data accepted).2.writes =
      out.writes + if out.sink.isSome then 1 else 0 := by
  rw [sinkWrite]
  cases out.sink with
  | none => rfl
  | some sink =>
    cases accepted with
    | true => exact out.ask_writes origin sink _
    | false => exact out.ask_writes origin sink _

theorem sinkSeek_writes (offset whence tell : Int) (accepted : Bool) (position : Int) :
    (out.sinkSeek origin offset whence tell accepted position).2.writes = out.writes := by
  rw [sinkSeek]
  split
  · split
    · rfl
    · cases accepted with
      | true => exact out.ask_writes origin _ _
      | false => exact out.ask_writes origin _ _
  · rfl

theorem callback_writes (call : AvioCall) :
    (out.callback origin call).2.writes =
      out.writes + if out.sink.isSome && call.isWrite then 1 else 0 := by
  cases call with
  | write data accepted =>
    rw [AvioCall.isWrite, Bool.and_true]
    exact out.sinkWrite_writes origin data accepted
  | seek offset whence tell accepted position =>
    rw [AvioCall.isWrite, Bool.and_false]
    exact out.sinkSeek_writes origin offset whence tell accepted position

/-- A call into libavformat makes the sink write when it writes to an attached sink. -/
theorem serve_writes (calls : List AvioCall) :
    (out.serve origin calls).writes =
      out.writes + if out.sink.isSome then calls.countP AvioCall.isWrite else 0 := by
  induction calls generalizing out with
  | nil => simp [serve]
  | cons call calls ih =>
    refine (ih _).trans ?_
    rw [callback_writes, callback_sink, List.countP_cons]
    cases out.sink.isSome with
    | false => rfl
    | true =>
      rw [if_pos rfl, if_pos rfl, Bool.true_and]
      omega

variable {out} in
theorem serve_writes_lt (attached : out.sink.isSome = true) (calls : List AvioCall) :
    decide (out.writes < (out.serve origin calls).writes) = calls.any AvioCall.isWrite := by
  rw [serve_writes, attached, if_pos rfl]
  cases wrote : calls.any AvioCall.isWrite with
  | true =>
    have positive := List.countP_pos_iff.mpr (List.any_eq_true.mp wrote)
    exact decide_eq_true (by omega)
  | false =>
    have none : calls.countP AvioCall.isWrite = 0 :=
      List.countP_eq_zero.mpr (List.any_eq_false.mp wrote)
    exact decide_eq_false (by omega)

end Output

namespace FFmpegMuxer

def Call.isPush : Call → Bool
  | .pushVideo .. | .pushAudio .. => true
  | _ => false

def Call.isFinish : Call → Bool
  | .finish _ => true
  | _ => false

/-- A muxer with its past: whether `Finish` has returned, whether a push behind
that has opened a container or written to the sink, and the sinks that have got
a header. -/
structure Lifetime where
  muxer : FFmpegMuxer
  finished : Bool := false
  late : Bool := false
  headers : List Nat := []

def Lifetime.next (av : LibAV) (l : Lifetime) (c : Call) : Option Lifetime :=
  let m := (call av l.muxer c).2
  let opens := !l.muxer.opened && m.opened
  some {
    muxer := m
    finished := l.finished || c.isFinish
    late := l.late ||
      (l.finished && c.isPush && (opens || decide (l.muxer.out.writes < m.out.writes)))
    headers := l.headers ++ if opens then l.muxer.out.sink.toList else [] }

/-- No late push has done anything, and no sink has got two headers. -/
structure Terminal (l : Lifetime) : Prop where
  late : l.late = false
  headers : l.headers.Nodup

/-- A push that opens a container comes before `Finish` and finds a sink without
a header, and behind `Finish` none makes `avformat_write_header` write. -/
def TerminalMeets (l : Lifetime) : Call → Prop
  | .pushVideo pkt reply =>
    pkt.data ≠ [] → pkt.keyframe = true → l.muxer.opened = false →
      ∀ sink, l.muxer.out.sink = some sink →
        (opens l.muxer.config pkt reply.opening = true →
          l.finished = false ∧ sink ∉ l.headers) ∧
        (asksHeader l.muxer.config pkt reply.opening = true →
          reply.opening.header.io.any AvioCall.isWrite = true → l.finished = false)
  | _ => True

/-- Behind `Finish` no container is open, unless a late push has opened one. -/
def Closing (l : Lifetime) : Prop :=
  l.finished = true → l.late = false → l.muxer.opened = false

section Steps
variable {av : LibAV} {l : Lifetime}

/-- A step keeps the rule exactly when it is no late one and its header is new. -/
theorem terminal_next_iff {l' : Lifetime} {c : Call} (terminal : Terminal l)
    (step : Lifetime.next av l c = some l') {opens wrote : Bool}
    (opening : (!l.muxer.opened && (call av l.muxer c).2.opened) = opens)
    (writing : decide (l.muxer.out.writes < (call av l.muxer c).2.out.writes) = wrote) :
    Terminal l' ↔ (l.finished && c.isPush && (opens || wrote)) = false ∧
      (opens = true → ∀ sink, l.muxer.out.sink = some sink → sink ∉ l.headers) := by
  obtain rfl := Option.some.inj step
  subst opening writing
  have late : (l.late || (l.finished && c.isPush &&
      (!l.muxer.opened && (call av l.muxer c).2.opened ||
        decide (l.muxer.out.writes < (call av l.muxer c).2.out.writes)))) = false ↔
      (l.finished && c.isPush && (!l.muxer.opened && (call av l.muxer c).2.opened ||
        decide (l.muxer.out.writes < (call av l.muxer c).2.out.writes))) = false := by
    rw [terminal.late, Bool.false_or]
  have headers (opens : Bool) :
      (l.headers ++ if opens then l.muxer.out.sink.toList else []).Nodup ↔
      (opens = true → ∀ sink, l.muxer.out.sink = some sink → sink ∉ l.headers) := by
    cases opens with
    | false => simp [terminal.headers]
    | true =>
      cases l.muxer.out.sink with
      | none => simp [terminal.headers]
      | some sink =>
        rw [if_pos rfl, Option.toList_some, List.nodup_append_comm, List.singleton_append,
          List.nodup_cons]
        constructor
        · rintro ⟨fresh, _⟩ _ _ known
          obtain rfl := Option.some.inj known
          exact fresh
        · exact fun fresh => ⟨fresh rfl sink rfl, terminal.headers⟩
  constructor
  · intro kept
    exact ⟨late.mp kept.late, (headers _).mp kept.headers⟩
  · rintro ⟨quiet, fresh⟩
    exact ⟨late.mpr quiet, (headers _).mpr fresh⟩

/-- A step that opens nothing and is no late write. -/
theorem terminal_of_quiet {l' : Lifetime} {c : Call} (terminal : Terminal l)
    (step : Lifetime.next av l c = some l')
    (opening : (!l.muxer.opened && (call av l.muxer c).2.opened) = false)
    (quiet : l.finished = true → c.isPush = true →
      (call av l.muxer c).2.out.writes = l.muxer.out.writes) :
    Terminal l' := by
  apply (terminal_next_iff terminal step opening rfl).mpr
  refine ⟨?_, fun opens => absurd opens Bool.false_ne_true⟩
  cases finished : l.finished with
  | false => rfl
  | true =>
    cases push : c.isPush with
    | false => rfl
    | true => simp [quiet finished push]

theorem Untouched.opens_nothing {m n : FFmpegMuxer} (untouched : Untouched m n) :
    (!m.opened && n.opened) = false := by
  cases untouched with
  | closed fmt audio =>
    unfold opened
    rw [fmt]
    exact Bool.and_false _
  | same eq tagged =>
    rw [eq]
    exact Bool.not_and_self _

/-- Audio behind `Finish` only waits. -/
theorem pushAudio_closed {m : FFmpegMuxer} (closed : m.opened = false) (pkt : AudioPacket)
    (reply : PacketReply) : (pushAudio av m pkt reply).2.out = m.out := by
  rcases pushAudio_cases av m pkt reply with ⟨st, idle⟩ | ⟨_, waits⟩ | ⟨opened, _⟩
  · rw [idle]
  · rw [waits]
  · exact absurd (closed.symm.trans opened) Bool.false_ne_true

/-- A video push keeps the rule exactly when it meets the condition. -/
theorem pushVideo_terminal_iff {l' : Lifetime} {pkt : VideoPacket} {reply : PushReply}
    (closing : Closing l) (terminal : Terminal l)
    (step : Lifetime.next av l (.pushVideo pkt reply) = some l') :
    Terminal l' ↔ TerminalMeets l (.pushVideo pkt reply) := by
  cases videoPush l.muxer pkt reply with
  | idle none =>
    have same : (call av l.muxer (.pushVideo pkt reply)).2 = l.muxer := pushVideo_idle none
    constructor
    · intro _ data key closed sink attached
      rcases none with empty | detached | ⟨_, delta⟩
      · exact absurd empty data
      · exact absurd (attached.symm.trans detached) (Option.some_ne_none sink)
      · exact absurd (delta.symm.trans key) Bool.false_ne_true
    · intro _
      apply terminal_of_quiet terminal step
      · rw [same]
        exact Bool.not_and_self _
      · intro _ _
        rw [same]
  | onward data attached opened =>
    constructor
    · intro _ _ _ closed
      exact absurd (closed.symm.trans opened) Bool.false_ne_true
    · intro _
      apply terminal_of_quiet terminal step
      · rw [opened]
        rfl
      · intro finished _
        exact absurd ((closing finished terminal.late).symm.trans opened) Bool.false_ne_true
  | opening data attached closed key succeeds =>
    obtain ⟨sink, known⟩ := Option.isSome_iff_exists.mp attached
    obtain ⟨streams, out, pending, sent, own, _, pushed, _⟩ :=
      pushVideo_opens av data attached closed key succeeds
    have opened :
        (!l.muxer.opened && (call av l.muxer (.pushVideo pkt reply)).2.opened) = true := by
      rw [closed]
      exact congrArg FFmpegMuxer.opened pushed
    rw [terminal_next_iff terminal step opened rfl, Bool.true_or, Call.isPush, Bool.and_true,
      Bool.and_true]
    constructor
    · rintro ⟨early, fresh⟩ _ _ _ sink' known'
      exact ⟨fun _ => ⟨early, fresh rfl sink' known'⟩, fun _ _ => early⟩
    · intro meets
      obtain ⟨early, fresh⟩ := (meets data key closed sink known).1 succeeds
      refine ⟨early, fun _ sink' known' => ?_⟩
      obtain rfl := Option.some.inj (known.symm.trans known')
      exact fresh
  | failing data attached closed key fails =>
    obtain ⟨sink, known⟩ := Option.isSome_iff_exists.mp attached
    obtain ⟨index, pushed, _⟩ := pushVideo_fails av data attached closed key fails
    have still :
        (!l.muxer.opened && (call av l.muxer (.pushVideo pkt reply)).2.opened) = false := by
      rw [closed]
      exact congrArg (fun result => result.2.opened) pushed
    have wrote : decide (l.muxer.out.writes <
        (call av l.muxer (.pushVideo pkt reply)).2.out.writes) =
        (asksHeader l.muxer.config pkt reply.opening &&
          reply.opening.header.io.any AvioCall.isWrite) := by
      change decide (_ < (pushVideo av l.muxer pkt reply).2.out.writes) = _
      rw [pushed]
      cases asksHeader l.muxer.config pkt reply.opening with
      | false => exact decide_eq_false (Nat.lt_irrefl _)
      | true => exact Output.serve_writes_lt .header attached _
    rw [terminal_next_iff terminal step still wrote, Bool.false_or, Call.isPush, Bool.and_true]
    constructor
    · rintro ⟨quiet, _⟩ _ _ _ sink' known'
      refine ⟨fun succeeds => absurd (fails.symm.trans succeeds) Bool.false_ne_true, ?_⟩
      intro asks writes
      rw [asks, writes, Bool.and_true, Bool.and_true] at quiet
      exact quiet
    · intro meets
      refine ⟨?_, fun none => absurd none Bool.false_ne_true⟩
      have quiet := (meets data key closed sink known).2
      cases asks : asksHeader l.muxer.config pkt reply.opening with
      | false => simp
      | true =>
        cases writes : reply.opening.header.io.any AvioCall.isWrite with
        | false => simp
        | true => rw [quiet asks writes, Bool.false_and]

/-- Every call keeps the rule exactly when it meets the condition. -/
theorem call_terminal_iff {l' : Lifetime} {c : Call} (closing : Closing l) (terminal : Terminal l)
    (step : Lifetime.next av l c = some l') : Terminal l' ↔ TerminalMeets l c := by
  cases c with
  | pushVideo pkt reply => exact pushVideo_terminal_iff closing terminal step
  | pushAudio pkt reply =>
    refine ⟨fun _ => trivial, fun _ => terminal_of_quiet terminal step ?_ ?_⟩
    · exact (pushAudio_untouched av pkt reply).opens_nothing
    · intro finished _
      exact congrArg Output.writes (pushAudio_closed (closing finished terminal.late) pkt reply)
  | setOutput sink =>
    refine ⟨fun _ => trivial, fun _ => terminal_of_quiet terminal step ?_ ?_⟩
    · exact (Untouched.quiet l.muxer _ l.muxer.pendingAudio).opens_nothing
    · exact fun _ push => absurd push Bool.false_ne_true
  | flush =>
    refine ⟨fun _ => trivial, fun _ => terminal_of_quiet terminal step ?_ ?_⟩
    · exact (Untouched.quiet l.muxer l.muxer.out []).opens_nothing
    · exact fun _ push => absurd push Bool.false_ne_true
  | finish reply =>
    refine ⟨fun _ => trivial, fun _ => terminal_of_quiet terminal step ?_ ?_⟩
    · exact (finish_untouched reply).opens_nothing
    · exact fun _ push => absurd push Bool.false_ne_true
  | release reply =>
    refine ⟨fun _ => trivial, fun _ => terminal_of_quiet terminal step ?_ ?_⟩
    · exact (release_untouched reply).opens_nothing
    · exact fun _ push => absurd push Bool.false_ne_true

theorem finish_closed (m : FFmpegMuxer) (reply : CloseReply) :
    (m.finish reply).2.opened = false := by
  rw [finish]
  cases opened : m.opened with
  | true => rfl
  | false => exact opened

theorem Lifetime.next_closing {l' : Lifetime} {c : Call} (closing : Closing l)
    (step : Lifetime.next av l c = some l') : Closing l' := by
  obtain rfl := Option.some.inj step
  intro finished late
  dsimp only at finished late ⊢
  obtain ⟨early, quiet⟩ := Bool.or_eq_false_iff.mp late
  cases before : l.finished with
  | false =>
    rw [before, Bool.false_or] at finished
    cases c with
    | finish reply => exact finish_closed l.muxer reply
    | _ => exact absurd finished Bool.false_ne_true
  | true =>
    have closed := closing before early
    have opens : (!l.muxer.opened && (call av l.muxer c).2.opened) = false := by
      cases c with
      | pushVideo pkt reply =>
        rw [before, Call.isPush, Bool.true_and, Bool.true_and] at quiet
        exact (Bool.or_eq_false_iff.mp quiet).1
      | pushAudio pkt reply => exact (pushAudio_untouched av pkt reply).opens_nothing
      | setOutput sink => exact (Untouched.quiet l.muxer _ l.muxer.pendingAudio).opens_nothing
      | flush => exact (Untouched.quiet l.muxer l.muxer.out []).opens_nothing
      | finish reply => exact (finish_untouched reply).opens_nothing
      | release reply => exact (release_untouched reply).opens_nothing
    rw [closed] at opens
    exact opens

/-- A lifetime is terminal throughout exactly when all its calls meet the condition. -/
theorem lifetime_terminal_iff (av : LibAV) (config : MuxerConfig) (calls : List Call)
    (l : Lifetime) :
    Run (Keeping (Takes (Lifetime.next av)) Terminal) { muxer := { config } } calls l ↔
      Run (Guarded (Takes (Lifetime.next av)) TerminalMeets) { muxer := { config } }
        calls l :=
  Run.keeping_iff_guarded (Q := Closing) (fun closing step => Lifetime.next_closing closing step)
    (fun closing terminal step => call_terminal_iff closing terminal step)
    (fun finished => absurd finished Bool.false_ne_true) ⟨rfl, List.nodup_nil⟩

end Steps

end FFmpegMuxer

namespace MediaCodecMuxer

/-- The number of writes that sinks were asked for. -/
def writes (m : MediaCodecMuxer) : Nat := m.requests.countP fun request => request.2.isWrite

def Call.isPush : Call → Bool
  | .pushVideo .. | .pushAudio .. => true
  | _ => false

def Call.isFinish : Call → Bool
  | .finish _ => true
  | _ => false

def Call.isRelease : Call → Bool
  | .release _ => true
  | _ => false

/-- A push goes on to another file, another `AMediaMuxer`, or the sink. -/
def resumes (m n : MediaCodecMuxer) : Bool :=
  decide (m.files < n.files) || (!m.muxer && n.muxer) || decide (m.writes < n.writes)

/-- A muxer with its past: whether `Finish` has returned, whether a push behind
that has resumed the recording, whether a `Release` has left a file, and the
sinks that a recording was replayed to. -/
structure Lifetime where
  muxer : MediaCodecMuxer
  finished : Bool := false
  late : Bool := false
  leaked : Bool := false
  headers : List Nat := []

def Lifetime.next (l : Lifetime) (c : Call) : Option Lifetime :=
  let m := (call l.muxer c).2
  some {
    muxer := m
    finished := l.finished || c.isFinish
    late := l.late || (l.finished && c.isPush && l.muxer.resumes m)
    leaked := l.leaked || (c.isRelease && m.tmp.isSome)
    headers := l.headers ++ if l.muxer.writes < m.writes then l.muxer.sink.toList else [] }

structure Terminal (l : Lifetime) : Prop where
  late : l.late = false
  leaked : l.leaked = false
  headers : l.headers.Nodup

/-- `EnsureMuxer` opens a file. -/
def opensFile (m : MediaCodecMuxer) (reply : EnsureReply) : Bool :=
  m.sink.isSome && (!m.muxer && (m.config.isValid && reply.tmpfile.isSome))

/-- A push that opens a file comes before `Finish`, and `Release` finds no file
once the muxer is finished. -/
def TerminalMeets (l : Lifetime) : Call → Prop
  | .pushVideo pkt reply =>
    pkt.data ≠ [] → opensFile l.muxer reply.ensure = true → l.finished = false
  | .pushAudio pkt reply =>
    pkt.data ≠ [] → l.muxer.config.audioCodec = .kAAC →
      opensFile l.muxer reply.ensure = true → l.finished = false
  | .release _ => l.muxer.finished = true → l.muxer.tmp = none
  | _ => True

/-- The file is replayed once. -/
def Replayed (l : Lifetime) : Prop := l.headers ≠ [] → l.muxer.finished = true

/-- What a push leaves alone behind `EnsureMuxer`. -/
structure Onward (m n : MediaCodecMuxer) : Prop where
  muxer : n.muxer = m.muxer
  files : n.files = m.files
  requests : n.requests = m.requests
  finished : n.finished = m.finished

section Frames
variable {m n k : MediaCodecMuxer}

theorem Onward.refl (m : MediaCodecMuxer) : Onward m m := ⟨rfl, rfl, rfl, rfl⟩

theorem Onward.trans (first : Onward m n) (second : Onward n k) : Onward m k where
  muxer := second.muxer.trans first.muxer
  files := second.files.trans first.files
  requests := second.requests.trans first.requests
  finished := second.finished.trans first.finished

theorem writeSample_onward (m : MediaCodecMuxer) (sample : PendingSample) (reply : SampleReply) :
    Onward m (m.writeSample sample reply).2 := by
  obtain ⟨started, pending, inFlight, written, same⟩ := m.writeSample_frame sample reply
  rw [same]
  exact ⟨rfl, rfl, rfl, rfl⟩

theorem VideoReady.onward {pkt : VideoPacket} {result : Option Status × MediaCodecMuxer}
    (ready : VideoReady m pkt result) : Onward m result.2 := by
  cases ready with
  | there | early | failed | added => exact ⟨rfl, rfl, rfl, rfl⟩

theorem AudioReady.onward {result : Option Status × MediaCodecMuxer}
    (ready : AudioReady m result) : Onward m result.2 := by
  cases ready with
  | there | failed | added => exact ⟨rfl, rfl, rfl, rfl⟩

/-- `EnsureMuxer` opens a file or leaves the recording alone. -/
theorem ensureMuxer_resumes (attached : m.sink.isSome = true) (reply : EnsureReply) :
    m.resumes (m.ensureMuxer reply).2 = opensFile m reply := by
  rw [resumes, opensFile, ensureMuxer]
  rw [attached, Bool.true_and]
  cases muxer : m.muxer with
  | true => simp [muxer]
  | false =>
    cases valid : m.config.isValid with
    | false => simp [muxer]
    | true =>
      cases reply.tmpfile with
      | none => simp [writes]
      | some fd => cases reply.muxer <;> simp

/-- A push that resumes the recording or not, and asks no sink. -/
structure Pushed (m n : MediaCodecMuxer) (resumed : Bool) : Prop where
  resumes : m.resumes n = resumed
  requests : n.requests = m.requests
  finished : n.finished = m.finished

theorem Pushed.idle (m : MediaCodecMuxer) : Pushed m m false :=
  ⟨by simp [MediaCodecMuxer.resumes], rfl, rfl⟩

theorem ensureMuxer_pushed (attached : m.sink.isSome = true) (reply : EnsureReply) :
    Pushed m (m.ensureMuxer reply).2 (opensFile m reply) := by
  obtain ⟨muxer, tmp, files, framed⟩ := m.ensureMuxer_frame reply
  refine ⟨ensureMuxer_resumes attached reply, ?_, ?_⟩
  · rw [framed]
  · rw [framed]

theorem Pushed.onward {resumed : Bool} (pushed : Pushed m n resumed) (onward : Onward n k) :
    Pushed m k resumed where
  resumes := by
    have same : m.resumes k = m.resumes n := by
      unfold MediaCodecMuxer.resumes writes
      rw [onward.muxer, onward.files, onward.requests]
    exact same.trans pushed.resumes
  requests := onward.requests.trans pushed.requests
  finished := onward.finished.trans pushed.finished

/-- A push hands its sample on, or returns what making the track ready returned. -/
theorem Pushed.handedOn {resumed : Bool} (pushed : Pushed m n resumed)
    {ready : Option Status × MediaCodecMuxer} (onward : Onward n ready.2)
    (sample : MediaCodecMuxer → PendingSample) (reply : SampleReply) :
    Pushed m
      (match ready with
        | (some st, m) => (st, m)
        | (none, m) => m.writeSample (sample m) reply).2 resumed := by
  obtain ⟨_ | st, k⟩ := ready
  · exact pushed.onward (onward.trans (writeSample_onward k (sample k) reply))
  · exact pushed.onward onward

theorem pushVideo_pushed (m : MediaCodecMuxer) (pkt : VideoPacket) (reply : MediaReply) :
    Pushed m (m.pushVideo pkt reply).2
      (decide (pkt.data ≠ []) && opensFile m reply.ensure) := by
  rw [pushVideo]
  split
  · rename_i empty
    rw [decide_eq_false (not_not_intro empty)]
    exact .idle m
  · rename_i data
    rw [decide_eq_true data, Bool.true_and]
    cases attached : m.sink.isSome with
    | false =>
      rw [opensFile, attached, Option.isSome_eq_false_iff.mp attached]
      exact .idle m
    | true =>
      have ensured := ensureMuxer_pushed attached reply.ensure
      rw [Option.isNone_eq_false_iff.mpr attached, if_neg Bool.false_ne_true]
      dsimp only
      split
      · exact ensured
      · have ready := (readyVideo_ready (m.ensureMuxer reply.ensure).2 pkt reply.track).onward
        exact ensured.handedOn ready (·.videoSample pkt) reply.sample

theorem pushAudio_pushed (m : MediaCodecMuxer) (pkt : AudioPacket) (reply : MediaReply) :
    Pushed m (m.pushAudio pkt reply).2
      (decide (pkt.data ≠ []) &&
        (decide (m.config.audioCodec = .kAAC) && opensFile m reply.ensure)) := by
  rw [pushAudio]
  split
  · rename_i empty
    rw [decide_eq_false (not_not_intro empty)]
    exact .idle m
  · rename_i data
    rw [decide_eq_true data, Bool.true_and]
    cases attached : m.sink.isSome with
    | false =>
      rw [opensFile, attached, Option.isSome_eq_false_iff.mp attached,
        Bool.false_and, Bool.and_false]
      exact .idle m
    | true =>
      have ensured := ensureMuxer_pushed attached reply.ensure
      rw [Option.isNone_eq_false_iff.mpr attached, if_neg Bool.false_ne_true]
      by_cases aac : m.config.audioCodec = .kAAC
      · rw [decide_eq_true aac, Bool.true_and, if_neg (not_not_intro aac)]
        dsimp only
        split
        · exact ensured
        · have ready := (readyAudio_ready (m.ensureMuxer reply.ensure).2 pkt reply.track).onward
          exact ensured.handedOn ready (·.audioSample pkt) reply.sample
      · rw [decide_eq_false aac, Bool.false_and, if_pos aac]
        exact .idle m

/-- Only a muxer that is not finished yet asks the sink to write, and it is
finished behind that. -/
theorem call_replays {c : Call} (wrote : m.writes < (call m c).2.writes) :
    m.finished = false ∧ (call m c).2.finished = true := by
  have kept (same : (call m c).2.requests = m.requests) : ¬ m.writes < (call m c).2.writes := by
    unfold writes
    rw [same]
    exact Nat.lt_irrefl _
  cases c with
  | setOutput sink => exact absurd wrote (kept rfl)
  | pushVideo pkt reply => exact absurd wrote (kept (m.pushVideo_pushed pkt reply).requests)
  | pushAudio pkt reply => exact absurd wrote (kept (m.pushAudio_pushed pkt reply).requests)
  | flush => exact absurd wrote (kept rfl)
  | finish reply =>
    cases finished : m.finished with
    | false => exact ⟨rfl, by simp [call, finish, finished]⟩
    | true => exact absurd wrote (kept (by simp [call, finish, finished]))
  | release reply =>
    cases finished : m.finished with
    | false => exact ⟨rfl, rfl⟩
    | true => exact absurd wrote (kept (by simp [call, release, finished]))

theorem call_finished {c : Call} (finished : m.finished = true) :
    (call m c).2.finished = true := by
  cases c with
  | setOutput sink => exact finished
  | pushVideo pkt reply => exact (m.pushVideo_pushed pkt reply).finished.trans finished
  | pushAudio pkt reply => exact (m.pushAudio_pushed pkt reply).finished.trans finished
  | flush => exact finished
  | finish reply => simp [call, finish, finished]
  | release reply => rfl

theorem release_tmp (m : MediaCodecMuxer) (reply : FinalizeReply) :
    (m.release reply).tmp = if m.finished then m.tmp else none := by
  rw [release]
  cases m.finished with
  | true => rfl
  | false => rfl

end Frames

section Steps
variable {l l' : Lifetime} {c : Call}

theorem Lifetime.next_replayed (replayed : Replayed l) (step : Lifetime.next l c = some l') :
    Replayed l' := by
  obtain rfl := Option.some.inj step
  intro some
  by_cases wrote : l.muxer.writes < (call l.muxer c).2.writes
  · exact (call_replays wrote).2
  · apply call_finished
    apply replayed
    simpa [wrote] using some

theorem next_headers (replayed : Replayed l) (terminal : Terminal l)
    (step : Lifetime.next l c = some l') : l'.headers.Nodup := by
  obtain rfl := Option.some.inj step
  dsimp only
  split
  · rename_i wrote
    have none : l.headers = [] := by
      cases headers : l.headers with
      | nil => rfl
      | cons sink rest =>
        have finished := replayed (by simp [headers])
        exact absurd ((call_replays wrote).1.symm.trans finished) Bool.false_ne_true
    rw [none, List.nil_append]
    cases l.muxer.sink with
    | none => exact List.nodup_nil
    | some sink => exact List.pairwise_singleton ..
  · rw [List.append_nil]
    exact terminal.headers

theorem terminal_next_iff (replayed : Replayed l) (terminal : Terminal l)
    (step : Lifetime.next l c = some l') :
    Terminal l' ↔ (l.finished && c.isPush && l.muxer.resumes (call l.muxer c).2) = false ∧
      (c.isRelease && (call l.muxer c).2.tmp.isSome) = false := by
  have headers := next_headers replayed terminal step
  obtain rfl := Option.some.inj step
  constructor
  · intro kept
    exact ⟨(Bool.or_eq_false_iff.mp kept.late).2, (Bool.or_eq_false_iff.mp kept.leaked).2⟩
  · rintro ⟨early, closed⟩
    refine ⟨?_, ?_, headers⟩
    · exact Bool.or_eq_false_iff.mpr ⟨terminal.late, early⟩
    · exact Bool.or_eq_false_iff.mpr ⟨terminal.leaked, closed⟩

/-- Every call keeps the rule exactly when it meets the condition. -/
theorem call_terminal_iff (replayed : Replayed l) (terminal : Terminal l)
    (step : Lifetime.next l c = some l') : Terminal l' ↔ TerminalMeets l c := by
  rw [terminal_next_iff replayed terminal step]
  cases c with
  | setOutput sink => simp [TerminalMeets, Call.isPush, Call.isRelease]
  | flush => simp [TerminalMeets, Call.isPush, Call.isRelease]
  | finish reply => simp [TerminalMeets, Call.isPush, Call.isRelease]
  | pushVideo pkt reply =>
    have pushed := (l.muxer.pushVideo_pushed pkt reply).resumes
    rw [call, pushed]
    cases finished : l.finished <;>
      simp [finished, TerminalMeets, Call.isPush, Call.isRelease]
  | pushAudio pkt reply =>
    have pushed := (l.muxer.pushAudio_pushed pkt reply).resumes
    rw [call, pushed]
    cases finished : l.finished <;>
      simp [finished, TerminalMeets, Call.isPush, Call.isRelease]
  | release reply =>
    rw [call, release_tmp]
    cases finished : l.muxer.finished <;>
      simp [finished, TerminalMeets, Call.isPush, Call.isRelease]

theorem lifetime_terminal_iff (config : MuxerConfig) (calls : List Call) (l : Lifetime) :
    Run (Keeping (Takes Lifetime.next) Terminal) { muxer := { config } } calls l ↔
      Run (Guarded (Takes Lifetime.next) TerminalMeets) { muxer := { config } } calls l :=
  Run.keeping_iff_guarded (Q := Replayed)
    (fun replayed step => Lifetime.next_replayed replayed step)
    (fun replayed terminal step => call_terminal_iff replayed terminal step)
    (fun some => absurd rfl some) ⟨rfl, rfl, List.nodup_nil⟩

end Steps

end MediaCodecMuxer

/-- For both muxers, `Finish` is terminal throughout a run exactly when all calls
meet the condition of their muxer. -/
theorem finish_terminal_iff_meets (av : LibAV) (config : MuxerConfig) :
    (∀ calls l,
      Run (Keeping (Takes (FFmpegMuxer.Lifetime.next av)) FFmpegMuxer.Terminal)
          { muxer := { config } } calls l ↔
        Run (Guarded (Takes (FFmpegMuxer.Lifetime.next av)) FFmpegMuxer.TerminalMeets)
          { muxer := { config } } calls l) ∧
    ∀ calls l,
      Run (Keeping (Takes MediaCodecMuxer.Lifetime.next) MediaCodecMuxer.Terminal)
          { muxer := { config } } calls l ↔
        Run (Guarded (Takes MediaCodecMuxer.Lifetime.next) MediaCodecMuxer.TerminalMeets)
          { muxer := { config } } calls l :=
  ⟨FFmpegMuxer.lifetime_terminal_iff av config, MediaCodecMuxer.lifetime_terminal_iff config⟩

/-- A keyframe behind `Finish` opens a second container on the same sink; in the
other muxer it opens a file that `Release` leaves open. -/
theorem keyframe_after_finish_reopens :
    (∃ l, Run (Takes (FFmpegMuxer.Lifetime.next ⟨fun pts _ _ => pts⟩))
        { muxer := { config := { width := 2, height := 2 } } }
        [.setOutput (some 0), .pushVideo ⟨[0, 0, 1, 0x65], 0, true⟩ {}, .finish {},
          .pushVideo ⟨[0, 0, 1, 0x65], 0, true⟩ {}] l ∧
      l.late = true ∧ l.headers = [0, 0]) ∧
    ∃ l, Run (Takes MediaCodecMuxer.Lifetime.next)
        { muxer := { config := { width := 2, height := 2 } } }
        [.setOutput (some 0), .finish {}, .pushVideo ⟨[0, 0, 1, 0x65], 0, true⟩ {}, .release {}] l ∧
      l.late = true ∧ l.muxer.tmp = some 3 :=
  ⟨⟨_, exec_run rfl, by decide, by decide⟩, ⟨_, exec_run rfl, by decide, by decide⟩⟩

end VideoCodec
