import VideoCodec.Encode.FFmpeg
import VideoCodec.Transition.Run

/-! What the FFmpeg encoders hand to an attached sink, over runs of `Encode` and
`Flush` up to the first failure of a receive call, of the filter or of the sink. -/
namespace VideoCodec

open Transition FFmpeg

namespace Draining

section Log
variable {P : Type}

def Event.output? : Event P → Option FFmpeg.AVPacket
  | .output packet => some packet
  | _ => none

def Event.push? : Event P → Option P
  | .push pkt => some pkt
  | _ => none

def Event.failed : Event P → Bool
  | .failure => true
  | _ => false

/-- The packets that came out of the filter or the codec. -/
def outputs (events : List (Event P)) : List FFmpeg.AVPacket := events.filterMap Event.output?

/-- The packets handed to the sink. -/
def pushes (events : List (Event P)) : List P := events.filterMap Event.push?

def failed (events : List (Event P)) : Bool := events.any Event.failed

/-- Without a failure all packets that came out were handed on, in order and once each. -/
structure Whole (make : FFmpeg.AVPacket → P) (events : List (Event P)) : Prop where
  quiet : failed events = false
  pushed : pushes events = (outputs events).map make

/-- The end of a call at its first failure. -/
structure Cut (make : FFmpeg.AVPacket → P) (result : Option (Except Status P))
    (events : List (Event P)) : Prop where
  reported : result = some (.error .kEncodeFailed)
  stops : ∃ before, events = before ++ [.failure] ∧ failed before = false ∧
    pushes before <+: (outputs before).map make

variable {make : FFmpeg.AVPacket → P} {events new : List (Event P)}

theorem outputs_append : outputs (events ++ new) = outputs events ++ outputs new :=
  List.filterMap_append ..

theorem pushes_append : pushes (events ++ new) = pushes events ++ pushes new :=
  List.filterMap_append ..

theorem failed_append : failed (events ++ new) = (failed events || failed new) :=
  List.any_append ..

theorem Whole.nil : Whole make [] := ⟨rfl, rfl⟩

theorem Whole.append_iff (whole : Whole make events) :
    Whole make (events ++ new) ↔ Whole make new := by
  have same : pushes (events ++ new) = (outputs (events ++ new)).map make ↔
      pushes new = (outputs new).map make := by
    rw [pushes_append, outputs_append, List.map_append, whole.pushed, List.append_cancel_left_eq]
  constructor
  · rintro ⟨quiet, pushed⟩
    rw [failed_append, whole.quiet, Bool.false_or] at quiet
    exact ⟨quiet, same.mp pushed⟩
  · rintro ⟨quiet, pushed⟩
    refine ⟨?_, same.mpr pushed⟩
    rw [failed_append, whole.quiet, quiet]
    rfl

theorem concat_failed (before : List (Event P)) : failed (before ++ [.failure]) = true := by
  rw [failed_append]
  exact Bool.or_true _

theorem Cut.append_iff {result : Option (Except Status P)} (whole : Whole make events) :
    Cut make result (events ++ new) ↔ Cut make result new := by
  have same (before : List (Event P)) :
      pushes (events ++ before) <+: (outputs (events ++ before)).map make ↔
        pushes before <+: (outputs before).map make := by
    rw [pushes_append, outputs_append, List.map_append, whole.pushed, List.prefix_append_right_inj]
  constructor
  · rintro ⟨reported, before, split, quiet, sent⟩
    refine ⟨reported, ?_⟩
    rcases List.append_eq_append_iff.mp split with ⟨rest, rfl, rest_eq⟩ | ⟨rest, events_eq, rest_eq⟩
    · rw [failed_append, whole.quiet, Bool.false_or] at quiet
      exact ⟨rest, rest_eq, quiet, (same rest).mp sent⟩
    · -- the failure is the last event and does not lie in the events before
      cases rest with
      | nil =>
        rw [List.append_nil] at events_eq
        rw [List.nil_append] at rest_eq
        refine ⟨[], rest_eq.symm, rfl, ?_⟩
        exact List.nil_prefix
      | cons event rest =>
        obtain ⟨rfl, _⟩ := List.cons.inj rest_eq
        have quiet := whole.quiet
        rw [events_eq, failed_append] at quiet
        exact absurd (Bool.or_eq_false_iff.mp quiet).2 Bool.noConfusion
  · rintro ⟨reported, before, rfl, quiet, sent⟩
    refine ⟨reported, events ++ before, (List.append_assoc ..).symm, ?_, (same before).mpr sent⟩
    rw [failed_append, whole.quiet, quiet]
    rfl

/-- What one call does for the sink. -/
structure Handles [Inhabited P] (make : FFmpeg.AVPacket → P) (result : Except Status P)
    (events : List (Event P)) : Prop where
  handed : Whole make events ∨ Cut make (some result) events
  empty : ∀ pkt, result = .ok pkt → pkt = default

theorem Handles.append_iff [Inhabited P] {result : Except Status P} (whole : Whole make events) :
    Handles make result (events ++ new) ↔ Handles make result new := by
  constructor
  · rintro ⟨handed, empty⟩
    exact ⟨handed.imp whole.append_iff.mp (Cut.append_iff whole).mp, empty⟩
  · rintro ⟨handed, empty⟩
    exact ⟨handed.imp whole.append_iff.mpr (Cut.append_iff whole).mpr, empty⟩

theorem handles_failure [Inhabited P] (whole : Whole make events) :
    Handles make (.error .kEncodeFailed) (events ++ [.failure]) := by
  refine (Handles.append_iff whole).mpr ⟨.inr ⟨rfl, [], rfl, rfl, List.nil_prefix⟩, ?_⟩
  exact nofun

/-- With a sink attached a loop over received packets hands on each of them, until
the sink refuses one. -/
theorem deliverAll_cases (make : FFmpeg.AVPacket → P) (packets : List (FFmpeg.AVPacket × Status))
    (d : Drained P) : ∃ new, Whole make new ∧
      ((∀ p ∈ packets, p.2 = .kOk) ∧
        d.deliverAll true make packets = (true, { d with events := d.events ++ new }) ∨
      ¬(∀ p ∈ packets, p.2 = .kOk) ∧
        d.deliverAll true make packets =
          (false, { d with events := d.events ++ (new ++ [.failure]) })) := by
  induction packets generalizing d with
  | nil => exact ⟨[], .nil, .inl ⟨nofun, by rw [List.append_nil]; rfl⟩⟩
  | cons first rest ih =>
    obtain ⟨packet, answer⟩ := first
    have step : Whole make [.output packet, .push (make packet)] := ⟨rfl, rfl⟩
    by_cases accepted : answer = .kOk
    · subst accepted
      obtain ⟨new, whole, cases⟩ := ih ((d.event (.output packet)).event (.push (make packet)))
      refine ⟨_, step.append_iff.mpr whole, ?_⟩
      rcases cases with ⟨all, looped⟩ | ⟨refused, looped⟩
      · refine .inl ⟨List.forall_mem_cons.mpr ⟨rfl, all⟩, ?_⟩
        apply Eq.trans looped
        simp only [Drained.event, List.append_assoc, List.cons_append, List.nil_append]
      · refine .inr ⟨fun all => refused (List.forall_mem_cons.mp all).2, ?_⟩
        apply Eq.trans looped
        simp only [Drained.event, List.append_assoc, List.cons_append, List.nil_append]
    · refine ⟨_, step, .inr ⟨fun all => accepted (List.forall_mem_cons.mp all).1, ?_⟩⟩
      rw [Drained.deliverAll, Drained.deliver, if_pos rfl, if_neg accepted]
      simp only [Drained.event, List.append_assoc, List.cons_append, List.nil_append]

theorem finish_cases [Inhabited P] (make : FFmpeg.AVPacket → P) (d : Drained P)
    (empty : d.out = default) (stop : ReceiveEnd) :
    ∃ new, (d.finish stop).2.events = d.events ++ new ∧
      Handles make (d.finish stop).1 new ∧
      ((d.finish stop).1 = .ok default ∨ ∃ before, new = before ++ [.failure]) := by
  have ended : ∃ new, d.events = d.events ++ new ∧ Handles make (.ok d.out) new ∧
      ((.ok d.out : Except Status P) = .ok default ∨ ∃ before, new = before ++ [.failure]) := by
    refine ⟨[], (List.append_nil _).symm, ⟨.inl .nil, ?_⟩, .inl (congrArg _ empty)⟩
    rintro pkt ⟨⟩
    exact empty
  cases stop with
  | again | eof => exact ended
  | error => exact ⟨[.failure], rfl, handles_failure .nil, .inr ⟨[], rfl⟩⟩

end Log

/-- The filter has no more packets for no other reason than `EAGAIN` or `AVERROR_EOF`,
as far as it is asked. -/
def FilterMeets : List Filtering → Prop
  | .received packets stop :: rest =>
    (∀ p ∈ packets, p.2 = .kOk) → stop ≠ .error ∧ FilterMeets rest
  | _ => True

section Drains
variable {toUs : Int → Int} {stop : ReceiveEnd}

/-- A drain of the video encoder serves the sink just when the filter did not fail
unseen; and it does not fail without a failure as its last event. -/
def VideoDrains (toUs : Int → Int) (stop : ReceiveEnd) (filterings : List Filtering)
    (d : Drained VideoPacket) : Prop :=
  ∃ new result drained, FFmpegVideoEncoder.drain true toUs stop filterings d = (result, drained) ∧
    drained.events = d.events ++ new ∧
    (Handles (FFmpegVideoEncoder.toPacket toUs) result new ↔ FilterMeets filterings) ∧
    (result = .ok default ∨ ∃ before, new = before ++ [.failure])

section Received
variable {packets : List (FFmpeg.AVPacket × Status)} {filterStop : ReceiveEnd}
  {rest : List Filtering} {d : Drained VideoPacket} {new : List (Event VideoPacket)}

theorem VideoDrains.refused (whole : Whole (FFmpegVideoEncoder.toPacket toUs) new)
    (refused : ¬∀ p ∈ packets, p.2 = .kOk)
    (looped : d.deliverAll true (FFmpegVideoEncoder.toPacket toUs) packets =
      (false, { d with events := d.events ++ (new ++ [.failure]) })) :
    VideoDrains toUs stop (.received packets filterStop :: rest) d := by
  refine ⟨new ++ [.failure], .error .kEncodeFailed,
    { d with events := d.events ++ (new ++ [.failure]) }, ?_, rfl, ?_, .inr ⟨new, rfl⟩⟩
  · rw [FFmpegVideoEncoder.drain, looped]
  · exact iff_of_true (handles_failure whole) fun all => absurd all refused

/-- Behind the packets that were handed on the drain goes on as if begun there. -/
theorem VideoDrains.cons (whole : Whole (FFmpegVideoEncoder.toPacket toUs) new)
    (all : ∀ p ∈ packets, p.2 = .kOk)
    (looped : d.deliverAll true (FFmpegVideoEncoder.toPacket toUs) packets =
      (true, { d with events := d.events ++ new }))
    (seen : filterStop ≠ .error)
    (later : VideoDrains toUs stop rest { d with events := d.events ++ new }) :
    VideoDrains toUs stop (.received packets filterStop :: rest) d := by
  obtain ⟨later, result, drained, rest_drains, events, handles, ends⟩ := later
  refine ⟨new ++ later, result, drained, ?_, ?_, ?_, ?_⟩
  · rw [FFmpegVideoEncoder.drain, looped]
    dsimp only
    rw [if_neg seen]
    exact rest_drains
  · rw [events, List.append_assoc]
  · rw [Handles.append_iff whole, handles]
    exact ⟨fun meets _ => ⟨seen, meets⟩, fun meets => (meets all).2⟩
  · refine ends.imp_right fun ⟨last, split⟩ => ⟨new ++ last, ?_⟩
    rw [split, List.append_assoc]

/-- A failure that is not the last event of a call is not reported by it. -/
theorem not_handles_of_behind {P : Type} [Inhabited P] {make : FFmpeg.AVPacket → P}
    {result : Except Status P} {new later : List (Event P)}
    (ends : result = .ok default ∨ ∃ before, later = before ++ [.failure]) :
    ¬Handles make result (new ++ .failure :: later) := by
  intro handles
  have behind : failed (.failure :: later : List (Event P)) = true := rfl
  rcases handles.handed with ⟨quiet, _⟩ | ⟨reported, before, split, quiet, _⟩
  · rw [failed_append, behind, Bool.or_true] at quiet
    cases quiet
  · rcases ends with rfl | ⟨last, rfl⟩
    · cases reported
    · rw [← List.cons_append, ← List.append_assoc] at split
      rw [← List.append_cancel_right split, failed_append] at quiet
      exact absurd (Bool.or_eq_false_iff.mp quiet).2 Bool.noConfusion

theorem VideoDrains.unseen (all : ∀ p ∈ packets, p.2 = .kOk)
    (looped : d.deliverAll true (FFmpegVideoEncoder.toPacket toUs) packets =
      (true, { d with events := d.events ++ new }))
    (later : VideoDrains toUs stop rest ({ d with events := d.events ++ new }.event .failure)) :
    VideoDrains toUs stop (.received packets .error :: rest) d := by
  obtain ⟨later, result, drained, rest_drains, events, _, ends⟩ := later
  refine ⟨new ++ .failure :: later, result, drained, ?_, ?_, ?_, ?_⟩
  · rw [FFmpegVideoEncoder.drain, looped]
    exact rest_drains
  · rw [events, Drained.event]
    simp only [List.append_assoc, List.cons_append, List.nil_append]
  · exact iff_of_false (not_handles_of_behind ends) fun meets => (meets all).1 rfl
  · refine ends.imp_right fun ⟨last, split⟩ => ⟨new ++ .failure :: last, ?_⟩
    rw [split, List.append_assoc, List.cons_append]

end Received

theorem video_drains (toUs : Int → Int) (stop : ReceiveEnd) (filterings : List Filtering)
    (d : Drained VideoPacket) (empty : d.out = default) : VideoDrains toUs stop filterings d := by
  induction filterings generalizing d with
  | nil =>
    obtain ⟨new, events, handles, ends⟩ :=
      finish_cases (FFmpegVideoEncoder.toPacket toUs) d empty stop
    exact ⟨new, _, _, rfl, events, iff_of_true handles trivial, ends⟩
  | cons first rest ih =>
    cases first with
    | allocFailed | sendFailed =>
      exact ⟨[.failure], _, _, rfl, rfl, iff_of_true (handles_failure .nil) trivial, .inr ⟨[], rfl⟩⟩
    | received packets filterStop =>
      obtain ⟨new, whole, ⟨all, looped⟩ | ⟨refused, looped⟩⟩ :=
        deliverAll_cases (FFmpegVideoEncoder.toPacket toUs) packets d
      · cases filterStop with
        | again | eof => exact .cons whole all looped nofun (ih _ empty)
        | error => exact .unseen all looped (ih _ empty)
      · exact .refused whole refused looped

/-- A drain of the audio encoder always serves the sink. -/
theorem audio_drain_handles (packets : List (FFmpeg.AVPacket × Status)) :
    Handles (FFmpegAudioEncoder.toPacket toUs)
      (FFmpegAudioEncoder.drain true toUs stop packets { out := {} }).1
      (FFmpegAudioEncoder.drain true toUs stop packets { out := {} }).2.events := by
  obtain ⟨new, whole, ⟨_, looped⟩ | ⟨_, looped⟩⟩ :=
    deliverAll_cases (FFmpegAudioEncoder.toPacket toUs) packets { out := {} }
  · obtain ⟨later, events, handles, _⟩ := finish_cases (FFmpegAudioEncoder.toPacket toUs)
      { out := {}, events := [] ++ new } rfl stop
    rw [FFmpegAudioEncoder.drain, looped, events]
    exact (Handles.append_iff whole).mpr handles
  · rw [FFmpegAudioEncoder.drain, looped]
    exact handles_failure whole

end Drains

/-- An encoder with what its calls have logged and returned. -/
structure EncodeRun (E P : Type) where
  encoder : E
  events : List (Event P) := []
  results : List (Except Status P) := []

/-- Runs of calls end at the first failure. -/
def next (call : E → L → Except Status P × List (Event P) × E) (s : EncodeRun E P) (l : L) :
    Option (EncodeRun E P) :=
  if failed s.events then none
  else
    some
      { encoder := (call s.encoder l).2.2
        events := s.events ++ (call s.encoder l).2.1
        results := s.results ++ [(call s.encoder l).1] }

/-- As long as nothing fails all that came out is handed to the sink, in order and
once each; at the first failure the call says so and has handed on the packets before. In
push mode no call returns a packet. -/
structure Delivered [Inhabited P] (make : FFmpeg.AVPacket → P) (s : EncodeRun E P) : Prop where
  handed : Whole make s.events ∨ Cut make s.results.getLast? s.events
  empty : ∀ pkt, .ok pkt ∈ s.results → pkt = default

theorem next_delivered_iff [Inhabited P] {make : FFmpeg.AVPacket → P}
    {call : E → L → Except Status P × List (Event P) × E} {s t : EncodeRun E P} {l : L}
    (delivered : Delivered make s) (step : next call s l = some t) :
    Delivered make t ↔ Handles make (call s.encoder l).1 (call s.encoder l).2.1 := by
  rw [next] at step
  split at step
  · cases step
  · rename_i quiet
    obtain rfl := Option.some.inj step
    have whole : Whole make s.events := by
      rcases delivered.handed with whole | ⟨_, before, split, _⟩
      · exact whole
      · rw [split] at quiet
        exact absurd (concat_failed before) quiet
    have handed : (Whole make (s.events ++ (call s.encoder l).2.1) ∨
        Cut make (s.results ++ [(call s.encoder l).1]).getLast?
          (s.events ++ (call s.encoder l).2.1)) ↔
        (Whole make (call s.encoder l).2.1 ∨
          Cut make (some (call s.encoder l).1) (call s.encoder l).2.1) := by
      rw [List.getLast?_concat, whole.append_iff, Cut.append_iff whole]
    constructor
    · rintro ⟨sent, empty⟩
      refine ⟨handed.mp sent, fun pkt returned => empty pkt ?_⟩
      exact List.mem_append_right _ (List.mem_singleton.mpr returned.symm)
    · rintro ⟨sent, empty⟩
      refine ⟨handed.mpr sent, fun pkt returned => ?_⟩
      rcases List.mem_append.mp returned with before | now
      · exact delivered.empty pkt before
      · exact empty pkt (List.mem_singleton.mp now).symm

/-- A call of `Encode` or of `Flush`, with the answers to it. -/
inductive VideoCall where
  | encode (frame : VideoFrame) (reply : FFmpegVideoEncoder.Reply)
  | flush (reply : FFmpegVideoEncoder.Reply)

inductive AudioCall where
  | encode (frame : AudioFrame) (reply : FFmpegAudioEncoder.Reply)
  | flush (reply : FFmpegAudioEncoder.Reply)

def videoCall (toUs : Int → Int) (e : FFmpegVideoEncoder) :
    VideoCall → Except Status VideoPacket × List (Event VideoPacket) × FFmpegVideoEncoder
  | .encode frame reply => e.encode toUs frame reply
  | .flush reply => e.flush toUs reply

def audioCall (toUs : Int → Int) (e : FFmpegAudioEncoder) :
    AudioCall → Except Status AudioPacket × List (Event AudioPacket) × FFmpegAudioEncoder
  | .encode frame reply => e.encode toUs frame reply
  | .flush reply => e.flush toUs reply

/-- The answers to the drain of a call, when it comes to one. -/
def videoDrains (e : FFmpegVideoEncoder) : VideoCall → Option FFmpegVideoEncoder.Reply
  | .encode frame reply =>
    if e.lifecycle.encode.1 = .kOk ∧ frame.width = e.config.width ∧
      frame.height = e.config.height ∧ reply.writable ∧ isOpen e.ctx ∧ reply.send then
      some reply else none
  | .flush reply => if e.lifecycle.flush.1 = .kOk ∧ isOpen e.ctx then some reply else none

/-- Where a call drains, the filter does not fail unseen. -/
def DrainMeets (s : EncodeRun FFmpegVideoEncoder VideoPacket) (l : VideoCall) : Prop :=
  ∀ reply, videoDrains s.encoder l = some reply → FilterMeets reply.packets

section Calls
variable {toUs : Int → Int} {e : FFmpegVideoEncoder} {a : FFmpegAudioEncoder}

open FFmpegVideoEncoder in
/-- A call either fails before its drain or ends with it. -/
theorem videoCall_cases (toUs : Int → Int) (attached : e.sink.isSome = true) (l : VideoCall) :
    (videoCall toUs e l).2.2.sink = e.sink ∧
      ((videoDrains e l = none ∧ (videoCall toUs e l).2.1 = [] ∧
          ∃ st, (videoCall toUs e l).1 = .error st) ∨
        ∃ reply drained, videoDrains e l = some reply ∧
          drain true toUs reply.stop reply.packets { out := {} } = drained ∧
          (videoCall toUs e l).1 = drained.1 ∧ (videoCall toUs e l).2.1 = drained.2.events) := by
  cases l with
  | encode frame reply =>
    rw [videoCall, encode, videoDrains]
    rcases e.lifecycle.encode_cases with starts | refused
    · rw [starts]
      dsimp only
      rw [copyFrame]
      by_cases fits : frame.width = e.config.width ∧ frame.height = e.config.height
      · rw [if_neg (by simp only [fits, ne_eq, not_true_eq_false, or_self, not_false_eq_true])]
        cases writable : reply.writable with
        | false => exact ⟨rfl, .inl ⟨if_neg (by simp), rfl, _, rfl⟩⟩
        | true =>
          rw [Bool.not_true, if_neg Bool.false_ne_true]
          dsimp only
          cases opened : isOpen e.ctx with
          | false => exact ⟨rfl, .inl ⟨if_neg (by simp), rfl, _, rfl⟩⟩
          | true =>
          cases sends : reply.send with
          | false => exact ⟨rfl, .inl ⟨if_neg (by simp), rfl, _, rfl⟩⟩
          | true =>
            refine ⟨rfl, .inr ⟨reply,
              drain e.sink.isSome toUs reply.stop reply.packets { out := {} },
              if_pos ⟨rfl, fits.1, fits.2, rfl, rfl, rfl⟩, ?_, rfl, rfl⟩⟩
            rw [attached]
      · rw [if_pos (not_and_or.mp fits)]
        refine ⟨rfl, .inl ⟨if_neg fun drains => fits ⟨drains.2.1, drains.2.2.1⟩, rfl, _, rfl⟩⟩
    · rw [refused]
      exact ⟨rfl, .inl ⟨if_neg (by simp), rfl, _, rfl⟩⟩
  | flush reply =>
    rw [videoCall, flush, videoDrains]
    rcases e.lifecycle.flush_cases with starts | refused
    · rw [starts]
      dsimp only
      cases opened : isOpen e.ctx with
      | false => exact ⟨rfl, .inl ⟨if_neg (by simp), rfl, _, rfl⟩⟩
      | true =>
        refine ⟨rfl, .inr ⟨reply, drain e.sink.isSome toUs reply.stop reply.packets { out := {} },
          if_pos ⟨rfl, rfl⟩, ?_, rfl, rfl⟩⟩
        rw [attached]
    · rw [refused]
      exact ⟨rfl, .inl ⟨if_neg (by simp), rfl, _, rfl⟩⟩

theorem videoCall_handles_iff (attached : e.sink.isSome = true) (l : VideoCall) :
    Handles (FFmpegVideoEncoder.toPacket toUs) (videoCall toUs e l).1 (videoCall toUs e l).2.1 ↔
      ∀ reply, videoDrains e l = some reply → FilterMeets reply.packets := by
  obtain ⟨_, ⟨drains, quiet, st, failed⟩ | ⟨reply, drained, drains, ran, result, events⟩⟩ :=
    videoCall_cases toUs attached l
  · rw [quiet, failed, drains]
    exact iff_of_true ⟨.inl .nil, nofun⟩ nofun
  · obtain ⟨new, _, _, ran', logged, handles, _⟩ :=
      video_drains toUs reply.stop reply.packets { out := {} } rfl
    obtain rfl := ran.symm.trans ran'
    rw [result, events, logged, List.nil_append, handles, drains]
    exact ⟨fun meets _ same => Option.some.inj same ▸ meets, fun meets => meets reply rfl⟩

theorem audioCall_handles (attached : a.sink.isSome = true) (l : AudioCall) :
    (audioCall toUs a l).2.2.sink = a.sink ∧
      Handles (FFmpegAudioEncoder.toPacket toUs) (audioCall toUs a l).1
        (audioCall toUs a l).2.1 := by
  have fails (st : Status) : Handles (FFmpegAudioEncoder.toPacket toUs) (.error st) [] :=
    ⟨.inl .nil, nofun⟩
  cases l with
  | encode frame reply =>
    rw [audioCall, FFmpegAudioEncoder.encode]
    rcases a.lifecycle.encode_cases with starts | refused
    · rw [starts]
      dsimp only
      split
      · exact ⟨rfl, fails _⟩
      split
      · exact ⟨rfl, fails _⟩
      split
      · exact ⟨rfl, fails _⟩
      · rw [attached]
        exact ⟨rfl, audio_drain_handles reply.packets⟩
    · rw [refused]
      exact ⟨rfl, fails _⟩
  | flush reply =>
    rw [audioCall, FFmpegAudioEncoder.flush]
    rcases a.lifecycle.flush_cases with starts | refused
    · rw [starts, attached]
      dsimp only
      split
      · exact ⟨rfl, fails _⟩
      · exact ⟨rfl, audio_drain_handles reply.packets⟩
    · rw [refused]
      exact ⟨rfl, fails _⟩

theorem next_sink {call : E → L → Except Status P × List (Event P) × E} (sink : E → Option Nat)
    (keeps : ∀ e l, (sink e).isSome = true → sink (call e l).2.2 = sink e)
    {s t : EncodeRun E P} {l : L} (attached : (sink s.encoder).isSome = true)
    (step : next call s l = some t) : (sink t.encoder).isSome = true := by
  rw [next] at step
  split at step
  · cases step
  · obtain rfl := Option.some.inj step
    rw [keeps _ _ attached]
    exact attached

/-- In the runs with a sink attached, video packets are delivered just as long as the
filter does not fail unseen, and audio packets always. -/
theorem delivered_iff (toUs : Int → Int) :
    (∀ e : FFmpegVideoEncoder, e.sink.isSome = true → ∀ ls t,
      Run (Keeping (Takes (next (videoCall toUs))) (Delivered (FFmpegVideoEncoder.toPacket toUs)))
          { encoder := e } ls t ↔
        Run (Guarded (Takes (next (videoCall toUs))) DrainMeets) { encoder := e } ls t) ∧
    ∀ a : FFmpegAudioEncoder, a.sink.isSome = true → ∀ ls t,
      Run (Takes (next (audioCall toUs))) { encoder := a } ls t →
        Delivered (FFmpegAudioEncoder.toPacket toUs) t := by
  constructor
  · intro e attached ls t
    refine Run.keeping_iff_guarded (Q := fun s => s.encoder.sink.isSome = true) ?_ ?_ attached
      ⟨.inl .nil, nofun⟩
    · exact next_sink FFmpegVideoEncoder.sink
        fun e l attached => (videoCall_cases toUs attached l).1
    · intro s l t attached delivered step
      exact (next_delivered_iff delivered step).trans (videoCall_handles_iff attached l)
  · intro a attached ls t run
    refine (run.invariant (P := fun s => s.encoder.sink.isSome = true ∧ Delivered _ s) ?_
      ⟨attached, .inl .nil, nofun⟩).2
    rintro s l t ⟨attached, delivered⟩ step
    have keeps := @next_sink _ _ _ (audioCall toUs) FFmpegAudioEncoder.sink
    refine ⟨keeps (fun a l attached => (audioCall_handles attached l).1) attached step, ?_⟩
    exact (next_delivered_iff delivered step).mpr (audioCall_handles attached l).2

/-- A frame whose packet comes out of the filter with the flush. -/
theorem delivered_buffered :
    ∃ e : FFmpegVideoEncoder, e.sink.isSome = true ∧ ∃ ls t,
      Run (Keeping (Takes (next (videoCall id))) (Delivered (FFmpegVideoEncoder.toPacket id)))
          { encoder := e } ls t ∧ (pushes t.events).length = 1 := by
  let e : FFmpegVideoEncoder :=
    { config := { width := 2, height := 2 }, lifecycle := .kInitialized
      ctx := some { opened := true }, sink := some 0 }
  have run : Run (Guarded (Takes (next (videoCall id))) DrainMeets) { encoder := e }
      [.encode { width := 2, height := 2 } {},
        .flush { packets := [.received [(⟨[1], 0, true⟩, .kOk)] .again] }] _ :=
    .next ⟨rfl, by rintro reply ⟨⟩; trivial⟩ <|
      .single ⟨rfl, by rintro reply ⟨⟩; exact fun _ => ⟨nofun, trivial⟩⟩
  exact ⟨e, rfl, _, _, ((delivered_iff id).1 e rfl _ _).mpr run, rfl⟩

/-- The filter fails on the packet of a frame, and `Encode` returns Ok. -/
theorem delivered_unseen :
    ¬((∀ (toUs : Int → Int) (e : FFmpegVideoEncoder), e.sink.isSome = true → ∀ ls t,
        Run (Takes (next (videoCall toUs))) { encoder := e } ls t →
          Delivered (FFmpegVideoEncoder.toPacket toUs) t) ∧
      ∀ (toUs : Int → Int) (a : FFmpegAudioEncoder), a.sink.isSome = true → ∀ ls t,
        Run (Takes (next (audioCall toUs))) { encoder := a } ls t →
          Delivered (FFmpegAudioEncoder.toPacket toUs) t) := by
  intro always
  let e : FFmpegVideoEncoder :=
    { config := { width := 2, height := 2 }, lifecycle := .kInitialized
      ctx := some { opened := true }, sink := some 0 }
  have delivered := always.1 id e rfl
    [.encode { width := 2, height := 2 } { packets := [.received [] .error] }] _
    (.single rfl)
  rcases delivered.handed with ⟨quiet, _⟩ | ⟨reported, _⟩
  · cases quiet
  · cases reported

end Calls

end Draining
end VideoCodec
