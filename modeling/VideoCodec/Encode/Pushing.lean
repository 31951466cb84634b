import VideoCodec.Encode.Draining

/-! What an FFmpeg encoder hands to its sink, packet by packet with the answers to
them: a call ends its pushes at the first one that is refused. -/
namespace VideoCodec

open FFmpeg

namespace FFmpeg
variable {P : Type}

/-- The pushes of a loop over received packets. -/
def pushedAll (make : AVPacket → P) : List (AVPacket × Status) → List (P × Status)
  | [] => []
  | (packet, answer) :: rest =>
    (make packet, answer) :: if answer = .kOk then pushedAll make rest else []

end FFmpeg

/-- The pushes of a drain of the video encoder. -/
def FFmpegVideoEncoder.pushed (toUs : Int → Int) : List Filtering → List (VideoPacket × Status)
  | .received packets _ :: rest =>
    pushedAll (toPacket toUs) packets ++
      if ∀ p ∈ packets, p.2 = .kOk then pushed toUs rest else []
  | _ => []

namespace Draining
variable {P : Type}

/-- All that comes out is pushed, also the packet that is refused. -/
structure Pushed (make : FFmpeg.AVPacket → P) (events : List (Event P))
    (handed : List (P × Status)) : Prop where
  outputs : (outputs events).map make = handed.map Prod.fst
  pushes : pushes events = handed.map Prod.fst

section Log
variable {make : FFmpeg.AVPacket → P} {events new : List (Event P)}
  {handed more : List (P × Status)}

theorem Pushed.nil : Pushed make [] [] := ⟨rfl, rfl⟩

theorem Pushed.append (first : Pushed make events handed) (second : Pushed make new more) :
    Pushed make (events ++ new) (handed ++ more) where
  outputs := by
    rw [outputs_append, List.map_append, first.outputs, second.outputs, List.map_append]
  pushes := by rw [pushes_append, first.pushes, second.pushes, List.map_append]

theorem Pushed.failure (first : Pushed make events handed) :
    Pushed make (events ++ [.failure]) handed := by
  have last : Pushed make [.failure] [] := ⟨rfl, rfl⟩
  have both := first.append last
  rwa [List.append_nil] at both

theorem deliverAll_pushed (make : FFmpeg.AVPacket → P) (packets : List (FFmpeg.AVPacket × Status))
    (d : Drained P) (before : Pushed make d.events handed) :
    Pushed make (d.deliverAll true make packets).2.events (handed ++ pushedAll make packets) := by
  induction packets generalizing d handed with
  | nil =>
    rw [pushedAll, List.append_nil]
    exact before
  | cons first rest ih =>
    obtain ⟨packet, answer⟩ := first
    have step : Pushed make ((d.event (.output packet)).event (.push (make packet))).events
        (handed ++ [(make packet, answer)]) := by
      have here : Pushed make [.output packet, .push (make packet)] [(make packet, answer)] :=
        ⟨rfl, rfl⟩
      rw [Drained.event, Drained.event, List.append_assoc]
      exact before.append here
    rw [pushedAll, Drained.deliverAll, Drained.deliver, if_pos rfl]
    by_cases accepted : answer = .kOk
    · simp only [if_pos accepted]
      have rest := ih _ step
      rwa [List.append_assoc] at rest
    · simp only [if_neg accepted]
      exact step.failure

theorem finish_pushed (d : Drained P) (stop : ReceiveEnd) (before : Pushed make d.events handed) :
    Pushed make (d.finish stop).2.events handed := by
  cases stop with
  | again | eof => exact before
  | error => exact before.failure

end Log

section Calls
variable {toUs : Int → Int} {e : FFmpegVideoEncoder} {a : FFmpegAudioEncoder}

open FFmpegVideoEncoder in
theorem video_drain_pushed (stop : ReceiveEnd) (filterings : List Filtering)
    (d : Drained VideoPacket) {handed : List (VideoPacket × Status)}
    (before : Pushed (toPacket toUs) d.events handed) :
    Pushed (toPacket toUs) (drain true toUs stop filterings d).2.events
      (handed ++ pushed toUs filterings) := by
  induction filterings generalizing d handed with
  | nil =>
    rw [pushed, List.append_nil]
    · exact finish_pushed d stop before
    · nofun
  | cons first rest ih =>
    cases first with
    | allocFailed | sendFailed =>
      rw [pushed, List.append_nil]
      · exact before.failure
      · nofun
    | received packets filterStop =>
      have delivered := deliverAll_pushed (toPacket toUs) packets d before
      rw [pushed, drain]
      obtain ⟨new, -, ⟨all, looped⟩ | ⟨refused, looped⟩⟩ :=
        deliverAll_cases (toPacket toUs) packets d
      · rw [looped] at delivered ⊢
        rw [if_pos all, ← List.append_assoc]
        apply ih
        split
        · exact delivered.failure
        · exact delivered
      · rw [looped] at delivered ⊢
        rw [if_neg refused, List.append_nil]
        exact delivered

/-- The pushes of a call of the video encoder. -/
def videoPushed (toUs : Int → Int) (e : FFmpegVideoEncoder) (l : VideoCall) :
    List (VideoPacket × Status) :=
  (videoDrains e l).elim [] fun reply => FFmpegVideoEncoder.pushed toUs reply.packets

theorem videoCall_pushed (toUs : Int → Int) (attached : e.sink.isSome = true) (l : VideoCall) :
    Pushed (FFmpegVideoEncoder.toPacket toUs) (videoCall toUs e l).2.1 (videoPushed toUs e l) := by
  obtain ⟨-, ⟨drains, quiet, -⟩ | ⟨reply, drained, drains, ran, -, events⟩⟩ :=
    videoCall_cases toUs attached l
  · rw [videoPushed, drains, quiet]
    exact .nil
  · rw [videoPushed, drains, events, ← ran]
    exact video_drain_pushed reply.stop reply.packets { out := {} } .nil

/-- The answers to the drain of a call, when it comes to one. -/
def audioDrains (a : FFmpegAudioEncoder) : AudioCall → Option FFmpegAudioEncoder.Reply
  | .encode frame reply =>
    if a.lifecycle.encode.1 = .kOk ∧ frame.data ≠ [] ∧ reply.writable ∧ isOpen a.ctx ∧
      reply.send then some reply else none
  | .flush reply => if a.lifecycle.flush.1 = .kOk ∧ isOpen a.ctx then some reply else none

/-- The pushes of a call of the audio encoder. -/
def audioPushed (toUs : Int → Int) (a : FFmpegAudioEncoder) (l : AudioCall) :
    List (AudioPacket × Status) :=
  (audioDrains a l).elim [] fun reply => pushedAll (FFmpegAudioEncoder.toPacket toUs) reply.packets

theorem audio_drain_pushed (stop : ReceiveEnd) (packets : List (FFmpeg.AVPacket × Status)) :
    Pushed (FFmpegAudioEncoder.toPacket toUs)
      (FFmpegAudioEncoder.drain true toUs stop packets { out := {} }).2.events
      (pushedAll (FFmpegAudioEncoder.toPacket toUs) packets) := by
  have delivered := deliverAll_pushed (FFmpegAudioEncoder.toPacket toUs) packets { out := {} } .nil
  rw [FFmpegAudioEncoder.drain]
  obtain ⟨new, -, ⟨-, looped⟩ | ⟨-, looped⟩⟩ :=
    deliverAll_cases (FFmpegAudioEncoder.toPacket toUs) packets { out := {} }
  · rw [looped] at delivered ⊢
    exact finish_pushed _ stop delivered
  · rw [looped] at delivered ⊢
    exact delivered

theorem audioCall_pushed (toUs : Int → Int) (attached : a.sink.isSome = true) (l : AudioCall) :
    Pushed (FFmpegAudioEncoder.toPacket toUs) (audioCall toUs a l).2.1 (audioPushed toUs a l) := by
  cases l with
  | encode frame reply =>
    rw [audioCall, FFmpegAudioEncoder.encode, audioPushed, audioDrains]
    rcases a.lifecycle.encode_cases with starts | refused
    · rw [starts]
      dsimp only
      by_cases empty : frame.data = []
      · simp only [empty, if_true, ne_eq, not_true_eq_false, false_and, and_false, if_false]
        exact .nil
      · cases writable : reply.writable with
        | false => simpa [empty] using Pushed.nil
        | true =>
        cases opened : isOpen a.ctx with
        | false => simpa [empty] using Pushed.nil
        | true =>
          cases sends : reply.send with
          | false => simpa [empty] using Pushed.nil
          | true =>
            rw [attached]
            simpa [empty] using audio_drain_pushed reply.stop reply.packets
    · rw [refused]
      exact .nil
  | flush reply =>
    rw [audioCall, FFmpegAudioEncoder.flush, audioPushed, audioDrains]
    rcases a.lifecycle.flush_cases with starts | refused
    · rw [starts, attached]
      cases opened : isOpen a.ctx with
      | false => exact .nil
      | true => exact audio_drain_pushed reply.stop reply.packets
    · rw [refused]
      exact .nil

end Calls

end Draining
end VideoCodec
