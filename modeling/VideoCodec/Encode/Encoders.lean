import VideoCodec.Encode.EndOfStream
import VideoCodec.Encode.Pushing

/-! The encoders of a backend as a program uses them in push mode: what comes out of a
codec within a call is what the call pushes, with the answers that it goes by. -/
namespace VideoCodec

/-- A call on an encoder that has a sink. -/
structure Called (E P : Type) where
  /-- Whether the call succeeds. -/
  ok : Bool
  encoder : E
  /-- The packets of what came out of the codec. -/
  coded : List P
  pushed : List (P × Status)
  whole : coded = pushed.map Prod.fst

/-- The two encoders of a backend, each with a sink. -/
structure Encoders where
  Video : Type
  Audio : Type
  VideoReply : Type
  AudioReply : Type
  encode : Video → VideoFrame → VideoReply → Called Video VideoPacket
  poll : Video → VideoReply → Called Video VideoPacket
  flush : Video → VideoReply → Called Video VideoPacket
  encodeAudio : Audio → AudioFrame → AudioReply → Called Audio AudioPacket
  flushAudio : Audio → AudioReply → Called Audio AudioPacket

namespace FFmpeg

open Draining

def called (toUs : Int → Int) (e : { e : FFmpegVideoEncoder // e.sink.isSome = true })
    (call : VideoCall) : Called { e : FFmpegVideoEncoder // e.sink.isSome = true } VideoPacket where
  ok := (videoCall toUs e call).1.isOk
  encoder := ⟨(videoCall toUs e call).2.2,
    (congrArg Option.isSome (videoCall_cases toUs e.2 call).1).trans e.2⟩
  coded := (outputs (videoCall toUs e call).2.1).map (FFmpegVideoEncoder.toPacket toUs)
  pushed := videoPushed toUs e call
  whole := (videoCall_pushed toUs e.2 call).outputs

def calledAudio (toUs : Int → Int) (a : { a : FFmpegAudioEncoder // a.sink.isSome = true })
    (call : AudioCall) : Called { a : FFmpegAudioEncoder // a.sink.isSome = true } AudioPacket where
  ok := (audioCall toUs a call).1.isOk
  encoder := ⟨(audioCall toUs a call).2.2,
    (congrArg Option.isSome (audioCall_handles a.2 call).1).trans a.2⟩
  coded := (outputs (audioCall toUs a call).2.1).map (FFmpegAudioEncoder.toPacket toUs)
  pushed := audioPushed toUs a call
  whole := (audioCall_pushed toUs a.2 call).outputs

/-- The FFmpeg encoders; `Poll` is that of the base class. -/
def encoders (videoUs audioUs : Int → Int) : Encoders where
  Video := { e : FFmpegVideoEncoder // e.sink.isSome = true }
  Audio := { a : FFmpegAudioEncoder // a.sink.isSome = true }
  VideoReply := FFmpegVideoEncoder.Reply
  AudioReply := FFmpegAudioEncoder.Reply
  encode e frame reply := called videoUs e (.encode frame reply)
  poll e _ := { ok := true, encoder := e, coded := [], pushed := [], whole := rfl }
  flush e reply := called videoUs e (.flush reply)
  encodeAudio a frame reply := calledAudio audioUs a (.encode frame reply)
  flushAudio a reply := calledAudio audioUs a (.flush reply)

end FFmpeg

namespace MediaCodec

/-- The packets of what a codec puts out, made one after the other. -/
def packetsOf {E P : Type} (client : Client E P) : E → List Dequeued → List P
  | _, [] => []
  | e, .buffer b _ :: rest =>
    if b.configures then packetsOf client (client.capture e b.payload) rest
    else if b.frame then
      (client.packet e b).1 :: packetsOf client (client.packet e b).2 rest
    else packetsOf client e rest
  | e, _ :: rest => packetsOf client e rest

/-- What a sink answers to the packets of these. -/
def answersTo : List Dequeued → List Status
  | [] => []
  | .buffer b answer :: rest =>
    if b.configures then answersTo rest
    else if b.frame then answer :: answersTo rest
    else answersTo rest
  | _ :: rest => answersTo rest

section Packets
variable {E P : Type} {client : Client E P}

theorem length_packetsOf (e : E) (l : List Dequeued) :
    (packetsOf client e l).length = (answersTo l).length := by
  induction l generalizing e with
  | nil => rfl
  | cons d rest ih =>
    cases d with
    | tryAgain | formatChanged | buffersChanged | failed => exact ih e
    | buffer b answer =>
      rw [packetsOf, answersTo]
      split
      · exact ih _
      · split
        · exact congrArg (· + 1) (ih _)
        · exact ih e

/-- Members that the packets do not show. -/
theorem packetsOf_commutes {f : E → E}
    (capture : ∀ e payload, client.capture (f e) payload = f (client.capture e payload))
    (packet : ∀ e b, client.packet (f e) b = ((client.packet e b).1, f (client.packet e b).2))
    (e : E) (l : List Dequeued) : packetsOf client (f e) l = packetsOf client e l := by
  induction l generalizing e with
  | nil => rfl
  | cons d rest ih =>
    cases d with
    | tryAgain | formatChanged | buffersChanged | failed => exact ih e
    | buffer b answer =>
      rw [packetsOf, packetsOf, capture, packet]
      dsimp only
      rw [ih, ih, ih]

end Packets

section Drains
variable {api : MediaCodecApi} {d : Drained api.E api.P} {drainEof deadline : Bool}

/-- What a drain has pushed and where it has left its encoder: of the answers it has
taken since, the packets are still to be made. -/
structure Follows (before : Drained api.E api.P) (taken : List Dequeued)
    (d : Drained api.E api.P) : Prop where
  attached : api.attached d.encoder = true
  packets : ∀ later, before.pushed ++ packetsOf api.client before.encoder (taken ++ later) =
    d.pushed ++ packetsOf api.client d.encoder later

theorem turn_follows (attached : api.attached d.encoder = true) (answer : Dequeued) :
    (d.turn api.client drainEof deadline answer).2.dequeued = d.dequeued ∧
      Follows d [answer] (d.turn api.client drainEof deadline answer).2 := by
  cases answer with
  | tryAgain expired =>
    rw [Drained.turn]
    split
    · exact ⟨rfl, attached, fun _ => rfl⟩
    · exact ⟨rfl, attached, fun _ => rfl⟩
  | formatChanged | buffersChanged | failed => exact ⟨rfl, attached, fun _ => rfl⟩
  | buffer b answer =>
    cases configures : b.configures with
    | true =>
      rw [Drained.turn_config configures]
      refine ⟨rfl, ?_, fun later => ?_⟩
      · exact (congrArg Option.isSome (api.sink_capture d.encoder b.payload)).trans attached
      · rw [List.singleton_append, packetsOf, if_pos configures]
    | false =>
      cases frame : b.frame with
      | false =>
        have same : (d.turn api.client drainEof deadline (.buffer b answer)).2 = d := by
          rw [Drained.turn_other configures frame]
          split
          · rfl
          · rfl
        rw [same]
        refine ⟨rfl, attached, fun later => ?_⟩
        rw [List.singleton_append, packetsOf, configures, frame]
        rfl
      | true =>
        have delivered : (d.deliver api.client b answer).2 =
            { d with
              encoder := (api.client.packet d.encoder b).2
              pushed := d.pushed ++ [(api.client.packet d.encoder b).1] } := by
          rw [Drained.deliver]
          dsimp only
          rw [if_pos (show (api.client.sink d.encoder).isSome = true from attached)]
        rw [Drained.turn_frame_snd frame, delivered]
        refine ⟨rfl, ?_, fun later => ?_⟩
        · exact (congrArg Option.isSome (api.sink_packet d.encoder b)).trans attached
        · rw [List.singleton_append, packetsOf, configures, frame, List.append_assoc]
          rfl

/-- A drain pushes the packets of what it takes. -/
theorem drain_follows (attached : api.attached d.encoder = true) (answers : List Dequeued) :
    ∃ taken,
      (Drained.drain api.client drainEof deadline answers d).2.dequeued = d.dequeued ++ taken ∧
      Follows d taken (Drained.drain api.client drainEof deadline answers d).2 := by
  induction answers generalizing d with
  | nil => exact ⟨[], (List.append_nil _).symm, attached, fun _ => rfl⟩
  | cons answer rest ih =>
    have turned :
        (Drained.turn api.client drainEof deadline
          { d with dequeued := d.dequeued ++ [answer] } answer).2.dequeued =
            d.dequeued ++ [answer] ∧
        Follows { d with dequeued := d.dequeued ++ [answer] } [answer]
          (Drained.turn api.client drainEof deadline
            { d with dequeued := d.dequeued ++ [answer] } answer).2 :=
      turn_follows (d := { d with dequeued := d.dequeued ++ [answer] }) attached answer
    rw [Drained.drain]
    generalize Drained.turn api.client drainEof deadline
      { d with dequeued := d.dequeued ++ [answer] } answer = result at turned ⊢
    obtain ⟨result, next⟩ := result
    obtain ⟨kept, follows⟩ := turned
    cases result with
    | some result => exact ⟨[answer], kept, follows.attached, follows.packets⟩
    | none =>
      obtain ⟨taken, all, rest⟩ := ih follows.attached
      refine ⟨answer :: taken, ?_, rest.attached, fun later => ?_⟩
      · rw [all]
        dsimp only at kept
        rw [kept, List.append_assoc]
        rfl
      · rw [← rest.packets later]
        exact follows.packets (taken ++ later)

/-- A call that pushes the packets of what it takes from the codec of `e`. -/
structure Hands (api : MediaCodecApi) (e : api.E) (call : Call api.E api.P) : Prop where
  attached : api.attached call.encoder = true
  packets : call.pushed = packetsOf api.client e call.dequeued

theorem draining_hands {e : api.E} (attached : api.attached e = true) (answers : List Dequeued)
    (empty : api.P) : Hands api e (.draining api.client drainEof deadline answers e empty) := by
  let start : Drained api.E api.P := { encoder := e, out := empty }
  obtain ⟨taken, all, follows⟩ :
      ∃ taken, (Drained.drain api.client drainEof deadline answers start).2.dequeued =
          start.dequeued ++ taken ∧
        Follows start taken (Drained.drain api.client drainEof deadline answers start).2 :=
    drain_follows attached answers
  refine ⟨follows.attached, ?_⟩
  have whole := follows.packets []
  rw [List.append_nil, packetsOf, List.append_nil] at whole
  exact whole.symm.trans (congrArg (packetsOf api.client e) all.symm)

theorem refused_hands {e f : api.E} (st : Status) (attached : api.attached f = true) :
    Hands api e (.refused st f) := ⟨attached, rfl⟩

/-- The encoder before a call differs from that of its drain in members that no packet
shows. -/
theorem Hands.of_before {f : api.E → api.E} {e : api.E} {call : Call api.E api.P}
    (hands : Hands api (f e) call)
    (capture : ∀ e payload,
      api.client.capture (f e) payload = f (api.client.capture e payload))
    (packet : ∀ e b,
      api.client.packet (f e) b = ((api.client.packet e b).1, f (api.client.packet e b).2)) :
    Hands api e call :=
  ⟨hands.attached, hands.packets.trans (packetsOf_commutes capture packet e _)⟩

def Hands.called {e : { e : api.E // api.attached e = true }} {call : Call api.E api.P}
    (hands : Hands api e.1 call) : Called { e : api.E // api.attached e = true } api.P where
  ok := call.result.isOk
  encoder := ⟨call.encoder, hands.attached⟩
  coded := packetsOf api.client e call.dequeued
  pushed := call.pushed.zip (answersTo call.dequeued)
  whole := by
    rw [hands.packets, List.map_fst_zip (length_packetsOf _ _).le]

end Drains

section Calls

/-- `Poll` with the log of its drain. -/
def pollCall (e : MediaCodecVideoEncoder) (dequeued : List Dequeued) :
    Call MediaCodecVideoEncoder VideoPacket :=
  if !e.surfaceMode then { result := .ok {}, encoder := e }
  else
    match e.lifecycle.encode with
    | (.kOk, lifecycle) =>
      if !e.codec then .refused .kEncodeFailed { e with lifecycle }
      else { e with lifecycle }.drain false false dequeued
    | _ => .refused .kNotInitialized e

theorem poll_encoder (e : MediaCodecVideoEncoder) (dequeued : List Dequeued) :
    (e.poll dequeued).2 = (pollCall e dequeued).encoder := by
  rw [MediaCodecVideoEncoder.poll, pollCall]
  split
  · rfl
  rcases e.lifecycle.encode_cases with starts | refused
  · rw [starts]
    dsimp only
    split
    · rfl
    · split <;> rfl
  · rw [refused]
    rfl

theorem video_capture (lifecycle : EncoderLifecycle) (pts : Int) (e : MediaCodecVideoEncoder)
    (payload : List UInt8) :
    MediaCodecVideoEncoder.capture { e with lifecycle, pts } payload =
      { e.capture payload with lifecycle, pts } := by
  rw [MediaCodecVideoEncoder.capture, MediaCodecVideoEncoder.capture]
  dsimp only
  split
  · split <;> rfl
  · rfl

/-- A drain of the video encoder within a call of `e`. -/
theorem video_hands {e : MediaCodecVideoEncoder} (attached : e.sink.isSome = true)
    (lifecycle : EncoderLifecycle) (pts : Int) (drainEof deadline : Bool)
    (answers : List Dequeued) :
    Hands .video e
      (MediaCodecVideoEncoder.drain { e with lifecycle, pts } drainEof deadline answers) := by
  let started (e : MediaCodecVideoEncoder) : MediaCodecVideoEncoder := { e with lifecycle, pts }
  have drained : Hands .video (started e) ((started e).drain drainEof deadline answers) :=
    draining_hands (show MediaCodecApi.attached .video (started e) = true from attached) answers _
  exact @Hands.of_before .video started e _ drained (video_capture lifecycle pts) fun _ _ => rfl

theorem encode_hands {e : MediaCodecVideoEncoder} (attached : e.sink.isSome = true)
    (frame : VideoFrame) (input : InputReply) (answers : List Dequeued) :
    Hands .video e (e.encode frame input answers) := by
  rw [MediaCodecVideoEncoder.encode]
  split
  · exact refused_hands _ attached
  rcases e.lifecycle.encode_cases with starts | refused
  · rw [starts]
    dsimp only
    split
    · exact refused_hands _ attached
    split
    · exact video_hands attached .kEncoding _ false false answers
    · exact refused_hands _ attached
  · rw [refused]
    exact refused_hands _ attached

theorem poll_hands {e : MediaCodecVideoEncoder} (attached : e.sink.isSome = true)
    (answers : List Dequeued) : Hands .video e (pollCall e answers) := by
  rw [pollCall]
  split
  · exact ⟨attached, rfl⟩
  rcases e.lifecycle.encode_cases with starts | refused
  · rw [starts]
    dsimp only
    split
    · exact refused_hands _ attached
    · exact video_hands attached .kEncoding e.pts false false answers
  · rw [refused]
    exact refused_hands _ attached

theorem flush_hands {e : MediaCodecVideoEncoder} (attached : e.sink.isSome = true)
    (reply : FlushReply) : Hands .video e (e.flush reply) := by
  rw [MediaCodecVideoEncoder.flush]
  rcases e.lifecycle.flush_cases with starts | refused
  · rw [starts]
    dsimp only
    split
    · exact refused_hands _ attached
    · exact video_hands attached .kFlushed e.pts true e.surfaceMode reply.dequeued
  · rw [refused]
    exact refused_hands _ attached

/-- A drain of the audio encoder within a call of `a`. -/
theorem audio_hands {a : MediaCodecAudioEncoder} (attached : a.sink.isSome = true)
    (lifecycle : EncoderLifecycle) (pts : Int) (drainEof : Bool) (answers : List Dequeued) :
    Hands .audio a (MediaCodecAudioEncoder.drain { a with lifecycle, pts } drainEof answers) := by
  let started (a : MediaCodecAudioEncoder) : MediaCodecAudioEncoder := { a with lifecycle, pts }
  have drained : Hands .audio (started a) ((started a).drain drainEof answers) :=
    draining_hands (show MediaCodecApi.attached .audio (started a) = true from attached) answers _
  refine @Hands.of_before .audio started a _ drained (fun _ _ => rfl) fun a b => ?_
  change MediaCodecAudioEncoder.client.packet (started a) b =
    ((MediaCodecAudioEncoder.client.packet a b).1,
      started (MediaCodecAudioEncoder.client.packet a b).2)
  rw [MediaCodecAudioEncoder.client]
  dsimp only [started]
  split <;> rfl

/-- `QueueInput` leaves all but the clock. -/
theorem queueInput_frame (a : MediaCodecAudioEncoder) (frame : AudioFrame) (input : InputReply) :
    ∃ pts, (a.queueInput frame input).2 = { a with pts } := by
  rw [MediaCodecAudioEncoder.queueInput]
  split
  · exact ⟨a.pts, rfl⟩
  split
  · exact ⟨a.pts, rfl⟩
  split
  · exact ⟨a.pts, rfl⟩
  split
  · exact ⟨a.pts, rfl⟩
  split
  · exact ⟨a.pts, rfl⟩
  · exact ⟨_, rfl⟩

theorem encodeAudio_hands {a : MediaCodecAudioEncoder} (attached : a.sink.isSome = true)
    (frame : AudioFrame) (input : InputReply) (answers : List Dequeued) :
    Hands .audio a (a.encode frame input answers) := by
  rw [MediaCodecAudioEncoder.encode]
  rcases a.lifecycle.encode_cases with starts | refused
  · rw [starts]
    dsimp only
    split
    · exact refused_hands _ attached
    obtain ⟨pts, queued⟩ :=
      queueInput_frame { a with lifecycle := .kEncoding } frame input
    generalize MediaCodecAudioEncoder.queueInput { a with lifecycle := .kEncoding } frame input =
      result at queued
    obtain ⟨st, next⟩ := result
    dsimp only at queued
    subst queued
    split
    · rename_i went
      obtain ⟨-, rfl⟩ := Prod.mk.inj went
      exact audio_hands attached .kEncoding pts false answers
    · rename_i went
      obtain ⟨-, rfl⟩ := Prod.mk.inj went
      exact refused_hands _ attached
  · rw [refused]
    exact refused_hands _ attached

theorem flushAudio_hands {a : MediaCodecAudioEncoder} (attached : a.sink.isSome = true)
    (reply : FlushReply) : Hands .audio a (a.flush reply) := by
  rw [MediaCodecAudioEncoder.flush]
  rcases a.lifecycle.flush_cases with starts | refused
  · rw [starts]
    dsimp only
    split
    · exact refused_hands _ attached
    · exact audio_hands attached .kFlushed a.pts true reply.dequeued
  · rw [refused]
    exact refused_hands _ attached

end Calls

/-- What the NDK answers to a call of either encoder. -/
structure CodecReply where
  input : InputReply
  dequeued : List Dequeued := []
  flush : FlushReply := {}

/-- The MediaCodec encoders. -/
def encoders : Encoders where
  Video := { e : MediaCodecVideoEncoder // e.sink.isSome = true }
  Audio := { a : MediaCodecAudioEncoder // a.sink.isSome = true }
  VideoReply := CodecReply
  AudioReply := CodecReply
  encode e frame reply := (encode_hands e.2 frame reply.input reply.dequeued).called
  poll e reply :=
    { (poll_hands e.2 reply.dequeued).called with
      ok := (e.1.poll reply.dequeued).1 = .kOk
      encoder := ⟨(e.1.poll reply.dequeued).2,
        poll_encoder e.1 reply.dequeued ▸ (poll_hands e.2 reply.dequeued).attached⟩ }
  flush e reply := (flush_hands e.2 reply.flush).called
  encodeAudio a frame reply := (encodeAudio_hands a.2 frame reply.input reply.dequeued).called
  flushAudio a reply := (flushAudio_hands a.2 reply.flush).called

end MediaCodec
end VideoCodec
