import Mathlib.Data.List.ReduceOption
import VideoCodec.Encode.Encoders
import VideoCodec.Queue.PacketQueue
import VideoCodec.Queue.PacketSink
import VideoCodec.Utils.SmpteBars

/-! The program `encode_file`: a main thread that feeds the encoders of a backend, flushes
them and marks the end of the queue, beside the thread in `Await`. The loop of
`encode_and_push` is the same without a surface. -/
namespace VideoCodec

open Transition

namespace CodecFactory

/-- `CreateVideo` and `CreateAudio` with a sink, from what the creator has made. -/
def create {E R : Type} (init : E → R → Status × E) (setOutputSink : E → Option Nat → Status × E)
    (encoder : E) (sink : Option Nat) (reply : R) : Except Status E :=
  match init encoder reply with
  | (.kOk, e) =>
    if sink.isSome then
      match setOutputSink e sink with
      | (.kOk, e) => .ok e
      | (status, _) => .error status
    else .ok e
  | (status, _) => .error status

/-- An encoder that is made for a sink has it. -/
theorem create_attached {E R : Type} {init : E → R → Status × E}
    {setOutputSink : E → Option Nat → Status × E} {attached : E → Option Nat}
    (attaches : ∀ e sink, attached (setOutputSink e sink).2 = sink) {encoder e : E} {sink : Nat}
    {reply : R} (created : create init setOutputSink encoder (some sink) reply = .ok e) :
    (attached e).isSome = true := by
  rw [create] at created
  split at created
  · rename_i made _
    rw [if_pos (show (some sink).isSome = true from rfl)] at created
    split at created
    · rename_i given sunk
      obtain rfl := Except.ok.inj created
      have given := attaches made (some sink)
      rw [sunk] at given
      exact (congrArg Option.isSome given).trans rfl
    · contradiction
  · contradiction

def createVideo (config : VideoConfig) (sink : Option Nat) (reply : FFmpegVideoReply) :
    Except Status FFmpegVideoEncoder :=
  create FFmpegVideoEncoder.init FFmpegVideoEncoder.setOutputSink { config } sink reply

def createAudio (config : AudioConfig) (sink : Option Nat) (reply : FFmpegAudioReply) :
    Except Status FFmpegAudioEncoder :=
  create FFmpegAudioEncoder.init FFmpegAudioEncoder.setOutputSink { config } sink reply

def createAndroidVideo (config : VideoConfig) (sink : Option Nat)
    (reply : MediaCodecVideoReply) : Except Status MediaCodecVideoEncoder :=
  create MediaCodecVideoEncoder.init MediaCodecVideoEncoder.setOutputSink { config } sink reply

def createAndroidAudio (config : AudioConfig) (sink : Option Nat)
    (reply : MediaCodecAudioReply) : Except Status MediaCodecAudioEncoder :=
  create MediaCodecAudioEncoder.init MediaCodecAudioEncoder.setOutputSink { config } sink reply

end CodecFactory

namespace EncodeFile

open SmpteBars

/-- What the program is called with, and the arithmetic of its platform. -/
structure Options where
  frameCount : Nat
  width : Int
  height : Int
  fps : Int
  surface : Bool := false
  rgbToYuv : RgbToYuv
  tone : Tone

inductive Place where
  | video (i : Nat)
  | audio (i : Nat)
  | flushVideo
  | flushAudio
  | markVideo
  | markAudio
  | join
  deriving DecidableEq, Repr

/-- A push that an encoder has yet to make within its call, with the answer the call
goes by. -/
structure Handing where
  media : Media
  pkt : media.Pkt
  answer : Status

/-- The main thread from its loop on. `audio` is null with `--raw`. -/
structure Main (api : Encoders) where
  place : Place := .video 0
  video : api.Video
  audio : Option api.Audio
  pace : AudioPace
  handing : List Handing := []
  /-- The packets that came out of the codecs, which nothing reads. -/
  coded : (m : Media) → List m.Pkt := fun _ => []

/-- The answers to a call, and whether the surface rendered the frame. -/
structure Reply (api : Encoders) where
  rendered : Bool := true
  video : api.VideoReply
  audio : api.AudioReply

namespace Main
variable {api : Encoders}

def put {E : Type} (m : Main api) (n : Media) (call : Called E n.Pkt) : Main api :=
  { m with
    handing := call.pushed.map fun p => ⟨n, p.1, p.2⟩
    coded := Function.update m.coded n (m.coded n ++ call.coded) }

/-- Behind a call of the video encoder. -/
def afterVideo (m : Main api) (call : Called api.Video VideoPacket) (place : Place) : Main api :=
  { m.put .video call with video := call.encoder, place }

def afterAudio (m : Main api) (call : Called api.Audio AudioPacket) (place : Place) : Main api :=
  { m.put .audio call with audio := some call.encoder, place }

/-- What the thread does next, up to the pushes of the call. -/
def turn (o : Options) (m : Main api) (reply : Reply api) : Option (Main api) :=
  match m.place with
  | .video i =>
    if i < o.frameCount then
      if o.surface then
        if !reply.rendered then some { m with place := .flushVideo }
        else
          let call := api.poll m.video reply.video
          some (m.afterVideo call (if call.ok then .audio i else .flushVideo))
      else
        let frame := makeVideoFrame o.rgbToYuv o.width o.height o.fps i
        let call := api.encode m.video frame reply.video
        some (m.afterVideo call (if call.ok then .audio i else .flushVideo))
    else some { m with place := .flushVideo }
  | .audio i =>
    match m.audio, m.pace.nextAudioFrame o.tone i with
    | some a, some (frame, pace) =>
      let call := api.encodeAudio a frame reply.audio
      some ({ m with pace }.afterAudio call (if call.ok then .audio i else .video (i + 1)))
    | _, _ => some { m with place := .video (i + 1) }
  | .flushVideo => some (m.afterVideo (api.flush m.video reply.video) .flushAudio)
  | .flushAudio =>
    match m.audio with
    | some a => some (m.afterAudio (api.flushAudio a reply.audio) .markVideo)
    | none => some { m with place := .markVideo }
  | .markVideo | .markAudio | .join => none

end Main

/-- The steps of the thread in `Await`. -/
def ofAwait : Delivery.Label → Bool
  | .pull .. | .sinkPush .. | .sinkFinish .. => true
  | .push .. | .markVideo | .markAudio => false

structure Sys (api : Encoders) (σ : Type) where
  main : Main api
  pipe : Piped.Sys σ

/-- The program that writes to the sink `k`. A step of the queue is its label. -/
inductive Step {api : Encoders} {σ ρ : Type} (o : Options) (k : PacketSink σ ρ)
    (deadlineUs : Int) : Sys api σ → Option Delivery.Label → Sys api σ → Prop where
  | turn {s : Sys api σ} (reply : Reply api) (returned : s.main.handing = [])
      (turn : s.main.turn o reply = some m) : Step o k deadlineUs s none ⟨m, s.pipe⟩
  | hand {s : Sys api σ} {n : Media} {pkt : n.Pkt}
      (next : s.main.handing = ⟨n, pkt, PacketQueue.pushStatus .kBlock accepted⟩ :: rest)
      (step : Piped.Step k deadlineUs s.pipe (.push n pkt accepted) pipe) :
      Step o k deadlineUs s (some (.push n pkt accepted))
        ⟨{ s.main with handing := rest }, pipe⟩
  | markVideo {s : Sys api σ} (returned : s.main.handing = [])
      (place : s.main.place = .markVideo)
      (step : Piped.Step k deadlineUs s.pipe .markVideo pipe) :
      Step o k deadlineUs s (some .markVideo) ⟨{ s.main with place := .markAudio }, pipe⟩
  | markAudio {s : Sys api σ} (returned : s.main.handing = [])
      (place : s.main.place = .markAudio)
      (step : Piped.Step k deadlineUs s.pipe .markAudio pipe) :
      Step o k deadlineUs s (some .markAudio) ⟨{ s.main with place := .join }, pipe⟩
  | await {s : Sys api σ} (worker : ofAwait l = true)
      (step : Piped.Step k deadlineUs s.pipe l pipe) :
      Step o k deadlineUs s (some l) ⟨s.main, pipe⟩

/-- The program before its loop: the encoders push into the queue. -/
def start {api : Encoders} {σ : Type} (video : api.Video) (audio : Option api.Audio)
    (pace : AudioPace) (capacity : Capacity) (sink : σ) : Sys api σ :=
  ⟨{ video, audio, pace }, ⟨.new capacity .kBlock, sink⟩⟩

/-- The packets of medium `m` that are yet to be pushed. -/
def pending (m : Media) (handing : List Handing) : List m.Pkt :=
  handing.flatMap fun h => h.media.only h.pkt m

/-- What holds after the steps `ls` of the queue: no push was refused, and what came out
of the codecs was pushed or is about to be. -/
structure Inv {api : Encoders} {σ : Type} (ls : List Delivery.Label) (s : Sys api σ) : Prop where
  queue : Delivery.Inv ls s.pipe.queue
  blocks : ∀ n, (s.pipe.queue.ring n).policy = .kBlock
  returned : s.main.place = .markAudio ∨ s.main.place = .join → s.main.handing = []
  openVideo : s.main.place ≠ .markAudio → s.main.place ≠ .join →
    (s.pipe.queue.ring .video).eos = false
  openAudio : s.main.place ≠ .join → (s.pipe.queue.ring .audio).eos = false
  taken : ∀ m pkt accepted, .push m pkt accepted ∈ ls → accepted = true
  conserved : ∀ m, Delivery.accepted m ls ++ pending m s.main.handing = s.main.coded m

section Queue
variable {deadlineUs : Int} {q r : Delivery.Sys} {l : Delivery.Label}

/-- The ring that a step marks. -/
def marks : Delivery.Label → Option Media
  | .markVideo => some .video
  | .markAudio => some .audio
  | _ => none

theorem withRing_frame {m : Media} {ring : Ring m.Pkt} (policy : ring.policy = (q.ring m).policy)
    (eos : ring.eos = (q.ring m).eos) (n : Media) :
    ((q.withRing m ring).ring n).policy = (q.ring n).policy ∧
      ((q.withRing m ring).ring n).eos = (q.ring n).eos := by
  by_cases same : n = m
  · subst same
    rw [Delivery.withRing_self]
    exact ⟨policy, eos⟩
  · rw [Delivery.withRing_other q same]
    exact ⟨rfl, rfl⟩

theorem mark_frame (q : Delivery.Sys) (m n : Media) :
    ((q.withRing m (q.ring m).markEos).ring n).policy = (q.ring n).policy ∧
      (n ≠ m → ((q.withRing m (q.ring m).markEos).ring n).eos = (q.ring n).eos) := by
  by_cases same : n = m
  · subst same
    rw [Delivery.withRing_self]
    exact ⟨rfl, fun different => absurd rfl different⟩
  · rw [Delivery.withRing_other q same]
    exact ⟨rfl, fun _ => rfl⟩

/-- Policies stay, and only `MarkEos` ends a ring. -/
theorem step_frame (valid : ∀ m, (q.ring m).Valid) (step : Delivery.Step deadlineUs q l r)
    (n : Media) : (r.ring n).policy = (q.ring n).policy ∧
      (marks l ≠ some n → (r.ring n).eos = (q.ring n).eos) := by
  cases step with
  | push displaced ended =>
    obtain ⟨-, policy, eos⟩ := (ended.push_ends (valid _)).frame
    exact (withRing_frame policy eos n).imp_right fun same _ => same
  | markVideo =>
    exact (mark_frame q .video n).imp_right fun same unmarked =>
      same fun here => unmarked (congrArg some here.symm)
  | markAudio between =>
    exact (mark_frame q .audio n).imp_right fun same unmarked =>
      same fun here => unmarked (congrArg some here.symm)
  | pull place popped =>
    obtain ⟨-, policy, eos⟩ := popped.pop_ends.frame
    exact (withRing_frame policy eos n).imp_right fun same _ => same
  | deliver | abort | finish => exact ⟨rfl, fun _ => rfl⟩

/-- An open ring that blocks refuses nothing. -/
theorem push_taken {m : Media} {pkt : m.Pkt} {accepted : Bool} (valid : ∀ m, (q.ring m).Valid)
    (blocks : (q.ring m).policy = .kBlock) (opened : (q.ring m).eos = false)
    (step : Delivery.Step deadlineUs q (.push m pkt accepted) r) : accepted = true := by
  cases step with
  | push displaced ended =>
    cases ended.push_ends (valid m) with
    | late marked =>
      rw [opened] at marked
      contradiction
    | refused _ _ policy =>
      rw [blocks] at policy
      contradiction
    | evicted | stored => rfl

end Queue

section Main
variable {api : Encoders} {o : Options} {m t : Main api} {n : Media}

/-- A turn of the main thread before it marks the queue. -/
structure Turned (m t : Main api) : Prop where
  before : m.place ≠ .markAudio ∧ m.place ≠ .join
  behind : t.place ≠ .markAudio ∧ t.place ≠ .join
  coded : ∀ n, t.coded n = m.coded n ++ pending n t.handing

theorem put_coded {E : Type} (m : Main api) (call : Called E n.Pkt) (k : Media) :
    (m.put n call).coded k = m.coded k ++ pending k (m.put n call).handing := by
  rw [Main.put, pending, List.flatMap_map, call.whole]
  by_cases same : k = n
  · subst same
    simp only [Function.update_self, Media.only_self]
    rw [List.map_eq_flatMap]
  · dsimp only
    rw [Function.update_of_ne same,
      List.flatMap_eq_nil_iff.mpr fun p _ => Media.only_other (Ne.symm same) p.1, List.append_nil]

theorem Turned.moved (returned : m.handing = []) (before : m.place ≠ .markAudio ∧ m.place ≠ .join)
    {place : Place} (behind : place ≠ .markAudio ∧ place ≠ .join) :
    Turned m { m with place } where
  before := before
  behind := behind
  coded n := by
    rw [returned]
    exact (List.append_nil _).symm

theorem Turned.video (before : m.place ≠ .markAudio ∧ m.place ≠ .join)
    (call : Called api.Video VideoPacket) {place : Place}
    (behind : place ≠ .markAudio ∧ place ≠ .join) : Turned m (m.afterVideo call place) :=
  ⟨before, behind, put_coded (n := .video) m call⟩

theorem Turned.audio (before : m.place ≠ .markAudio ∧ m.place ≠ .join) (pace : AudioPace)
    (call : Called api.Audio AudioPacket) {place : Place}
    (behind : place ≠ .markAudio ∧ place ≠ .join) :
    Turned m ({ m with pace }.afterAudio call place) :=
  ⟨before, behind, put_coded (n := .audio) { m with pace } call⟩

theorem turn_turned {reply : Reply api} (returned : m.handing = [])
    (turn : m.turn o reply = some t) : Turned m t := by
  rw [Main.turn] at turn
  split at turn
  · rename_i i place
    have before : m.place ≠ .markAudio ∧ m.place ≠ .join := by simp [place]
    split at turn
    · split at turn
      · split at turn
        · obtain rfl := Option.some.inj turn
          exact .moved returned before (by simp)
        · obtain rfl := Option.some.inj turn
          refine .video before _ ?_
          split <;> simp
      · obtain rfl := Option.some.inj turn
        refine .video before _ ?_
        split <;> simp
    · obtain rfl := Option.some.inj turn
      exact .moved returned before (by simp)
  · rename_i i place
    have before : m.place ≠ .markAudio ∧ m.place ≠ .join := by simp [place]
    split at turn
    · rename_i a frame pace present _
      obtain rfl := Option.some.inj turn
      refine .audio before pace _ ?_
      split <;> simp
    · obtain rfl := Option.some.inj turn
      exact .moved returned before (by simp)
  · rename_i place
    obtain rfl := Option.some.inj turn
    exact .video (by simp [place]) _ (by simp)
  · rename_i place
    have before : m.place ≠ .markAudio ∧ m.place ≠ .join := by simp [place]
    split at turn
    · rename_i a present
      obtain rfl := Option.some.inj turn
      exact .audio before m.pace _ (by simp)
    · obtain rfl := Option.some.inj turn
      exact .moved returned before (by simp)
  · contradiction
  · contradiction
  · contradiction

end Main

section Steps
variable {api : Encoders} {σ ρ : Type} {o : Options} {k : PacketSink σ ρ} {deadlineUs : Int}
  {s t : Sys api σ} {l : Option Delivery.Label} {ls : List Delivery.Label}

theorem start_inv (video : api.Video) (audio : Option api.Audio) (pace : AudioPace)
    (capacity : Capacity) (sink : σ) : Inv [] (start video audio pace capacity sink) where
  queue := Delivery.new_inv capacity .kBlock (by decide)
  blocks _ := rfl
  returned here := by rcases here with here | here <;> contradiction
  openVideo _ _ := rfl
  openAudio _ := rfl
  taken _ _ _ member := absurd member List.not_mem_nil
  conserved _ := rfl

/-- A step of the queue that lets no packet in and marks no ring. -/
theorem Inv.aside {pipe : Piped.Sys σ} {l : Delivery.Label} (inv : Inv ls s)
    (step : Delivery.Step deadlineUs s.pipe.queue l pipe.queue) (worker : ofAwait l = true) :
    Inv (ls ++ [l]) ⟨s.main, pipe⟩ := by
  have frame (n : Media) := step_frame inv.queue.valid step n
  have unmarked (n : Media) : marks l ≠ some n := by cases l <;> simp_all [ofAwait, marks]
  have nothing (n : Media) : l.accepted n = [] := by
    cases l <;> simp_all [ofAwait, Delivery.Label.accepted]
  exact {
    queue := Delivery.step_inv inv.queue step
    blocks := fun n => (frame n).1.trans (inv.blocks n)
    returned := inv.returned
    openVideo := fun between joined =>
      ((frame .video).2 (unmarked .video)).trans (inv.openVideo between joined)
    openAudio := fun joined => ((frame .audio).2 (unmarked .audio)).trans (inv.openAudio joined)
    taken := fun m pkt accepted member => by
      rcases List.mem_append.mp member with before | last
      · exact inv.taken m pkt accepted before
      · rw [← List.mem_singleton.mp last] at worker
        contradiction
    conserved := fun m => by
      rw [Delivery.accepted_snoc, nothing, List.append_nil]
      exact inv.conserved m }

/-- While the main thread pushes, no ring is marked. -/
theorem Inv.running (inv : Inv ls s) (busy : s.main.handing ≠ []) :
    s.main.place ≠ .markAudio ∧ s.main.place ≠ .join :=
  ⟨fun place => busy (inv.returned (.inl place)), fun place => busy (inv.returned (.inr place))⟩

theorem Inv.hand {pipe : Piped.Sys σ} {n : Media} {pkt : n.Pkt} {answer : Status}
    {rest : List Handing} {accepted : Bool} (inv : Inv ls s)
    (next : s.main.handing = ⟨n, pkt, answer⟩ :: rest)
    (step : Delivery.Step deadlineUs s.pipe.queue (.push n pkt accepted) pipe.queue) :
    Inv (ls ++ [.push n pkt accepted]) ⟨{ s.main with handing := rest }, pipe⟩ := by
  obtain ⟨between, joined⟩ := inv.running (by rw [next]; exact List.cons_ne_nil _ _)
  have frame (n : Media) := step_frame inv.queue.valid step n
  have opened (n : Media) : (s.pipe.queue.ring n).eos = false := by
    cases n with
    | video => exact inv.openVideo between joined
    | audio => exact inv.openAudio joined
  obtain rfl := push_taken inv.queue.valid (inv.blocks _) (opened _) step
  exact {
    queue := Delivery.step_inv inv.queue step
    blocks := fun n => (frame n).1.trans (inv.blocks n)
    returned := fun here => by
      rcases here with here | here
      · exact absurd here between
      · exact absurd here joined
    openVideo := fun _ _ => ((frame .video).2 (by simp [marks])).trans (opened .video)
    openAudio := fun _ => ((frame .audio).2 (by simp [marks])).trans (opened .audio)
    taken := fun m pkt accepted member => by
      rcases List.mem_append.mp member with before | last
      · exact inv.taken m pkt accepted before
      · exact (Delivery.Label.push.inj (List.mem_singleton.mp last)).2.2
    conserved := fun m => by
      rw [Delivery.accepted_snoc, List.append_assoc, ← inv.conserved m, next]
      rfl }

theorem Inv.mark {pipe : Piped.Sys σ} {l : Delivery.Label} {place : Place} (inv : Inv ls s)
    (returned : s.main.handing = [])
    (step : Delivery.Step deadlineUs s.pipe.queue l pipe.queue) (marking : (marks l).isSome = true)
    (behind : place = .join ∨ place = .markAudio ∧ l = .markVideo ∧ s.main.place ≠ .join) :
    Inv (ls ++ [l]) ⟨{ s.main with place }, pipe⟩ := by
  have frame (n : Media) := step_frame inv.queue.valid step n
  have nothing (n : Media) : l.accepted n = [] := by
    cases l <;> simp_all [marks, Delivery.Label.accepted]
  exact {
    queue := Delivery.step_inv inv.queue step
    blocks := fun n => (frame n).1.trans (inv.blocks n)
    returned := fun _ => returned
    openVideo := fun between joined => by
      rcases behind with here | ⟨here, -⟩
      · exact absurd here joined
      · exact absurd here between
    openAudio := fun joined => by
      rcases behind with here | ⟨-, rfl, before⟩
      · exact absurd here joined
      · exact ((frame .audio).2 (by simp [marks])).trans (inv.openAudio before)
    taken := fun m pkt accepted member => by
      rcases List.mem_append.mp member with before | last
      · exact inv.taken m pkt accepted before
      · rw [← List.mem_singleton.mp last] at marking
        contradiction
    conserved := fun m => by
      rw [Delivery.accepted_snoc, nothing, List.append_nil]
      exact inv.conserved m }

theorem step_inv (inv : Inv ls s) (step : Step o k deadlineUs s l t) :
    Inv (ls ++ l.toList) t := by
  cases step with
  | turn reply returned turn =>
    have turned := turn_turned returned turn
    rw [Option.toList_none, List.append_nil]
    exact {
      queue := inv.queue
      blocks := inv.blocks
      returned := fun here => by
        rcases here with here | here
        · exact absurd here turned.behind.1
        · exact absurd here turned.behind.2
      openVideo := fun _ _ => inv.openVideo turned.before.1 turned.before.2
      openAudio := fun _ => inv.openAudio turned.before.2
      taken := inv.taken
      conserved := fun m => by
        have conserved := inv.conserved m
        rw [returned, pending, List.flatMap_nil, List.append_nil] at conserved
        rw [turned.coded, conserved] }
  | hand next step => exact inv.hand next step.queue
  | await worker step => exact inv.aside step.queue worker
  | markVideo returned place step =>
    exact inv.mark returned step.queue rfl (.inr ⟨rfl, rfl, by simp [place]⟩)
  | markAudio returned place step => exact inv.mark returned step.queue rfl (.inl rfl)

theorem run_inv {labels : List (Option Delivery.Label)} (inv : Inv [] s)
    (run : Run (Step o k deadlineUs) s labels t) : Inv labels.reduceOption t := by
  refine run.history (P := fun labels t => Inv labels.reduceOption t) ?_ inv
  intro labels s l t before step
  rw [List.reduceOption_append, List.reduceOption_singleton]
  exact step_inv before step

/-- The queue and the sink see the steps of the program that are theirs. -/
theorem run_pipe {labels : List (Option Delivery.Label)}
    (run : Run (Step o k deadlineUs) s labels t) :
    Run (Piped.Step k deadlineUs) s.pipe labels.reduceOption t.pipe := by
  induction run with
  | refl => exact .refl _
  | next head tail ih =>
    cases head with
    | turn => exact ih
    | hand _ step | markVideo _ _ step | markAudio _ _ step | await _ step => exact .next step ih

theorem Inv.accepted_prefix (inv : Inv ls s) (m : Media) :
    Delivery.accepted m ls <+: s.main.coded m := by
  rw [← inv.conserved m]
  exact List.prefix_append _ _

/-- Once the main thread waits for the other, all is in the queue. -/
theorem Inv.joined (inv : Inv ls s) (place : s.main.place = .join) (m : Media) :
    Delivery.accepted m ls = s.main.coded m := by
  have conserved := inv.conserved m
  rwa [inv.returned (.inr place), pending, List.flatMap_nil, List.append_nil] at conserved

/-- `Await` does not succeed before the main thread waits for it. -/
theorem Inv.finished (inv : Inv ls s)
    (run : Run (Delivery.Step deadlineUs) (.new capacity .kBlock) ls s.pipe.queue)
    (place : s.pipe.queue.await.place = .returned .kOk) :
    s.main.place = .join ∧ ∃ pushes, s.pipe.queue.await.calls = pushes ++ [.finish .kOk] ∧
      (∀ c ∈ pushes, c.IsPush ∧ c.status = .kOk) ∧ ∀ m, handed m pushes = s.main.coded m := by
  obtain ⟨pushes, calls, clean, all⟩ := Piped.returned_delivers (by decide) run place
  have succeeded : ∀ c ∈ s.pipe.queue.await.calls, ¬c.Failed := by
    rw [calls]
    intro c member failed
    rcases List.mem_append.mp member with earlier | last
    · cases c with
      | push m pkt status => exact failed (clean _ earlier).2
      | finish status => exact failed
    · rw [List.mem_singleton.mp last] at failed
      exact failed
  have joined : s.main.place = .join := by
    by_contra elsewhere
    have marked := (inv.queue.complete place succeeded .audio).1
    rw [inv.openAudio elsewhere] at marked
    contradiction
  exact ⟨joined, pushes, calls, clean, fun m => (all m).trans (inv.joined joined m)⟩

/-- What the sink of a program has served once `Await` has succeeded. -/
theorem run_served {video : api.Video} {audio : Option api.Audio} {pace : AudioPace}
    {capacity : Capacity} {sink : σ} {labels : List (Option Delivery.Label)}
    (run : Run (Step o k deadlineUs) (start video audio pace capacity sink) labels t)
    (place : t.pipe.queue.await.place = .returned .kOk) :
    ∃ pushes, Run k.Serves sink (pushes ++ [.finish .kOk]) t.pipe.sink ∧
      (∀ c ∈ pushes, c.IsPush ∧ c.status = .kOk) ∧ ∀ m, handed m pushes = t.main.coded m := by
  have inv := run_inv (start_inv video audio pace capacity sink) run
  obtain ⟨queue, serves⟩ := Piped.run_serves (run_pipe run)
  obtain ⟨-, pushes, calls, clean, all⟩ := inv.finished queue place
  rw [calls] at serves
  exact ⟨pushes, serves, clean, all⟩

/-- The program hands a sink what comes out of its codecs, whichever backend they are of:
no push of an encoder into the queue is refused, at any moment the sink has got a prefix,
and all of it once `Await` has succeeded, which it does not do before the main thread has
come to its join. -/
theorem program_delivers {video : api.Video} {audio : Option api.Audio} {pace : AudioPace}
    {capacity : Capacity} {sink : σ} {labels : List (Option Delivery.Label)}
    (run : Run (Step o k deadlineUs) (start video audio pace capacity sink) labels t) :
    (∀ m pkt accepted, some (.push m pkt accepted) ∈ labels → accepted = true) ∧
    (∀ m, handed m t.pipe.queue.await.calls <+: t.main.coded m) ∧
    (t.main.place = .join →
      ∀ m, Delivery.accepted m labels.reduceOption = t.main.coded m) ∧
    (t.pipe.queue.await.place = .returned .kOk → t.main.place = .join ∧
      ∃ pushes, t.pipe.queue.await.calls = pushes ++ [.finish .kOk] ∧
        ∀ m, handed m pushes = t.main.coded m) := by
  have inv := run_inv (start_inv video audio pace capacity sink) run
  refine ⟨fun m pkt accepted member => ?_, fun m => ?_, inv.joined, fun place => ?_⟩
  · exact inv.taken m pkt accepted (List.reduceOption_mem_iff.mpr member)
  · refine List.IsPrefix.trans ?_ (inv.accepted_prefix m)
    rw [← inv.queue.conserved m, Await.custody, List.append_assoc]
    exact List.prefix_append _ _
  · obtain ⟨joined, pushes, calls, -, all⟩ :=
      inv.finished (Piped.run_queue (run_pipe run)) place
    exact ⟨joined, pushes, calls, all⟩

/-- The thread in `Await` beside a main thread that stands still. -/
theorem run_await {ls : List Delivery.Label} {p q : Piped.Sys σ} (m : Main api)
    (run : Run (Piped.Step k deadlineUs) p ls q) (worker : ∀ l ∈ ls, ofAwait l = true) :
    Run (Step o k deadlineUs) ⟨m, p⟩ (ls.map some) ⟨m, q⟩ := by
  induction run with
  | refl => exact .refl _
  | next head tail ih =>
    obtain ⟨first, later⟩ := List.forall_mem_cons.mp worker
    exact .next (.await first head) (ih later)

/-- One packet of video through a queue into a sink. -/
theorem one_served {frame : VideoPacket} {sink served finished : σ}
    (serves : k.Serves sink (.push .video frame .kOk) served)
    (finishes : k.Serves served (.finish .kOk) finished) :
    ∃ p q r t : Piped.Sys σ,
      Piped.Step k 1000 ⟨.new ⟨1, by decide⟩ .kBlock, sink⟩ (.push .video frame true) p ∧
      Piped.Step k 1000 p .markVideo q ∧ Piped.Step k 1000 q .markAudio r ∧
      Run (Piped.Step k 1000) r [.pull .video .kOk (some frame), .sinkPush .video frame .kOk,
        .pull .audio .kEos none, .pull .video .kEos none, .sinkFinish .kOk] t ∧
      t.queue.await.place = .returned .kOk ∧ t.sink = finished :=
  ⟨_, _, _, _, .aside rfl (.push none (.pushEnter rfl)), .aside rfl .markVideo,
    .aside rfl (.markAudio Nat.one_pos),
    .next (.aside rfl (.pull rfl (.popEnter rfl))) <| .next (.calls rfl (.deliver rfl .kOk) serves)
      <| .next (.aside rfl (.pull rfl (.popEnter rfl))) <|
      .next (.aside rfl (.pull rfl (.popEnter rfl))) <|
      .single (.calls rfl (.finish rfl .kOk) finishes), rfl, rfl⟩

/-- A run over one frame without audio, whose packet comes out of the codec at once and is
served. -/
theorem one_frame {w h fps : Int} {surface : Bool} {rgbToYuv : RgbToYuv} {tone : Tone}
    {video next : api.Video} {pace : AudioPace} {coded : (m : Media) → List m.Pkt}
    {frame : VideoPacket} {reply idle : Reply api} {sink served finished : σ}
    (turned : Main.turn ⟨1, w, h, fps, surface, rgbToYuv, tone⟩
      { video, audio := none, pace } reply =
        some ⟨.audio 0, next, none, pace, [⟨.video, frame, .kOk⟩], coded⟩)
    (flushed : (api.flush next idle.video).pushed = [])
    (serves : k.Serves sink (.push .video frame .kOk) served)
    (finishes : k.Serves served (.finish .kOk) finished) :
    ∃ (labels : List (Option Delivery.Label)) (t : Sys api σ),
      Run (Step ⟨1, w, h, fps, surface, rgbToYuv, tone⟩ k 1000)
        (start video none pace ⟨1, by decide⟩ sink) labels t ∧
      t.pipe.queue.await.place = .returned .kOk ∧ t.pipe.sink = finished ∧
      t.main.coded .video = coded .video := by
  obtain ⟨p, q, r, t, push, first, second, awaits, place, sunk⟩ :=
    one_served serves finishes
  let o : Options := ⟨1, w, h, fps, surface, rgbToYuv, tone⟩
  let last : Main api :=
    (Main.mk (.video 1) next none pace [] coded).afterVideo (api.flush next idle.video) .flushAudio
  have quiet : last.handing = [] := congrArg (List.map _) flushed
  have looping : Run (Step o k 1000) (start video none pace ⟨1, by decide⟩ sink)
      [none, some (.push .video frame true), none, none, none, none]
      ⟨{ last with place := .markVideo }, p⟩ :=
    .next (.turn reply rfl turned) <| .next (.hand rfl push) <|
      .next (.turn (m := ⟨.video 1, next, none, pace, [], coded⟩) idle rfl rfl) <|
      .next (.turn (m := ⟨.flushVideo, next, none, pace, [], coded⟩) idle rfl rfl) <|
      .next (.turn (m := last) idle rfl rfl) <|
      .single (.turn (m := { last with place := .markVideo }) idle quiet rfl)
  have marked : Run (Step o k 1000) ⟨{ last with place := .markVideo }, p⟩
      [some .markVideo, some .markAudio] ⟨{ last with place := .join }, r⟩ :=
    .next (.markVideo quiet rfl first) <| .single (.markAudio quiet rfl second)
  have awaited : Run (Step o k 1000) ⟨{ last with place := .join }, r⟩ _
      ⟨{ last with place := .join }, t⟩ := run_await _ awaits (by simp [ofAwait])
  refine ⟨_, _, (looping.trans marked).trans awaited, place, sunk, ?_⟩
  have nothing : (api.flush next idle.video).coded = ([] : List VideoPacket) := by
    rw [(api.flush next idle.video).whole, flushed]
    rfl
  refine (Function.update_self Media.video _ coded).trans ?_
  exact (congrArg (@Append.append (List Media.video.Pkt) _ (coded .video)) nothing).trans
    (List.append_nil _)

/-- A frame of two columns, coded by FFmpeg. -/
theorem ffmpeg_frame {sink served finished : σ}
    (serves : k.Serves sink
      (.push .video (⟨[0, 0, 0, 1, 0x65], 0, true⟩ : VideoPacket) .kOk) served)
    (finishes : k.Serves served (.finish .kOk) finished) :
    ∃ (o : Options) (video : (FFmpeg.encoders id id).Video) (pace : AudioPace)
      (capacity : Capacity) (labels : List (Option Delivery.Label))
      (t : Sys (FFmpeg.encoders id id) σ),
      Run (Step o k 1000) (start video none pace capacity sink) labels t ∧
      t.pipe.queue.await.place = .returned .kOk ∧ t.pipe.sink = finished ∧
      t.main.coded .video = [⟨[0, 0, 0, 1, 0x65], 0, true⟩] := by
  let config : VideoConfig := { width := 2, height := 2, inputFormat := .kI420 }
  let e : FFmpegVideoEncoder :=
    { (({ config } : FFmpegVideoEncoder).init {}).2 with sink := some 0 }
  have created : CodecFactory.createVideo config (some 0) {} = .ok e := rfl
  let video : (FFmpeg.encoders id id).Video :=
    ⟨e, CodecFactory.create_attached (fun _ _ => rfl) created⟩
  let out : FFmpegVideoEncoder.Reply :=
    { packets := [.received [(⟨[0, 0, 0, 1, 0x65], 0, true⟩, .kOk)] .again] }
  let o : Options := ⟨1, 2, 2, 30, false, fun _ => (0, 0, 0), fun _ _ => 0⟩
  let next := (FFmpeg.encoders id id).encode video (makeVideoFrame o.rgbToYuv 2 2 30 0) out
  have turned : Main.turn o ⟨.video 0, video, none, ⟨{}, 30, 0, 0⟩, [], fun _ => []⟩
      ⟨true, out, {}⟩ = some ⟨.audio 0, next.encoder, none, ⟨{}, 30, 0, 0⟩,
        [⟨.video, (⟨[0, 0, 0, 1, 0x65], 0, true⟩ : VideoPacket), .kOk⟩],
        Function.update (fun _ => []) .video [⟨[0, 0, 0, 1, 0x65], 0, true⟩]⟩ := rfl
  let idle : Reply (FFmpeg.encoders id id) := ⟨true, {}, {}⟩
  have flushed : ((FFmpeg.encoders id id).flush next.encoder idle.video).pushed = [] := rfl
  obtain ⟨labels, t, run, place, done, coded⟩ := one_frame turned flushed serves finishes
  exact ⟨_, _, _, _, labels, t, run, place, done, coded⟩

/-- One frame for a sink that takes everything. -/
theorem program_delivers_frame :
    ∃ t : Sys (FFmpeg.encoders id id) Unit, t.main.place = .join ∧ ∃ pushes,
      t.pipe.queue.await.calls = pushes ++ [.finish .kOk] ∧
      handed .video pushes = [⟨[0, 0, 0, 1, 0x65], 0, true⟩] := by
  let k : PacketSink Unit Unit :=
    ⟨fun _ _ _ => (.kOk, ()), fun _ _ _ => (.kOk, ()), fun _ _ => (.kOk, ())⟩
  have serves : k.Serves () (.push .video (⟨[0, 0, 0, 1, 0x65], 0, true⟩ : VideoPacket) .kOk) () :=
    .push () .video _ ()
  obtain ⟨o, video, pace, capacity, labels, t, run, place, -, coded⟩ :=
    ffmpeg_frame serves (.finish () ())
  obtain ⟨joined, pushes, calls, all⟩ := (program_delivers run).2.2.2 place
  exact ⟨t, joined, pushes, calls, (all .video).trans coded⟩

end Steps

end EncodeFile
end VideoCodec
