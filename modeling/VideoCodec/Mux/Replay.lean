import Mathlib.Data.List.Flatten
import VideoCodec.Mux.MediaCodecMuxer

/-! The replay of the temporary file to the sink of a `MediaCodecMuxer`: the loop round by
round, what it asks of the sink, and what `Finalize` makes of it. -/
namespace VideoCodec

namespace FileRequest

def accepted : FileRequest → Bool
  | .write _ accepted => accepted
  | .flush accepted => accepted

def data : FileRequest → List UInt8
  | .write data _ => data
  | .flush _ => []

end FileRequest

/-- What the replay reads of a file: all of its content, or what stands before a read that
fails. -/
structure FinalizeReply.Reads (reply : FinalizeReply) (content : List UInt8) : Prop where
  isPrefix : reply.content <+: content
  complete : reply.ferror = false → reply.content = content

namespace MediaCodecMuxer

/-- The rounds of the replay loop, from a file with `rest` left to read to the result. -/
inductive Rounds (sink : Nat) : MediaCodecMuxer → List UInt8 → List Bool →
    Status × MediaCodecMuxer → Prop where
  | drained (m answers) : Rounds sink m [] answers (.kOk, m)
  | refused {m rest answers} (unread : rest ≠ []) (refuses : answers.headD true = false) :
      Rounds sink m rest answers
        (.kEncodeFailed, m.ask sink (.write (rest.take kReplayBufferSize) false))
  | last {m rest answers} (unread : rest ≠ []) (accepts : answers.headD true = true)
      (short : rest.length < kReplayBufferSize) :
      Rounds sink m rest answers (.kOk, m.ask sink (.write rest true))
  | more {m rest answers result} (accepts : answers.headD true = true)
      (full : kReplayBufferSize ≤ rest.length)
      (later : Rounds sink (m.ask sink (.write (rest.take kReplayBufferSize) true))
        (rest.drop kReplayBufferSize) answers.tail result) :
      Rounds sink m rest answers result

def asks (m : MediaCodecMuxer) (sink : Nat) (asked : List FileRequest) : MediaCodecMuxer :=
  { m with requests := m.requests ++ asked.map (sink, ·) }

/-- What the loop has asked of the sink when it ends. -/
inductive Copied (sink : Nat) (m : MediaCodecMuxer) (rest : List UInt8) :
    Status × MediaCodecMuxer → Prop where
  | all (chunks : List (List UInt8)) (whole : chunks.flatten = rest) :
      Copied sink m rest (.kOk, m.asks sink (chunks.map (.write · true)))
  | refused (chunks : List (List UInt8)) (chunk : List UInt8)
      (part : chunks.flatten ++ chunk <+: rest) :
      Copied sink m rest
        (.kEncodeFailed, m.asks sink (chunks.map (.write · true) ++ [.write chunk false]))

/-- What a replay that ends with `st` has asked of the sink. -/
structure Outcome (content : List UInt8) (reply : FinalizeReply) (asked : List FileRequest)
    (st : Status) : Prop where
  total : st = .kOk ∨ st = .kEncodeFailed
  whole : st = .kOk → ∃ chunks : List (List UInt8),
    asked = chunks.map (.write · true) ++ [.flush true] ∧ chunks.flatten = content
  failed : (reply.fflush = false ∨ reply.fseek = false ∨ reply.ferror = true ∨
    ∃ request ∈ asked, request.accepted = false) → st = .kEncodeFailed
  part : asked.flatMap FileRequest.data <+: content
  stops : ∀ before request after, asked = before ++ request :: after →
    request.accepted = false → after = []

section Loop
variable {m n : MediaCodecMuxer} {sink fuel : Nat} {rest content : List UInt8}
  {answers : List Bool} {result : Status × MediaCodecMuxer}

theorem kReplayBufferSize_pos : 0 < kReplayBufferSize := by decide

/-- With enough fuel the loop runs through all its rounds. -/
theorem replayFile_rounds (enough : rest.length < fuel) :
    Rounds sink m rest answers (replayFile sink fuel m rest answers) := by
  induction fuel generalizing m rest answers with
  | zero => exact absurd enough (Nat.not_lt_zero _)
  | succ fuel ih =>
    rw [replayFile]
    by_cases none : rest = []
    · subst none
      exact .drained m answers
    · have some : 0 < (rest.take kReplayBufferSize).length := by
        have positive := List.length_pos_iff.mpr none
        have size := kReplayBufferSize_pos
        rw [List.length_take]
        omega
      rw [if_pos some]
      cases answer : answers.headD true with
      | false =>
        rw [if_pos ⟨some, rfl⟩]
        exact .refused none answer
      | true =>
        rw [if_neg (fun refused => Bool.noConfusion refused.2)]
        by_cases full : kReplayBufferSize ≤ rest.length
        · have length : (rest.take kReplayBufferSize).length = kReplayBufferSize := by
            rw [List.length_take]
            omega
          rw [length, if_neg (Nat.lt_irrefl _)]
          refine .more answer full (ih ?_)
          have size := kReplayBufferSize_pos
          rw [List.length_drop]
          omega
        · have short := Nat.lt_of_not_le full
          rw [List.take_of_length_le (Nat.le_of_lt short), if_pos short]
          exact .last none answer short

theorem asks_nil (m : MediaCodecMuxer) (sink : Nat) : m.asks sink [] = m := by
  rw [asks, List.map_nil, List.append_nil]

theorem asks_cons (m : MediaCodecMuxer) (sink : Nat) (request : FileRequest)
    (asked : List FileRequest) :
    m.asks sink (request :: asked) = (m.ask sink request).asks sink asked := by
  simp only [asks, ask, List.map_cons, List.append_assoc, List.singleton_append]

theorem asks_concat (m : MediaCodecMuxer) (sink : Nat) (asked : List FileRequest)
    (request : FileRequest) :
    (m.asks sink asked).ask sink request = m.asks sink (asked ++ [request]) := by
  simp only [asks, ask, List.map_append, List.map_singleton, List.append_assoc]

/-- The loop writes what is left of the file, up to a write that the sink refuses. -/
theorem Rounds.copied (rounds : Rounds sink m rest answers result) :
    Copied sink m rest result := by
  induction rounds with
  | drained m answers =>
    have none := @Copied.all sink m [] [] rfl
    rwa [List.map_nil, asks_nil] at none
  | refused some refuses => exact .refused [] _ (List.take_prefix _ _)
  | last some accepts short => exact .all [_] List.flatten_singleton
  | @more m rest answers result accepts full later ih =>
    have head := List.take_append_drop kReplayBufferSize rest
    cases ih with
    | all chunks whole =>
      rw [← asks_cons]
      refine .all (rest.take kReplayBufferSize :: chunks) ?_
      rw [List.flatten_cons, whole, head]
    | refused chunks chunk part =>
      rw [← asks_cons]
      refine .refused (rest.take kReplayBufferSize :: chunks) chunk ?_
      rw [List.flatten_cons, List.append_assoc]
      nth_rewrite 2 [← head]
      exact (List.prefix_append_right_inj _).mpr part

end Loop

section Outcomes
variable {reply : FinalizeReply} {content : List UInt8} {chunks : List (List UInt8)}

theorem writes_data (chunks : List (List UInt8)) :
    (chunks.map (FileRequest.write · true)).flatMap FileRequest.data = chunks.flatten := by
  rw [List.flatMap_map]
  exact List.flatMap_id

/-- Behind chunks that are all accepted only the last request can be refused. -/
theorem stops_of_writes {last before after : List FileRequest} {request : FileRequest}
    (few : last.length ≤ 1)
    (split : chunks.map (FileRequest.write · true) ++ last = before ++ request :: after)
    (refused : request.accepted = false) : after = [] := by
  induction chunks generalizing before with
  | nil =>
    have length := congrArg List.length split
    rw [List.map_nil, List.nil_append, List.length_append, List.length_cons] at length
    exact List.length_eq_zero_iff.mp (by omega)
  | cons chunk chunks ih =>
    rw [List.map_cons, List.cons_append] at split
    cases before with
    | nil =>
      obtain ⟨rfl, -⟩ := List.cons.inj split
      cases refused
    | cons first before => exact ih (List.cons.inj split).2

/-- A replay that fails before it has asked for anything. -/
theorem Outcome.none (content : List UInt8) (reply : FinalizeReply) :
    Outcome content reply [] .kEncodeFailed where
  total := .inr rfl
  whole succeeds := by cases succeeds
  failed _ := rfl
  part := List.nil_prefix
  stops before request after split := by simp at split

/-- A replay that fails behind the chunks, with the request that was refused if one was. -/
theorem Outcome.failed_behind {last : List FileRequest} (few : last.length ≤ 1)
    (part : chunks.flatten ++ last.flatMap FileRequest.data <+: content) :
    Outcome content reply (chunks.map (.write · true) ++ last) .kEncodeFailed where
  total := .inr rfl
  whole succeeds := by cases succeeds
  failed _ := rfl
  part := by rwa [List.flatMap_append, writes_data]
  stops _ _ _ split refused := stops_of_writes few split refused

theorem Outcome.succeeds (fflush : reply.fflush = true) (fseek : reply.fseek = true)
    (ferror : reply.ferror = false) (whole : chunks.flatten = content) :
    Outcome content reply (chunks.map (.write · true) ++ [.flush true]) .kOk where
  total := .inl rfl
  whole _ := ⟨chunks, rfl, whole⟩
  failed failure := by
    obtain failed | failed | failed | ⟨request, member, refused⟩ := failure
    · exact absurd (failed.symm.trans fflush) Bool.false_ne_true
    · exact absurd (failed.symm.trans fseek) Bool.false_ne_true
    · exact absurd (ferror.symm.trans failed) Bool.false_ne_true
    · obtain chunk | flush := List.mem_append.mp member
      · obtain ⟨_, _, rfl⟩ := List.mem_map.mp chunk
        cases refused
      · obtain rfl := List.mem_singleton.mp flush
        cases refused
  part := by
    rw [List.flatMap_append, writes_data, whole, List.flatMap_singleton, FileRequest.data,
      List.append_nil]
  stops _ _ _ split refused := stops_of_writes (by decide) split refused

theorem replayToSink_outcome (m : MediaCodecMuxer) (sink : Nat) (reads : reply.Reads content) :
    ∃ asked, (m.replayToSink sink reply).2 = m.asks sink asked ∧
      Outcome content reply asked (m.replayToSink sink reply).1 := by
  rw [replayToSink]
  cases fflush : reply.fflush with
  | false => exact ⟨[], (m.asks_nil sink).symm, .none content reply⟩
  | true =>
    cases fseek : reply.fseek with
    | false => exact ⟨[], (m.asks_nil sink).symm, .none content reply⟩
    | true =>
      rw [Bool.not_true, Bool.or_false, if_neg Bool.false_ne_true]
      have copied : Copied sink m reply.content
          (replayFile sink (reply.content.length + 1) m reply.content reply.writes) :=
        (replayFile_rounds (Nat.lt_succ_self _)).copied
      generalize replayFile sink (reply.content.length + 1) m reply.content reply.writes = result
        at copied
      cases copied with
      | refused chunks chunk part =>
        refine ⟨_, rfl, .failed_behind (Nat.le_of_eq List.length_singleton) ?_⟩
        rw [List.flatMap_singleton]
        exact part.trans reads.isPrefix
      | all chunks whole =>
        cases ferror : reply.ferror with
        | true =>
          refine ⟨chunks.map (.write · true) ++ [], ?_, .failed_behind (by decide) ?_⟩
          · rw [List.append_nil]
            rfl
          · rw [List.flatMap_nil, List.append_nil, whole]
            exact reads.isPrefix
        | false =>
          cases flush : reply.flush with
          | false =>
            refine ⟨_, asks_concat .., .failed_behind (by decide) ?_⟩
            rw [List.flatMap_singleton, whole]
            exact (List.append_nil _).symm ▸ reads.isPrefix
          | true =>
            have complete := whole.trans (reads.complete ferror)
            exact ⟨_, asks_concat .., .succeeds fflush fseek ferror complete⟩

theorem stop_frame (m : MediaCodecMuxer) (ok : Bool) :
    ∃ inFlight, (m.stop ok).2 = { m with inFlight } := by
  rw [stop]
  split
  · exact ⟨m.inFlight, rfl⟩
  · split
    · exact ⟨_, rfl⟩
    · exact ⟨m.inFlight, rfl⟩

/-- `Finalize` closes the recording on every path. -/
theorem finalize_frame (m : MediaCodecMuxer) (reply : FinalizeReply) :
    ∃ inFlight requests, (m.finalize reply).2 =
      { m with
        inFlight, requests
        muxer := false, tmp := none, started := false, pending := [] } := by
  obtain ⟨inFlight, stopped⟩ := m.stop_frame reply.stop
  rw [finalize]
  dsimp only
  cases attached : (m.stop reply.stop).2.sink with
  | none =>
    rw [stopped]
    exact ⟨inFlight, m.requests, rfl⟩
  | some sink =>
    dsimp only
    split
    · obtain ⟨asked, replayed, -⟩ := replayToSink_outcome (m.stop reply.stop).2 sink
        (⟨List.prefix_rfl, fun _ => rfl⟩ : reply.Reads reply.content)
      rw [replayed, stopped]
      exact ⟨inFlight, _, rfl⟩
    · rw [stopped]
      exact ⟨inFlight, m.requests, rfl⟩

/-- `Finalize` behind a successful `AMediaMuxer_stop`, with a file of any content and a
sink: the loop ends, the sink has been asked for the whole content and a flush where the
result is `kOk` and for a part of it up to the failure otherwise, and the recording is
closed either way. -/
theorem finalize_replays {m : MediaCodecMuxer} {sink : Nat} (started : m.started = true)
    (muxer : m.muxer = true) (file : m.tmp.isSome = true) (attached : m.sink = some sink)
    (stopped : reply.stop = true) (reads : reply.Reads content) :
    (∃ result, Rounds sink (m.stop reply.stop).2 reply.content reply.writes result) ∧
    (∃ asked, (m.finalize reply).2.requests = m.requests ++ asked.map (sink, ·) ∧
      Outcome content reply asked (m.finalize reply).1) ∧
    (m.finalize reply).2.started = false ∧ (m.finalize reply).2.pending = [] ∧
    (m.finalize reply).2.muxer = false ∧ (m.finalize reply).2.tmp = none := by
  refine ⟨⟨_, replayFile_rounds (Nat.lt_succ_self _)⟩, ?_, rfl, rfl, rfl, rfl⟩
  have joined : m.stop reply.stop = (.kOk, { m with inFlight := [] }) := by
    rw [stop, started, muxer, stopped]
    rfl
  obtain ⟨asked, requests, outcome⟩ :=
    replayToSink_outcome { m with inFlight := [] } sink reads
  have replayed : (m.finalize reply).1 = (replayToSink { m with inFlight := [] } sink reply).1 ∧
      (m.finalize reply).2.requests =
        (replayToSink { m with inFlight := [] } sink reply).2.requests := by
    rw [finalize, joined]
    dsimp only
    rw [attached, file]
    exact ⟨rfl, rfl⟩
  refine ⟨asked, ?_, ?_⟩
  · rw [replayed.2, requests]
    rfl
  · rw [replayed.1]
    exact outcome

/-- A file that the loop takes in two rounds, on a sink that accepts both. -/
theorem finalize_replays_chunks :
    let m : MediaCodecMuxer :=
      { config := {}, sink := some 0, muxer := true, tmp := some 3, started := true }
    ∃ content : List UInt8, content.length = 70000 ∧
      (∃ asked, (m.finalize { content }).2.requests = asked.map (0, ·) ∧
        Outcome content { content } asked (m.finalize { content }).1) ∧
      Rounds 0 m content []
        (.kOk, (m.ask 0 (.write (content.take 65536) true)).ask 0
          (.write (content.drop 65536) true)) := by
  intro m
  obtain ⟨content, length⟩ : ∃ content : List UInt8, content.length = 70000 :=
    ⟨List.replicate 70000 0, List.length_replicate⟩
  have reads : FinalizeReply.Reads { content } content := ⟨List.prefix_rfl, fun _ => rfl⟩
  have stopped : ({ content } : FinalizeReply).stop = true := rfl
  obtain ⟨-, outcome, -⟩ := finalize_replays (m := m) rfl rfl rfl rfl stopped reads
  have size : kReplayBufferSize = 65536 := rfl
  have left : (content.drop kReplayBufferSize).length = 4464 := by
    rw [List.length_drop, length, size]
  exact ⟨content, length, outcome, .more rfl (by omega)
    (.last (List.ne_nil_of_length_pos (by omega)) rfl (by omega))⟩

end Outcomes
end MediaCodecMuxer
end VideoCodec
