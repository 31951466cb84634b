import VideoCodec.Config.ParseJson

/-! Documents with a member of the wrong type: which of them the reads of the parser
throw at, none of which is inside the one `try`. -/
namespace VideoCodec.StreamConfig

open Json

def signalSchema : List (String × Kind) :=
  [(kKeyUrl, .text), (kKeyHost, .text), (kKeyPath, .text)]

/-- The top-level keys besides those of the URL. -/
def schema : List (String × Kind) :=
  [(kKeyBackend, .text), (kKeyVideoCodec, .text), (kKeyAudioCodec, .text), (kKeyDebug, .flag),
    (kKeyInitialBitrateKbps, .number), (kKeyMaxBitrateKbps, .number),
    (kKeyMinBitrateKbps, .number), (kKeyWidth, .number), (kKeyHeight, .number),
    (kKeyFps, .number), (kKeyBufferDurationS, .number), (kKeyReconnectMaxIntervalS, .number),
    (kKeyStunServer, .text), (kKeyTurnServer, .text)]

def networkSchema : List (String × Kind) :=
  [(kKeyConnectTimeoutMs, .number), (kKeyReadTimeoutMs, .number), (kKeyWriteTimeoutMs, .number),
    (kKeyTotalTimeoutMs, .number), (kKeyFollowRedirects, .flag), (kKeyMaxRedirects, .number),
    (kKeyLocalAddress, .text), (kKeyLocalPort, .number), (kKeyProxyHost, .text),
    (kKeyProxyPort, .number), (kKeyKeepAliveMs, .number), (kKeyTlsVerify, .flag),
    (kKeyTlsCaFile, .text), (kKeyTlsCaPem, .text), (kKeyTlsClientCert, .text),
    (kKeyTlsClientKey, .text), (kKeyTlsSni, .text)]

/-- The non-empty top-level url, if there is one. -/
def givenUrl (root : Value) : Option String :=
  match root.find? kKeyUrl with
  | some (.string url) => if url.isEmpty then none else some url
  | _ => none

/-- Every member that the parser reads converts; host and path are read where no url
is given. -/
structure Consulted (root : Value) : Prop where
  url : root.Holds kKeyUrl .text
  place : givenUrl root = none → root.Holds kKeyHost .text ∧ root.Holds kKeyPath .text
  fields : root.Fits schema
  network : ∀ n ∈ networkObject root, n.Fits networkSchema

/-- Every member of the schema converts, at both levels. -/
structure WellTyped (root : Value) : Prop where
  signal : root.Fits signalSchema
  fields : root.Fits schema
  network : ∀ n ∈ networkObject root, n.Fits networkSchema

/-- A call ends with a result. -/
def Returns (outcome : Except JsonException (Except Status StreamConfig)) : Prop :=
  outcome = .ok (.error .kInvalidArgument) ∨ ∃ cfg, outcome = .ok (.ok cfg)

/-- The parser answers a text with a result, and an object with a member of the wrong
type with `kInvalidArgument`. -/
structure Answers (parse : String → Except JsonException Value) (text : String)
    (outcome : Except JsonException (Except Status StreamConfig)) : Prop where
  returns : Returns outcome
  reports : ∀ root, parse text = .ok root → root.isObject = true → ¬WellTyped root →
    outcome = .ok (.error .kInvalidArgument)

section Reads
variable {root n : Value} {base cfg : StreamConfig} {network read : NetworkConfig}

theorem isObject_of_networkObject (nested : networkObject root = some n) : n.isObject = true :=
  (Option.filter_eq_some_iff.mp nested).2

theorem readNetwork_returned (object : n.isObject = true) (network : NetworkConfig) :
    Returned (readNetwork n network) ↔ n.Fits networkSchema := by
  simp only [readNetwork, returned_bind, pure, Except.pure, returned_ok, and_true,
    exists_and_right, Value.value_returns object]
  simp only [networkSchema, Value.fits_cons, Value.fits_nil, and_true]
  exact Iff.rfl

theorem parseNetwork_returned (root : Value) (network : NetworkConfig) :
    Returned (parseNetwork root network) ↔ ∀ n ∈ networkObject root, n.Fits networkSchema := by
  rw [parseNetwork]
  cases nested : networkObject root with
  | none => simp [returned_ok]
  | some n => simpa using readNetwork_returned (isObject_of_networkObject nested) network

theorem readRemoteUrl_returned (object : root.isObject = true) :
    Returned (readRemoteUrl root) ↔ root.Holds kKeyUrl .text ∧
      (givenUrl root = none → root.Holds kKeyHost .text ∧ root.Holds kKeyPath .text) := by
  have placed : Returned (do
      let host ← root.value kKeyHost ""
      let path ← root.value kKeyPath ""
      return buildWhipUrl host path) ↔ root.Holds kKeyHost .text ∧ root.Holds kKeyPath .text := by
    simp only [returned_bind, pure, Except.pure, returned_ok, and_true, exists_and_right,
      Value.value_returns object]
    exact Iff.rfl
  cases found : root.find? kKeyUrl with
  | none =>
    have holds : root.Holds kKeyUrl .text := by simp [Value.Holds, found]
    have absent : givenUrl root = none := by simp [givenUrl, found]
    simp only [readRemoteUrl, Value.value_absent object found, holds, absent, true_and,
      forall_const]
    exact placed
  | some member =>
    rw [readRemoteUrl, Value.value_present found]
    cases member with
    | string url =>
      have holds : root.Holds kKeyUrl .text := by simp [Value.Holds, found, Kind.accepts]
      by_cases empty : url.isEmpty = true
      · have absent : givenUrl root = none := by simp [givenUrl, found, empty]
        simp only [holds, absent, true_and, forall_const]
        rw [← placed]
        change Returned (if url.isEmpty = true then _ else _) ↔ _
        rw [if_pos empty]
      · have given : givenUrl root ≠ none := by simp [givenUrl, found, empty]
        apply iff_of_true
        · change Returned (if url.isEmpty = true then _ else _)
          rw [if_neg empty]
          exact returned_ok url
        · exact ⟨holds, fun absent => absurd absent given⟩
    | _ =>
      apply iff_of_false (not_returned_error _)
      simp [Value.Holds, found, Kind.accepts]

theorem readConfig_returned (object : root.isObject = true) (base : StreamConfig) :
    Returned (readConfig root base) ↔ Consulted root := by
  simp only [readConfig, returned_bind, pure, Except.pure, returned_ok, and_true,
    exists_and_right, Value.value_returns object]
  constructor
  · rintro ⟨remoteUrl, h1, h2, h3, h4, h5, h6, h7, h8, h9, h10, h11, h12, h13, h14, network⟩
    obtain ⟨url, place⟩ := (readRemoteUrl_returned object).mp remoteUrl
    refine ⟨url, place, ?_, (parseNetwork_returned root base.network).mp network⟩
    simp only [schema, Value.fits_cons, Value.fits_nil, and_true]
    exact ⟨h1, h2, h3, h4, h5, h6, h7, h8, h9, h10, h11, h12, h13, h14⟩
  · rintro ⟨url, place, typed, network⟩
    simp only [schema, Value.fits_cons, Value.fits_nil, and_true] at typed
    obtain ⟨h1, h2, h3, h4, h5, h6, h7, h8, h9, h10, h11, h12, h13, h14⟩ := typed
    exact ⟨(readRemoteUrl_returned object).mpr ⟨url, place⟩, h1, h2, h3, h4, h5, h6, h7, h8, h9,
      h10, h11, h12, h13, h14, (parseNetwork_returned root base.network).mpr network⟩

theorem WellTyped.consulted (typed : WellTyped root) : Consulted root where
  url := typed.signal (kKeyUrl, .text) (by simp [signalSchema])
  place _ := ⟨typed.signal (kKeyHost, .text) (by simp [signalSchema]),
    typed.signal (kKeyPath, .text) (by simp [signalSchema])⟩
  fields := typed.fields
  network := typed.network

end Reads

/-- What the JSON reader throws at a text is a parse error. -/
def ThrowsParseError (parse : String → Except JsonException Value) (text : String) : Prop :=
  ∀ e, parse text = .error e → e = .parseError

section Answers
variable {parse : String → Except JsonException Value} {text : String} {root : Value}
  {files : String → Option String} {path : String}

theorem parseJsonText_object (parsed : parse text = .ok root) (object : root.isObject = true) :
    parseJsonText parse text =
      (readConfig root { backendType := "", remoteUrl := "" }).map .ok := by
  simp only [parseJsonText, parsed, object, Bool.not_true, Bool.false_eq_true, if_false]

/-- A text that is no document is refused, or the exception of the JSON reader escapes. -/
theorem parseJsonText_failed {e : JsonException} (failed : parse text = .error e) :
    Returns (parseJsonText parse text) ↔ e = .parseError := by
  cases e with
  | parseError => exact iff_of_true (.inl (by simp only [parseJsonText, failed])) rfl
  | _ =>
    apply iff_of_false
    · intro returns
      simp only [parseJsonText, failed] at returns
      rcases returns with refused | ⟨cfg, accepted⟩
      · cases refused
      · cases accepted
    · intro same
      cases same

/-- No exception escapes just when the JSON reader throws none but `parse_error` and
every member that is consulted converts. -/
theorem parseJsonText_returns_iff :
    Returns (parseJsonText parse text) ↔ ThrowsParseError parse text ∧
      ∀ root, parse text = .ok root → root.isObject = true → Consulted root := by
  cases parsed : parse text with
  | error e =>
    rw [parseJsonText_failed parsed]
    constructor
    · rintro rfl
      refine ⟨fun thrown same => ?_, nofun⟩
      exact (Except.error.inj (parsed.symm.trans same)).symm
    · exact fun held => held.1 e parsed
  | ok root =>
    have formed : ThrowsParseError parse text := fun e thrown => nomatch parsed.symm.trans thrown
    rw [and_iff_right formed]
    cases object : root.isObject with
    | false =>
      apply iff_of_true
      · left
        simp only [parseJsonText, parsed, object, Bool.not_false, if_true]
      · rintro _ ⟨⟩ isObject
        rw [object] at isObject
        contradiction
    | true =>
      rw [parseJsonText_object parsed object]
      constructor
      · rintro returns _ ⟨⟩ _
        apply (readConfig_returned object _).mp
        cases read : readConfig root { backendType := "", remoteUrl := "" } with
        | ok cfg => exact returned_ok cfg
        | error e =>
          rw [read] at returns
          rcases returns with bad | ⟨cfg, good⟩
          · cases bad
          · cases good
      · intro consulted
        obtain ⟨cfg, read⟩ := (readConfig_returned object
          { backendType := "", remoteUrl := "" }).mpr (consulted root rfl object)
        right
        exact ⟨cfg, by rw [read]; rfl⟩

theorem parseJsonText_answers_iff :
    Answers parse text (parseJsonText parse text) ↔ ThrowsParseError parse text ∧
      ∀ root, parse text = .ok root → root.isObject = true → WellTyped root := by
  constructor
  · intro answers
    refine ⟨(parseJsonText_returns_iff.mp answers.returns).1, fun root parsed object => ?_⟩
    by_contra mistyped
    -- an object is never refused
    have refused := answers.reports root parsed object mistyped
    rw [parseJsonText_object parsed object] at refused
    cases read : readConfig root { backendType := "", remoteUrl := "" } with
    | ok cfg => rw [read] at refused; cases refused
    | error e => rw [read] at refused; cases refused
  · rintro ⟨throws, typed⟩
    constructor
    · refine parseJsonText_returns_iff.mpr ⟨throws, fun root parsed object => ?_⟩
      exact (typed root parsed object).consulted
    · intro root parsed object mistyped
      exact absurd (typed root parsed object) mistyped

end Answers

/-- For any text, and any file: no exception escapes exactly when the JSON reader throws none
but parse errors and every member that is read from an object converts, and a member of the
wrong type is reported as well exactly when there is none. -/
theorem parse_answers_iff (parse : String → Except JsonException Value) (text : String)
    (files : String → Option String) (path : String) :
    (Returns (parseFromJson parse text) ↔ ThrowsParseError parse text ∧
      ∀ root, parse text = .ok root → root.isObject = true → Consulted root) ∧
    (Answers parse text (parseFromJson parse text) ↔ ThrowsParseError parse text ∧
      ∀ root, parse text = .ok root → root.isObject = true → WellTyped root) ∧
    (Returns (loadFromFile parse files path) ↔
      ∀ content ∈ files path, ThrowsParseError parse content ∧
        ∀ root, parse content = .ok root → root.isObject = true → Consulted root) ∧
    ((∀ content ∈ files path, Answers parse content (loadFromFile parse files path)) ↔
      ∀ content ∈ files path, ThrowsParseError parse content ∧
        ∀ root, parse content = .ok root → root.isObject = true → WellTyped root) := by
  refine ⟨parseJsonText_returns_iff, parseJsonText_answers_iff, ?_⟩
  rw [loadFromFile]
  cases files path with
  | none => simp [Returns]
  | some content =>
    simp only [Option.mem_some_iff, forall_eq']
    exact ⟨parseJsonText_returns_iff, parseJsonText_answers_iff⟩

/-- The document {"width": "x"}. -/
theorem parse_throws :
    ¬∀ (parse : String → Except JsonException Value),
      (∀ text e, parse text = .error e → e = .parseError) → ∀ text,
        Answers parse text (parseFromJson parse text) := by
  intro always
  have answers := always (fun _ => .ok (.object [("width", .string "x")])) nofun ""
  rcases answers.returns with refused | ⟨cfg, accepted⟩
  · cases refused
  · cases accepted

end VideoCodec.StreamConfig
