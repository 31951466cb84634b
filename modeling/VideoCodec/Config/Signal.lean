import VideoCodec.Config.Typing
import VideoCodec.Config.WhipUrl

/-! Where the URL of a configuration comes from. The documented form nests host and
path in a "signal" object; the parser reads them at top level. -/
namespace VideoCodec.StreamConfig

open Json

def kKeySignal : String := "signal"

/-- The string of a key, if there is one. -/
def text? (v : Value) (key : String) : Option String :=
  match v.find? key with
  | some (.string s) => some s
  | _ => none

/-- The nested "signal" object, if the document has one. -/
def signalObject (root : Value) : Option Value := (root.find? kKeySignal).filter (·.isObject)

/-- The entry at top level, empty where there is none. -/
def topEntry (root : Value) (key : String) : String := (text? root key).getD ""

/-- The entry of the signal object, or the one at top level. -/
def entry (root : Value) (key : String) : String :=
  ((signalObject root).bind (text? · key)).getD (topEntry root key)

/-- The URL that a document asks for. -/
def askedUrl (root : Value) : String :=
  (givenUrl root).getD (buildWhipUrl (entry root kKeyHost) (entry root kKeyPath))

/-- The entries of the URL are strings where they are present. -/
structure StringEntries (root : Value) : Prop where
  top : root.Fits signalSchema
  signal : ∀ signal ∈ signalObject root, signal.Fits [(kKeyHost, .text), (kKeyPath, .text)]

/-- A host and a path against another host and path, all of them prepared and the paths
with their suffix: both are the same, or segments have moved from one to the other. -/
def SameAddress (host path host' path' : String) : Prop :=
  let h := prepared kDefaultHost host
  let h' := prepared kDefaultHost host'
  let p := suffixed (prepared kDefaultPath path)
  let p' := suffixed (prepared kDefaultPath path')
  h = h' ∧ p = p' ∨ (∃ m, h' = h ++ '/' :: m ∧ p = m ++ '/' :: p') ∨
    ∃ m, h = h' ++ '/' :: m ∧ p' = m ++ '/' :: p

/-- With a url nothing else counts; without one, host and path of the signal object are
those of the top level. -/
def SignalRedundant (root : Value) : Prop :=
  givenUrl root = none → ∀ signal ∈ signalObject root,
    SameAddress ((text? signal kKeyHost).getD (topEntry root kKeyHost))
      ((text? signal kKeyPath).getD (topEntry root kKeyPath))
      (topEntry root kKeyHost) (topEntry root kKeyPath)

section Entries
variable {root : Value} {key : String}

theorem value_text (object : root.isObject = true) (text : root.Holds key .text) :
    root.value key "" = .ok (topEntry root key) := by
  cases found : root.find? key with
  | none => simp [Value.value_absent object found, topEntry, text?, found]
  | some member =>
    have accepts := text member found
    cases member with
    | string s =>
      rw [Value.value_present found, topEntry, text?, found]
      rfl
    | _ => cases accepts

theorem givenUrl_eq (root : Value) :
    givenUrl root =
      if (topEntry root kKeyUrl).isEmpty then none else some (topEntry root kKeyUrl) := by
  cases found : root.find? kKeyUrl with
  | none => simp [givenUrl, topEntry, text?, found]
  | some member =>
    cases member with
    | string url => simp [givenUrl, topEntry, text?, found]
    | _ => simp [givenUrl, topEntry, text?, found]

/-- The parser reads url, host and path at top level. -/
theorem readRemoteUrl_eq (object : root.isObject = true) (typed : root.Fits signalSchema) :
    readRemoteUrl root = .ok ((givenUrl root).getD
      (buildWhipUrl (topEntry root kKeyHost) (topEntry root kKeyPath))) := by
  simp only [signalSchema, Value.fits_cons] at typed
  obtain ⟨url, host, path, -⟩ := typed
  rw [readRemoteUrl, value_text object url, value_text object host, value_text object path,
    givenUrl_eq]
  cases empty : (topEntry root kKeyUrl).isEmpty with
  | true => simp [bind, Except.bind, empty, pure, Except.pure]
  | false => simp [bind, Except.bind, empty, pure, Except.pure]

theorem buildWhipUrl_eq_iff (host path host' path' : String) :
    buildWhipUrl host path = buildWhipUrl host' path' ↔ SameAddress host path host' path' := by
  rw [← String.toList_inj, buildWhipUrl_toList, buildWhipUrl_toList, Segments.join_eq_join_iff]
  rfl

theorem asked_iff (root : Value) :
    (givenUrl root).getD (buildWhipUrl (topEntry root kKeyHost) (topEntry root kKeyPath)) =
      askedUrl root ↔ SignalRedundant root := by
  rw [askedUrl, SignalRedundant, entry, entry]
  cases givenUrl root with
  | some url => simp
  | none =>
    cases signalObject root with
    | none => simp
    | some signal =>
      simp only [Option.getD_none, Option.bind_some, Option.mem_some_iff, forall_const, forall_eq',
        ← buildWhipUrl_eq_iff]
      exact eq_comm

end Entries

/-- The URL of an accepted document is the one it asks for exactly when its signal
object is redundant. -/
theorem remoteUrl_asked_iff (parse : String → Except JsonException Value) (text : String)
    (root : Value) (cfg : StreamConfig) (parsed : parse text = .ok root)
    (accepted : parseFromJson parse text = .ok (.ok cfg)) (strings : StringEntries root) :
    cfg.remoteUrl = askedUrl root ↔ SignalRedundant root := by
  obtain ⟨object, read⟩ := read_of_accepted parsed accepted
  have url := read.remoteUrl
  rw [readRemoteUrl_eq object strings.top] at url
  rw [← Except.ok.inj url]
  exact asked_iff root

/-- The sample, whose signal object repeats the defaults. -/
theorem remoteUrl_asked_sample :
    let root : Value := .object [("signal",
      .object [("host", .string "http://localhost:8889"), ("path", .string "test")])]
    ({ backendType := "", remoteUrl := "http://localhost:8889/test/whip" } :
      StreamConfig).remoteUrl = askedUrl root := by
  intro root
  apply (remoteUrl_asked_iff (fun _ => .ok root) "" root _ rfl rfl ⟨by decide, by decide⟩).mpr
  rintro _ signal ⟨⟩
  exact .inl ⟨rfl, rfl⟩

/-- A document in the form of the sample, for another server. -/
theorem remoteUrl_ignores_signal :
    ¬∀ (parse : String → Except JsonException Value) (text : String) (root : Value)
      (cfg : StreamConfig), parse text = .ok root →
        parseFromJson parse text = .ok (.ok cfg) → StringEntries root →
          cfg.remoteUrl = askedUrl root := by
  intro always
  have asked := always (fun _ => .ok (.object [("signal",
    .object [("host", .string "http://media:8889"), ("path", .string "cam")])])) "" _ _ rfl rfl
    ⟨by decide, by decide⟩
  exact absurd asked (by decide)

end VideoCodec.StreamConfig
