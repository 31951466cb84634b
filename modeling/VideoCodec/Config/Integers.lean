import VideoCodec.Config.ParseJson

/-! The integers of a document and the fields they end up in. The conversion of a
read wraps, and nothing behind it looks at the range. -/
namespace VideoCodec.StreamConfig

open Json

/-- A field that is read from an integer key, as the integer that it holds. -/
structure IntegerField where
  key : String
  /-- The key is one of the "network" object. -/
  nested : Bool
  low : Int
  high : Int
  held : StreamConfig → Int

namespace IntegerField
variable {T : Type} [FromJson T] [MachineInt T]

def ofField (key : String) (nested : Bool) (field : StreamConfig → T) : IntegerField where
  key := key
  nested := nested
  low := MachineInt.low T
  high := MachineInt.high T
  held cfg := MachineInt.toInt (field cfg)

def top (key : String) (field : StreamConfig → T) : IntegerField := ofField key false field

def ofNetwork (key : String) (field : NetworkConfig → T) : IntegerField :=
  ofField key true fun cfg => field cfg.network

/-- The object that the key is a member of. -/
def owner (f : IntegerField) (root : Value) : Option Value :=
  if f.nested then networkObject root else some root

/-- The integer that a document gives for the field, if it gives one. -/
def given (f : IntegerField) (root : Value) : Option Int :=
  ((f.owner root).bind (·.find? f.key)).bind Value.integer?

def InRange (f : IntegerField) (n : Int) : Prop := f.low ≤ n ∧ n ≤ f.high

instance (f : IntegerField) (n : Int) : Decidable (f.InRange n) :=
  inferInstanceAs (Decidable (_ ∧ _))

end IntegerField

/-- The integer keys of the schema. -/
def integerFields : List IntegerField :=
  [.top kKeyInitialBitrateKbps (·.initialBitrateKbps),
    .top kKeyMaxBitrateKbps (·.maxBitrateKbps),
    .top kKeyMinBitrateKbps (·.minBitrateKbps),
    .top kKeyWidth (·.resolutionWidth),
    .top kKeyHeight (·.resolutionHeight),
    .top kKeyFps (·.framerate),
    .top kKeyBufferDurationS (·.bufferDurationS),
    .top kKeyReconnectMaxIntervalS (·.reconnectMaxIntervalS),
    .ofNetwork kKeyConnectTimeoutMs (·.connectTimeoutMs),
    .ofNetwork kKeyReadTimeoutMs (·.readTimeoutMs),
    .ofNetwork kKeyWriteTimeoutMs (·.writeTimeoutMs),
    .ofNetwork kKeyTotalTimeoutMs (·.totalTimeoutMs),
    .ofNetwork kKeyMaxRedirects (·.maxRedirects),
    .ofNetwork kKeyLocalPort (·.localPort),
    .ofNetwork kKeyProxyPort (·.proxyPort),
    .ofNetwork kKeyKeepAliveMs (·.keepAliveMs)]

section Fields
variable {root : Value} {base cfg : StreamConfig} {f : IntegerField} {key : String}
  {T : Type} [FromJson T] [MachineInt T]

/-- The field holds what the document gives exactly when that is in its range. -/
def Follows (root : Value) (cfg : StreamConfig) (f : IntegerField) : Prop :=
  ∀ n ∈ f.given root, f.held cfg = n ↔ f.InRange n

/-- A read of an integer is a cast of it. -/
theorem follows_of_read {nested : Bool} {field : StreamConfig → T} {default : T}
    (returned : ∀ owner ∈ (IntegerField.ofField key nested field).owner root,
      owner.value key default = .ok (field cfg)) :
    Follows root cfg (.ofField key nested field) := by
  intro n given
  obtain ⟨member, found, holds⟩ := Option.bind_eq_some_iff.mp given
  obtain ⟨owner, owns, found⟩ := Option.bind_eq_some_iff.mp found
  have casts := returned owner owns
  have found : owner.find? key = some member := found
  rw [Value.value_present found, MachineInt.get_eq, arithmetic_integer holds] at casts
  have cast : field cfg = MachineInt.cast n := (Except.ok.inj casts).symm
  change MachineInt.toInt (field cfg) = n ↔ _
  rw [cast]
  exact MachineInt.cast_exact n

theorem follows_top {field : StreamConfig → T} {default : T}
    (returned : root.value key default = .ok (field cfg)) : Follows root cfg (.top key field) := by
  apply follows_of_read
  rintro _ ⟨⟩
  exact returned

theorem follows_network {field : NetworkConfig → T} (default : NetworkConfig → T)
    (returned : ∀ n ∈ networkObject root, NetworkRead n base.network cfg.network)
    (reads : ∀ {n : Value}, NetworkRead n base.network cfg.network →
      n.value key (default base.network) = .ok (field cfg.network)) :
    Follows root cfg (.ofNetwork key field) :=
  follows_of_read fun n nested => reads (returned n nested)

theorem Read.networkRead (read : Read root base cfg) :
    ∀ n ∈ networkObject root, NetworkRead n base.network cfg.network := by
  intro n nested
  have returned := read.network
  rw [parseNetwork, show networkObject root = some n from nested] at returned
  exact readNetwork_eq_ok.mp returned

theorem follows_fields (read : Read root base cfg) : ∀ f ∈ integerFields, Follows root cfg f := by
  have network := read.networkRead
  simp only [integerFields, List.forall_mem_cons]
  exact ⟨follows_top read.initialBitrateKbps, follows_top read.maxBitrateKbps,
    follows_top read.minBitrateKbps, follows_top read.resolutionWidth,
    follows_top read.resolutionHeight, follows_top read.framerate,
    follows_top read.bufferDurationS, follows_top read.reconnectMaxIntervalS,
    follows_network (·.connectTimeoutMs) network NetworkRead.connectTimeoutMs,
    follows_network (·.readTimeoutMs) network NetworkRead.readTimeoutMs,
    follows_network (·.writeTimeoutMs) network NetworkRead.writeTimeoutMs,
    follows_network (·.totalTimeoutMs) network NetworkRead.totalTimeoutMs,
    follows_network (·.maxRedirects) network NetworkRead.maxRedirects,
    follows_network (·.localPort) network NetworkRead.localPort,
    follows_network (·.proxyPort) network NetworkRead.proxyPort,
    follows_network (·.keepAliveMs) network NetworkRead.keepAliveMs, nofun⟩

end Fields

/-- The fields of an accepted document hold the integers that it gives for them
exactly when each of these is in the range of its field. -/
theorem integers_exact_iff (parse : String → Except JsonException Value) (text : String)
    (root : Value) (cfg : StreamConfig) (parsed : parse text = .ok root)
    (accepted : parseFromJson parse text = .ok (.ok cfg)) :
    (∀ f ∈ integerFields, ∀ n ∈ f.given root, f.held cfg = n) ↔
      ∀ f ∈ integerFields, ∀ n ∈ f.given root, f.InRange n := by
  have follows := follows_fields (read_of_accepted parsed accepted).2
  apply forall_congr'
  intro f
  apply forall_congr'
  intro field
  exact forall_congr' fun n => forall_congr' fun given => follows f field n given

/-- The document {"url": "http", "network": {"local_port": 65535}}. -/
theorem integers_exact_port :
    let root : Value := .object [("url", .string "http"),
      ("network", .object [("local_port", .numberUnsigned 65535)])]
    ∀ f ∈ integerFields, ∀ n ∈ f.given root,
      f.held { backendType := "", remoteUrl := "http", network := { localPort := 65535 } } = n := by
  intro root
  apply (integers_exact_iff (fun _ => .ok root) "" root _ rfl rfl).mpr
  decide

/-- The document {"width": -1}. -/
theorem width_wraps :
    ¬∀ (parse : String → Except JsonException Value) (text : String) (root : Value)
      (cfg : StreamConfig), parse text = .ok root →
        parseFromJson parse text = .ok (.ok cfg) →
          ∀ f ∈ integerFields, ∀ n ∈ f.given root, f.held cfg = n := by
  intro always
  have exact_ := always (fun _ => .ok (.object [("width", .numberInteger (-1))])) "" _ _ rfl rfl
    (.top kKeyWidth (·.resolutionWidth)) (by simp [integerFields]) (-1) (by decide)
  exact absurd exact_ (by decide)

end VideoCodec.StreamConfig
