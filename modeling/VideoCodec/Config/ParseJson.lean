import Mathlib.Data.List.DropRight
import Mathlib.Data.List.Infix
import VideoCodec.Core.Types
import VideoCodec.Json.Value
import VideoCodec.Stream.Types

/-! The unified JSON configuration: its keys and defaults, the WHIP URL and the
parser. The reader of JSON text and the file system are parameters. -/
namespace VideoCodec.StreamConfig

open Json

def kKeyUrl : String := "url"
def kKeyHost : String := "host"
def kKeyPath : String := "path"
def kWhipSuffix : String := "whip"

def kKeyBackend : String := "backend"
def kKeyVideoCodec : String := "video_codec"
def kKeyAudioCodec : String := "audio_codec"
def kKeyDebug : String := "debug"

def kKeyInitialBitrateKbps : String := "initial_bitrate_kbps"
def kKeyMaxBitrateKbps : String := "max_bitrate_kbps"
def kKeyMinBitrateKbps : String := "min_bitrate_kbps"
def kKeyWidth : String := "width"
def kKeyHeight : String := "height"
def kKeyFps : String := "fps"

def kKeyBufferDurationS : String := "buffer_duration_s"
def kKeyReconnectMaxIntervalS : String := "reconnect_max_interval_s"

def kKeyStunServer : String := "stun_server"
def kKeyTurnServer : String := "turn_server"

def kKeyNetwork : String := "network"
def kKeyConnectTimeoutMs : String := "connect_timeout_ms"
def kKeyReadTimeoutMs : String := "read_timeout_ms"
def kKeyWriteTimeoutMs : String := "write_timeout_ms"
def kKeyTotalTimeoutMs : String := "total_timeout_ms"
def kKeyFollowRedirects : String := "follow_redirects"
def kKeyMaxRedirects : String := "max_redirects"
def kKeyLocalAddress : String := "local_address"
def kKeyLocalPort : String := "local_port"
def kKeyProxyHost : String := "proxy_host"
def kKeyProxyPort : String := "proxy_port"
def kKeyKeepAliveMs : String := "keep_alive_ms"
def kKeyTlsVerify : String := "tls_verify"
def kKeyTlsCaFile : String := "tls_ca_file"
def kKeyTlsCaPem : String := "tls_ca_pem"
def kKeyTlsClientCert : String := "tls_client_cert"
def kKeyTlsClientKey : String := "tls_client_key"
def kKeyTlsSni : String := "tls_sni"

def kDefaultHost : String := "http://localhost:8889"
def kDefaultPath : String := "test"

def trimSlash (s : String) : String :=
  String.ofList ((s.toList.dropWhile (· = '/')).rdropWhile (· = '/'))

/-- WHIP URL = host + "/" + path + "/whip". -/
def buildWhipUrl (host path : String) : String :=
  let h := trimSlash (if host.isEmpty then kDefaultHost else host)
  let p := trimSlash (if path.isEmpty then kDefaultPath else path)
  -- `find` looks for the suffix anywhere in the path
  let p := if "/whip".toList <:+: p.toList then p else p ++ ("/" ++ kWhipSuffix)
  h ++ "/" ++ p

/-- The reads of a "network" object. -/
def readNetwork (n : Value) (network : NetworkConfig) : Except JsonException NetworkConfig := do
  let connectTimeoutMs ← n.value kKeyConnectTimeoutMs network.connectTimeoutMs
  let readTimeoutMs ← n.value kKeyReadTimeoutMs network.readTimeoutMs
  let writeTimeoutMs ← n.value kKeyWriteTimeoutMs network.writeTimeoutMs
  let totalTimeoutMs ← n.value kKeyTotalTimeoutMs network.totalTimeoutMs
  let followRedirects ← n.value kKeyFollowRedirects network.followRedirects
  let maxRedirects ← n.value kKeyMaxRedirects network.maxRedirects
  let localAddress ← n.value kKeyLocalAddress network.localAddress
  let localPort ← n.value kKeyLocalPort network.localPort
  let proxyHost ← n.value kKeyProxyHost network.proxyHost
  let proxyPort ← n.value kKeyProxyPort network.proxyPort
  let keepAliveMs ← n.value kKeyKeepAliveMs network.keepAliveMs
  let tlsVerify ← n.value kKeyTlsVerify network.tlsVerify
  let tlsCaFile ← n.value kKeyTlsCaFile network.tlsCaFile
  let tlsCaPem ← n.value kKeyTlsCaPem network.tlsCaPem
  let tlsClientCert ← n.value kKeyTlsClientCert network.tlsClientCert
  let tlsClientKey ← n.value kKeyTlsClientKey network.tlsClientKey
  let tlsSni ← n.value kKeyTlsSni network.tlsSni
  return {
    connectTimeoutMs, readTimeoutMs, writeTimeoutMs, totalTimeoutMs, followRedirects
    maxRedirects, localAddress, localPort, proxyHost, proxyPort, keepAliveMs, tlsVerify
    tlsCaFile, tlsCaPem, tlsClientCert, tlsClientKey, tlsSni }

/-- The nested "network" object, if the document has one. -/
def networkObject (root : Value) : Option Value := (root.find? kKeyNetwork).filter (·.isObject)

def parseNetwork (root : Value) (network : NetworkConfig) : Except JsonException NetworkConfig :=
  match networkObject root with
  | some n => readNetwork n network
  | none => .ok network

/-- An explicit "url" wins; otherwise host + path + /whip. -/
def readRemoteUrl (root : Value) : Except JsonException String := do
  let remoteUrl ← root.value kKeyUrl ""
  if remoteUrl.isEmpty then
    let host ← root.value kKeyHost ""
    let path ← root.value kKeyPath ""
    return buildWhipUrl host path
  else return remoteUrl

/-- What `ParseJsonText` reads of an object. -/
def readConfig (root : Value) (cfg : StreamConfig) : Except JsonException StreamConfig := do
  let remoteUrl ← readRemoteUrl root
  let backendType ← root.value kKeyBackend cfg.backendType
  let videoCodec ← root.value kKeyVideoCodec cfg.videoCodec
  let audioCodec ← root.value kKeyAudioCodec cfg.audioCodec
  let debug ← root.value kKeyDebug cfg.debug
  let initialBitrateKbps ← root.value kKeyInitialBitrateKbps cfg.initialBitrateKbps
  let maxBitrateKbps ← root.value kKeyMaxBitrateKbps cfg.maxBitrateKbps
  let minBitrateKbps ← root.value kKeyMinBitrateKbps cfg.minBitrateKbps
  let resolutionWidth ← root.value kKeyWidth cfg.resolutionWidth
  let resolutionHeight ← root.value kKeyHeight cfg.resolutionHeight
  let framerate ← root.value kKeyFps cfg.framerate
  let bufferDurationS ← root.value kKeyBufferDurationS cfg.bufferDurationS
  let reconnectMaxIntervalS ← root.value kKeyReconnectMaxIntervalS cfg.reconnectMaxIntervalS
  let stunServer ← root.value kKeyStunServer cfg.stunServer
  let turnServer ← root.value kKeyTurnServer cfg.turnServer
  let network ← parseNetwork root cfg.network
  return {
    backendType, remoteUrl, videoCodec, audioCodec, debug, initialBitrateKbps, maxBitrateKbps
    minBitrateKbps, resolutionWidth, resolutionHeight, framerate, bufferDurationS
    reconnectMaxIntervalS, network, stunServer, turnServer }

/-- `ParseJsonText`: the result, or the exception that escapes. Only a parse error of
the JSON reader is caught. -/
def parseJsonText (parse : String → Except JsonException Value) (text : String) :
    Except JsonException (Except Status StreamConfig) :=
  match parse text with
  | .error .parseError => .ok (.error .kInvalidArgument)
  | .error e => .error e
  | .ok root =>
    if !root.isObject then .ok (.error .kInvalidArgument)
    else (readConfig root { backendType := "", remoteUrl := "" }).map .ok

def parseFromJson (parse : String → Except JsonException Value) (text : String) :
    Except JsonException (Except Status StreamConfig) :=
  parseJsonText parse text

/-- `LoadFromFile`, over the contents of the files that open. -/
def loadFromFile (parse : String → Except JsonException Value) (files : String → Option String)
    (path : String) : Except JsonException (Except Status StreamConfig) :=
  match files path with
  | none => .ok (.error .kInvalidArgument)
  | some text => parseJsonText parse text

/-- What the reads of a "network" object return, field by field. -/
structure NetworkRead (n : Value) (network cfg : NetworkConfig) : Prop where
  connectTimeoutMs :
    n.value kKeyConnectTimeoutMs network.connectTimeoutMs = .ok cfg.connectTimeoutMs
  readTimeoutMs : n.value kKeyReadTimeoutMs network.readTimeoutMs = .ok cfg.readTimeoutMs
  writeTimeoutMs : n.value kKeyWriteTimeoutMs network.writeTimeoutMs = .ok cfg.writeTimeoutMs
  totalTimeoutMs : n.value kKeyTotalTimeoutMs network.totalTimeoutMs = .ok cfg.totalTimeoutMs
  followRedirects : n.value kKeyFollowRedirects network.followRedirects = .ok cfg.followRedirects
  maxRedirects : n.value kKeyMaxRedirects network.maxRedirects = .ok cfg.maxRedirects
  localAddress : n.value kKeyLocalAddress network.localAddress = .ok cfg.localAddress
  localPort : n.value kKeyLocalPort network.localPort = .ok cfg.localPort
  proxyHost : n.value kKeyProxyHost network.proxyHost = .ok cfg.proxyHost
  proxyPort : n.value kKeyProxyPort network.proxyPort = .ok cfg.proxyPort
  keepAliveMs : n.value kKeyKeepAliveMs network.keepAliveMs = .ok cfg.keepAliveMs
  tlsVerify : n.value kKeyTlsVerify network.tlsVerify = .ok cfg.tlsVerify
  tlsCaFile : n.value kKeyTlsCaFile network.tlsCaFile = .ok cfg.tlsCaFile
  tlsCaPem : n.value kKeyTlsCaPem network.tlsCaPem = .ok cfg.tlsCaPem
  tlsClientCert : n.value kKeyTlsClientCert network.tlsClientCert = .ok cfg.tlsClientCert
  tlsClientKey : n.value kKeyTlsClientKey network.tlsClientKey = .ok cfg.tlsClientKey
  tlsSni : n.value kKeyTlsSni network.tlsSni = .ok cfg.tlsSni

/-- What the reads of an object return, field by field. -/
structure Read (root : Value) (base cfg : StreamConfig) : Prop where
  remoteUrl : readRemoteUrl root = .ok cfg.remoteUrl
  backendType : root.value kKeyBackend base.backendType = .ok cfg.backendType
  videoCodec : root.value kKeyVideoCodec base.videoCodec = .ok cfg.videoCodec
  audioCodec : root.value kKeyAudioCodec base.audioCodec = .ok cfg.audioCodec
  debug : root.value kKeyDebug base.debug = .ok cfg.debug
  initialBitrateKbps :
    root.value kKeyInitialBitrateKbps base.initialBitrateKbps = .ok cfg.initialBitrateKbps
  maxBitrateKbps : root.value kKeyMaxBitrateKbps base.maxBitrateKbps = .ok cfg.maxBitrateKbps
  minBitrateKbps : root.value kKeyMinBitrateKbps base.minBitrateKbps = .ok cfg.minBitrateKbps
  resolutionWidth : root.value kKeyWidth base.resolutionWidth = .ok cfg.resolutionWidth
  resolutionHeight : root.value kKeyHeight base.resolutionHeight = .ok cfg.resolutionHeight
  framerate : root.value kKeyFps base.framerate = .ok cfg.framerate
  bufferDurationS : root.value kKeyBufferDurationS base.bufferDurationS = .ok cfg.bufferDurationS
  reconnectMaxIntervalS :
    root.value kKeyReconnectMaxIntervalS base.reconnectMaxIntervalS = .ok cfg.reconnectMaxIntervalS
  stunServer : root.value kKeyStunServer base.stunServer = .ok cfg.stunServer
  turnServer : root.value kKeyTurnServer base.turnServer = .ok cfg.turnServer
  network : parseNetwork root base.network = .ok cfg.network

section Reads
variable {root n : Value} {base cfg : StreamConfig} {network read : NetworkConfig}

theorem readNetwork_eq_ok : readNetwork n network = .ok read ↔ NetworkRead n network read := by
  constructor
  · intro returned
    simp only [readNetwork, bind_eq_ok] at returned
    obtain ⟨_, h1, _, h2, _, h3, _, h4, _, h5, _, h6, _, h7, _, h8, _, h9, _, h10, _, h11, _, h12,
      _, h13, _, h14, _, h15, _, h16, _, h17, same⟩ := returned
    cases same
    exact ⟨h1, h2, h3, h4, h5, h6, h7, h8, h9, h10, h11, h12, h13, h14, h15, h16, h17⟩
  · rintro ⟨h1, h2, h3, h4, h5, h6, h7, h8, h9, h10, h11, h12, h13, h14, h15, h16, h17⟩
    simp only [readNetwork, bind_eq_ok]
    exact ⟨_, h1, _, h2, _, h3, _, h4, _, h5, _, h6, _, h7, _, h8, _, h9, _, h10, _, h11, _, h12,
      _, h13, _, h14, _, h15, _, h16, _, h17, rfl⟩

theorem readConfig_eq_ok : readConfig root base = .ok cfg ↔ Read root base cfg := by
  constructor
  · intro returned
    simp only [readConfig, bind_eq_ok] at returned
    obtain ⟨_, h1, _, h2, _, h3, _, h4, _, h5, _, h6, _, h7, _, h8, _, h9, _, h10, _, h11, _, h12,
      _, h13, _, h14, _, h15, _, h16, same⟩ := returned
    cases same
    exact ⟨h1, h2, h3, h4, h5, h6, h7, h8, h9, h10, h11, h12, h13, h14, h15, h16⟩
  · rintro ⟨h1, h2, h3, h4, h5, h6, h7, h8, h9, h10, h11, h12, h13, h14, h15, h16⟩
    simp only [readConfig, bind_eq_ok]
    exact ⟨_, h1, _, h2, _, h3, _, h4, _, h5, _, h6, _, h7, _, h8, _, h9, _, h10, _, h11, _, h12,
      _, h13, _, h14, _, h15, _, h16, rfl⟩

/-- An accepted text is an object, and what was read from it. -/
theorem read_of_accepted {parse : String → Except JsonException Value} {text : String}
    {root : Value} {cfg : StreamConfig} (parsed : parse text = .ok root)
    (accepted : parseFromJson parse text = .ok (.ok cfg)) :
    root.isObject = true ∧ Read root { backendType := "", remoteUrl := "" } cfg := by
  simp only [parseFromJson, parseJsonText, parsed] at accepted
  split at accepted
  · cases accepted
  · rename_i object
    refine ⟨by simpa using object, readConfig_eq_ok.mp ?_⟩
    cases read : readConfig root { backendType := "", remoteUrl := "" } with
    | error e =>
      rw [read] at accepted
      cases accepted
    | ok cfg' =>
      rw [read] at accepted
      cases accepted
      rfl

end Reads

end VideoCodec.StreamConfig
