import HttpsServerSim.Lib.Json

/-!
# The configuration of the utilities

`utils::Config` with `parse_json_to_config` and `to_json_string`. Here a field that is in the
text is assigned whatever its kind, and the conversion throws if the kind is a wrong one. Of an
error only the code is kept.
-/

namespace HttpsServerSim

namespace Utils

@[ext]
structure ServerConfig where
  listenIp : Bytes := ascii "0.0.0.0"
  listenPort : UInt16 := 8443
  tlsVersion : Bytes := ascii "both"
  threadCount : UInt32 := 5
  timeoutSeconds : UInt32 := 30

@[ext]
structure CertificatesConfig where
  certFile : Bytes := []
  keyFile : Bytes := []
  certType : Bytes := ascii "international"
  cipherSuites : List Bytes := []

@[ext]
structure DebugConfig where
  enabled : Bool := false
  logPackets : Bool := false

@[ext]
structure CallbacksConfig where
  strategy : Bytes := ascii "port_based"
  portMapping : StringMap := ∅

@[ext]
structure LoggingConfig where
  level : Bytes := ascii "INFO"
  file : Bytes := []
  maxSizeMb : UInt32 := 100
  maxFiles : UInt32 := 10

@[ext]
structure Http2Config where
  enabled : Bool := true
  maxConcurrentStreams : UInt32 := 100
  initialWindowSize : UInt32 := 65535

@[ext]
structure Config where
  server : ServerConfig := {}
  certificates : CertificatesConfig := {}
  debug : DebugConfig := {}
  callbacks : CallbacksConfig := {}
  logging : LoggingConfig := {}
  http2 : Http2Config := {}

inductive ErrorCode where
  | configParseError
  | configInvalidValue
  | operationFailed
deriving DecidableEq

inductive ValidationCode where
  | configInvalidPort
  | configInvalidThreadCount
  | configInvalidLogLevel
deriving DecidableEq

/-- An error of `validate`. -/
structure ValidationError where
  code : ValidationCode
  message : Bytes
deriving DecidableEq

/-! ## Loading -/

/-- `if (s.contains(key)) field = s[key].get<T>();` -/
def getField {State Value : Type} (s : Json) (key : Bytes) (get : Json → Option Value)
    (write : Value → State → State) : Loader State :=
  match s.member key with
  | some found => Loader.assign (get found) write
  | none => Loader.skip

/-- The body of `if (j.contains(key))`. -/
def inSection {State : Type} (j : Json) (key : Bytes) (load : Json → Loader State) :
    Loader State :=
  match j.member key with
  | some found => load found
  | none => Loader.skip

variable (library : JsonLibrary)

def parseServer (s : Json) : Loader Config :=
  .all
    [getField s (ascii "listen_ip") Json.getString
        fun ip config => { config with server.listenIp := ip },
      getField s (ascii "listen_port") (Json.getUInt16 library)
        fun port config => { config with server.listenPort := port },
      getField s (ascii "tls_version") Json.getString
        fun version config => { config with server.tlsVersion := version },
      getField s (ascii "thread_count") (Json.getUInt32 library)
        fun count config => { config with server.threadCount := count },
      getField s (ascii "timeout_seconds") (Json.getUInt32 library)
        fun seconds config => { config with server.timeoutSeconds := seconds }]

def parseCertificates (c : Json) : Loader Config :=
  .all
    [getField c (ascii "cert_file") Json.getString
        fun file config => { config with certificates.certFile := file },
      getField c (ascii "key_file") Json.getString
        fun file config => { config with certificates.keyFile := file },
      getField c (ascii "cert_type") Json.getString
        fun type config => { config with certificates.certType := type },
      getField c (ascii "cipher_suites") Json.getStrings
        fun suites config => { config with certificates.cipherSuites := suites }]

def parseDebug (d : Json) : Loader Config :=
  .all
    [getField d (ascii "enabled") Json.getBoolean
        fun enabled config => { config with debug.enabled := enabled },
      getField d (ascii "log_packets") Json.getBoolean
        fun log config => { config with debug.logPackets := log }]

def parseCallbacks (cb : Json) : Loader Config :=
  .all
    [getField cb (ascii "strategy") Json.getString
        fun strategy config => { config with callbacks.strategy := strategy },
      getField cb (ascii "port_mapping") Json.getStringMap
        fun mapping config => { config with callbacks.portMapping := mapping }]

def parseLogging (l : Json) : Loader Config :=
  .all
    [getField l (ascii "level") Json.getString
        fun level config => { config with logging.level := level },
      getField l (ascii "file") Json.getString
        fun file config => { config with logging.file := file },
      getField l (ascii "max_size_mb") (Json.getUInt32 library)
        fun size config => { config with logging.maxSizeMb := size },
      getField l (ascii "max_files") (Json.getUInt32 library)
        fun files config => { config with logging.maxFiles := files }]

def parseHttp2 (h : Json) : Loader Config :=
  .all
    [getField h (ascii "enabled") Json.getBoolean
        fun enabled config => { config with http2.enabled := enabled },
      getField h (ascii "max_concurrent_streams") (Json.getUInt32 library)
        fun streams config => { config with http2.maxConcurrentStreams := streams },
      getField h (ascii "initial_window_size") (Json.getUInt32 library)
        fun size config => { config with http2.initialWindowSize := size }]

def parseJsonToConfig (j : Json) : Loader Config :=
  .all
    [inSection j (ascii "server") (parseServer library),
      inSection j (ascii "certificates") parseCertificates,
      inSection j (ascii "debug") parseDebug,
      inSection j (ascii "callbacks") parseCallbacks,
      inSection j (ascii "logging") (parseLogging library),
      inSection j (ascii "http2") (parseHttp2 library)]

namespace Config

/-- The result, and the configuration that is left. -/
def loadFromString (jsonStr : Bytes) (config : Config) : Except ErrorCode Unit × Config :=
  match library.parse jsonStr with
  | none => (.error .configParseError, config)
  | some j =>
      match parseJsonToConfig library j config with
      | (loaded, true) => (.error .configInvalidValue, loaded)
      | (loaded, false) => (.ok (), loaded)

/-! ## Writing -/

/-- The JSON value of `to_json_string`. -/
def toJson (config : Config) : Option Json :=
  Json.setAll .null
    [(ascii "server", ascii "listen_ip", .string config.server.listenIp),
      (ascii "server", ascii "listen_port", .numberUnsigned config.server.listenPort.toUInt64),
      (ascii "server", ascii "tls_version", .string config.server.tlsVersion),
      (ascii "server", ascii "thread_count", .numberUnsigned config.server.threadCount.toUInt64),
      (ascii "server", ascii "timeout_seconds",
        .numberUnsigned config.server.timeoutSeconds.toUInt64),
      (ascii "certificates", ascii "cert_file", .string config.certificates.certFile),
      (ascii "certificates", ascii "key_file", .string config.certificates.keyFile),
      (ascii "certificates", ascii "cert_type", .string config.certificates.certType),
      (ascii "certificates", ascii "cipher_suites", .ofStrings config.certificates.cipherSuites),
      (ascii "debug", ascii "enabled", .boolean config.debug.enabled),
      (ascii "debug", ascii "log_packets", .boolean config.debug.logPackets),
      (ascii "callbacks", ascii "strategy", .string config.callbacks.strategy),
      (ascii "callbacks", ascii "port_mapping", .ofStringMap config.callbacks.portMapping),
      (ascii "logging", ascii "level", .string config.logging.level),
      (ascii "logging", ascii "file", .string config.logging.file),
      (ascii "logging", ascii "max_size_mb", .numberUnsigned config.logging.maxSizeMb.toUInt64),
      (ascii "logging", ascii "max_files", .numberUnsigned config.logging.maxFiles.toUInt64),
      (ascii "http2", ascii "enabled", .boolean config.http2.enabled),
      (ascii "http2", ascii "max_concurrent_streams",
        .numberUnsigned config.http2.maxConcurrentStreams.toUInt64),
      (ascii "http2", ascii "initial_window_size",
        .numberUnsigned config.http2.initialWindowSize.toUInt64)]

def toJsonString (config : Config) : Except ErrorCode Bytes :=
  match config.toJson.bind (library.dump 4) with
  | some text => .ok text
  | none => .error .operationFailed

/-! ## Validation -/

/-- The port is tested for being too large, which its type excludes. -/
def validate (config : Config) : Except ValidationError Unit :=
  if config.server.listenPort = 0 ∨ 65535 < config.server.listenPort.toNat then
    .error ⟨.configInvalidPort,
      ascii "Invalid port: " ++ toDecimal config.server.listenPort.toNat⟩
  else if config.server.threadCount = 0 ∨ 1024 < config.server.threadCount then
    .error ⟨.configInvalidThreadCount,
      ascii "Invalid thread count: " ++ toDecimal config.server.threadCount.toNat⟩
  else if config.logging.level ≠ ascii "DEBUG" ∧ config.logging.level ≠ ascii "INFO" ∧
      config.logging.level ≠ ascii "WARN" ∧ config.logging.level ≠ ascii "ERROR" then
    .error ⟨.configInvalidLogLevel, ascii "Invalid log level: " ++ config.logging.level⟩
  else .ok ()

end Config

end Utils

end HttpsServerSim
