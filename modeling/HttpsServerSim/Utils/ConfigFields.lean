import HttpsServerSim.Utils.Config

/-!
# The fields of the configuration

The configuration of the utilities as a record of fields, in the order in which they are loaded.
Each has a place in the JSON value, a type with its conversions, and is read and written by
itself.
-/

namespace HttpsServerSim

namespace Utils

inductive FieldKind where
  | string
  | uint16
  | uint32
  | boolean
  | strings
  | stringMap

inductive ConfigField where
  | listenIp
  | listenPort
  | tlsVersion
  | threadCount
  | timeoutSeconds
  | certFile
  | keyFile
  | certType
  | cipherSuites
  | debugEnabled
  | logPackets
  | strategy
  | portMapping
  | level
  | file
  | maxSizeMb
  | maxFiles
  | http2Enabled
  | maxConcurrentStreams
  | initialWindowSize
deriving DecidableEq

namespace FieldKind

abbrev Value : FieldKind → Type
  | .string => Bytes
  | .uint16 => UInt16
  | .uint32 => UInt32
  | .boolean => Bool
  | .strings => List Bytes
  | .stringMap => StringMap

def get (library : JsonLibrary) : (kind : FieldKind) → Json → Option kind.Value
  | .string => Json.getString
  | .uint16 => Json.getUInt16 library
  | .uint32 => Json.getUInt32 library
  | .boolean => Json.getBoolean
  | .strings => Json.getStrings
  | .stringMap => Json.getStringMap

def toJson : (kind : FieldKind) → kind.Value → Json
  | .string, value => .string value
  | .uint16, value => .numberUnsigned value.toUInt64
  | .uint32, value => .numberUnsigned value.toUInt64
  | .boolean, value => .boolean value
  | .strings, values => .ofStrings values
  | .stringMap, map => .ofStringMap map

theorem get_toJson (library : JsonLibrary) (kind : FieldKind) (value : kind.Value) :
    kind.get library (kind.toJson value) = some value := by
  cases kind with
  | string | boolean => rfl
  | uint16 => exact Json.getUInt16_ofUInt16 library value
  | uint32 => exact Json.getUInt32_ofUInt32 library value
  | strings => exact Json.getStrings_ofStrings value
  | stringMap => exact Json.getStringMap_ofStringMap value

end FieldKind

namespace ConfigField

def parent : ConfigField → Bytes
  | .listenIp | .listenPort | .tlsVersion | .threadCount | .timeoutSeconds => ascii "server"
  | .certFile | .keyFile | .certType | .cipherSuites => ascii "certificates"
  | .debugEnabled | .logPackets => ascii "debug"
  | .strategy | .portMapping => ascii "callbacks"
  | .level | .file | .maxSizeMb | .maxFiles => ascii "logging"
  | .http2Enabled | .maxConcurrentStreams | .initialWindowSize => ascii "http2"

def key : ConfigField → Bytes
  | .listenIp => ascii "listen_ip"
  | .listenPort => ascii "listen_port"
  | .tlsVersion => ascii "tls_version"
  | .threadCount => ascii "thread_count"
  | .timeoutSeconds => ascii "timeout_seconds"
  | .certFile => ascii "cert_file"
  | .keyFile => ascii "key_file"
  | .certType => ascii "cert_type"
  | .cipherSuites => ascii "cipher_suites"
  | .debugEnabled => ascii "enabled"
  | .logPackets => ascii "log_packets"
  | .strategy => ascii "strategy"
  | .portMapping => ascii "port_mapping"
  | .level => ascii "level"
  | .file => ascii "file"
  | .maxSizeMb => ascii "max_size_mb"
  | .maxFiles => ascii "max_files"
  | .http2Enabled => ascii "enabled"
  | .maxConcurrentStreams => ascii "max_concurrent_streams"
  | .initialWindowSize => ascii "initial_window_size"

def kind : ConfigField → FieldKind
  | .listenPort => .uint16
  | .threadCount | .timeoutSeconds | .maxSizeMb | .maxFiles | .maxConcurrentStreams
  | .initialWindowSize => .uint32
  | .debugEnabled | .logPackets | .http2Enabled => .boolean
  | .cipherSuites => .strings
  | .portMapping => .stringMap
  | .listenIp | .tlsVersion | .certFile | .keyFile | .certType | .strategy | .level | .file =>
      .string

def read : (field : ConfigField) → Config → field.kind.Value
  | .listenIp, config => config.server.listenIp
  | .listenPort, config => config.server.listenPort
  | .tlsVersion, config => config.server.tlsVersion
  | .threadCount, config => config.server.threadCount
  | .timeoutSeconds, config => config.server.timeoutSeconds
  | .certFile, config => config.certificates.certFile
  | .keyFile, config => config.certificates.keyFile
  | .certType, config => config.certificates.certType
  | .cipherSuites, config => config.certificates.cipherSuites
  | .debugEnabled, config => config.debug.enabled
  | .logPackets, config => config.debug.logPackets
  | .strategy, config => config.callbacks.strategy
  | .portMapping, config => config.callbacks.portMapping
  | .level, config => config.logging.level
  | .file, config => config.logging.file
  | .maxSizeMb, config => config.logging.maxSizeMb
  | .maxFiles, config => config.logging.maxFiles
  | .http2Enabled, config => config.http2.enabled
  | .maxConcurrentStreams, config => config.http2.maxConcurrentStreams
  | .initialWindowSize, config => config.http2.initialWindowSize

def write : (field : ConfigField) → field.kind.Value → Config → Config
  | .listenIp, ip, config => { config with server.listenIp := ip }
  | .listenPort, port, config => { config with server.listenPort := port }
  | .tlsVersion, version, config => { config with server.tlsVersion := version }
  | .threadCount, count, config => { config with server.threadCount := count }
  | .timeoutSeconds, seconds, config => { config with server.timeoutSeconds := seconds }
  | .certFile, path, config => { config with certificates.certFile := path }
  | .keyFile, path, config => { config with certificates.keyFile := path }
  | .certType, type, config => { config with certificates.certType := type }
  | .cipherSuites, suites, config => { config with certificates.cipherSuites := suites }
  | .debugEnabled, enabled, config => { config with debug.enabled := enabled }
  | .logPackets, log, config => { config with debug.logPackets := log }
  | .strategy, name, config => { config with callbacks.strategy := name }
  | .portMapping, mapping, config => { config with callbacks.portMapping := mapping }
  | .level, name, config => { config with logging.level := name }
  | .file, path, config => { config with logging.file := path }
  | .maxSizeMb, size, config => { config with logging.maxSizeMb := size }
  | .maxFiles, files, config => { config with logging.maxFiles := files }
  | .http2Enabled, enabled, config => { config with http2.enabled := enabled }
  | .maxConcurrentStreams, streams, config => { config with http2.maxConcurrentStreams := streams }
  | .initialWindowSize, size, config => { config with http2.initialWindowSize := size }

def server : List ConfigField :=
  [.listenIp, .listenPort, .tlsVersion, .threadCount, .timeoutSeconds]

def certificates : List ConfigField := [.certFile, .keyFile, .certType, .cipherSuites]

def debug : List ConfigField := [.debugEnabled, .logPackets]

def callbacks : List ConfigField := [.strategy, .portMapping]

def logging : List ConfigField := [.level, .file, .maxSizeMb, .maxFiles]

def http2 : List ConfigField := [.http2Enabled, .maxConcurrentStreams, .initialWindowSize]

/-- The fields in the order in which they are loaded. -/
def all : List ConfigField :=
  server ++ (certificates ++ (debug ++ (callbacks ++ (logging ++ http2))))

theorem all_nodup : all.Nodup := by decide

theorem mem_all (field : ConfigField) : field ∈ all := by
  cases field <;> decide

theorem read_write_of_ne {field other : ConfigField} (value : other.kind.Value) (config : Config)
    (different : field ≠ other) : field.read (other.write value config) = field.read config := by
  cases other <;> cases field <;> first | rfl | exact absurd rfl different

theorem config_ext {config other : Config} (same : ∀ field : ConfigField,
    field.read config = field.read other) : config = other := by
  apply Config.ext
  · exact ServerConfig.ext (same .listenIp) (same .listenPort) (same .tlsVersion)
      (same .threadCount) (same .timeoutSeconds)
  · exact CertificatesConfig.ext (same .certFile) (same .keyFile) (same .certType)
      (same .cipherSuites)
  · exact DebugConfig.ext (same .debugEnabled) (same .logPackets)
  · exact CallbacksConfig.ext (same .strategy) (same .portMapping)
  · exact LoggingConfig.ext (same .level) (same .file) (same .maxSizeMb) (same .maxFiles)
  · exact Http2Config.ext (same .http2Enabled) (same .maxConcurrentStreams)
      (same .initialWindowSize)

/-- The configuration as its fields. -/
def system : FieldSystem Config ConfigField where
  Value field := field.kind.Value
  read := read
  write := write
  read_write := by
    intro field value config
    cases field <;> rfl
  read_write_of_ne := read_write_of_ne
  ext := config_ext

/-- The conversion of the field, if it is in the JSON value. -/
def given (library : JsonLibrary) (j : Json) : system.Input := fun field =>
  (j.nested field.parent field.key).map (field.kind.get library)

end ConfigField

/-! ## Loading as a sequence of fields -/

variable (library : JsonLibrary)

/-- The code for one field of a section. -/
def fieldLoader (s : Json) (field : ConfigField) : Loader Config :=
  getField s field.key (field.kind.get library) field.write

/-- A section is the sequence of its fields. -/
theorem inSection_eq (j : Json) {key : Bytes} {fields : List ConfigField}
    (parents : ∀ field ∈ fields, field.parent = key) :
    inSection j key (fun s => Loader.all (fields.map (fieldLoader library s))) =
      ConfigField.system.load (ConfigField.given library j) fields := by
  unfold inSection FieldSystem.load
  cases isMember : j.member key with
  | none =>
      symm
      apply Loader.all_eq_skip
      intro loader isLoader
      rcases List.mem_map.mp isLoader with ⟨field, isField, rfl⟩
      have absent : ConfigField.given library j field = none := by
        rw [ConfigField.given, Json.nested, parents field isField, isMember]
        rfl
      simp only [absent]
  | some s =>
      apply congrArg Loader.all
      apply List.map_congr_left
      intro field isField
      simp only [ConfigField.given, Json.nested, parents field isField, isMember, Option.bind_some,
        fieldLoader, getField]
      cases s.member field.key <;> rfl

/-- The function of the source loads the fields in turn. -/
theorem parseJsonToConfig_eq (j : Json) :
    parseJsonToConfig library j =
      ConfigField.system.load (ConfigField.given library j) ConfigField.all := by
  have server := inSection_eq library j (by decide : ∀ field ∈ ConfigField.server,
    field.parent = ascii "server")
  have certificates := inSection_eq library j (by decide : ∀ field ∈ ConfigField.certificates,
    field.parent = ascii "certificates")
  have debug := inSection_eq library j (by decide : ∀ field ∈ ConfigField.debug,
    field.parent = ascii "debug")
  have callbacks := inSection_eq library j (by decide : ∀ field ∈ ConfigField.callbacks,
    field.parent = ascii "callbacks")
  have logging := inSection_eq library j (by decide : ∀ field ∈ ConfigField.logging,
    field.parent = ascii "logging")
  have http2 := inSection_eq library j (by decide : ∀ field ∈ ConfigField.http2,
    field.parent = ascii "http2")
  simp only [ConfigField.all, FieldSystem.load_append, ← server, ← certificates, ← debug,
    ← callbacks, ← logging, ← http2]
  simp only [parseJsonToConfig, Loader.all, Loader.andThen_skip]
  rfl

end Utils

end HttpsServerSim
