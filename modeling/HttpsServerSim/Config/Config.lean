import HttpsServerSim.Lib.Json

/-!
# The configuration file

`config::Config` with its loading from a JSON text. A field is assigned if it is in the text and
of the right JSON kind. The three arrays are cleared and filled again, each element from its
defaults. An exception ends the loading where it is thrown, with what has been assigned until
then.
-/

namespace HttpsServerSim

namespace Configuration

/-! ## Fields and defaults -/

@[ext]
structure ListenConfig where
  ip : Bytes
  port : UInt16
  enabled : Bool
  backlog : UInt32

@[ext]
structure CertificatesConfig where
  certPath : Bytes
  keyPath : Bytes
  caPath : Bytes
  sm2CertPath : Bytes
  sm2KeyPath : Bytes
  sm2SignCertPath : Bytes
  sm2SignKeyPath : Bytes
  cipherSuite : Bytes

@[ext]
structure DebugPointConfig where
  serverPort : UInt16
  pointName : Bytes
  action : Bytes
  delayMs : UInt32
  errorCode : Int32
  probability : UInt32

@[ext]
structure DebugConfig where
  enabled : Bool
  debugPoints : List DebugPointConfig

@[ext]
structure CallbackConfig where
  serverPort : UInt16
  scriptPath : Bytes

@[ext]
structure CallbacksConfig where
  callbacksDir : Bytes
  callbacks : List CallbackConfig

@[ext]
structure LoggingConfig where
  level : Bytes
  file : Bytes
  consoleOutput : Bool

@[ext]
structure Http2Config where
  enabled : Bool
  allowH2c : Bool

@[ext]
structure Config where
  listens : List ListenConfig
  certificates : CertificatesConfig
  debug : DebugConfig
  callbacks : CallbacksConfig
  logging : LoggingConfig
  http2 : Http2Config
  callbacksDir : Bytes

def ListenConfig.construct : ListenConfig where
  ip := ascii "0.0.0.0"
  port := 8443
  enabled := true
  backlog := 128

def CertificatesConfig.construct : CertificatesConfig where
  certPath := []
  keyPath := []
  caPath := []
  sm2CertPath := []
  sm2KeyPath := []
  sm2SignCertPath := []
  sm2SignKeyPath := []
  cipherSuite :=
    ascii "TLS_AES_256_GCM_SHA384:TLS_CHACHA20_POLY1305_SHA256:TLS_AES_128_GCM_SHA256"

def DebugPointConfig.construct : DebugPointConfig where
  serverPort := 0
  pointName := []
  action := []
  delayMs := 0
  errorCode := 0
  probability := 100

def DebugConfig.construct : DebugConfig where
  enabled := false
  debugPoints := []

def CallbackConfig.construct : CallbackConfig where
  serverPort := 0
  scriptPath := []

def CallbacksConfig.construct : CallbacksConfig where
  callbacksDir := ascii "callbacks"
  callbacks := []

def LoggingConfig.construct : LoggingConfig where
  level := ascii "INFO"
  file := []
  consoleOutput := true

def Http2Config.construct : Http2Config where
  enabled := true
  allowH2c := false

/-- `reset`, which the constructor calls. -/
def Config.construct : Config where
  listens := [.construct]
  certificates := .construct
  debug := .construct
  callbacks := .construct
  logging := .construct
  http2 := .construct
  callbacksDir := ascii "callbacks"

/-! ## The sections -/

variable (library : JsonLibrary)

def parseListenConfig (j : Json) : Loader ListenConfig :=
  .all
    [j.takeField (ascii "ip") Json.isString Json.getString fun ip cfg => { cfg with ip := ip },
      j.takeField (ascii "port") Json.isNumber (Json.getUInt16 library)
        fun port cfg => { cfg with port := port },
      j.takeField (ascii "enabled") Json.isBoolean Json.getBoolean
        fun enabled cfg => { cfg with enabled := enabled },
      j.takeField (ascii "backlog") Json.isNumber (Json.getUInt32 library)
        fun backlog cfg => { cfg with backlog := backlog }]

def parseCertificatesConfig (j : Json) : Loader CertificatesConfig :=
  .all
    [j.takeField (ascii "cert_path") Json.isString Json.getString
        fun path cfg => { cfg with certPath := path },
      j.takeField (ascii "key_path") Json.isString Json.getString
        fun path cfg => { cfg with keyPath := path },
      j.takeField (ascii "ca_path") Json.isString Json.getString
        fun path cfg => { cfg with caPath := path },
      j.takeField (ascii "sm2_cert_path") Json.isString Json.getString
        fun path cfg => { cfg with sm2CertPath := path },
      j.takeField (ascii "sm2_key_path") Json.isString Json.getString
        fun path cfg => { cfg with sm2KeyPath := path },
      j.takeField (ascii "sm2_sign_cert_path") Json.isString Json.getString
        fun path cfg => { cfg with sm2SignCertPath := path },
      j.takeField (ascii "sm2_sign_key_path") Json.isString Json.getString
        fun path cfg => { cfg with sm2SignKeyPath := path },
      j.takeField (ascii "cipher_suite") Json.isString Json.getString
        fun suite cfg => { cfg with cipherSuite := suite }]

def parseDebugPointConfig (j : Json) : Loader DebugPointConfig :=
  .all
    [j.takeField (ascii "server_port") Json.isNumber (Json.getUInt16 library)
        fun port cfg => { cfg with serverPort := port },
      j.takeField (ascii "point_name") Json.isString Json.getString
        fun name cfg => { cfg with pointName := name },
      j.takeField (ascii "action") Json.isString Json.getString
        fun action cfg => { cfg with action := action },
      j.takeField (ascii "delay_ms") Json.isNumber (Json.getUInt32 library)
        fun delay cfg => { cfg with delayMs := delay },
      j.takeField (ascii "error_code") Json.isNumber (Json.getInt32 library)
        fun code cfg => { cfg with errorCode := code },
      j.takeField (ascii "probability") Json.isNumber (Json.getUInt32 library)
        fun probability cfg => { cfg with probability := probability }]

/-- The array is cleared, and filled from the defaults of an element. -/
def refill {Element : Type} (initial : Element) (parse : Json → Loader Element) (j : Json) :
    Loader (List Element) :=
  fun _ => Loader.pushEach initial parse j.elements []

def parseDebugConfig (j : Json) : Loader DebugConfig :=
  .all
    [j.takeField (ascii "enabled") Json.isBoolean Json.getBoolean
        fun enabled cfg => { cfg with enabled := enabled },
      j.whenMember (ascii "debug_points") Json.isArray fun points =>
        .onPart DebugConfig.debugPoints (fun points cfg => { cfg with debugPoints := points })
          (refill .construct (parseDebugPointConfig library) points)]

def parseCallbackConfig (j : Json) : Loader CallbackConfig :=
  .all
    [j.takeField (ascii "server_port") Json.isNumber (Json.getUInt16 library)
        fun port cfg => { cfg with serverPort := port },
      j.takeField (ascii "script_path") Json.isString Json.getString
        fun path cfg => { cfg with scriptPath := path }]

def parseCallbacksConfig (j : Json) : Loader CallbacksConfig :=
  .all
    [j.takeField (ascii "callbacks_dir") Json.isString Json.getString
        fun dir cfg => { cfg with callbacksDir := dir },
      j.whenMember (ascii "callbacks") Json.isArray fun callbacks =>
        .onPart CallbacksConfig.callbacks (fun callbacks cfg => { cfg with callbacks := callbacks })
          (refill .construct (parseCallbackConfig library) callbacks)]

def parseLoggingConfig (j : Json) : Loader LoggingConfig :=
  .all
    [j.takeField (ascii "level") Json.isString Json.getString
        fun level cfg => { cfg with level := level },
      j.takeField (ascii "file") Json.isString Json.getString
        fun file cfg => { cfg with file := file },
      j.takeField (ascii "console_output") Json.isBoolean Json.getBoolean
        fun output cfg => { cfg with consoleOutput := output }]

def parseHttp2Config (j : Json) : Loader Http2Config :=
  .all
    [j.takeField (ascii "enabled") Json.isBoolean Json.getBoolean
        fun enabled cfg => { cfg with enabled := enabled },
      j.takeField (ascii "allow_h2c") Json.isBoolean Json.getBoolean
        fun allowed cfg => { cfg with allowH2c := allowed }]

/-- The section of the callbacks, and then the copy of the directory. -/
def parseCallbacksSection (j : Json) : Loader (CallbacksConfig × Bytes) := fun state =>
  match parseCallbacksConfig library j state.1 with
  | (callbacks, true) => ((callbacks, state.2), true)
  | (callbacks, false) => ((callbacks, callbacks.callbacksDir), false)

/-! ## Loading -/

namespace Config

/-- The body of `load_from_string` behind the parser. -/
def parseSections (j : Json) : Loader Config :=
  .all
    [j.whenMember (ascii "listens") Json.isArray fun listens =>
        .onPart Config.listens (fun listens config => { config with listens := listens })
          (refill .construct (parseListenConfig library) listens),
      j.whenMember (ascii "certificates") Json.isObject fun certificates =>
        .onPart Config.certificates
          (fun certificates config => { config with certificates := certificates })
          (parseCertificatesConfig certificates),
      j.whenMember (ascii "debug") Json.isObject fun debug =>
        .onPart Config.debug (fun debug config => { config with debug := debug })
          (parseDebugConfig library debug),
      j.whenMember (ascii "callbacks") Json.isObject fun callbacks =>
        .onPart (fun config => (config.callbacks, config.callbacksDir))
          (fun loaded config =>
            { config with callbacks := loaded.1, callbacksDir := loaded.2 })
          (parseCallbacksSection library callbacks),
      j.whenMember (ascii "logging") Json.isObject fun logging =>
        .onPart Config.logging (fun logging config => { config with logging := logging })
          (parseLoggingConfig logging),
      j.whenMember (ascii "http2") Json.isObject fun http2 =>
        .onPart Config.http2 (fun http2 config => { config with http2 := http2 })
          (parseHttp2Config http2)]

/-- The status and the configuration that is left. -/
def loadFromString (jsonStr : Bytes) (config : Config) : ℤ × Config :=
  match library.parse jsonStr with
  | none => (-1, config)
  | some j =>
      match parseSections library j config with
      | (loaded, true) => (-1, loaded)
      | (loaded, false) => (0, loaded)

/-- A file that cannot be opened has no contents. -/
def loadFromFile (contents : Option Bytes) (config : Config) : ℤ × Config :=
  match contents with
  | none => (-1, config)
  | some contents => config.loadFromString library contents

/-! ## The setters -/

def setListens (listens : List ListenConfig) (config : Config) : Config :=
  { config with listens := listens }

def setCertificates (certificates : CertificatesConfig) (config : Config) : Config :=
  { config with certificates := certificates }

def setDebug (debug : DebugConfig) (config : Config) : Config := { config with debug := debug }

def setCallbacks (callbacks : CallbacksConfig) (config : Config) : Config :=
  { config with callbacks := callbacks }

def setLogging (logging : LoggingConfig) (config : Config) : Config :=
  { config with logging := logging }

def setHttp2 (http2 : Http2Config) (config : Config) : Config := { config with http2 := http2 }

def setCallbacksDir (dir : Bytes) (config : Config) : Config := { config with callbacksDir := dir }

/-- Every member is assigned. -/
def reset (_config : Config) : Config := .construct

/-! ## Validation -/

/-- The loop of `validate`. -/
def validateListens : List ListenConfig → ℤ
  | [] => 0
  | listen :: listens => if listen.port = 0 then -1 else validateListens listens

def validate (config : Config) : ℤ :=
  if config.listens.isEmpty then -1 else validateListens config.listens

theorem validateListens_eq_zero_iff (listens : List ListenConfig) :
    validateListens listens = 0 ↔ ∀ listen ∈ listens, listen.port ≠ 0 := by
  induction listens with
  | nil => simp [validateListens]
  | cons listen listens ih =>
      by_cases zero : listen.port = 0
      · simp [validateListens, zero]
      · simp [validateListens, zero, ih]

theorem validate_eq_zero_iff (config : Config) :
    config.validate = 0 ↔ config.listens ≠ [] ∧ ∀ listen ∈ config.listens, listen.port ≠ 0 := by
  by_cases empty : config.listens = []
  · simp [validate, empty]
  · simp [validate, empty, validateListens_eq_zero_iff]

end Config

end Configuration

end HttpsServerSim
