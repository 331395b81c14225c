import HttpsServerSim.Config.Config

/-!
# What loading a configuration leaves

For each section a relation between the JSON value, the section before and the section after says
what loading is meant to do, field by field. No conversion is made on a value of another kind
than the one it is for, so the loaders do not throw, and each leaves what its relation says.
-/

namespace HttpsServerSim

namespace Configuration

variable {library : JsonLibrary} {j : Json}

/-! ## The sections after loading -/

structure ListenLoaded (library : JsonLibrary) (j : Json) (before after : ListenConfig) : Prop where
  ip : j.Takes (ascii "ip") Json.isString Json.getString before.ip after.ip
  port : j.Takes (ascii "port") Json.isNumber (Json.getUInt16 library) before.port after.port
  enabled : j.Takes (ascii "enabled") Json.isBoolean Json.getBoolean before.enabled after.enabled
  backlog : j.Takes (ascii "backlog") Json.isNumber (Json.getUInt32 library) before.backlog
    after.backlog

structure CertificatesLoaded (j : Json) (before after : CertificatesConfig) : Prop where
  certPath : j.Takes (ascii "cert_path") Json.isString Json.getString before.certPath
    after.certPath
  keyPath : j.Takes (ascii "key_path") Json.isString Json.getString before.keyPath after.keyPath
  caPath : j.Takes (ascii "ca_path") Json.isString Json.getString before.caPath after.caPath
  sm2CertPath : j.Takes (ascii "sm2_cert_path") Json.isString Json.getString before.sm2CertPath
    after.sm2CertPath
  sm2KeyPath : j.Takes (ascii "sm2_key_path") Json.isString Json.getString before.sm2KeyPath
    after.sm2KeyPath
  sm2SignCertPath : j.Takes (ascii "sm2_sign_cert_path") Json.isString Json.getString
    before.sm2SignCertPath after.sm2SignCertPath
  sm2SignKeyPath : j.Takes (ascii "sm2_sign_key_path") Json.isString Json.getString
    before.sm2SignKeyPath after.sm2SignKeyPath
  cipherSuite : j.Takes (ascii "cipher_suite") Json.isString Json.getString before.cipherSuite
    after.cipherSuite

structure DebugPointLoaded (library : JsonLibrary) (j : Json) (before after : DebugPointConfig) :
    Prop where
  serverPort : j.Takes (ascii "server_port") Json.isNumber (Json.getUInt16 library)
    before.serverPort after.serverPort
  pointName : j.Takes (ascii "point_name") Json.isString Json.getString before.pointName
    after.pointName
  action : j.Takes (ascii "action") Json.isString Json.getString before.action after.action
  delayMs : j.Takes (ascii "delay_ms") Json.isNumber (Json.getUInt32 library) before.delayMs
    after.delayMs
  errorCode : j.Takes (ascii "error_code") Json.isNumber (Json.getInt32 library) before.errorCode
    after.errorCode
  probability : j.Takes (ascii "probability") Json.isNumber (Json.getUInt32 library)
    before.probability after.probability

structure CallbackLoaded (library : JsonLibrary) (j : Json) (before after : CallbackConfig) :
    Prop where
  serverPort : j.Takes (ascii "server_port") Json.isNumber (Json.getUInt16 library)
    before.serverPort after.serverPort
  scriptPath : j.Takes (ascii "script_path") Json.isString Json.getString before.scriptPath
    after.scriptPath

/-- One element for each of the array, loaded over the defaults. -/
def ArrayLoaded {Element : Type} (initial : Element)
    (Loaded : Json → Element → Element → Prop) (j : Json) (_before after : List Element) : Prop :=
  List.Forall₂ (fun item element => Loaded item initial element) j.elements after

structure DebugLoaded (library : JsonLibrary) (j : Json) (before after : DebugConfig) : Prop where
  enabled : j.Takes (ascii "enabled") Json.isBoolean Json.getBoolean before.enabled after.enabled
  debugPoints : j.LoadsMember (ascii "debug_points") Json.isArray
    (ArrayLoaded .construct (DebugPointLoaded library)) before.debugPoints after.debugPoints

structure CallbacksLoaded (library : JsonLibrary) (j : Json) (before after : CallbacksConfig) :
    Prop where
  callbacksDir : j.Takes (ascii "callbacks_dir") Json.isString Json.getString before.callbacksDir
    after.callbacksDir
  callbacks : j.LoadsMember (ascii "callbacks") Json.isArray
    (ArrayLoaded .construct (CallbackLoaded library)) before.callbacks after.callbacks

structure LoggingLoaded (j : Json) (before after : LoggingConfig) : Prop where
  level : j.Takes (ascii "level") Json.isString Json.getString before.level after.level
  file : j.Takes (ascii "file") Json.isString Json.getString before.file after.file
  consoleOutput : j.Takes (ascii "console_output") Json.isBoolean Json.getBoolean
    before.consoleOutput after.consoleOutput

structure Http2Loaded (j : Json) (before after : Http2Config) : Prop where
  enabled : j.Takes (ascii "enabled") Json.isBoolean Json.getBoolean before.enabled after.enabled
  allowH2c : j.Takes (ascii "allow_h2c") Json.isBoolean Json.getBoolean before.allowH2c
    after.allowH2c

/-- The section of the callbacks with the copy of its directory, which is made whether the section
has a directory or not. -/
structure CallbacksSectionLoaded (library : JsonLibrary) (j : Json)
    (before after : CallbacksConfig × Bytes) : Prop where
  callbacks : CallbacksLoaded library j before.1 after.1
  callbacksDir : after.2 = after.1.callbacksDir

/-- The six sections. -/
structure Config.Loaded (library : JsonLibrary) (j : Json) (before after : Config) : Prop where
  listens : j.LoadsMember (ascii "listens") Json.isArray
    (ArrayLoaded .construct (ListenLoaded library)) before.listens after.listens
  certificates : j.LoadsMember (ascii "certificates") Json.isObject CertificatesLoaded
    before.certificates after.certificates
  debug : j.LoadsMember (ascii "debug") Json.isObject (DebugLoaded library) before.debug after.debug
  callbacks : j.LoadsMember (ascii "callbacks") Json.isObject (CallbacksSectionLoaded library)
    (before.callbacks, before.callbacksDir) (after.callbacks, after.callbacksDir)
  logging : j.LoadsMember (ascii "logging") Json.isObject LoggingLoaded before.logging after.logging
  http2 : j.LoadsMember (ascii "http2") Json.isObject Http2Loaded before.http2 after.http2

/-! ## The loaders leave what they should -/

theorem parseListenConfig_spec (library : JsonLibrary) (j : Json) (before : ListenConfig) :
    ∃ after, parseListenConfig library j before = (after, false) ∧
      ListenLoaded library j before after := by
  refine Json.all_takeField ListenConfig.ip (fun _ => Json.isSome_getString) rfl fun ip isIp => ?_
  refine Json.all_takeField ListenConfig.port (fun _ => Json.isSome_getUInt16 library) rfl
    fun port isPort => ?_
  refine Json.all_takeField ListenConfig.enabled (fun _ => Json.isSome_getBoolean) rfl
    fun enabled isEnabled => ?_
  refine Json.all_takeField ListenConfig.backlog (fun _ => Json.isSome_getUInt32 library) rfl
    fun backlog isBacklog => ?_
  exact ⟨_, rfl, isIp, isPort, isEnabled, isBacklog⟩

theorem parseCertificatesConfig_spec (j : Json) (before : CertificatesConfig) :
    ∃ after, parseCertificatesConfig j before = (after, false) ∧
      CertificatesLoaded j before after := by
  refine Json.all_takeField CertificatesConfig.certPath (fun _ => Json.isSome_getString) rfl
    fun certPath isCertPath => ?_
  refine Json.all_takeField CertificatesConfig.keyPath (fun _ => Json.isSome_getString) rfl
    fun keyPath isKeyPath => ?_
  dsimp only
  refine Json.all_takeField CertificatesConfig.caPath (fun _ => Json.isSome_getString) rfl
    fun caPath isCaPath => ?_
  dsimp only
  refine Json.all_takeField CertificatesConfig.sm2CertPath (fun _ => Json.isSome_getString) rfl
    fun sm2CertPath isSm2CertPath => ?_
  dsimp only
  refine Json.all_takeField CertificatesConfig.sm2KeyPath (fun _ => Json.isSome_getString) rfl
    fun sm2KeyPath isSm2KeyPath => ?_
  dsimp only
  refine Json.all_takeField CertificatesConfig.sm2SignCertPath (fun _ => Json.isSome_getString) rfl
    fun sm2SignCertPath isSm2SignCertPath => ?_
  dsimp only
  refine Json.all_takeField CertificatesConfig.sm2SignKeyPath (fun _ => Json.isSome_getString) rfl
    fun sm2SignKeyPath isSm2SignKeyPath => ?_
  dsimp only
  refine Json.all_takeField CertificatesConfig.cipherSuite (fun _ => Json.isSome_getString) rfl
    fun cipherSuite isCipherSuite => ?_
  dsimp only
  exact ⟨_, rfl, isCertPath, isKeyPath, isCaPath, isSm2CertPath, isSm2KeyPath, isSm2SignCertPath,
    isSm2SignKeyPath, isCipherSuite⟩

theorem parseDebugPointConfig_spec (library : JsonLibrary) (j : Json) (before : DebugPointConfig) :
    ∃ after, parseDebugPointConfig library j before = (after, false) ∧
      DebugPointLoaded library j before after := by
  refine Json.all_takeField DebugPointConfig.serverPort (fun _ => Json.isSome_getUInt16 library) rfl
    fun serverPort isServerPort => ?_
  refine Json.all_takeField DebugPointConfig.pointName (fun _ => Json.isSome_getString) rfl
    fun pointName isPointName => ?_
  dsimp only
  refine Json.all_takeField DebugPointConfig.action (fun _ => Json.isSome_getString) rfl
    fun action isAction => ?_
  dsimp only
  refine Json.all_takeField DebugPointConfig.delayMs (fun _ => Json.isSome_getUInt32 library) rfl
    fun delayMs isDelayMs => ?_
  dsimp only
  refine Json.all_takeField DebugPointConfig.errorCode (fun _ => Json.isSome_getInt32 library) rfl
    fun errorCode isErrorCode => ?_
  dsimp only
  refine Json.all_takeField DebugPointConfig.probability (fun _ => Json.isSome_getUInt32 library)
    rfl fun probability isProbability => ?_
  dsimp only
  exact ⟨_, rfl, isServerPort, isPointName, isAction, isDelayMs, isErrorCode, isProbability⟩

theorem parseCallbackConfig_spec (library : JsonLibrary) (j : Json) (before : CallbackConfig) :
    ∃ after, parseCallbackConfig library j before = (after, false) ∧
      CallbackLoaded library j before after := by
  refine Json.all_takeField CallbackConfig.serverPort (fun _ => Json.isSome_getUInt16 library) rfl
    fun serverPort isServerPort => ?_
  refine Json.all_takeField CallbackConfig.scriptPath (fun _ => Json.isSome_getString) rfl
    fun scriptPath isScriptPath => ?_
  exact ⟨_, rfl, isServerPort, isScriptPath⟩

theorem refill_spec {Element : Type} {initial : Element} {parse : Json → Loader Element}
    {Loaded : Json → Element → Element → Prop}
    (spec : ∀ item before, ∃ after, parse item before = (after, false) ∧ Loaded item before after)
    (j : Json) (before : List Element) :
    ∃ after, refill initial parse j before = (after, false) ∧
      ArrayLoaded initial Loaded j before after := by
  rcases Loader.pushEach_spec (fun item => spec item initial) j.elements [] with
    ⟨loaded, pushed, areLoaded⟩
  exact ⟨loaded, pushed, areLoaded⟩

theorem parseDebugConfig_spec (library : JsonLibrary) (j : Json) (before : DebugConfig) :
    ∃ after, parseDebugConfig library j before = (after, false) ∧
      DebugLoaded library j before after := by
  refine Json.all_takeField DebugConfig.enabled (fun _ => Json.isSome_getBoolean) rfl
    fun enabled isEnabled => ?_
  refine Json.all_whenMember DebugConfig.debugPoints
    (fun found _ => refill_spec (parseDebugPointConfig_spec library) found _) rfl
    fun points arePoints => ?_
  exact ⟨_, rfl, isEnabled, arePoints⟩

theorem parseCallbacksConfig_spec (library : JsonLibrary) (j : Json) (before : CallbacksConfig) :
    ∃ after, parseCallbacksConfig library j before = (after, false) ∧
      CallbacksLoaded library j before after := by
  refine Json.all_takeField CallbacksConfig.callbacksDir (fun _ => Json.isSome_getString) rfl
    fun callbacksDir isCallbacksDir => ?_
  refine Json.all_whenMember CallbacksConfig.callbacks
    (fun found _ => refill_spec (parseCallbackConfig_spec library) found _) rfl
    fun callbacks areCallbacks => ?_
  exact ⟨_, rfl, isCallbacksDir, areCallbacks⟩

theorem parseLoggingConfig_spec (j : Json) (before : LoggingConfig) :
    ∃ after, parseLoggingConfig j before = (after, false) ∧ LoggingLoaded j before after := by
  refine Json.all_takeField LoggingConfig.level (fun _ => Json.isSome_getString) rfl
    fun level isLevel => ?_
  refine Json.all_takeField LoggingConfig.file (fun _ => Json.isSome_getString) rfl
    fun file isFile => ?_
  refine Json.all_takeField LoggingConfig.consoleOutput (fun _ => Json.isSome_getBoolean) rfl
    fun consoleOutput isConsoleOutput => ?_
  exact ⟨_, rfl, isLevel, isFile, isConsoleOutput⟩

theorem parseHttp2Config_spec (j : Json) (before : Http2Config) :
    ∃ after, parseHttp2Config j before = (after, false) ∧ Http2Loaded j before after := by
  refine Json.all_takeField Http2Config.enabled (fun _ => Json.isSome_getBoolean) rfl
    fun enabled isEnabled => ?_
  refine Json.all_takeField Http2Config.allowH2c (fun _ => Json.isSome_getBoolean) rfl
    fun allowH2c isAllowH2c => ?_
  exact ⟨_, rfl, isEnabled, isAllowH2c⟩

theorem parseCallbacksSection_spec (library : JsonLibrary) (j : Json)
    (before : CallbacksConfig × Bytes) :
    ∃ after, parseCallbacksSection library j before = (after, false) ∧
      CallbacksSectionLoaded library j before after := by
  rcases parseCallbacksConfig_spec library j before.1 with ⟨callbacks, done, loaded⟩
  refine ⟨(callbacks, callbacks.callbacksDir), ?_, loaded, rfl⟩
  rw [parseCallbacksSection, done]

theorem Config.parseSections_spec (library : JsonLibrary) (j : Json) (before : Config) :
    ∃ after, Config.parseSections library j before = (after, false) ∧
      Config.Loaded library j before after := by
  refine Json.all_whenMember Config.listens
    (fun found _ => refill_spec (parseListenConfig_spec library) found _) rfl
    fun listens areListens => ?_
  refine Json.all_whenMember Config.certificates
    (fun found _ => parseCertificatesConfig_spec found _) rfl
    fun certificates areCertificates => ?_
  refine Json.all_whenMember Config.debug (fun found _ => parseDebugConfig_spec library found _) rfl
    fun debug isDebug => ?_
  refine Json.all_whenMember (fun config : Config => (config.callbacks, config.callbacksDir))
    (fun found _ => parseCallbacksSection_spec library found _) rfl
    fun callbacks areCallbacks => ?_
  refine Json.all_whenMember Config.logging (fun found _ => parseLoggingConfig_spec found _) rfl
    fun logging isLogging => ?_
  refine Json.all_whenMember Config.http2 (fun found _ => parseHttp2Config_spec found _) rfl
    fun http2 isHttp2 => ?_
  exact ⟨_, rfl, areListens, areCertificates, isDebug, areCallbacks, isLogging, isHttp2⟩

/-! ## Loading once more -/

theorem ListenLoaded.unique {before after other : ListenConfig}
    (loaded : ListenLoaded library j before after)
    (otherLoaded : ListenLoaded library j before other) : after = other := by
  apply ListenConfig.ext
  · exact loaded.ip.unique otherLoaded.ip
  · exact loaded.port.unique otherLoaded.port
  · exact loaded.enabled.unique otherLoaded.enabled
  · exact loaded.backlog.unique otherLoaded.backlog

theorem DebugPointLoaded.unique {before after other : DebugPointConfig}
    (loaded : DebugPointLoaded library j before after)
    (otherLoaded : DebugPointLoaded library j before other) : after = other := by
  apply DebugPointConfig.ext
  · exact loaded.serverPort.unique otherLoaded.serverPort
  · exact loaded.pointName.unique otherLoaded.pointName
  · exact loaded.action.unique otherLoaded.action
  · exact loaded.delayMs.unique otherLoaded.delayMs
  · exact loaded.errorCode.unique otherLoaded.errorCode
  · exact loaded.probability.unique otherLoaded.probability

theorem CallbackLoaded.unique {before after other : CallbackConfig}
    (loaded : CallbackLoaded library j before after)
    (otherLoaded : CallbackLoaded library j before other) : after = other := by
  apply CallbackConfig.ext
  · exact loaded.serverPort.unique otherLoaded.serverPort
  · exact loaded.scriptPath.unique otherLoaded.scriptPath

/-- The elements of an array do not depend on those before. -/
theorem arrayLoaded_settles {Element : Type} {initial : Element}
    {Loaded : Json → Element → Element → Prop}
    (unique : ∀ {item after other}, Loaded item initial after → Loaded item initial other →
      after = other) : Json.Settles (ArrayLoaded initial Loaded) where
  again := id
  unique := by
    intro found before after other loaded otherLoaded
    have functional : Relator.RightUnique fun item element => Loaded item initial element := by
      intro item element another
      exact unique
    exact List.right_unique_forall₂' functional loaded otherLoaded

theorem certificatesLoaded_settles : Json.Settles CertificatesLoaded where
  again := by
    intro found before after loaded
    exact ⟨loaded.certPath.again, loaded.keyPath.again, loaded.caPath.again,
      loaded.sm2CertPath.again, loaded.sm2KeyPath.again, loaded.sm2SignCertPath.again,
      loaded.sm2SignKeyPath.again, loaded.cipherSuite.again⟩
  unique := by
    intro found before after other loaded otherLoaded
    apply CertificatesConfig.ext
    · exact loaded.certPath.unique otherLoaded.certPath
    · exact loaded.keyPath.unique otherLoaded.keyPath
    · exact loaded.caPath.unique otherLoaded.caPath
    · exact loaded.sm2CertPath.unique otherLoaded.sm2CertPath
    · exact loaded.sm2KeyPath.unique otherLoaded.sm2KeyPath
    · exact loaded.sm2SignCertPath.unique otherLoaded.sm2SignCertPath
    · exact loaded.sm2SignKeyPath.unique otherLoaded.sm2SignKeyPath
    · exact loaded.cipherSuite.unique otherLoaded.cipherSuite

theorem debugPoints_settles : Json.Settles fun j before after =>
    j.LoadsMember (ascii "debug_points") Json.isArray
      (ArrayLoaded .construct (DebugPointLoaded library)) before after :=
  (arrayLoaded_settles DebugPointLoaded.unique).member _ _

theorem debugLoaded_settles : Json.Settles (DebugLoaded library) where
  again := by
    intro found before after loaded
    exact ⟨loaded.enabled.again, debugPoints_settles.again loaded.debugPoints⟩
  unique := by
    intro found before after other loaded otherLoaded
    apply DebugConfig.ext
    · exact loaded.enabled.unique otherLoaded.enabled
    · exact debugPoints_settles.unique loaded.debugPoints otherLoaded.debugPoints

theorem callbacks_settles : Json.Settles fun j before after =>
    j.LoadsMember (ascii "callbacks") Json.isArray
      (ArrayLoaded .construct (CallbackLoaded library)) before after :=
  (arrayLoaded_settles CallbackLoaded.unique).member _ _

theorem callbacksLoaded_settles : Json.Settles (CallbacksLoaded library) where
  again := by
    intro found before after loaded
    exact ⟨loaded.callbacksDir.again, callbacks_settles.again loaded.callbacks⟩
  unique := by
    intro found before after other loaded otherLoaded
    apply CallbacksConfig.ext
    · exact loaded.callbacksDir.unique otherLoaded.callbacksDir
    · exact callbacks_settles.unique loaded.callbacks otherLoaded.callbacks

theorem callbacksSectionLoaded_settles : Json.Settles (CallbacksSectionLoaded library) where
  again := by
    intro found before after loaded
    exact ⟨callbacksLoaded_settles.again loaded.callbacks, loaded.callbacksDir⟩
  unique := by
    intro found before after other loaded otherLoaded
    have same := callbacksLoaded_settles.unique loaded.callbacks otherLoaded.callbacks
    apply Prod.ext same
    rw [loaded.callbacksDir, otherLoaded.callbacksDir, same]

theorem loggingLoaded_settles : Json.Settles LoggingLoaded where
  again := by
    intro found before after loaded
    exact ⟨loaded.level.again, loaded.file.again, loaded.consoleOutput.again⟩
  unique := by
    intro found before after other loaded otherLoaded
    apply LoggingConfig.ext
    · exact loaded.level.unique otherLoaded.level
    · exact loaded.file.unique otherLoaded.file
    · exact loaded.consoleOutput.unique otherLoaded.consoleOutput

theorem http2Loaded_settles : Json.Settles Http2Loaded where
  again := by
    intro found before after loaded
    exact ⟨loaded.enabled.again, loaded.allowH2c.again⟩
  unique := by
    intro found before after other loaded otherLoaded
    apply Http2Config.ext
    · exact loaded.enabled.unique otherLoaded.enabled
    · exact loaded.allowH2c.unique otherLoaded.allowH2c

theorem listens_settles : Json.Settles fun j before after =>
    j.LoadsMember (ascii "listens") Json.isArray
      (ArrayLoaded .construct (ListenLoaded library)) before after :=
  (arrayLoaded_settles ListenLoaded.unique).member _ _

theorem Config.loaded_settles : Json.Settles (Config.Loaded library) where
  again := by
    intro found before after loaded
    exact ⟨listens_settles.again loaded.listens,
      (certificatesLoaded_settles.member _ _).again loaded.certificates,
      (debugLoaded_settles.member _ _).again loaded.debug,
      (callbacksSectionLoaded_settles.member _ _).again loaded.callbacks,
      (loggingLoaded_settles.member _ _).again loaded.logging,
      (http2Loaded_settles.member _ _).again loaded.http2⟩
  unique := by
    intro found before after other loaded otherLoaded
    have callbacks := (callbacksSectionLoaded_settles.member _ _).unique loaded.callbacks
      otherLoaded.callbacks
    rcases Prod.mk.inj callbacks with ⟨sameCallbacks, sameDir⟩
    apply Config.ext
    · exact listens_settles.unique loaded.listens otherLoaded.listens
    · exact (certificatesLoaded_settles.member _ _).unique loaded.certificates
        otherLoaded.certificates
    · exact (debugLoaded_settles.member _ _).unique loaded.debug otherLoaded.debug
    · exact sameCallbacks
    · exact (loggingLoaded_settles.member _ _).unique loaded.logging otherLoaded.logging
    · exact (http2Loaded_settles.member _ _).unique loaded.http2 otherLoaded.http2
    · exact sameDir

theorem Config.exists_loaded_of_parse {library : JsonLibrary} {jsonStr : Bytes} {j : Json}
    (config : Config) (parsed : library.parse jsonStr = some j) :
    ∃ after, config.loadFromString library jsonStr = (0, after) ∧
      Config.Loaded library j config after := by
  rcases Config.parseSections_spec library j config with ⟨after, done, loaded⟩
  refine ⟨after, ?_, loaded⟩
  simp [Config.loadFromString, parsed, done]

theorem Config.loadFromString_of_not_parse {library : JsonLibrary} {jsonStr : Bytes}
    (config : Config) (parsed : library.parse jsonStr = none) :
    config.loadFromString library jsonStr = (-1, config) := by
  rw [loadFromString, parsed]

/-- For every configuration and every text: the load of a text that does not parse fails and leaves
the configuration as it was, and that of one that parses leaves what the text says, which loading
the text once more does not change. -/
theorem Config.loadFromString_spec (library : JsonLibrary) (jsonStr : Bytes) (config : Config) :
    (∃ after, config.loadFromString library jsonStr = (0, after) ∧
      (∃ j, library.parse jsonStr = some j ∧ Config.Loaded library j config after) ∧
        after.loadFromString library jsonStr = (0, after)) ∨
      config.loadFromString library jsonStr = (-1, config) ∧ library.parse jsonStr = none := by
  cases parsed : library.parse jsonStr with
  | none =>
      right
      exact ⟨config.loadFromString_of_not_parse parsed, rfl⟩
  | some j =>
      left
      rcases config.exists_loaded_of_parse parsed with ⟨after, done, loaded⟩
      rcases after.exists_loaded_of_parse parsed with ⟨second, doneAgain, loadedAgain⟩
      have same : second = after :=
        loaded_settles.unique loadedAgain (loaded_settles.again loaded)
      rw [same] at doneAgain
      exact ⟨after, done, ⟨j, rfl, loaded⟩, doneAgain⟩

/-- A string where an array is looked for. -/
example (library : JsonLibrary) (jsonStr : Bytes) (parsed : library.parse jsonStr =
    some (.object [(ascii "listens", .string (ascii "not an array"))])) :
    Config.construct.loadFromString library jsonStr = (0, .construct) := by
  rw [Config.loadFromString, parsed]
  rfl

end Configuration

end HttpsServerSim
