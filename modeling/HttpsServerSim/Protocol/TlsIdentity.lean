import HttpsServerSim.Config.Config
import HttpsServerSim.Protocol.TlsSetup

/-!
# What a successful set-up leaves

The steps between `SSL_CTX_new` and `SSL_new` change one new context and nothing else but the type
of the certificate and the error of the handler. Whether they succeed and what the context is then
can be told from the configuration: the identity of the server is the first pair of a certificate
and a key that is complete.
-/

namespace HttpsServerSim

/-- `ConfigConverter::convert_cert_config`: any of the four paths turns GmSSL on. -/
def ConfigConverter.convertCertConfig (src : Configuration.CertificatesConfig) : CertConfig where
  certPath := src.certPath
  keyPath := src.keyPath
  caPath := src.caPath
  sm2CertPath := src.sm2CertPath
  sm2KeyPath := src.sm2KeyPath
  sm2SignCertPath := src.sm2SignCertPath
  sm2SignKeyPath := src.sm2SignKeyPath
  useGmssl :=
    src.sm2CertPath ≠ [] || src.sm2KeyPath ≠ [] || src.sm2SignCertPath ≠ [] ||
      src.sm2SignKeyPath ≠ []

namespace TlsObjects

/-! ## What is asked for -/

/-- The pairs of a certificate and a key, in the order in which they are considered. -/
def candidates (certs : CertConfig) : List (Bytes × Bytes) :=
  if certs.useGmssl then
    [(certs.sm2SignCertPath, certs.sm2SignKeyPath), (certs.sm2CertPath, certs.sm2KeyPath),
      (certs.certPath, certs.keyPath)]
  else [(certs.certPath, certs.keyPath)]

def identity (certs : CertConfig) : Option (Bytes × Bytes) :=
  (candidates certs).find? fun pair => pair.1 ≠ [] ∧ pair.2 ≠ []

/-- Where the configuration comes from a file, the flag makes no difference to the identity. -/
theorem identity_convertCertConfig (src : Configuration.CertificatesConfig) :
    identity (ConfigConverter.convertCertConfig src) =
      [(src.sm2SignCertPath, src.sm2SignKeyPath), (src.sm2CertPath, src.sm2KeyPath),
        (src.certPath, src.keyPath)].find? fun pair => pair.1 ≠ [] ∧ pair.2 ≠ [] := by
  cases gm : (ConfigConverter.convertCertConfig src).useGmssl with
  | true =>
      simp only [identity, candidates, gm, if_true]
      rfl
  | false =>
      simp only [identity, candidates, gm, Bool.false_eq_true, if_false]
      simp only [ConfigConverter.convertCertConfig, Bool.or_eq_false_iff, decide_eq_false_iff_not,
        not_not] at gm ⊢
      rcases gm with ⟨⟨⟨enc, _⟩, sign⟩, _⟩
      simp [enc, sign]

/-- The cipher list of a configuration without GmSSL. -/
def ciphersOf (tlsConfig : TlsConfig) : Bytes :=
  if tlsConfig.cipherSuites ≠ [] then tlsConfig.cipherSuites else defaultCiphers

def gmFor (certs : CertConfig) (type : CertType) : Bool := certs.useGmssl || type = .sm2

/-- OpenSSL takes the pair, and the key belongs to the certificate. -/
def pairAccepted (env : SetupEnvironment) (pair : Bytes × Bytes) : Bool :=
  env.useCertificateChain pair.1 && (env.usePrivateKey pair.2 && env.keyMatches pair.1 pair.2)

def identityAccepted (env : SetupEnvironment) (certs : CertConfig) : Bool :=
  (identity certs).all (pairAccepted env)

def ciphersAccepted (env : SetupEnvironment) (certs : CertConfig) (tlsConfig : TlsConfig)
    (type : CertType) : Bool :=
  gmFor certs type || env.setCipherList (ciphersOf tlsConfig)

def withIdentity (pair : Option (Bytes × Bytes)) (context : SslContext) : SslContext :=
  match pair with
  | none => context
  | some (chain, key) =>
      { context with chain := some chain, key := some key, keyChecked := true }

def withCiphers (env : SetupEnvironment) (certs : CertConfig) (tlsConfig : TlsConfig)
    (type : CertType) (context : SslContext) : SslContext :=
  if gmFor certs type then
    { context with
      cipherList :=
        if env.setCipherList gmCiphers then some gmCiphers
        else if env.setCipherList singleGmCipher then some singleGmCipher
        else context.cipherList
      options := context.options ++ [.noTls13] }
  else
    { context with
      cipherList := some (ciphersOf tlsConfig)
      options := context.options ++ disabledVersions tlsConfig }

/-! ## The steps -/

section Steps

variable (handler : TlsObjects) (env : SetupEnvironment) (certs : CertConfig)
  (tlsConfig : TlsConfig) (type : CertType)

/-- The handler with a new context. -/
def opened (context : SslContext) : TlsObjects :=
  { handler with
    contexts := handler.contexts.make context
    sslCtx := some handler.contexts.made
    certType := type }

@[simp]
theorem onContext_opened (context : SslContext) (change : SslContext → SslContext) :
    (handler.opened type context).onContext change =
      some (handler.opened type (change context)) := by
  have found : (handler.contexts.make context).cells handler.contexts.made = some context := by
    simp
  simp only [onContext, opened, Option.bind_some]
  rw [Arena.modify_eq found, Arena.put_make]
  rfl

/-- From a context a step leads to the result and returns OK, if it succeeds, and to some context
with as many references and an error, if not. -/
structure Configures (step : Setup) (context : SslContext) (succeeds : Bool) (result : SslContext) :
    Prop where
  references : result.references = context.references
  success : succeeds = true →
    step (handler.opened type context) = some (.ok, handler.opened type result)
  failure : succeeds = false → ∃ broken message, broken.references = context.references ∧
    step (handler.opened type context) =
      some (.tls, (handler.opened type broken).setError .tls message)

variable {handler env certs tlsConfig type} {context middle result : SslContext}
  {step first second : Setup} {firstSucceeds secondSucceeds : Bool}

theorem Configures.andThen (start : handler.Configures type first context firstSucceeds middle)
    (later : handler.Configures type second middle secondSucceeds result) :
    handler.Configures type (andThen first second) context (firstSucceeds && secondSucceeds)
      result := by
  refine ⟨later.references.trans start.references, ?_, ?_⟩
  · intro both
    rcases Bool.and_eq_true_iff.mp both with ⟨ok, alsoOk⟩
    simp [TlsObjects.andThen, start.success ok, later.success alsoOk]
  · intro fails
    cases ok : firstSucceeds with
    | false =>
        rcases start.failure ok with ⟨broken, message, references, failed⟩
        refine ⟨broken, message, references, ?_⟩
        simp [TlsObjects.andThen, failed]
    | true =>
        rw [ok, Bool.true_and] at fails
        rcases later.failure fails with ⟨broken, message, references, failed⟩
        refine ⟨broken, message, references.trans start.references, ?_⟩
        simp [TlsObjects.andThen, start.success ok, failed]

theorem configures_tryOnContext (accepted : Bool) (change : SslContext → SslContext)
    (message : String) (references : (change context).references = context.references) :
    handler.Configures type (tryOnContext accepted change message) context accepted
      (change context) := by
  refine ⟨references, ?_, ?_⟩
  · rintro rfl
    simp [tryOnContext]
  · rintro rfl
    exact ⟨context, message, rfl, by simp [tryOnContext]⟩

/-- A step that only changes the context. -/
theorem configures_of_eq (references : result.references = context.references)
    (ran : step (handler.opened type context) = some (.ok, handler.opened type result)) :
    handler.Configures type step context true result :=
  ⟨references, fun _ => ran, fun fails => by cases fails⟩

theorem Configures.congr
    (same : step (handler.opened type context) = first (handler.opened type context))
    (configures : handler.Configures type first context firstSucceeds result) :
    handler.Configures type step context firstSucceeds result := by
  refine ⟨configures.references, ?_, ?_⟩
  · rw [same]
    exact configures.success
  · rw [same]
    exact configures.failure

theorem checkContext_opened (step : Setup) (context : SslContext) :
    checkContext step (handler.opened type context) = step (handler.opened type context) := by
  simp [checkContext, opened]

theorem Configures.check (configures : handler.Configures type step context firstSucceeds result) :
    handler.Configures type (checkContext step) context firstSucceeds result :=
  configures.congr (checkContext_opened step context)

theorem configures_usePair (chain key : Bytes) (messages : PairMessages) :
    handler.Configures type (usePair env chain key messages) context
      (pairAccepted env (chain, key)) (withIdentity (some (chain, key)) context) :=
  (configures_tryOnContext _ _ _ rfl).andThen
    ((configures_tryOnContext _ _ _ rfl).andThen (configures_tryOnContext _ _ _ rfl))

/-- The branches of `configure_certificates` find the first complete pair. -/
theorem configureCertificates_opened (handler : TlsObjects) (env : SetupEnvironment)
    (type : CertType) (context : SslContext) :
    ∃ messages, configureCertificates env (handler.opened type context) =
      match identity handler.certs with
      | none => some (.ok, handler.opened type context)
      | some (chain, key) => usePair env chain key messages (handler.opened type context) := by
  have certs_eq : (handler.opened type context).certs = handler.certs := rfl
  unfold configureCertificates
  simp only [checkContext_opened, certs_eq, identity, candidates]
  cases gm : handler.certs.useGmssl with
  | true =>
      by_cases sign : handler.certs.sm2SignCertPath ≠ [] ∧ handler.certs.sm2SignKeyPath ≠ []
      · exact ⟨signMessages, by simp [sign]⟩
      · by_cases enc : handler.certs.sm2CertPath ≠ [] ∧ handler.certs.sm2KeyPath ≠ []
        · exact ⟨encMessages, by simp [sign, enc]⟩
        · refine ⟨plainMessages, ?_⟩
          by_cases plain : handler.certs.certPath ≠ [] ∧ handler.certs.keyPath ≠ []
          · simp [sign, enc, plain]
          · simp [sign, enc, plain]
  | false =>
      refine ⟨plainMessages, ?_⟩
      by_cases plain : handler.certs.certPath ≠ [] ∧ handler.certs.keyPath ≠ []
      · simp [plain]
      · have incomplete : handler.certs.certPath = [] ∨ handler.certs.keyPath = [] := by
          tauto
        simp [plain, incomplete]

theorem configures_certificates :
    handler.Configures type (configureCertificates env) context
      (identityAccepted env handler.certs) (withIdentity (identity handler.certs) context) := by
  rcases configureCertificates_opened handler env type context with ⟨messages, branch⟩
  unfold identityAccepted
  cases chosen : identity handler.certs with
  | none =>
      rw [chosen] at branch
      exact configures_of_eq rfl branch
  | some pair =>
      rw [chosen] at branch
      exact (configures_usePair pair.1 pair.2 messages).congr branch

theorem configures_gmCiphers (gm : gmFor handler.certs type = true) :
    handler.Configures type (configureGmCiphers env) context true
      (withCiphers env handler.certs tlsConfig type context) := by
  apply configures_of_eq
  · simp [withCiphers, gm]
  · cases all : env.setCipherList gmCiphers with
    | true => simp [configureGmCiphers, setCipherList, setOptions, withCiphers, gm, all]
    | false =>
        cases single : env.setCipherList singleGmCipher <;>
          simp [configureGmCiphers, setCipherList, setOptions, withCiphers, gm, all, single]

theorem configures_ciphers (notGm : gmFor handler.certs type = false) :
    handler.Configures type (configureCiphers env tlsConfig) context
      (env.setCipherList (ciphersOf tlsConfig))
      (withCiphers env handler.certs tlsConfig type context) := by
  have versions (context : SslContext) :
      handler.Configures type
        (fun handler =>
          (handler.setOptions (disabledVersions tlsConfig)).map fun handler => (.ok, handler))
        context true
        { context with options := context.options ++ disabledVersions tlsConfig } :=
    configures_of_eq rfl (by simp [setOptions])
  have listed (message : String) :
      handler.Configures type
        (tryOnContext (env.setCipherList (ciphersOf tlsConfig))
          (fun context => { context with cipherList := some (ciphersOf tlsConfig) }) message)
        context (env.setCipherList (ciphersOf tlsConfig))
        { context with cipherList := some (ciphersOf tlsConfig) } :=
    configures_tryOnContext _ _ _ rfl
  unfold configureCiphers
  rw [← Bool.and_true (env.setCipherList (ciphersOf tlsConfig))]
  simp only [withCiphers, notGm, Bool.false_eq_true, if_false]
  by_cases chosen : tlsConfig.cipherSuites ≠ []
  · have ciphers : ciphersOf tlsConfig = tlsConfig.cipherSuites := if_pos chosen
    rw [if_pos chosen]
    have started := listed "Failed to set cipher list"
    rw [ciphers] at started ⊢
    exact started.andThen (versions _)
  · have ciphers : ciphersOf tlsConfig = defaultCiphers := if_neg chosen
    rw [if_neg chosen]
    have started := listed "Failed to set default cipher list"
    rw [ciphers] at started ⊢
    exact started.andThen (versions _)

theorem configures_cipherSuites :
    handler.Configures type (configureCipherSuites env tlsConfig) context
      (ciphersAccepted env handler.certs tlsConfig type)
      (withCiphers env handler.certs tlsConfig type context) := by
  apply Configures.check
  have usesGm_eq : (handler.opened type context).usesGm = gmFor handler.certs type := rfl
  cases gm : gmFor handler.certs type with
  | true =>
      simp only [ciphersAccepted, gm, Bool.true_or]
      apply (configures_gmCiphers gm).congr
      simp [usesGm_eq, gm]
  | false =>
      simp only [ciphersAccepted, gm, Bool.false_or]
      apply (configures_ciphers gm).congr
      simp [usesGm_eq, gm]

theorem configures_alpn :
    handler.Configures type configureAlpn context true { context with alpnCallback := true } := by
  apply Configures.check
  exact configures_of_eq rfl (by simp)

end Steps

/-! ## The whole of `init` -/

theorem andThen_assoc (first second third : Setup) :
    andThen (andThen first second) third = andThen first (andThen second third) := by
  funext handler
  unfold andThen
  cases first handler with
  | none => rfl
  | some result =>
      by_cases ok : result.1 = .ok
      · simp [ok]
      · simp [ok]

/-- Whether `init` succeeds, where the certificate is of the type. -/
def accepted (env : SetupEnvironment) (certs : CertConfig) (tlsConfig : TlsConfig)
    (type : CertType) : Bool :=
  env.contextNew && identityAccepted env certs && ciphersAccepted env certs tlsConfig type &&
    env.sslNew && env.newBioPair

/-- The context that the steps before `SSL_new` make. -/
def prepared (env : SetupEnvironment) (certs : CertConfig) (tlsConfig : TlsConfig)
    (type : CertType) : SslContext :=
  { withCiphers env certs tlsConfig type
      (withIdentity (identity certs) { options := [.all, .noCompression] }) with
    alpnCallback := true }

/-- The context of a session that is set up, which holds the other references. -/
def settled [SslReferences] (env : SetupEnvironment) (certs : CertConfig) (tlsConfig : TlsConfig)
    (type : CertType) : SslContext :=
  { prepared env certs tlsConfig type with references := 1 + SslReferences.perSession }

/-- The handler with a new session. -/
def inSession (handler : TlsObjects) (session : SslSession) : TlsObjects :=
  { handler with
    sessions := handler.sessions.make session
    ssl := some handler.sessions.made }

/-- The same with the ends of its BIO pair. -/
def wired (handler : TlsObjects) (session : SslSession) : TlsObjects :=
  { handler.inSession session with
    sslReadBio := some (handler.sessions.made, .bio1)
    sslWriteBio := some (handler.sessions.made, .bio2) }

/-- What `init` can do to a handler: the handler is the one before, but for what is named. -/
inductive InitResult [SslReferences] (handler : TlsObjects) :
    ProtocolStatus → TlsObjects → Prop where
  | noContext (message : String) :
      InitResult handler .tls ({ handler with sslCtx := none }.setError .tls message)
  | notConfigured (type : CertType) (context : SslContext) (message : String)
      (references : context.references = 1) :
      InitResult handler .tls ((handler.opened type context).setError .tls message)
  | noSession (type : CertType) (context : SslContext) (message : String)
      (references : context.references = 1) :
      InitResult handler .tls
        ({ handler.opened type context with ssl := none }.setError .tls message)
  | noBio (type : CertType) (context : SslContext) (message : String)
      (references : context.references = 1 + SslReferences.perSession) :
      InitResult handler .tls
        (((handler.opened type context).inSession
          { context := handler.contexts.made }).setError .tls message)
  | done (type : CertType) (context : SslContext)
      (references : context.references = 1 + SslReferences.perSession) :
      InitResult handler .ok
        { (handler.opened type context).wired
            { context := handler.contexts.made
              bios := some (.bio1, .bio2)
              acceptState := true } with
          initialized := true }

section Init

variable [SslReferences] {handler : TlsObjects} {env : SetupEnvironment} {tlsConfig : TlsConfig}
  {type : CertType} {context : SslContext}

/-- The steps on the context, after the type of the certificate is known. -/
def configure (env : SetupEnvironment) (tlsConfig : TlsConfig) : Setup :=
  andThen (configureCertificates env) (andThen (configureCipherSuites env tlsConfig) configureAlpn)

omit [SslReferences] in
theorem configures_configure :
    handler.Configures type (configure env tlsConfig) context
      (identityAccepted env handler.certs && ciphersAccepted env handler.certs tlsConfig type)
      { withCiphers env handler.certs tlsConfig type
          (withIdentity (identity handler.certs) context) with alpnCallback := true } := by
  rw [← Bool.and_true (ciphersAccepted env handler.certs tlsConfig type)]
  exact configures_certificates.andThen (configures_cipherSuites.andThen configures_alpn)

omit [SslReferences] in
@[simp]
theorem onSession_wired (handler : TlsObjects) (session : SslSession)
    (change : SslSession → SslSession) :
    (handler.wired session).onSession change = some (handler.wired (change session)) := by
  have found : (handler.sessions.make session).cells handler.sessions.made = some session := by
    simp
  simp only [onSession, wired, inSession, Option.bind_some]
  rw [Arena.modify_eq found, Arena.put_make]
  rfl

theorem newSession_opened (handler : TlsObjects) (type : CertType) (context : SslContext)
    (created : env.sslNew = true) :
    newSession env (handler.opened type context) =
      some (.ok, (handler.opened type
          { context with
            references := context.references + SslReferences.perSession }).inSession
        { context := handler.contexts.made }) := by
  have given : (handler.opened type context).sslCtx = some handler.contexts.made := rfl
  simp [newSession, given, created, inSession]

theorem newSession_opened_of_not (failed : env.sslNew = false) (context : SslContext) :
    newSession env (handler.opened type context) =
      some (.tls,
        { handler.opened type context with ssl := none }.setError .tls "SSL_new failed") := by
  have given : (handler.opened type context).sslCtx = some handler.contexts.made := rfl
  simp [newSession, given, failed]

omit [SslReferences] in
theorem setupBio_inSession (paired : env.newBioPair = true) (session : SslSession) :
    setupBio env (handler.inSession session) =
      some (.ok, handler.wired { session with bios := some (.bio1, .bio2) }) := by
  have pointers : setupBio env (handler.inSession session) =
      ((handler.wired session).onSession fun session =>
        { session with bios := some (.bio1, .bio2) }).map fun handler => (.ok, handler) := by
    simp [setupBio, inSession, wired, paired]
  rw [pointers, onSession_wired]
  rfl

omit [SslReferences] in
theorem setupBio_inSession_of_not (failed : env.newBioPair = false) (session : SslSession) :
    setupBio env (handler.inSession session) =
      some (.tls, (handler.inSession session).setError .tls "BIO_new_bio_pair failed") := by
  simp [setupBio, inSession, failed]

/-- The steps from `SSL_new` on. -/
theorem session_steps (env : SetupEnvironment) (references : context.references = 1) :
    ∃ status next,
      andThen (newSession env) (andThen (setupBio env) finishSetup) (handler.opened type context) =
          some (status, next) ∧
        InitResult handler status next ∧
        (status = .ok ↔ (env.sslNew && env.newBioPair) = true) ∧
          (status = .ok → next.certType = type ∧ next.contexts.cells handler.contexts.made =
            some { context with references := 1 + SslReferences.perSession }) := by
  cases created : env.sslNew with
  | false =>
      refine ⟨_, _, ?_, .noSession type context "SSL_new failed" references, ?_, ?_⟩
      · simp [andThen, newSession_opened_of_not created]
      · simp
      · simp
  | true =>
      have started := newSession_opened handler type context created
      rw [references] at started
      cases paired : env.newBioPair with
      | false =>
          refine ⟨_, _, ?_,
            .noBio type { context with references := 1 + SslReferences.perSession }
              "BIO_new_bio_pair failed" rfl, ?_, ?_⟩
          · simp [andThen, started, setupBio_inSession_of_not paired]
          · simp
          · simp
      | true =>
          refine ⟨_, _, ?_,
            .done type { context with references := 1 + SslReferences.perSession } rfl, ?_, ?_⟩
          · simp [andThen, started, setupBio_inSession paired, finishSetup]
          · simp
          · simp [opened, wired, inSession]

omit [SslReferences] in
theorem initSslContext_of_new (created : env.contextNew = true) (handler : TlsObjects) :
    initSslContext env handler =
      some (.ok, handler.opened handler.certType { options := [.all, .noCompression] }) := by
  have opens : initSslContext env handler =
      ((handler.opened handler.certType {}).setOptions [.all, .noCompression]).map
        fun handler => (.ok, handler) := by
    simp [initSslContext, created, opened]
  rw [opens, setOptions, onContext_opened]
  rfl

/-- What `init` does, and when it succeeds. -/
theorem init_spec (handler : TlsObjects) (certs : CertConfig) (tlsConfig : TlsConfig)
    (env : SetupEnvironment) :
    ∃ status next,
      init certs tlsConfig env handler = some (status, next) ∧
        InitResult (handler.adopt certs tlsConfig) status next ∧
        (status = .ok ↔
          accepted env certs tlsConfig (certTypeOf env certs handler.certType) = true) ∧
          (status = .ok → next.certType = certTypeOf env certs handler.certType ∧
            next.contexts.cells handler.contexts.made =
              some (settled env certs tlsConfig (certTypeOf env certs handler.certType))) := by
  have regroup : init certs tlsConfig env handler =
      andThen (initSslContext env)
        (andThen (loadCertificates env)
          (andThen (configure env tlsConfig)
            (andThen (newSession env) (andThen (setupBio env) finishSetup))))
        (handler.adopt certs tlsConfig) := by
    simp only [init, configure, andThen_assoc]
  rw [regroup]
  cases created : env.contextNew with
  | false =>
      refine ⟨_, _, ?_, .noContext "SSL_CTX_new failed", ?_, ?_⟩
      · simp [andThen, initSslContext, created]
      · simp [accepted, created]
      · simp
  | true =>
      have started : andThen (initSslContext env)
          (andThen (loadCertificates env)
            (andThen (configure env tlsConfig)
              (andThen (newSession env) (andThen (setupBio env) finishSetup))))
          (handler.adopt certs tlsConfig) =
            andThen (configure env tlsConfig)
              (andThen (newSession env) (andThen (setupBio env) finishSetup))
              ((handler.adopt certs tlsConfig).opened (certTypeOf env certs handler.certType)
                { options := [.all, .noCompression] }) := by
        simp only [andThen, initSslContext_of_new created, Option.bind_some, if_true]
        rfl
      have configures : (handler.adopt certs tlsConfig).Configures
          (certTypeOf env certs handler.certType) (configure env tlsConfig)
            { options := [.all, .noCompression] }
            (identityAccepted env certs &&
              ciphersAccepted env certs tlsConfig (certTypeOf env certs handler.certType))
            (prepared env certs tlsConfig (certTypeOf env certs handler.certType)) :=
        configures_configure
      rw [started]
      unfold accepted
      cases ok : identityAccepted env certs &&
          ciphersAccepted env certs tlsConfig (certTypeOf env certs handler.certType) with
      | false =>
          rcases configures.failure ok with ⟨broken, message, references, failed⟩
          refine ⟨_, _, ?_, .notConfigured (certTypeOf env certs handler.certType) broken message
            references, ?_, ?_⟩
          · simp [andThen, failed]
          · simp only [created, Bool.true_and, ok, Bool.false_and, reduceCtorEq]
          · simp
      | true =>
          rcases session_steps env configures.references with
            ⟨status, next, ran, result, succeeds, leaves⟩
          refine ⟨status, next, ?_, result, ?_, leaves⟩
          · simp only [andThen, configures.success ok, Option.bind_some, if_true]
            exact ran
          · rw [succeeds]
            simp only [created, Bool.true_and, ok]

end Init

/-! ## The handler of the plaintext -/

/-- The same handler without the configuration. -/
def plumbing (handler : TlsObjects) : TlsHandler where
  initialized := handler.initialized
  handshakeDone := handler.handshakeDone
  sslSet := handler.ssl.isSome
  bios := do
    let (_, sslReadBio) ← handler.sslReadBio
    let (_, sslWriteBio) ← handler.sslWriteBio
    let (rbio, wbio) ← (← handler.sessions.cells (← handler.ssl)).bios
    return { sslReadBio := sslReadBio, sslWriteBio := sslWriteBio, rbio := rbio, wbio := wbio }
  readBufferSet := handler.readBufferSet
  writeBufferSet := handler.writeBufferSet
  errorCode := handler.errorCode
  errorMsg := handler.errorMsg

/-- A new handler that is set up and given its buffers is ready for the handshake. -/
theorem plumbing_of_init {certs : CertConfig} {tlsConfig : TlsConfig} {env : SetupEnvironment}
    {next : TlsObjects} (ran : init certs tlsConfig env {} = some (.ok, next)) :
    plumbing { next with readBufferSet := true, writeBufferSet := true } = TlsHandler.ready := by
  rcases init_spec {} certs tlsConfig env with ⟨status, reached, same, result, _, _⟩
  rw [ran] at same
  cases same
  cases result with
  | done type context references =>
      simp [plumbing, wired, inSession, opened, adopt, TlsHandler.ready, TlsHandler.setupBio]

end TlsObjects

end HttpsServerSim
