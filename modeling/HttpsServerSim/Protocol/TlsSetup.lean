import HttpsServerSim.Lib.Arena
import HttpsServerSim.Protocol.ProtocolSelection
import HttpsServerSim.Protocol.TlsHandler

/-!
# Setting up TLS

`TlsHandler::init` as built with OpenSSL: the context with its certificate, cipher suites and
options, the session with its BIO pair, and what becomes of the members of the handler on the way.
The bytes of a connection are left out here.

OpenSSL counts the references to a context. `SSL_CTX_new` gives one to its caller, each session
takes some number of them, and the context goes with the last one. A session takes its BIO pair
along. A call on an object that is not there has no result.
-/

namespace HttpsServerSim

/-! ## OpenSSL -/

inductive CertType where
  | rsa
  | ecdsa
  | sm2
deriving DecidableEq, Repr

inductive SslOption where
  | all
  | noCompression
  | noTls12
  | noTls13
deriving DecidableEq, Repr

/-- How many references to its context `SSL_new` takes, which `SSL_free` gives back. -/
class SslReferences where
  perSession : ℕ

/-- A session of OpenSSL refers to its context, and once more for the sessions to resume. -/
instance : SslReferences := ⟨2⟩

/-- `SSL_CTX`. The chain, the key and the cipher list are the last that were accepted, and
`keyChecked` says that the key was then found to match the chain. -/
structure SslContext where
  references : ℕ := 1
  options : List SslOption := []
  chain : Option Bytes := none
  key : Option Bytes := none
  keyChecked : Bool := false
  cipherList : Option Bytes := none
  alpnCallback : Bool := false
deriving DecidableEq, Repr

/-- `SSL`, with the ends of its BIO pair that it reads from and writes to. `early` says that
plaintext was read or written before the handshake was done. -/
structure SslSession where
  context : ℕ
  bios : Option (BioEnd × BioEnd) := none
  acceptState : Bool := false
  handshaken : Bool := false
  early : Bool := false
deriving DecidableEq, Repr

/-- What `load_certificates` finds at a path: nothing that can be opened, no certificate, one
without a public key, or one with a key of some type. -/
inductive CertFile where
  | unopened
  | noCertificate
  | noPublicKey
  | certificate (type : CertType)
deriving DecidableEq, Repr

/-- How OpenSSL and the file system answer during an `init`. -/
structure SetupEnvironment where
  contextNew : Bool
  certFile : Bytes → CertFile
  useCertificateChain : Bytes → Bool
  usePrivateKey : Bytes → Bool
  keyMatches : Bytes → Bytes → Bool
  setCipherList : Bytes → Bool
  sslNew : Bool
  newBioPair : Bool

/-! ## The handler -/

structure CertConfig where
  certPath : Bytes := []
  keyPath : Bytes := []
  caPath : Bytes := []
  sm2CertPath : Bytes := []
  sm2KeyPath : Bytes := []
  sm2SignCertPath : Bytes := []
  sm2SignKeyPath : Bytes := []
  useGmssl : Bool := false
deriving DecidableEq, Repr

/-- The members of a `TlsHandler`, with the paths in `certs`, and the objects that OpenSSL has made
for it. A BIO is known by the session that owns it. -/
structure TlsObjects where
  sslCtx : Option ℕ := none
  ssl : Option ℕ := none
  sslReadBio : Option (ℕ × BioEnd) := none
  sslWriteBio : Option (ℕ × BioEnd) := none
  initialized : Bool := false
  handshakeDone : Bool := false
  readBufferSet : Bool := false
  writeBufferSet : Bool := false
  certs : CertConfig := {}
  certType : CertType := .rsa
  errorCode : ProtocolStatus := .ok
  errorMsg : String := ""
  alpnProtocols : Bytes := alpnHttp2Http11
  contexts : Arena SslContext := .empty
  sessions : Arena SslSession := .empty

namespace TlsObjects

/-- A step of the set-up: the code it returns, or no result where a call is made on an object that
is not there. -/
abbrev Setup := TlsObjects → Option (ProtocolStatus × TlsObjects)

def setError (handler : TlsObjects) (code : ProtocolStatus) (msg : String) : TlsObjects :=
  { handler with errorCode := code, errorMsg := msg }

/-- `if (ret != PROTOCOL_OK) return ret;` between two steps. -/
def andThen (first second : Setup) : Setup := fun handler =>
  (first handler).bind fun (status, handler) =>
    if status = .ok then second handler else some (status, handler)

/-- A call on `ssl_ctx_` that cannot fail. -/
def onContext (change : SslContext → SslContext) (handler : TlsObjects) : Option TlsObjects :=
  handler.sslCtx.bind fun id =>
    (handler.contexts.modify id fun context => some (change context)).map fun contexts =>
      { handler with contexts := contexts }

/-- A call on `ssl_ctx_` that succeeds or fails, with the message for its failure. -/
def tryOnContext (accepted : Bool) (change : SslContext → SslContext) (message : String) :
    Setup := fun handler =>
  (handler.onContext fun context => if accepted then change context else context).map
    fun handler => if accepted then (.ok, handler) else (.tls, handler.setError .tls message)

def setOptions (options : List SslOption) : TlsObjects → Option TlsObjects :=
  onContext fun context => { context with options := context.options ++ options }

/-- The check at the start of a step. -/
def checkContext (step : Setup) : Setup := fun handler =>
  if handler.sslCtx = none then
    some (.invalid, handler.setError .invalid "SSL_CTX not initialized")
  else step handler

def initSslContext (env : SetupEnvironment) : Setup := fun handler =>
  if env.contextNew then
    let handler :=
      { handler with
        contexts := handler.contexts.make {}
        sslCtx := some handler.contexts.made }
    (handler.setOptions [.all, .noCompression]).map fun handler => (.ok, handler)
  else some (.tls, { handler with sslCtx := none }.setError .tls "SSL_CTX_new failed")

/-! ### The certificate -/

/-- The certificate whose type decides about the cipher suites with use of GmSSL. -/
def certToCheck (certs : CertConfig) : Bytes :=
  if certs.sm2SignCertPath ≠ [] then certs.sm2SignCertPath
  else if certs.sm2CertPath ≠ [] then certs.sm2CertPath
  else certs.certPath

/-- The type of certificate that `load_certificates` settles on; `previous` is the type of an
earlier one. -/
def certTypeOf (env : SetupEnvironment) (certs : CertConfig) (previous : CertType) : CertType :=
  if certs.useGmssl then
    if certToCheck certs ≠ [] then
      match env.certFile (certToCheck certs) with
      | .certificate type => type
      | .unopened | .noCertificate | .noPublicKey => .sm2
    else .sm2
  else if certs.certPath = [] ∨ certs.keyPath = [] then .rsa
  else
    match env.certFile certs.certPath with
    | .certificate type => type
    | .unopened | .noCertificate | .noPublicKey => previous

/-- No file makes it fail. -/
def loadCertificates (env : SetupEnvironment) : Setup := fun handler =>
  some (.ok, { handler with certType := certTypeOf env handler.certs handler.certType })

/-- The messages for a certificate chain, a private key, and a key that does not match. -/
structure PairMessages where
  chain : String
  key : String
  mismatch : String

/-- A chain and a key are loaded, and the key is checked. -/
def usePair (env : SetupEnvironment) (chain key : Bytes) (messages : PairMessages) : Setup :=
  andThen
    (tryOnContext (env.useCertificateChain chain)
      (fun context => { context with chain := some chain, keyChecked := false }) messages.chain)
    (andThen
      (tryOnContext (env.usePrivateKey key)
        (fun context => { context with key := some key, keyChecked := false }) messages.key)
      (tryOnContext (env.keyMatches chain key)
        (fun context => { context with keyChecked := true }) messages.mismatch))

def signMessages : PairMessages where
  chain := "Failed to load SM2 sign certificate chain"
  key := "Failed to load SM2 sign private key"
  mismatch := "SM2 sign private key does not match certificate"

def encMessages : PairMessages where
  chain := "Failed to load SM2 enc certificate chain"
  key := "Failed to load SM2 enc private key"
  mismatch := "SM2 enc private key does not match certificate"

def plainMessages : PairMessages where
  chain := "Failed to load certificate chain"
  key := "Failed to load private key"
  mismatch := "Private key does not match certificate"

def configureCertificates (env : SetupEnvironment) : Setup :=
  checkContext fun handler =>
    let certs := handler.certs
    if certs.useGmssl then
      if certs.sm2SignCertPath ≠ [] ∧ certs.sm2SignKeyPath ≠ [] then
        usePair env certs.sm2SignCertPath certs.sm2SignKeyPath signMessages handler
      else if certs.sm2CertPath ≠ [] ∧ certs.sm2KeyPath ≠ [] then
        usePair env certs.sm2CertPath certs.sm2KeyPath encMessages handler
      else if certs.certPath ≠ [] ∧ certs.keyPath ≠ [] then
        usePair env certs.certPath certs.keyPath plainMessages handler
      else some (.ok, handler)
    else if certs.certPath = [] ∨ certs.keyPath = [] then some (.ok, handler)
    else usePair env certs.certPath certs.keyPath plainMessages handler

/-! ### Cipher suites, ALPN and the session -/

def gmCiphers : Bytes :=
  ascii ("SM2-WITH-SMS4-SM3:ECDHE-SM2-WITH-SMS4-SM3:" ++
    "SM2-WITH-SMS4-GCM-SM3:ECDHE-SM2-WITH-SMS4-GCM-SM3")

def singleGmCipher : Bytes := ascii "SM2-WITH-SMS4-SM3"

def defaultCiphers : Bytes :=
  ascii ("ECDHE-ECDSA-AES128-GCM-SHA256:ECDHE-RSA-AES128-GCM-SHA256:" ++
    "ECDHE-ECDSA-AES256-GCM-SHA384:ECDHE-RSA-AES256-GCM-SHA384")

/-- `SSL_CTX_set_cipher_list`, with what is made of its answer left to the caller. -/
def setCipherList (env : SetupEnvironment) (ciphers : Bytes) :
    TlsObjects → Option TlsObjects :=
  onContext fun context =>
    if env.setCipherList ciphers then { context with cipherList := some ciphers } else context

/-- The cipher suites of GmSSL; it is no error when OpenSSL has none of them. -/
def configureGmCiphers (env : SetupEnvironment) : Setup := fun handler =>
  ((setCipherList env gmCiphers handler).bind fun handler =>
    if env.setCipherList gmCiphers then some handler
    else setCipherList env singleGmCipher handler).bind fun handler =>
      (handler.setOptions [.noTls13]).map fun handler => (.ok, handler)

/-- The versions of TLS that the configuration does not enable. -/
def disabledVersions (tlsConfig : TlsConfig) : List SslOption :=
  (if tlsConfig.enableTls12 then [] else [.noTls12]) ++
    if tlsConfig.enableTls13 then [] else [.noTls13]

def configureCiphers (env : SetupEnvironment) (tlsConfig : TlsConfig) : Setup :=
  andThen
    (if tlsConfig.cipherSuites ≠ [] then
      tryOnContext (env.setCipherList tlsConfig.cipherSuites)
        (fun context => { context with cipherList := some tlsConfig.cipherSuites })
        "Failed to set cipher list"
    else
      tryOnContext (env.setCipherList defaultCiphers)
        (fun context => { context with cipherList := some defaultCiphers })
        "Failed to set default cipher list")
    fun handler =>
      (handler.setOptions (disabledVersions tlsConfig)).map fun handler => (.ok, handler)

/-- GmSSL is used where it is configured, and for a certificate of its type. -/
def usesGm (handler : TlsObjects) : Bool := handler.certs.useGmssl || handler.certType = .sm2

def configureCipherSuites (env : SetupEnvironment) (tlsConfig : TlsConfig) : Setup :=
  checkContext fun handler =>
    if handler.usesGm then configureGmCiphers env handler
    else configureCiphers env tlsConfig handler

def configureAlpn : Setup :=
  checkContext fun handler =>
    (handler.onContext fun context => { context with alpnCallback := true }).map
      fun handler => (.ok, handler)

/-- `SSL_new`, which takes its references to the context. -/
def newSession [SslReferences] (env : SetupEnvironment) : Setup := fun handler =>
  handler.sslCtx.bind fun id =>
    if env.sslNew then
      (handler.onContext fun context =>
        { context with references := context.references + SslReferences.perSession }).map
          fun handler =>
            (.ok,
              { handler with
                sessions := handler.sessions.make { context := id }
                ssl := some handler.sessions.made })
    else
      (handler.onContext fun context => context).map fun handler =>
        (.tls, { handler with ssl := none }.setError .tls "SSL_new failed")

/-- A call on `ssl_`. -/
def onSession (change : SslSession → SslSession) (handler : TlsObjects) : Option TlsObjects :=
  handler.ssl.bind fun id =>
    (handler.sessions.modify id fun session => some (change session)).map fun sessions =>
      { handler with sessions := sessions }

/-- Both ends of the pair are given to the session, and kept for the pumps. -/
def setupBio (env : SetupEnvironment) : Setup := fun handler =>
  match handler.ssl with
  | none => some (.invalid, handler.setError .invalid "SSL not initialized")
  | some id =>
      if env.newBioPair then
        ({ handler with
          sslReadBio := some (id, .bio1)
          sslWriteBio := some (id, .bio2) }.onSession
            fun session => { session with bios := some (.bio1, .bio2) }).map
              fun handler => (.ok, handler)
      else some (.tls, handler.setError .tls "BIO_new_bio_pair failed")

/-- `SSL_set_accept_state`, and the end of `init`. -/
def finishSetup : Setup := fun handler =>
  (handler.onSession fun session => { session with acceptState := true }).map fun handler =>
    (.ok, { handler with initialized := true })

/-- The configuration is copied before anything is done with it. -/
def adopt (handler : TlsObjects) (certs : CertConfig) (tlsConfig : TlsConfig) : TlsObjects :=
  { handler with
    certs := certs
    alpnProtocols :=
      if tlsConfig.alpnProtocols ≠ [] then tlsConfig.alpnProtocols else handler.alpnProtocols }

def init [SslReferences] (certs : CertConfig) (tlsConfig : TlsConfig) (env : SetupEnvironment) :
    Setup :=
  fun handler =>
    andThen (initSslContext env)
      (andThen (loadCertificates env)
        (andThen (configureCertificates env)
          (andThen (configureCipherSuites env tlsConfig)
            (andThen configureAlpn
              (andThen (newSession env)
                (andThen (setupBio env) finishSetup))))))
      (handler.adopt certs tlsConfig)

end TlsObjects

end HttpsServerSim
