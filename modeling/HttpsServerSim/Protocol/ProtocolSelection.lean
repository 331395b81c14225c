import HttpsServerSim.Protocol.Alpn
import HttpsServerSim.Protocol.Http1Handler
import HttpsServerSim.Protocol.Http2Handler

/-!
# Which protocol is spoken

A configuration decides twice. `ConfigConverter::convert_tls_config` makes the list of
names that the TLS layer chooses from, and `ProtocolHandlerFactory::create` makes the handler
that parses the bytes. The two agree on a client's offer if the handler speaks the protocol
of the chosen name, or HTTP/1.1 when no name is chosen.

With `http2.enabled` the list has `h2` in front, while the factory makes an HTTP/1.1
handler in both of its branches, so they part on exactly the offers with `h2`.
-/

namespace HttpsServerSim

universe u

/-! ## Configuration -/

/-- What `convert_tls_config` reads of `config::CertificatesConfig`. -/
structure CertificatesConfig where
  cipherSuite : Bytes := []
deriving DecidableEq, Repr

/-- What the converter and the factory read of `config::Http2Config`. -/
structure Http2Config where
  enabled : Bool
deriving DecidableEq, Repr

structure Config where
  certificates : CertificatesConfig
  http2 : Http2Config
deriving DecidableEq, Repr

def alpnHttp11 : Bytes := ascii "http/1.1"

def alpnHttp2Http11 : Bytes := ascii "h2,http/1.1"

structure TlsConfig where
  cipherSuites : Bytes := []
  alpnProtocols : Bytes := alpnHttp11
  enableTls13 : Bool := true
  enableTls12 : Bool := true
deriving DecidableEq, Repr

namespace ConfigConverter

/-- `ConfigConverter::convert_tls_config`; every field of the target is assigned. -/
def convertTlsConfig (config : Config) : TlsConfig where
  cipherSuites := config.certificates.cipherSuite
  alpnProtocols := if config.http2.enabled then alpnHttp2Http11 else alpnHttp11
  enableTls13 := true
  enableTls12 := true

end ConfigConverter

/-- `alpn_protocols_` after `TlsHandler::init` of a new TLS handler: the list of the configuration,
or that of the constructor if the former is empty. -/
def TlsConfig.serverAlpn (tlsConfig : TlsConfig) : Bytes :=
  if tlsConfig.alpnProtocols.isEmpty then ascii "h2,http/1.1" else tlsConfig.alpnProtocols

/-! ## Handlers -/

inductive ProtocolType where
  | unknown
  | http11
  | http2
deriving DecidableEq, Repr

/-- A handler behind the interface `ProtocolHandler`. -/
inductive ProtocolHandler (Tls : Type u) where
  | http1 (handler : Http1Handler Tls)
  | http2 (handler : Http2Handler Tls)

namespace ProtocolHandler

variable {Tls : Type u}

def getProtocolType : ProtocolHandler Tls → ProtocolType
  | http1 _ => .http11
  | http2 _ => .http2

end ProtocolHandler

namespace ProtocolFactory

variable {Tls : Type u}

/-- `ProtocolFactory::create_handler`; `none` is the null pointer. -/
def createHandler (tls : Tls) : ProtocolType → Option (ProtocolHandler Tls)
  | .http11 => some (.http1 (.construct tls))
  | .http2 => some (.http2 (.construct tls))
  | .unknown => none

def selectProtocolByAlpn (alpn : Bytes) : ProtocolType :=
  if alpn = ascii "h2" then .http2
  else if alpn = ascii "http/1.1" then .http11
  else .http11

/-- A handler made for the chosen name speaks its protocol. -/
theorem getProtocolType_createHandler (tls : Tls) (alpn : Bytes) :
    (createHandler tls (selectProtocolByAlpn alpn)).map ProtocolHandler.getProtocolType =
      some (selectProtocolByAlpn alpn) := by
  simp only [selectProtocolByAlpn]
  split_ifs <;> rfl

end ProtocolFactory

namespace ProtocolHandlerFactory

variable {Tls : Type u}

/-- `ProtocolHandlerFactory::create`. -/
def create (tls : Tls) (config : Config) : ProtocolHandler Tls :=
  if config.http2.enabled then .http1 (.construct tls) else .http1 (.construct tls)

theorem getProtocolType_create (tls : Tls) (config : Config) :
    (create tls config).getProtocolType = .http11 := by
  simp only [create]
  split_ifs <;> rfl

end ProtocolHandlerFactory

/-! ## Agreement -/

namespace Config

variable {Tls : Type u}

/-- The name that `AlpnSelectCallback` chooses from a client's list of names. -/
def selectedAlpn (config : Config) (offer : List Alpn.Name) : Option Bytes :=
  Alpn.selected (ConfigConverter.convertTlsConfig config).serverAlpn
    (offer.flatMap Alpn.Name.encode)

/-- The handler speaks the protocol of the chosen name, or HTTP/1.1 if there is none. -/
def HandlerAgrees (tls : Tls) (config : Config) (offer : List Alpn.Name) : Prop :=
  match config.selectedAlpn offer with
  | some name =>
      ProtocolFactory.selectProtocolByAlpn name =
        (ProtocolHandlerFactory.create tls config).getProtocolType
  | none => (ProtocolHandlerFactory.create tls config).getProtocolType = .http11

theorem serverProtocols_of_config (config : Config) :
    Alpn.serverProtocols (ConfigConverter.convertTlsConfig config).serverAlpn =
      if config.http2.enabled then [ascii "h2", ascii "http/1.1"] else [ascii "http/1.1"] := by
  have listed : (ConfigConverter.convertTlsConfig config).serverAlpn =
      if config.http2.enabled then alpnHttp2Http11 else alpnHttp11 := by
    rcases config with ⟨certificates, ⟨enabled⟩⟩
    cases enabled <;> rfl
  rw [listed]
  cases config.http2.enabled <;> decide

/-- With HTTP/2 the client's `h2` wins; otherwise at most `http/1.1` is chosen. -/
theorem selectedAlpn_eq_h2_iff (config : Config) (offer : List Alpn.Name) :
    config.selectedAlpn offer = some (ascii "h2") ↔
      config.http2.enabled = true ∧ ∃ name ∈ offer, name.bytes = ascii "h2" := by
  rw [selectedAlpn, Alpn.selected_eq_find, serverProtocols_of_config, ← Alpn.offers_flatMap]
  constructor
  · intro chosen
    refine ⟨?_, List.find?_some chosen⟩
    cases enabled : config.http2.enabled with
    | true => rfl
    | false =>
        rw [enabled] at chosen
        have listed := List.mem_of_find?_eq_some chosen
        exact absurd listed (by decide)
  · rintro ⟨enabled, offered⟩
    rw [if_pos enabled]
    exact List.find?_cons_of_pos offered

/-- Converter and factory agree unless HTTP/2 is enabled and the client offers it. -/
theorem handlerAgrees_iff (tls : Tls) (config : Config) (offer : List Alpn.Name) :
    HandlerAgrees tls config offer ↔
      ¬(config.http2.enabled = true ∧ ∃ name ∈ offer, name.bytes = ascii "h2") := by
  rw [← selectedAlpn_eq_h2_iff]
  simp only [HandlerAgrees, ProtocolHandlerFactory.getProtocolType_create]
  cases config.selectedAlpn offer with
  | none => simp
  | some name =>
      simp only [Option.some.injEq, ProtocolFactory.selectProtocolByAlpn]
      split_ifs with isH2 <;> simp [isH2]

/-- A client that offers `h2` to a server with HTTP/2 enabled. -/
theorem handlerAgrees_fails :
    ¬HandlerAgrees () ⟨{}, ⟨true⟩⟩ [⟨ascii "h2", by decide⟩] := by
  intro agrees
  have mismatch : ProtocolType.http2 = .http11 := agrees
  cases mismatch

end Config

end HttpsServerSim
