import HttpsServerSim.Protocol.Types

/-!
# The TLS handler

`TlsHandler` as built with OpenSSL, from the end of `init` on: the two pump loops,
`read`, `write` and `continue_handshake`, and the wiring made by `setup_bio`.

OpenSSL itself is the environment. Its BIO pair is two byte queues joined crosswise:
what is written to one end is read at the other. How much a `BIO_write` or
`BIO_read` moves, what the SSL object reads from its rbio and writes to its wbio and
how its call ends, and whether `write_buffer_` takes a chunk, are inputs of a call.

`consumed`, `appended`, `obtained` and `sslWrote` are history variables: the bytes that
`pump_read_bio` took off `read_buffer_`, that `pump_write_bio` put into `write_buffer_`,
that the SSL object got from its rbio and that it wrote to its wbio.
-/

namespace HttpsServerSim

/-! ## The BIO pair -/

inductive BioEnd where
  | bio1
  | bio2
deriving DecidableEq, Repr

/-- The bytes that can be read at each end. -/
structure BioPair where
  atBio1 : Bytes := []
  atBio2 : Bytes := []
deriving DecidableEq, Repr

namespace BioPair

def readable (pair : BioPair) : BioEnd → Bytes
  | .bio1 => pair.atBio1
  | .bio2 => pair.atBio2

/-- Bytes written to an end can be read at the other. -/
def write (pair : BioPair) (bio : BioEnd) (bytes : Bytes) : BioPair :=
  match bio with
  | .bio1 => { pair with atBio2 := pair.atBio2 ++ bytes }
  | .bio2 => { pair with atBio1 := pair.atBio1 ++ bytes }

def read (pair : BioPair) (bio : BioEnd) (count : ℕ) : Bytes × BioPair :=
  match bio with
  | .bio1 => (pair.atBio1.take count, { pair with atBio1 := pair.atBio1.drop count })
  | .bio2 => (pair.atBio2.take count, { pair with atBio2 := pair.atBio2.drop count })

end BioPair

/-- The answer to a `BIO_write`: `moved extra` takes `extra + 1` bytes, if there are as many. -/
inductive BioWriteAnswer where
  | moved (extra : ℕ)
  | retry
  | fail
deriving DecidableEq, Repr

/-- The answer to a `BIO_read`, and whether `write_buffer_` has room for the bytes read. -/
inductive BioReadAnswer where
  | moved (extra : ℕ) (room : Bool)
  | retry
  | fail
deriving DecidableEq, Repr

/-! ## The SSL object -/

inductive SslAction where
  | recv (count : ℕ)
  | send (bytes : Bytes)
deriving DecidableEq, Repr

/-- The end of a call of `SSL_read`, `SSL_write` or `SSL_do_handshake`: success with the number of
plaintext bytes, `SSL_ERROR_WANT_READ` or `SSL_ERROR_WANT_WRITE`, or another error. -/
inductive SslOutcome where
  | done (count : ℕ)
  | want
  | failed
deriving DecidableEq, Repr

/-- What OpenSSL and `write_buffer_` do in a call. -/
structure TlsEnvironment where
  bioWrites : List BioWriteAnswer
  actions : List SslAction
  outcome : SslOutcome
  bioReads : List BioReadAnswer
deriving DecidableEq, Repr

/-! ## The handler -/

/-- The ends of the pair that `setup_bio` keeps for the pumps and gives to `SSL_set_bio`. -/
structure BioWiring where
  sslReadBio : BioEnd
  sslWriteBio : BioEnd
  rbio : BioEnd
  wbio : BioEnd
deriving DecidableEq, Repr

structure TlsHandler where
  initialized : Bool := false
  handshakeDone : Bool := false
  sslSet : Bool := false
  bios : Option BioWiring := none
  pair : BioPair := {}
  readBufferSet : Bool := false
  writeBufferSet : Bool := false
  readBuffer : Bytes := []
  errorCode : ProtocolStatus := .ok
  errorMsg : String := ""
  consumed : Bytes := []
  appended : Bytes := []
  obtained : Bytes := []
  sslWrote : Bytes := []
deriving DecidableEq, Repr

namespace TlsHandler

def setError (handler : TlsHandler) (code : ProtocolStatus) (msg : String) : TlsHandler :=
  { handler with errorCode := code, errorMsg := msg }

/-- `setup_bio` when `BIO_new_bio_pair` succeeds. -/
def setupBio (handler : TlsHandler) : ProtocolStatus × TlsHandler :=
  if handler.sslSet then
    let sslReadBio := BioEnd.bio1
    let sslWriteBio := BioEnd.bio2
    (.ok,
      { handler with
        pair := {}
        bios := some
          { sslReadBio := sslReadBio
            sslWriteBio := sslWriteBio
            rbio := sslReadBio
            wbio := sslWriteBio } })
  else (.invalid, handler.setError .invalid "SSL not initialized")

/-- The loop of `pump_read_bio` on the bytes not yet written: the number of bytes written from here
on. Without a further answer `BIO_write` asks for a retry. -/
def pumpReadLoop (sslReadBio : BioEnd) :
    List BioWriteAnswer → BioPair → Bytes → Except ProtocolStatus ℕ × BioPair
  | [], pair, _ => (.ok 0, pair)
  | answer :: answers, pair, rest =>
      if rest.isEmpty then (.ok 0, pair)
      else
        match answer with
        | .retry => (.ok 0, pair)
        | .fail => (.error .tls, pair)
        | .moved extra =>
            let written := min (extra + 1) rest.length
            let (result, pair) := pumpReadLoop sslReadBio answers
              (pair.write sslReadBio (rest.take written)) (rest.drop written)
            (result.map (written + ·), pair)

/-- After a hard error the bytes already written stay in `read_buffer_` as well. -/
def pumpReadBio (handler : TlsHandler) (answers : List BioWriteAnswer) :
    Except ProtocolStatus ℕ × TlsHandler :=
  match handler.bios with
  | none => (.error .invalid, handler)
  | some bios =>
      if handler.readBufferSet = false then (.error .invalid, handler)
      else if handler.readBuffer.isEmpty then (.ok 0, handler)
      else
        match pumpReadLoop bios.sslReadBio answers handler.pair handler.readBuffer with
        | (.error status, pair) =>
            (.error status, { handler with pair := pair }.setError .tls "BIO_write failed")
        | (.ok total, pair) =>
            (.ok total,
              { handler with
                pair := pair
                readBuffer := handler.readBuffer.drop total
                consumed := handler.consumed ++ handler.readBuffer.take total })

/-- A `BIO_read` into the buffer on the stack. -/
def readChunk (handler : TlsHandler) (sslWriteBio : BioEnd) (extra : ℕ) : Bytes × TlsHandler :=
  let pending := (handler.pair.readable sslWriteBio).length
  let toRead := min tempBufferSize pending
  let (bytes, pair) := handler.pair.read sslWriteBio (min (extra + 1) toRead)
  (bytes, { handler with pair := pair })

/-- A successful `write_buffer_->write`. -/
def appendChunk (handler : TlsHandler) (bytes : Bytes) : TlsHandler :=
  { handler with appended := handler.appended ++ bytes }

/-- The loop of `pump_write_bio`. Without a further answer `BIO_read` asks for a retry. -/
def pumpWriteLoop (sslWriteBio : BioEnd) :
    List BioReadAnswer → TlsHandler → Except ProtocolStatus ℕ × TlsHandler
  | [], handler => (.ok 0, handler)
  | answer :: answers, handler =>
      if (handler.pair.readable sslWriteBio).length = 0 then (.ok 0, handler)
      else
        match answer with
        | .retry => (.ok 0, handler)
        | .fail => (.error .tls, handler.setError .tls "BIO_read failed")
        | .moved extra room =>
            let (bytes, handler) := handler.readChunk sslWriteBio extra
            if room then
              let (result, handler) := pumpWriteLoop sslWriteBio answers (handler.appendChunk bytes)
              (result.map (bytes.length + ·), handler)
            else (.error .buffer, handler.setError .buffer "Write buffer full")

def pumpWriteBio (handler : TlsHandler) (answers : List BioReadAnswer) :
    Except ProtocolStatus ℕ × TlsHandler :=
  match handler.bios with
  | none => (.error .invalid, handler)
  | some bios =>
      if handler.writeBufferSet = false then (.error .invalid, handler)
      else pumpWriteLoop bios.sslWriteBio answers handler

/-- The SSL object reads from its rbio and writes to its wbio. -/
def sslAct (bios : BioWiring) (handler : TlsHandler) : SslAction → TlsHandler
  | .recv count =>
      let (bytes, pair) := handler.pair.read bios.rbio count
      { handler with pair := pair, obtained := handler.obtained ++ bytes }
  | .send bytes =>
      { handler with
        pair := handler.pair.write bios.wbio bytes
        sslWrote := handler.sslWrote ++ bytes }

def sslCall (handler : TlsHandler) (actions : List SslAction) : TlsHandler :=
  match handler.bios with
  | none => handler
  | some bios => actions.foldl (sslAct bios) handler

/-- What `read`, `write` and `continue_handshake` have in common: pump in, call OpenSSL, pump out.
The result of `pump_write_bio` is dropped. -/
def exchange (handler : TlsHandler) (env : TlsEnvironment) (failure : String) (success : Bool) :
    ProtocolStatus × ℕ × TlsHandler :=
  match handler.pumpReadBio env.bioWrites with
  | (.error status, handler) => (status, 0, handler)
  | (.ok _, handler) =>
      let handler := handler.sslCall env.actions
      match env.outcome with
      | .failed => (.tls, 0, handler.setError .tls failure)
      | .want => (.eagain, 0, (handler.pumpWriteBio env.bioReads).2)
      | .done count =>
          let handler := { handler with handshakeDone := success || handler.handshakeDone }
          (.ok, count, (handler.pumpWriteBio env.bioReads).2)

/-- `read` and `write`; the callers never pass a null `out_len`. -/
def transfer (handler : TlsHandler) (env : TlsEnvironment) (failure : String) :
    ProtocolStatus × ℕ × TlsHandler :=
  if handler.initialized = false then
    (.invalid, 0, handler.setError .invalid "TlsHandler not initialized")
  else if handler.sslSet = false ∨ handler.handshakeDone = false then
    (.invalid, 0, handler.setError .invalid "SSL not initialized or handshake not done")
  else handler.exchange env failure false

def read (handler : TlsHandler) (env : TlsEnvironment) : ProtocolStatus × ℕ × TlsHandler :=
  handler.transfer env "SSL_read failed"

def write (handler : TlsHandler) (env : TlsEnvironment) : ProtocolStatus × ℕ × TlsHandler :=
  handler.transfer env "SSL_write failed"

def continueHandshake (handler : TlsHandler) (env : TlsEnvironment) :
    ProtocolStatus × ℕ × TlsHandler :=
  if handler.initialized = false then
    (.invalid, 0, handler.setError .invalid "TlsHandler not initialized")
  else if handler.sslSet = false then
    (.invalid, 0, handler.setError .invalid "SSL not initialized")
  else handler.exchange env "SSL_do_handshake failed" true

/-- The handler after a successful `init` and the two buffer setters. -/
def ready : TlsHandler :=
  { (setupBio { sslSet := true }).2 with
    initialized := true
    readBufferSet := true
    writeBufferSet := true }

end TlsHandler

end HttpsServerSim
