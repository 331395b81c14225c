import HttpsServerSim.Lib.Interleaving
import HttpsServerSim.Protocol.TlsIdentity

/-!
# The life of the TLS objects

All public functions of `TlsHandler` in any order, with the OpenSSL objects that they use. A session
keeps its context, and a handler frees one session and one context when it is closed. It sets its
pointers anew in `init` and does not look at them before, so an `init` of a handler that still has a
context loses it.
-/

namespace HttpsServerSim

/-! ## The calls -/

/-- `pump_read_bio` finds nothing in `read_buffer_`, or calls `BIO_write`, which fails or not. -/
inductive PumpIn where
  | empty
  | moved
  | failed
deriving DecidableEq, Repr

/-- `pump_write_bio` asks what is pending; `BIO_read` may fail, and `write_buffer_` may be full. -/
inductive PumpOut where
  | moved
  | failed
  | full
deriving DecidableEq, Repr

structure IoEnvironment where
  pumpIn : PumpIn
  outcome : SslOutcome
  pumpOut : PumpOut
deriving DecidableEq, Repr

inductive ShutdownAnswer where
  | done
  | again
  | failed
deriving DecidableEq, Repr

inductive TlsCall where
  | init (certs : CertConfig) (tlsConfig : TlsConfig) (env : SetupEnvironment)
  | read (env : IoEnvironment)
  | write (env : IoEnvironment)
  | continueHandshake (env : IoEnvironment)
  | getSelectedAlpn
  | shutdown (answers : ℕ → ShutdownAnswer × PumpOut) (last : PumpOut)
  | close
  | reset
  | setReadBuffer (given : Bool)
  | setWriteBuffer (given : Bool)

namespace TlsObjects

/-- A call on one end of a BIO pair, which its session must still own. -/
def onBio (bio : ℕ × BioEnd) (handler : TlsObjects) : Option TlsObjects :=
  (handler.sessions.cells bio.1).bind fun session => session.bios.map fun _ => handler

def pumpReadBio (answer : PumpIn) : Setup := fun handler =>
  match handler.sslReadBio with
  | none => some (.invalid, handler)
  | some bio =>
      if handler.readBufferSet = false then some (.invalid, handler)
      else
        match answer with
        | .empty => some (.ok, handler)
        | .moved => (handler.onBio bio).map fun handler => (.ok, handler)
        | .failed =>
            (handler.onBio bio).map fun handler => (.tls, handler.setError .tls "BIO_write failed")

def pumpWriteBio (answer : PumpOut) : Setup := fun handler =>
  match handler.sslWriteBio with
  | none => some (.invalid, handler)
  | some bio =>
      if handler.writeBufferSet = false then some (.invalid, handler)
      else
        (handler.onBio bio).map fun handler =>
          match answer with
          | .moved => (.ok, handler)
          | .failed => (.tls, handler.setError .tls "BIO_read failed")
          | .full => (.buffer, handler.setError .buffer "Write buffer full")

/-- `pump_write_bio`, whose result nobody looks at. -/
def flush (answer : PumpOut) (handler : TlsObjects) : Option TlsObjects :=
  (handler.pumpWriteBio answer).map Prod.snd

/-- A call on the session between the two pumps. It changes the session, and once more where it
succeeds; `finished` is for the handshake. -/
def exchange (env : IoEnvironment) (touch success : SslSession → SslSession) (finished : Bool)
    (failure : String) : Setup :=
  andThen (pumpReadBio env.pumpIn) fun handler =>
    (handler.onSession touch).bind fun handler =>
      match env.outcome with
      | .done _ =>
          ((handler.onSession success).bind fun handler =>
            { handler with handshakeDone := finished || handler.handshakeDone }.flush
              env.pumpOut).map fun handler => (.ok, handler)
      | .want => (handler.flush env.pumpOut).map fun handler => (.eagain, handler)
      | .failed => some (.tls, handler.setError .tls failure)

/-- `read` and `write`. -/
def transfer (env : IoEnvironment) (failure : String) : Setup := fun handler =>
  if handler.initialized = false then
    some (.invalid, handler.setError .invalid "TlsHandler not initialized")
  else if handler.ssl = none ∨ handler.handshakeDone = false then
    some (.invalid, handler.setError .invalid "SSL not initialized or handshake not done")
  else
    exchange env
      (fun session => { session with early := session.early || !session.handshaken })
      (fun session => session) false failure handler

def continueHandshake (env : IoEnvironment) : Setup := fun handler =>
  if handler.initialized = false then
    some (.invalid, handler.setError .invalid "TlsHandler not initialized")
  else if handler.ssl = none then
    some (.invalid, handler.setError .invalid "SSL not initialized")
  else
    exchange env (fun session => session) (fun session => { session with handshaken := true }) true
      "SSL_do_handshake failed" handler

def getSelectedAlpn (handler : TlsObjects) : Option TlsObjects :=
  if handler.ssl = none then some handler else handler.onSession fun session => session

/-- The rounds of `shutdown` that are left. -/
def shutdownLoop (answers : ℕ → ShutdownAnswer × PumpOut) : ℕ → TlsObjects → Option TlsObjects
  | 0, handler => some handler
  | left + 1, handler =>
      (handler.onSession fun session => session).bind fun handler =>
        match (answers left).1 with
        | .done | .failed => some handler
        | .again => (handler.flush (answers left).2).bind (shutdownLoop answers left)

def maxRetries : ℕ := 2

def shutdown (answers : ℕ → ShutdownAnswer × PumpOut) (last : PumpOut) (handler : TlsObjects) :
    Option TlsObjects :=
  if handler.ssl = none then some handler
  else (shutdownLoop answers maxRetries handler).bind fun handler => handler.flush last

/-- References to a context are given back; with the last one it goes. -/
def releaseContext (count id : ℕ) (handler : TlsObjects) : Option TlsObjects :=
  (handler.contexts.modify id fun context =>
    if context.references ≤ count then none
    else some { context with references := context.references - count }).map fun contexts =>
      { handler with contexts := contexts }

section Closing

variable [SslReferences]

/-- `SSL_free`, with the BIO pair and the references of the session. -/
def freeSession (id : ℕ) (handler : TlsObjects) : Option TlsObjects :=
  (handler.sessions.cells id).bind fun session =>
    (handler.releaseContext SslReferences.perSession session.context).map fun handler =>
      { handler with sessions := handler.sessions.put id none }

/-- The first half of `close`. -/
def dropSession (handler : TlsObjects) : Option TlsObjects :=
  match handler.ssl with
  | none => some handler
  | some id => (handler.freeSession id).map fun handler => { handler with ssl := none }

/-- The second half. -/
def dropContext (handler : TlsObjects) : Option TlsObjects :=
  match handler.sslCtx with
  | none => some handler
  | some id => (handler.releaseContext 1 id).map fun handler => { handler with sslCtx := none }

/-- `close`, which is also the destructor. -/
def close (handler : TlsObjects) : Option TlsObjects :=
  (handler.dropSession.bind dropContext).map fun handler =>
    { handler with
      sslReadBio := none
      sslWriteBio := none
      initialized := false
      handshakeDone := false
      errorCode := .ok
      errorMsg := "" }

end Closing

def reset (handler : TlsObjects) : TlsObjects :=
  { handler with handshakeDone := false, errorCode := .ok, errorMsg := "" }

/-- A call without its result; there is none after an access to an object that is not there. -/
def step [SslReferences] (handler : TlsObjects) : TlsCall → Option TlsObjects
  | .init certs tlsConfig env => (init certs tlsConfig env handler).map Prod.snd
  | .read env => (transfer env "SSL_read failed" handler).map Prod.snd
  | .write env => (transfer env "SSL_write failed" handler).map Prod.snd
  | .continueHandshake env => (continueHandshake env handler).map Prod.snd
  | .getSelectedAlpn => handler.getSelectedAlpn
  | .shutdown answers last => handler.shutdown answers last
  | .close => handler.close
  | .reset => some handler.reset
  | .setReadBuffer given => some { handler with readBufferSet := given }
  | .setWriteBuffer given => some { handler with writeBufferSet := given }

/-! ## What a call can do -/

/-- The pointers to objects of a session are good. -/
structure Usable (handler : TlsObjects) : Prop where
  ssl : ∀ id, handler.ssl = some id → ∃ session, handler.sessions.cells id = some session
  readBio : ∀ bio, handler.sslReadBio = some bio →
    ∃ session, handler.sessions.cells bio.1 = some session ∧ session.bios.isSome = true
  writeBio : ∀ bio, handler.sslWriteBio = some bio →
    ∃ session, handler.sessions.cells bio.1 = some session ∧ session.bios.isSome = true

/-- The handler after its session has changed. -/
def after (handler : TlsObjects) (id : ℕ) (session : SslSession) (done : Bool)
    (code : ProtocolStatus) (msg : String) : TlsObjects :=
  { handler with
    sessions := handler.sessions.put id (some session)
    handshakeDone := done
    errorCode := code
    errorMsg := msg }

section Calls

variable {handler : TlsObjects} {id : ℕ} {session : SslSession}

@[simp]
theorem setError_setError (code newCode : ProtocolStatus) (msg newMsg : String) :
    (handler.setError code msg).setError newCode newMsg = handler.setError newCode newMsg := rfl

theorem Usable.setError (usable : handler.Usable) (code : ProtocolStatus) (msg : String) :
    (handler.setError code msg).Usable :=
  ⟨usable.ssl, usable.readBio, usable.writeBio⟩

/-- A change that leaves the session its BIO pair. -/
theorem Usable.after (usable : handler.Usable) {changed : SslSession}
    (found : handler.sessions.cells id = some session) (bios : changed.bios = session.bios)
    (done : Bool) (code : ProtocolStatus) (msg : String) :
    (handler.after id changed done code msg).Usable := by
  have cells : (handler.after id changed done code msg).sessions.cells =
      Function.update handler.sessions.cells id (some changed) :=
    Arena.cells_put (Arena.lt_made found) _
  have owned (bio : ℕ × BioEnd)
      (before : ∃ session, handler.sessions.cells bio.1 = some session ∧
        session.bios.isSome = true) :
      ∃ session, (handler.after id changed done code msg).sessions.cells bio.1 = some session ∧
        session.bios.isSome = true := by
    rcases before with ⟨owner, there, isSome⟩
    rw [cells]
    by_cases here : bio.1 = id
    · rw [here, found] at there
      cases there
      rw [here, Function.update_self]
      exact ⟨changed, rfl, by rw [bios, isSome]⟩
    · rw [Function.update_of_ne here]
      exact ⟨owner, there, isSome⟩
  refine ⟨?_, fun bio given => owned bio (usable.readBio bio given),
    fun bio given => owned bio (usable.writeBio bio given)⟩
  intro other given
  rcases usable.ssl other given with ⟨there, isThere⟩
  rw [cells]
  by_cases here : other = id
  · rw [here, Function.update_self]
    exact ⟨changed, rfl⟩
  · rw [Function.update_of_ne here]
    exact ⟨there, isThere⟩

theorem onBio_eq {bio : ℕ × BioEnd}
    (good : ∃ session, handler.sessions.cells bio.1 = some session ∧ session.bios.isSome = true) :
    handler.onBio bio = some handler := by
  rcases good with ⟨session, found, isSome⟩
  rcases Option.isSome_iff_exists.mp isSome with ⟨ends, bios⟩
  simp [onBio, found, bios]

theorem pumpReadBio_spec (usable : handler.Usable) (answer : PumpIn) :
    ∃ status code msg, pumpReadBio answer handler = some (status, handler.setError code msg) := by
  have same : handler.setError handler.errorCode handler.errorMsg = handler := rfl
  unfold pumpReadBio
  cases given : handler.sslReadBio with
  | none => exact ⟨.invalid, handler.errorCode, handler.errorMsg, by rw [same]⟩
  | some bio =>
      have good := onBio_eq (usable.readBio bio given)
      simp only
      split_ifs
      · exact ⟨.invalid, handler.errorCode, handler.errorMsg, by rw [same]⟩
      · cases answer with
        | empty => exact ⟨.ok, handler.errorCode, handler.errorMsg, by rw [same]⟩
        | moved => exact ⟨.ok, handler.errorCode, handler.errorMsg, by simp [good, same]⟩
        | failed => exact ⟨.tls, .tls, "BIO_write failed", by simp [good]⟩

theorem flush_spec (usable : handler.Usable) (answer : PumpOut) :
    ∃ code msg, handler.flush answer = some (handler.setError code msg) := by
  have same : handler.setError handler.errorCode handler.errorMsg = handler := rfl
  unfold flush pumpWriteBio
  cases given : handler.sslWriteBio with
  | none => exact ⟨handler.errorCode, handler.errorMsg, by simp [same]⟩
  | some bio =>
      have good := onBio_eq (usable.writeBio bio given)
      simp only
      split_ifs
      · exact ⟨handler.errorCode, handler.errorMsg, by simp [same]⟩
      · cases answer with
        | moved => exact ⟨handler.errorCode, handler.errorMsg, by simp [good, same]⟩
        | failed => exact ⟨.tls, "BIO_read failed", by simp [good]⟩
        | full => exact ⟨.buffer, "Write buffer full", by simp [good]⟩

theorem onSession_after (given : handler.ssl = some id)
    (found : handler.sessions.cells id = some session) (done : Bool) (code : ProtocolStatus)
    (msg : String) (changed : SslSession) (change : SslSession → SslSession) :
    (handler.after id changed done code msg).onSession change =
      some (handler.after id (change changed) done code msg) := by
  have cells : (handler.sessions.put id (some changed)).cells id = some changed := by
    rw [Arena.cells_put (Arena.lt_made found), Function.update_self]
  simp [onSession, after, given, Arena.modify_eq cells]

/-- Where the session is as it is, only the error is new. -/
theorem after_self (found : handler.sessions.cells id = some session) (code : ProtocolStatus)
    (msg : String) :
    handler.after id session handler.handshakeDone code msg = handler.setError code msg := by
  unfold after setError
  rw [← found, Arena.put_cells]

theorem setError_after (changed : SslSession) (done : Bool) (code newCode : ProtocolStatus)
    (msg newMsg : String) :
    (handler.after id changed done code msg).setError newCode newMsg =
      handler.after id changed done newCode newMsg := rfl

/-- What an exchange leaves: the session as it was, touched, or touched with success. -/
theorem exchange_spec (usable : handler.Usable) (given : handler.ssl = some id)
    (found : handler.sessions.cells id = some session) (env : IoEnvironment)
    (touch success : SslSession → SslSession) (finished : Bool) (failure : String)
    (touchBios : (touch session).bios = session.bios)
    (successBios : (success (touch session)).bios = session.bios) :
    ∃ status changed done code msg,
      exchange env touch success finished failure handler =
          some (status, handler.after id changed done code msg) ∧
        (changed = session ∧ done = handler.handshakeDone ∨
          changed = touch session ∧ done = handler.handshakeDone ∨
            changed = success (touch session) ∧ done = (finished || handler.handshakeDone)) := by
  rcases pumpReadBio_spec usable env.pumpIn with ⟨status, code, msg, pumped⟩
  rw [← after_self found] at pumped
  have touched := onSession_after given found handler.handshakeDone code msg session touch
  unfold exchange andThen
  simp only [pumped, Option.bind_some, touched]
  by_cases ok : status = .ok
  · simp only [ok, if_true]
    cases env.outcome with
    | done count =>
        have succeeded := onSession_after given found handler.handshakeDone code msg
          (touch session) success
        have finishes : ∀ changed, { handler.after id changed handler.handshakeDone code msg with
            handshakeDone := finished || (handler.after id changed handler.handshakeDone code
              msg).handshakeDone } =
              handler.after id changed (finished || handler.handshakeDone) code msg :=
          fun _ => rfl
        rcases flush_spec (usable.after found successBios (finished || handler.handshakeDone) code
          msg) env.pumpOut with ⟨newCode, newMsg, flushed⟩
        refine ⟨.ok, success (touch session), _, newCode, newMsg, ?_, Or.inr (Or.inr ⟨rfl, rfl⟩)⟩
        simp only [succeeded, Option.bind_some, finishes, flushed, Option.map_some, setError_after]
    | want =>
        rcases flush_spec (usable.after found touchBios handler.handshakeDone code msg)
          env.pumpOut with ⟨newCode, newMsg, flushed⟩
        refine ⟨.eagain, touch session, _, newCode, newMsg, ?_, Or.inr (Or.inl ⟨rfl, rfl⟩)⟩
        simp only [flushed, Option.map_some, setError_after]
    | failed => exact ⟨.tls, touch session, _, .tls, failure, rfl, Or.inr (Or.inl ⟨rfl, rfl⟩)⟩
  · exact ⟨status, session, _, code, msg, by simp [ok], Or.inl ⟨rfl, rfl⟩⟩

/-- What `read`, `write`, `continue_handshake`, `get_selected_alpn` and `shutdown` can do: set the
error, and change the session that the handler has. -/
inductive IoResult (handler : TlsObjects) : TlsObjects → Prop where
  | quiet (code : ProtocolStatus) (msg : String) : IoResult handler (handler.setError code msg)
  | used {id : ℕ} {session changed : SslSession} (done : Bool) (code : ProtocolStatus)
      (msg : String) (given : handler.ssl = some id)
      (found : handler.sessions.cells id = some session)
      (context : changed.context = session.context) (bios : changed.bios = session.bios)
      (early : changed.early = session.early ∨
        handler.handshakeDone = true ∧ changed.early = (session.early || !session.handshaken))
      (handshaken : session.handshaken = true → changed.handshaken = true)
      (finished : done = true → handler.handshakeDone = true ∨ changed.handshaken = true) :
      IoResult handler (handler.after id changed done code msg)

theorem transfer_spec (usable : handler.Usable) (env : IoEnvironment) (failure : String) :
    ∃ status next, transfer env failure handler = some (status, next) ∧
      handler.IoResult next := by
  unfold transfer
  split_ifs with uninitialized closed
  · exact ⟨_, _, rfl, .quiet _ _⟩
  · exact ⟨_, _, rfl, .quiet _ _⟩
  · rcases not_or.mp closed with ⟨notNull, notPending⟩
    rcases Option.ne_none_iff_exists'.mp notNull with ⟨id, given⟩
    rcases usable.ssl id given with ⟨session, found⟩
    have done_ : handler.handshakeDone = true := by simpa using notPending
    rcases exchange_spec usable given found env
      (fun session => { session with early := session.early || !session.handshaken })
      (fun session => session) false failure rfl rfl with
      ⟨status, changed, done, code, msg, ran, cases_⟩
    refine ⟨status, _, ran, ?_⟩
    rcases cases_ with ⟨rfl, rfl⟩ | ⟨rfl, rfl⟩ | ⟨rfl, rfl⟩
    · exact .used _ _ _ given found rfl rfl (Or.inl rfl) (fun shaken => shaken)
        fun _ => Or.inl done_
    · exact .used _ _ _ given found rfl rfl (Or.inr ⟨done_, rfl⟩) (fun shaken => shaken)
        fun _ => Or.inl done_
    · exact .used _ _ _ given found rfl rfl (Or.inr ⟨done_, rfl⟩) (fun shaken => shaken)
        fun _ => Or.inl done_

theorem continueHandshake_spec (usable : handler.Usable) (env : IoEnvironment) :
    ∃ status next, continueHandshake env handler = some (status, next) ∧
      handler.IoResult next := by
  unfold continueHandshake
  split_ifs with uninitialized null
  · exact ⟨_, _, rfl, .quiet _ _⟩
  · exact ⟨_, _, rfl, .quiet _ _⟩
  · rcases Option.ne_none_iff_exists'.mp null with ⟨id, given⟩
    rcases usable.ssl id given with ⟨session, found⟩
    rcases exchange_spec usable given found env (fun session => session)
      (fun session => { session with handshaken := true }) true "SSL_do_handshake failed" rfl
      rfl with
      ⟨status, changed, done, code, msg, ran, cases_⟩
    refine ⟨status, _, ran, ?_⟩
    rcases cases_ with ⟨rfl, rfl⟩ | ⟨rfl, rfl⟩ | ⟨rfl, rfl⟩
    · exact .used _ _ _ given found rfl rfl (Or.inl rfl) (fun shaken => shaken) Or.inl
    · exact .used _ _ _ given found rfl rfl (Or.inl rfl) (fun shaken => shaken) Or.inl
    · exact .used _ _ _ given found rfl rfl (Or.inl rfl) (fun _ => rfl) fun _ => Or.inr rfl

/-- An access to the session that changes nothing. -/
theorem onSession_same (usable : handler.Usable) (given : handler.ssl = some id) :
    (handler.onSession fun session => session) = some handler := by
  rcases usable.ssl id given with ⟨session, found⟩
  simp only [onSession, given, Option.bind_some, Arena.modify_eq found, Option.map_some]
  rw [← found, Arena.put_cells, ← given]

theorem shutdownLoop_spec (usable : handler.Usable) (given : handler.ssl = some id)
    (answers : ℕ → ShutdownAnswer × PumpOut) (left : ℕ) :
    ∃ code msg, shutdownLoop answers left handler = some (handler.setError code msg) := by
  induction left generalizing handler with
  | zero => exact ⟨handler.errorCode, handler.errorMsg, rfl⟩
  | succ left ih =>
      simp only [shutdownLoop, onSession_same usable given, Option.bind_some]
      cases (answers left).1 with
      | done | failed => exact ⟨handler.errorCode, handler.errorMsg, rfl⟩
      | again =>
          rcases flush_spec usable (answers left).2 with ⟨code, msg, flushed⟩
          rcases ih (usable.setError code msg) given with ⟨newCode, newMsg, looped⟩
          exact ⟨newCode, newMsg, by simpa [flushed] using looped⟩

theorem shutdown_spec (usable : handler.Usable) (answers : ℕ → ShutdownAnswer × PumpOut)
    (last : PumpOut) :
    ∃ code msg, handler.shutdown answers last = some (handler.setError code msg) := by
  unfold shutdown
  split_ifs with null
  · exact ⟨handler.errorCode, handler.errorMsg, rfl⟩
  · rcases Option.ne_none_iff_exists'.mp null with ⟨id, given⟩
    rcases shutdownLoop_spec usable given answers maxRetries with ⟨code, msg, looped⟩
    rcases flush_spec (usable.setError code msg) last with ⟨newCode, newMsg, flushed⟩
    exact ⟨newCode, newMsg, by simpa [looped] using flushed⟩

theorem getSelectedAlpn_eq (usable : handler.Usable) :
    handler.getSelectedAlpn = some handler := by
  unfold getSelectedAlpn
  split_ifs with null
  · rfl
  · rcases Option.ne_none_iff_exists'.mp null with ⟨id, given⟩
    exact onSession_same usable given

end Calls

/-! ## Counting the references -/

/-- Every session has its context, with references of its own beside the first one, no two have
the same, and a context without a session has the first reference only. -/
structure Counted [SslReferences] (contexts : Arena SslContext) (sessions : Arena SslSession) :
    Prop where
  referenced : ∀ id session, sessions.cells id = some session →
    ∃ context, contexts.cells session.context = some context ∧
      context.references = 1 + SslReferences.perSession
  alone : ∀ id other session another, sessions.cells id = some session →
    sessions.cells other = some another → session.context = another.context → id = other
  idle : ∀ id context, contexts.cells id = some context →
    (∀ other session, sessions.cells other = some session → session.context ≠ id) →
      context.references = 1

section References

variable [SslReferences] {contexts : Arena SslContext} {sessions : Arena SslSession}
  {context : SslContext} {session changed : SslSession} {id : ℕ}

theorem counted_empty : Counted .empty .empty :=
  ⟨fun id session found => by simp at found, fun id other session another found => by simp at found,
    fun id context found => by simp at found⟩

/-- Sessions are on contexts that have been made. -/
theorem Counted.context_lt (counted : Counted contexts sessions)
    (found : sessions.cells id = some session) : session.context < contexts.made := by
  rcases counted.referenced id session found with ⟨context, there, _⟩
  exact Arena.lt_made there

theorem Counted.no_session (counted : Counted contexts sessions)
    (nothing : ∀ id, ¬contexts.Alive id) (id : ℕ) : ¬sessions.Alive id := by
  intro alive
  rcases Arena.alive_iff.mp alive with ⟨session, found⟩
  rcases counted.referenced id session found with ⟨context, there, _⟩
  exact nothing _ (Arena.alive_iff.mpr ⟨context, there⟩)

omit [SslReferences] in
theorem cells_make_of_lt {Object : Type} {arena : Arena Object} (earlier : id < arena.made)
    (object : Object) : (arena.make object).cells id = arena.cells id :=
  Function.update_of_ne (Nat.ne_of_lt earlier) ..

theorem Counted.makeContext (counted : Counted contexts sessions)
    (references : context.references = 1) : Counted (contexts.make context) sessions := by
  refine ⟨?_, counted.alone, ?_⟩
  · intro id session found
    rw [cells_make_of_lt (counted.context_lt found)]
    exact counted.referenced id session found
  · intro id other found unused
    by_cases new : id = contexts.made
    · rw [new, Arena.cells_make, Function.update_self] at found
      cases found
      exact references
    · rw [Arena.cells_make, Function.update_of_ne new] at found
      exact counted.idle id other found unused

theorem Counted.makeSession (counted : Counted contexts sessions)
    (references : context.references = 1 + SslReferences.perSession)
    (own : session.context = contexts.made) :
    Counted (contexts.make context) (sessions.make session) := by
  have cases_ {id : ℕ} {other : SslSession}
      (found : (sessions.make session).cells id = some other) :
      id = sessions.made ∧ other = session ∨ sessions.cells id = some other := by
    by_cases new : id = sessions.made
    · rw [new, Arena.cells_make, Function.update_self] at found
      cases found
      exact Or.inl ⟨new, rfl⟩
    · rw [Arena.cells_make, Function.update_of_ne new] at found
      exact Or.inr found
  refine ⟨?_, ?_, ?_⟩
  · intro id other found
    rcases cases_ found with ⟨rfl, rfl⟩ | old
    · rw [own]
      exact ⟨context, by simp, references⟩
    · rw [cells_make_of_lt (counted.context_lt old)]
      exact counted.referenced id other old
  · intro id other first second found alsoFound same
    rcases cases_ found with ⟨rfl, rfl⟩ | old
    · rcases cases_ alsoFound with ⟨rfl, rfl⟩ | alsoOld
      · rfl
      · have earlier := counted.context_lt alsoOld
        omega
    · rcases cases_ alsoFound with ⟨rfl, rfl⟩ | alsoOld
      · have earlier := counted.context_lt old
        omega
      · exact counted.alone id other first second old alsoOld same
  · intro id other found unused
    by_cases new : id = contexts.made
    · exact absurd (own.trans new.symm) (unused sessions.made session (by simp))
    · rw [Arena.cells_make, Function.update_of_ne new] at found
      apply counted.idle id other found
      intro key another there
      have earlier := Arena.lt_made there
      apply unused key another
      rw [cells_make_of_lt earlier]
      exact there

/-- A session that changes stays on its context. -/
theorem Counted.change (counted : Counted contexts sessions)
    (found : sessions.cells id = some session) (same : changed.context = session.context) :
    Counted contexts (sessions.put id (some changed)) := by
  have before {key : ℕ} {other : SslSession}
      (there : (sessions.put id (some changed)).cells key = some other) :
      ∃ old, sessions.cells key = some old ∧ old.context = other.context := by
    rw [Arena.cells_put (Arena.lt_made found)] at there
    by_cases here : key = id
    · rw [here, Function.update_self] at there
      cases there
      exact ⟨session, by rw [here, found], same.symm⟩
    · rw [Function.update_of_ne here] at there
      exact ⟨other, there, rfl⟩
  refine ⟨?_, ?_, ?_⟩
  · intro key other there
    rcases before there with ⟨old, wasThere, context_eq⟩
    rw [← context_eq]
    exact counted.referenced key old wasThere
  · intro key another first second there alsoThere equal
    rcases before there with ⟨old, wasThere, context_eq⟩
    rcases before alsoThere with ⟨alsoOld, alsoWasThere, alsoContext_eq⟩
    apply counted.alone key another old alsoOld wasThere alsoWasThere
    rw [context_eq, alsoContext_eq, equal]
  · intro key context there unused
    apply counted.idle key context there
    intro other old wasThere
    by_cases here : other = id
    · rw [here, found] at wasThere
      cases wasThere
      rw [← same]
      apply unused id changed
      rw [Arena.cells_put (Arena.lt_made found), Function.update_self]
    · apply unused other old
      rw [Arena.cells_put (Arena.lt_made found), Function.update_of_ne here]
      exact wasThere

theorem Counted.freeSession (counted : Counted contexts sessions)
    (found : sessions.cells id = some session)
    (there : contexts.cells session.context = some context) :
    Counted (contexts.put session.context (some { context with references := 1 }))
      (sessions.put id none) := by
  have left {key : ℕ} {other : SslSession} (alive : (sessions.put id none).cells key = some other) :
      key ≠ id ∧ sessions.cells key = some other := by
    rw [Arena.cells_put (Arena.lt_made found)] at alive
    by_cases here : key = id
    · rw [here, Function.update_self] at alive
      cases alive
    · rw [Function.update_of_ne here] at alive
      exact ⟨here, alive⟩
  refine ⟨?_, ?_, ?_⟩
  · intro key other alive
    rcases left alive with ⟨different, was⟩
    have elsewhere : other.context ≠ session.context := by
      intro same
      exact different (counted.alone key id other session was found same)
    rw [Arena.cells_put (Arena.lt_made there), Function.update_of_ne elsewhere]
    exact counted.referenced key other was
  · intro key another first second alive alsoAlive same
    exact counted.alone key another first second (left alive).2 (left alsoAlive).2 same
  · intro key other alive unused
    rw [Arena.cells_put (Arena.lt_made there)] at alive
    by_cases here : key = session.context
    · rw [here, Function.update_self] at alive
      cases alive
      rfl
    · rw [Function.update_of_ne here] at alive
      apply counted.idle key other alive
      intro holder another was same
      by_cases this : holder = id
      · rw [this, found] at was
        cases was
        exact here same.symm
      · apply unused holder another ?_ same
        rw [Arena.cells_put (Arena.lt_made found), Function.update_of_ne this]
        exact was

theorem Counted.freeContext (counted : Counted contexts sessions)
    (there : contexts.cells id = some context)
    (unused : ∀ key session, sessions.cells key = some session → session.context ≠ id) :
    Counted (contexts.put id none) sessions := by
  refine ⟨?_, counted.alone, ?_⟩
  · intro key session found
    rw [Arena.cells_put (Arena.lt_made there), Function.update_of_ne (unused key session found)]
    exact counted.referenced key session found
  · intro key other alive
    rw [Arena.cells_put (Arena.lt_made there)] at alive
    by_cases here : key = id
    · rw [here, Function.update_self] at alive
      cases alive
    · rw [Function.update_of_ne here] at alive
      exact counted.idle key other alive

end References

/-! ## What holds at any time -/

/-- The pointers of the handler are good, the references are counted, and a session on the context
of the handler is its session. -/
structure Sound [SslReferences] (handler : TlsObjects) : Prop where
  usable : handler.Usable
  counted : Counted handler.contexts handler.sessions
  sslCtx : ∀ id, handler.sslCtx = some id → ∃ context, handler.contexts.cells id = some context
  own : ∀ id session, handler.sessions.cells id = some session →
    handler.sslCtx = some session.context → handler.ssl = some id

/-- The handler has all contexts that there are. -/
def Clean (handler : TlsObjects) : Prop :=
  ∀ id, handler.contexts.Alive id → handler.sslCtx = some id

section Sound

variable [SslReferences] {handler next : TlsObjects}

theorem sound_construct : Sound {} := by
  refine ⟨⟨?_, ?_, ?_⟩, counted_empty, ?_, ?_⟩ <;> simp

omit [SslReferences] in
theorem clean_construct : Clean {} := by
  intro id alive
  cases alive

/-- The handler after `close`, with what is left of OpenSSL's objects. -/
def closed (handler : TlsObjects) (contexts : Arena SslContext) (sessions : Arena SslSession) :
    TlsObjects :=
  { handler with
    sslCtx := none
    ssl := none
    sslReadBio := none
    sslWriteBio := none
    initialized := false
    handshakeDone := false
    errorCode := .ok
    errorMsg := ""
    contexts := contexts
    sessions := sessions }

/-- What is left after `close`. -/
structure Closed [SslReferences] (handler next : TlsObjects) : Prop where
  sslCtx : next.sslCtx = none
  ssl : next.ssl = none
  sslReadBio : next.sslReadBio = none
  sslWriteBio : next.sslWriteBio = none
  handshakeDone : next.handshakeDone = false
  counted : Counted next.contexts next.sessions
  sessions : ∀ id session, next.sessions.cells id = some session →
    handler.sessions.cells id = some session
  contexts : ∀ id, next.contexts.Alive id ↔ handler.contexts.Alive id ∧ handler.sslCtx ≠ some id

/-- The session goes, and its context stays. -/
theorem Sound.dropSession (sound : handler.Sound) :
    ∃ contexts sessions,
      handler.dropSession =
          some { handler with ssl := none, contexts := contexts, sessions := sessions } ∧
        Counted contexts sessions ∧
        (∀ id session, sessions.cells id = some session →
          handler.sessions.cells id = some session ∧ handler.ssl ≠ some id) ∧
          ∀ id, contexts.Alive id ↔ handler.contexts.Alive id := by
  cases given : handler.ssl with
  | none =>
      refine ⟨handler.contexts, handler.sessions, ?_, sound.counted, ?_, fun _ => Iff.rfl⟩
      · have same : { handler with ssl := none } = handler := by
          rw [← given]
        simp only [TlsObjects.dropSession, given]
        exact congrArg some same.symm
      · intro id session found
        exact ⟨found, by simp⟩
  | some id =>
      rcases sound.usable.ssl id given with ⟨session, found⟩
      rcases sound.counted.referenced id session found with ⟨context, there, two⟩
      refine ⟨_, _, ?_, sound.counted.freeSession found there, ?_, ?_⟩
      · simp [TlsObjects.dropSession, given, freeSession, found, releaseContext,
          Arena.modify_eq there, two]
      · intro other another alive
        rw [Arena.cells_put (Arena.lt_made found)] at alive
        by_cases here : other = id
        · rw [here, Function.update_self] at alive
          cases alive
        · rw [Function.update_of_ne here] at alive
          refine ⟨alive, ?_⟩
          rintro ⟨⟩
          exact here rfl
      · intro other
        exact Arena.alive_put_some there _

theorem Sound.close (sound : handler.Sound) :
    ∃ next, handler.close = some next ∧ Closed handler next := by
  rcases sound.dropSession with ⟨contexts, sessions, dropped, counted, left, alive⟩
  cases given : handler.sslCtx with
  | none =>
      refine ⟨handler.closed contexts sessions, ?_, rfl, rfl, rfl, rfl, rfl, counted,
        fun id session found => (left id session found).1, ?_⟩
      · simp [TlsObjects.close, dropped, dropContext, given, closed]
      · intro id
        rw [given]
        exact (alive id).trans (by simp)
  | some id =>
      have unused : ∀ key session, sessions.cells key = some session → session.context ≠ id := by
        intro key session found same
        rcases left key session found with ⟨was, other⟩
        apply other
        apply sound.own key session was
        rw [given, same]
      have there : ∃ context, contexts.cells id = some context := by
        rcases sound.sslCtx id given with ⟨context, was⟩
        apply Arena.alive_iff.mp
        rw [alive id]
        exact Arena.alive_iff.mpr ⟨context, was⟩
      rcases there with ⟨context, found⟩
      have last := counted.idle id context found unused
      refine ⟨handler.closed (contexts.put id none) sessions, ?_, rfl, rfl, rfl, rfl, rfl,
        counted.freeContext found unused, fun id session found => (left id session found).1, ?_⟩
      · simp [TlsObjects.close, dropped, dropContext, given, releaseContext,
          Arena.modify_eq found, last, closed]
      · intro other
        rw [given, Ne, Option.some.injEq]
        exact (Arena.alive_put_none found).trans (and_congr_left fun _ => alive other)

theorem Closed.sound (closes : Closed handler next) : next.Sound := by
  refine ⟨⟨?_, ?_, ?_⟩, closes.counted, ?_, ?_⟩
  · simp [closes.ssl]
  · simp [closes.sslReadBio]
  · simp [closes.sslWriteBio]
  · simp [closes.sslCtx]
  · simp [closes.sslCtx]

/-- A context that the handler did not have stays. -/
theorem Closed.clean_iff (closes : Closed handler next) : next.Clean ↔ handler.Clean := by
  unfold Clean
  simp only [closes.contexts, closes.sslCtx, reduceCtorEq, imp_false, not_and, not_not]

theorem IoResult.sound (result : handler.IoResult next) (sound : handler.Sound) : next.Sound := by
  cases result with
  | quiet code msg => exact ⟨sound.usable.setError code msg, sound.counted, sound.sslCtx, sound.own⟩
  | @used id old changed done code msg given found context bios early handshaken finished =>
      refine ⟨sound.usable.after found bios done code msg, sound.counted.change found context,
        sound.sslCtx, ?_⟩
      intro other session there owned
      by_cases here : other = id
      · rw [here]
        exact given
      · apply sound.own other session ?_ owned
        have cells := congrFun (Arena.cells_put (Arena.lt_made found) (some changed)) other
        rw [Function.update_of_ne here] at cells
        rw [← cells]
        exact there

omit [SslReferences] in
theorem IoResult.clean_iff (result : handler.IoResult next) : next.Clean ↔ handler.Clean := by
  cases result <;> exact Iff.rfl

section Init

variable {status : ProtocolStatus}

omit [SslReferences] in
/-- A new session has good pointers, whatever the handler had. -/
theorem Usable.inSession (usable : handler.Usable) (session : SslSession) :
    (handler.inSession session).Usable := by
  have kept {bio : ℕ × BioEnd}
      (good : ∃ session, handler.sessions.cells bio.1 = some session ∧ session.bios.isSome = true) :
      ∃ owner, (handler.inSession session).sessions.cells bio.1 = some owner ∧
        owner.bios.isSome = true := by
    rcases good with ⟨owner, there, isSome⟩
    refine ⟨owner, ?_, isSome⟩
    rw [← there]
    exact cells_make_of_lt (Arena.lt_made there) session
  refine ⟨?_, fun bio given => kept (usable.readBio bio given),
    fun bio given => kept (usable.writeBio bio given)⟩
  intro id given
  cases given
  exact ⟨session, by simp [TlsObjects.inSession]⟩

omit [SslReferences] in
theorem Usable.wired (usable : handler.Usable) (session : SslSession)
    (isSome : session.bios.isSome = true) : (handler.wired session).Usable := by
  have new : (handler.wired session).sessions.cells handler.sessions.made = some session := by
    simp [TlsObjects.wired, TlsObjects.inSession]
  refine ⟨(usable.inSession session).ssl, ?_, ?_⟩
  · rintro bio ⟨⟩
    exact ⟨session, new, isSome⟩
  · rintro bio ⟨⟩
    exact ⟨session, new, isSome⟩

omit [SslReferences] in
theorem Usable.opened (usable : handler.Usable) (type : CertType) (context : SslContext) :
    (handler.opened type context).Usable :=
  ⟨usable.ssl, usable.readBio, usable.writeBio⟩

theorem InitResult.sound (result : handler.InitResult status next) (sound : handler.Sound) :
    next.Sound := by
  -- sessions that were there are not on the new context
  have notOnNew {id : ℕ} {session : SslSession}
      (found : handler.sessions.cells id = some session) :
      some handler.contexts.made ≠ some session.context := by
    have earlier := sound.counted.context_lt found
    simp only [ne_eq, Option.some.injEq]
    omega
  have newContext (context : SslContext) : ∀ id, some handler.contexts.made = some id →
      ∃ there, (handler.contexts.make context).cells id = some there := by
    rintro id ⟨⟩
    exact ⟨context, by simp⟩
  have newOwn (session : SslSession) : ∀ id other,
      (handler.sessions.make session).cells id = some other →
        some handler.contexts.made = some other.context → some handler.sessions.made = some id := by
    intro id other found own
    by_cases new : id = handler.sessions.made
    · rw [new]
    · rw [Arena.cells_make, Function.update_of_ne new] at found
      exact absurd own (notOnNew found)
  cases result with
  | noContext message =>
      refine ⟨⟨sound.usable.ssl, sound.usable.readBio, sound.usable.writeBio⟩, sound.counted,
        ?_, ?_⟩
      · rintro id ⟨⟩
      · rintro id session found ⟨⟩
  | notConfigured type context message references =>
      refine ⟨(sound.usable.opened type context).setError _ _,
        sound.counted.makeContext references, newContext context, ?_⟩
      intro id session found own
      exact absurd own (notOnNew found)
  | noSession type context message references =>
      refine ⟨⟨?_, sound.usable.readBio, sound.usable.writeBio⟩,
        sound.counted.makeContext references, newContext context, ?_⟩
      · rintro id ⟨⟩
      · intro id session found own
        exact absurd own (notOnNew found)
  | noBio type context message references =>
      exact ⟨((sound.usable.opened type context).inSession _).setError _ _,
        sound.counted.makeSession references rfl, newContext context, newOwn _⟩
  | done type context references =>
      have usable := (sound.usable.opened type context).wired
        { context := handler.contexts.made, bios := some (.bio1, .bio2), acceptState := true } rfl
      exact ⟨⟨usable.ssl, usable.readBio, usable.writeBio⟩,
        sound.counted.makeSession references rfl, newContext context, newOwn _⟩

theorem Sound.nothing_iff (sound : handler.Sound) :
    (∀ id, ¬handler.contexts.Alive id) ↔ handler.Clean ∧ handler.sslCtx = none := by
  refine ⟨?_, ?_⟩
  · intro nothing
    refine ⟨fun id alive => absurd alive (nothing id), ?_⟩
    by_contra given
    rcases Option.ne_none_iff_exists'.mp given with ⟨id, isContext⟩
    exact nothing id (Arena.alive_iff.mpr (sound.sslCtx id isContext))
  · rintro ⟨clean, null⟩ id alive
    have has := clean id alive
    rw [null] at has
    cases has

/-- A handler that had a context has lost it, and one that had none has all if it had all. -/
theorem InitResult.clean_iff (result : handler.InitResult status next) (sound : handler.Sound) :
    next.Clean ↔ handler.Clean ∧ handler.sslCtx = none := by
  rw [← sound.nothing_iff]
  have made (context : SslContext) :
      (∀ id, (handler.contexts.make context).Alive id → some handler.contexts.made = some id) ↔
        ∀ id, ¬handler.contexts.Alive id := by
    refine ⟨?_, ?_⟩
    · intro all id alive
      have new := all id ((Arena.alive_make _ _).mpr (Or.inr alive))
      cases new
      rcases Arena.alive_iff.mp alive with ⟨context, found⟩
      exact Nat.lt_irrefl _ (Arena.lt_made found)
    · intro nothing id alive
      rcases (Arena.alive_make _ _).mp alive with rfl | old
      · rfl
      · exact absurd old (nothing id)
  cases result with
  | noContext message =>
      apply forall_congr'
      intro id
      simp [setError]
  | notConfigured type context | noSession type context | noBio type context
  | done type context => exact made context

end Init

theorem Sound.adopt (sound : handler.Sound) (certs : CertConfig) (tlsConfig : TlsConfig) :
    (handler.adopt certs tlsConfig).Sound :=
  ⟨⟨sound.usable.ssl, sound.usable.readBio, sound.usable.writeBio⟩, sound.counted, sound.sslCtx,
    sound.own⟩

end Sound

/-! ## Runs -/

def IsInit : TlsCall → Prop
  | .init _ _ _ => True
  | _ => False

instance : DecidablePred IsInit
  | .init _ _ _ => isTrue trivial
  | .read _ | .write _ | .continueHandshake _ | .getSelectedAlpn | .shutdown _ _ | .close | .reset
  | .setReadBuffer _ | .setWriteBuffer _ => isFalse id

/-- What a call does. -/
inductive StepResult [SslReferences] (handler : TlsObjects) : TlsCall → TlsObjects → Prop where
  | init {certs : CertConfig} {tlsConfig : TlsConfig} {env : SetupEnvironment}
      {status : ProtocolStatus} {next : TlsObjects}
      (result : (handler.adopt certs tlsConfig).InitResult status next) :
      StepResult handler (.init certs tlsConfig env) next
  | io {call : TlsCall} {next : TlsObjects} (notInit : ¬IsInit call)
      (result : handler.IoResult next) : StepResult handler call next
  | close {next : TlsObjects} (closes : handler.Closed next) : StepResult handler .close next
  | reset : StepResult handler .reset handler.reset
  | setReadBuffer (given : Bool) :
      StepResult handler (.setReadBuffer given) { handler with readBufferSet := given }
  | setWriteBuffer (given : Bool) :
      StepResult handler (.setWriteBuffer given) { handler with writeBufferSet := given }

section Runs

variable [SslReferences] {handler next : TlsObjects} {call : TlsCall}

/-- No call touches an object that is not there. -/
theorem Sound.step_result (sound : handler.Sound) (call : TlsCall) :
    ∃ next, handler.step call = some next ∧ StepResult handler call next := by
  cases call with
  | init certs tlsConfig env =>
      rcases init_spec handler certs tlsConfig env with ⟨status, next, ran, result, _, _⟩
      exact ⟨next, by simp [step, ran], .init result⟩
  | read env =>
      rcases transfer_spec sound.usable env "SSL_read failed" with ⟨status, next, ran, result⟩
      exact ⟨next, by simp [step, ran], .io (fun isInit => isInit) result⟩
  | write env =>
      rcases transfer_spec sound.usable env "SSL_write failed" with ⟨status, next, ran, result⟩
      exact ⟨next, by simp [step, ran], .io (fun isInit => isInit) result⟩
  | continueHandshake env =>
      rcases continueHandshake_spec sound.usable env with ⟨status, next, ran, result⟩
      exact ⟨next, by simp [step, ran], .io (fun isInit => isInit) result⟩
  | getSelectedAlpn =>
      exact ⟨handler, getSelectedAlpn_eq sound.usable, .io (fun isInit => isInit)
        (.quiet handler.errorCode handler.errorMsg)⟩
  | shutdown answers last =>
      rcases shutdown_spec sound.usable answers last with ⟨code, msg, ran⟩
      exact ⟨_, ran, .io (fun isInit => isInit) (.quiet code msg)⟩
  | close =>
      rcases sound.close with ⟨next, ran, closes⟩
      exact ⟨next, ran, .close closes⟩
  | reset => exact ⟨_, rfl, .reset⟩
  | setReadBuffer given => exact ⟨_, rfl, .setReadBuffer given⟩
  | setWriteBuffer given => exact ⟨_, rfl, .setWriteBuffer given⟩

theorem StepResult.sound (result : StepResult handler call next) (sound : handler.Sound) :
    next.Sound := by
  cases result with
  | init result => exact result.sound (sound.adopt _ _)
  | io notInit result => exact result.sound sound
  | close closes => exact closes.sound
  | reset | setReadBuffer | setWriteBuffer =>
      exact ⟨⟨sound.usable.ssl, sound.usable.readBio, sound.usable.writeBio⟩, sound.counted,
        sound.sslCtx, sound.own⟩

/-- Only an `init` of a handler with a context loses one. -/
theorem StepResult.clean_iff (result : StepResult handler call next) (sound : handler.Sound) :
    next.Clean ↔ handler.Clean ∧ (IsInit call → handler.sslCtx = none) := by
  cases result with
  | init result =>
      rw [result.clean_iff (sound.adopt _ _)]
      simp only [IsInit, forall_const]
      exact Iff.rfl
  | io notInit result =>
      rw [result.clean_iff]
      simp [notInit]
  | close closes =>
      rw [closes.clean_iff]
      simp [IsInit]
  | reset | setReadBuffer | setWriteBuffer => simp [IsInit, Clean, TlsObjects.reset]

theorem run_result (sound : handler.Sound) (calls : List TlsCall) :
    ∃ final, Interleaving.run step handler calls = some final ∧ final.Sound ∧
      (final.Clean ↔ handler.Clean ∧ Interleaving.Along step
        (fun handler call => IsInit call → handler.sslCtx = none) handler calls) := by
  induction calls generalizing handler with
  | nil => exact ⟨handler, rfl, sound, by simp [Interleaving.Along]⟩
  | cons call calls ih =>
      rcases sound.step_result call with ⟨next, stepped, result⟩
      rcases ih (result.sound sound) with ⟨final, ran, finalSound, clean⟩
      refine ⟨final, Interleaving.run_cons_eq_some_iff.mpr ⟨next, stepped, ran⟩, finalSound, ?_⟩
      rw [clean, result.clean_iff sound, Interleaving.along_cons_of_step stepped, and_assoc]

/-- In any sequence of calls no object is touched that is not there, none is freed twice, and when
the handler is destroyed all are gone if and only if every `init` found the handler without a
context, as a new or a closed one is. -/
theorem all_freed_iff (calls : List TlsCall) :
    ∃ final destroyed,
      Interleaving.run step {} calls = some final ∧ final.close = some destroyed ∧
        ((∀ id, ¬destroyed.contexts.Alive id ∧ ¬destroyed.sessions.Alive id) ↔
          Interleaving.Along step (fun handler call => IsInit call → handler.sslCtx = none)
            {} calls) := by
  rcases run_result sound_construct calls with ⟨final, ran, sound, clean⟩
  rcases sound.close with ⟨destroyed, closed, closes⟩
  refine ⟨final, destroyed, ran, closed, ?_⟩
  have nothing : (∀ id, ¬destroyed.contexts.Alive id) ↔ final.Clean := by
    rw [closes.sound.nothing_iff, closes.clean_iff]
    simp [closes.sslCtx]
  rw [← (and_iff_right clean_construct : _ ↔ Interleaving.Along step _ {} calls), ← clean,
    ← nothing]
  exact ⟨fun all id => (all id).1, fun none_ id =>
    ⟨none_ id, closes.counted.no_session none_ id⟩⟩

/-! ## Plaintext and the handshake -/

/-- No session has had plaintext early, and the handler takes a handshake for done only where it
is. -/
structure Gated (handler : TlsObjects) : Prop where
  onTime : ∀ id session, handler.sessions.cells id = some session → session.early = false
  done : handler.handshakeDone = true → ∃ id session, handler.ssl = some id ∧
    handler.sessions.cells id = some session ∧ session.handshaken = true

omit [SslReferences] in
theorem IoResult.gated (result : handler.IoResult next) (gated : handler.Gated) : next.Gated := by
  cases result with
  | quiet code msg => exact ⟨gated.onTime, gated.done⟩
  | @used id old changed done code msg given found context bios early handshaken finished =>
      have cells : (handler.after id changed done code msg).sessions.cells =
          Function.update handler.sessions.cells id (some changed) :=
        Arena.cells_put (Arena.lt_made found) _
      have shaken (isDone : handler.handshakeDone = true) : old.handshaken = true := by
        rcases gated.done isDone with ⟨other, session, alsoGiven, alsoFound, isShaken⟩
        rw [given] at alsoGiven
        cases alsoGiven
        rw [found] at alsoFound
        cases alsoFound
        exact isShaken
      have onTime : changed.early = false := by
        rcases early with same | ⟨isDone, touched⟩
        · rw [same]
          exact gated.onTime id old found
        · rw [touched, gated.onTime id old found, shaken isDone]
          rfl
      refine ⟨?_, ?_⟩
      · intro other session there
        rw [cells] at there
        by_cases here : other = id
        · rw [here, Function.update_self] at there
          cases there
          exact onTime
        · rw [Function.update_of_ne here] at there
          exact gated.onTime other session there
      · intro isDone
        refine ⟨id, changed, given, by rw [cells, Function.update_self], ?_⟩
        rcases finished isDone with before | now
        · exact handshaken (shaken before)
        · exact now

omit [SslReferences] in
/-- Where there is nothing of OpenSSL's, no handshake is taken for done. -/
theorem Gated.not_done (gated : handler.Gated) (nothing : ∀ id, ¬handler.sessions.Alive id) :
    handler.handshakeDone = false := by
  cases done : handler.handshakeDone with
  | false => rfl
  | true =>
      rcases gated.done done with ⟨id, session, _, found, _⟩
      exact absurd (Arena.alive_iff.mpr ⟨session, found⟩) (nothing id)

theorem InitResult.gated {status : ProtocolStatus} (result : handler.InitResult status next)
    (gated : handler.Gated) (nothing : ∀ id, ¬handler.sessions.Alive id) : next.Gated := by
  have notDone := gated.not_done nothing
  have onTime (session : SslSession) (early : session.early = false) : ∀ id other,
      (handler.sessions.make session).cells id = some other → other.early = false := by
    intro id other found
    by_cases new : id = handler.sessions.made
    · rw [new, Arena.cells_make, Function.update_self] at found
      cases found
      exact early
    · rw [Arena.cells_make, Function.update_of_ne new] at found
      exact gated.onTime id other found
  have done (other : TlsObjects) (same : other.handshakeDone = handler.handshakeDone) :
      other.handshakeDone = true → ∃ id session, other.ssl = some id ∧
        other.sessions.cells id = some session ∧ session.handshaken = true := by
    intro isDone
    rw [same, notDone] at isDone
    cases isDone
  cases result with
  | noContext | notConfigured | noSession => exact ⟨gated.onTime, done _ rfl⟩
  | noBio | done => exact ⟨onTime _ rfl, done _ rfl⟩

theorem StepResult.gated (result : StepResult handler call next) (sound : handler.Sound)
    (clean : handler.Clean) (gated : handler.Gated)
    (fresh : IsInit call → handler.sslCtx = none) : next.Gated := by
  cases result with
  | init result =>
      have nothing := sound.nothing_iff.mpr ⟨clean, fresh trivial⟩
      exact result.gated ⟨gated.onTime, gated.done⟩ (sound.counted.no_session nothing)
  | io notInit result => exact result.gated gated
  | close closes =>
      refine ⟨?_, ?_⟩
      · intro id session found
        exact gated.onTime id session (closes.sessions id session found)
      · simp [closes.handshakeDone]
  | reset => exact ⟨gated.onTime, by simp [TlsObjects.reset]⟩
  | setReadBuffer | setWriteBuffer => exact ⟨gated.onTime, gated.done⟩

/-- As long as `init` is called for new and closed handlers only, no plaintext is read from a
session or written to it before the handshake on this session is done. -/
theorem no_early_plaintext (calls : List TlsCall) (final : TlsObjects)
    (ran : Interleaving.run step {} calls = some final)
    (fresh : Interleaving.Along step (fun handler call => IsInit call → handler.sslCtx = none)
      {} calls) :
    ∀ id session, final.sessions.cells id = some session → session.early = false := by
  have kept {handler next : TlsObjects} {call : TlsCall}
      (holds : handler.Sound ∧ handler.Clean ∧ handler.Gated)
      (fresh : IsInit call → handler.sslCtx = none) (stepped : handler.step call = some next) :
      next.Sound ∧ next.Clean ∧ next.Gated := by
    rcases holds with ⟨sound, clean, gated⟩
    rcases sound.step_result call with ⟨reached, same, result⟩
    rw [stepped] at same
    cases same
    exact ⟨result.sound sound, (result.clean_iff sound).mpr ⟨clean, fresh⟩,
      result.gated sound clean gated fresh⟩
  have initially : Gated {} :=
    ⟨fun id session found => by simp at found, fun isDone => by cases isDone⟩
  exact (Interleaving.invariant_along kept ⟨sound_construct, clean_construct, initially⟩ fresh
    ran).2.2.onTime

end Runs

/-- An OpenSSL that accepts everything. -/
def willing : SetupEnvironment where
  contextNew := true
  certFile := fun _ => .unopened
  useCertificateChain := fun _ => true
  usePrivateKey := fun _ => true
  keyMatches := fun _ _ => true
  setCipherList := fun _ => true
  sslNew := true
  newBioPair := true

/-- A session that is read from too soon, then after its handshake, and another one after it. -/
def twoSessions : List TlsCall :=
  [.init {} {} willing, .setReadBuffer true, .setWriteBuffer true, .read ⟨.moved, .done 5, .moved⟩,
    .continueHandshake ⟨.moved, .want, .moved⟩, .continueHandshake ⟨.moved, .done 0, .moved⟩,
    .read ⟨.moved, .done 5, .moved⟩, .write ⟨.empty, .done 5, .full⟩, .close, .init {} {} willing,
    .write ⟨.empty, .done 5, .moved⟩]

theorem no_early_plaintext_twoSessions :
    ∃ final, Interleaving.run step {} twoSessions = some final ∧
      ∀ id session, final.sessions.cells id = some session → session.early = false := by
  rcases run_result sound_construct twoSessions with ⟨final, ran, _⟩
  exact ⟨final, ran, no_early_plaintext twoSessions final ran (by decide +kernel)⟩

end TlsObjects

end HttpsServerSim
