import HttpsServerSim.Protocol.Http1Observed
import HttpsServerSim.Protocol.Http2Preface
import HttpsServerSim.Protocol.Http2Reuse
import HttpsServerSim.Protocol.TlsTranslation

/-!
# A TLS session is a plaintext stream

The results on the HTTP handlers are about a plaintext stream to which every write succeeds.
This is what `TlsHandler` is to them once the handshake is done, however OpenSSL and the pumps
move ciphertext: a read gets what `SSL_read` finds, a write is taken whole, and of what else
happens in `TlsHandler` the handlers see nothing. So every run of calls on a handler answers
and ends as the same run on a plaintext stream does.
-/

namespace HttpsServerSim

namespace OpenSslTls

/-- The plaintext stream that a TLS handler stands for, with nothing waiting. -/
def plain (tls : OpenSslTls) : PlainTls where
  written := tls.accepted

/-- The plaintext that the next read finds. -/
def found (tls : OpenSslTls) : ReadBytes :=
  ⟨tls.work.plaintext.take tempBufferSize, List.length_take_le _ _⟩

theorem write_eq {tls : OpenSslTls} (wired : tls.Wired)
    (done : tls.handler.handshakeDone = true) (bytes : Bytes) :
    (TlsLayer.write tls bytes).1 = .ok ∧ (TlsLayer.write tls bytes).2.1 = bytes.length := by
  have done : tls.entered.handshakeDone = true := done
  have exchanged : tls.entered.write (tls.environment (.done bytes.length)) =
      tls.entered.exchange (tls.environment (.done bytes.length)) "SSL_write failed" false := by
    simp [TlsHandler.write, TlsHandler.transfer, (entered_wired wired).initialized,
      (entered_wired wired).sslSet, done]
  have ends := tls.exchange_ok wired (.done bytes.length) "SSL_write failed" false
  rcases ends.1 bytes.length rfl with ⟨ok, count, _⟩
  simp only [TlsLayer.write, exchanged]
  exact ⟨ok, count⟩

/-- A read gets what there is to find, or is told to try again. -/
theorem read_eq {tls : OpenSslTls} (wired : tls.Wired)
    (done : tls.handler.handshakeDone = true) :
    (TlsLayer.read tls tempBufferSize).1 = (if tls.found.1.isEmpty then .eagain else .ok) ∧
      (TlsLayer.read tls tempBufferSize).2.1 = tls.found.1 := by
  have done : tls.entered.handshakeDone = true := done
  have exchanged (outcome : SslOutcome) : tls.entered.read (tls.environment outcome) =
      tls.entered.exchange (tls.environment outcome) "SSL_read failed" false := by
    simp [TlsHandler.read, TlsHandler.transfer, (entered_wired wired).initialized,
      (entered_wired wired).sslSet, done]
  have ends := fun outcome => tls.exchange_ok wired outcome "SSL_read failed" false
  by_cases nothing : tls.found.1.isEmpty = true
  · have wants := ((ends .want).2 rfl).1
    have empty : tls.found.1 = [] := List.isEmpty_iff.mp nothing
    simp only [found] at nothing empty
    simp only [TlsLayer.read, found, nothing, if_true, exchanged, wants]
    exact ⟨trivial, by rw [empty]; rfl⟩
  · have reads := ((ends (.done tls.found.1.length)).1 _ rfl).1
    simp only [found] at nothing reads
    simp only [TlsLayer.read, found, nothing, Bool.false_eq_true, if_false, exchanged, reads,
      if_true]
    exact ⟨trivial, trivial⟩

end OpenSslTls

/-- A TLS handler in a connection where SSL succeeds, from the end of the handshake on. -/
structure TlsSession where
  tls : OpenSslTls
  wired : tls.Wired
  handshakeDone : tls.handler.handshakeDone = true

namespace TlsSession

theorem read_handshakeDone (session : TlsSession) (len : ℕ) :
    (TlsLayer.read session.tls len).2.2.handler.handshakeDone = true :=
  (OpenSslTls.read_spec session.wired len).2.2.trans session.handshakeDone

theorem write_handshakeDone (session : TlsSession) (bytes : Bytes) :
    (TlsLayer.write session.tls bytes).2.2.handler.handshakeDone = true :=
  (OpenSslTls.write_of_done session.wired session.handshakeDone bytes).2

theorem init_wired (session : TlsSession) : (TlsLayer.init session.tls).2.Wired :=
  ⟨rfl, rfl, rfl, rfl, rfl⟩

theorem init_handshakeDone (session : TlsSession) :
    (TlsLayer.init session.tls).2.handler.handshakeDone = true :=
  session.handshakeDone

instance : TlsLayer TlsSession where
  init session :=
    ((TlsLayer.init session.tls).1,
      ⟨(TlsLayer.init session.tls).2, session.init_wired, session.init_handshakeDone⟩)
  read session len :=
    ((TlsLayer.read session.tls len).1, (TlsLayer.read session.tls len).2.1,
      ⟨(TlsLayer.read session.tls len).2.2, (OpenSslTls.read_spec session.wired len).1,
        session.read_handshakeDone len⟩)
  write session bytes :=
    ((TlsLayer.write session.tls bytes).1, (TlsLayer.write session.tls bytes).2.1,
      ⟨(TlsLayer.write session.tls bytes).2.2, OpenSslTls.write_wired session.wired bytes,
        session.write_handshakeDone bytes⟩)
  close session := session

def plain (session : TlsSession) : PlainTls := session.tls.plain

theorem translates_tls : TlsLayer.Translates TlsSession.tls where
  write _ _ := rfl

theorem translates_plain : TlsLayer.Translates plain where
  write session bytes := by
    rcases OpenSslTls.write_eq session.wired session.handshakeDone bytes with ⟨ok, count⟩
    have accepted := (OpenSslTls.write_of_done session.wired session.handshakeDone bytes).1
    have written : plain (TlsLayer.write session bytes).2.2 =
        { written := session.tls.accepted ++ [bytes] } :=
      congrArg (fun accepted => ({ written := accepted } : PlainTls)) accepted
    rw [written]
    exact Prod.ext ok.symm (Prod.ext count.symm rfl)

/-- A read of the session is one of the stream where what it finds has just arrived. -/
theorem read_plain (session : TlsSession) :
    TlsLayer.read (session.plain.arrive session.tls.found.1) tempBufferSize =
      ((TlsLayer.read session tempBufferSize).1, (TlsLayer.read session tempBufferSize).2.1,
        plain (TlsLayer.read session tempBufferSize).2.2) := by
  rcases OpenSslTls.read_eq session.wired session.handshakeDone with ⟨status, bytes⟩
  have accepted := (OpenSslTls.read_spec session.wired tempBufferSize).2.1
  have kept : plain (TlsLayer.read session tempBufferSize).2.2 = session.plain :=
    congrArg (fun accepted => ({ written := accepted } : PlainTls)) accepted
  have status : (TlsLayer.read session tempBufferSize).1 =
      if session.tls.found.1.isEmpty then .eagain else .ok := status
  have bytes : (TlsLayer.read session tempBufferSize).2.1 = session.tls.found.1 := bytes
  have all : session.tls.found.1.take tempBufferSize = session.tls.found.1 :=
    List.take_of_length_le session.tls.found.2
  have none : session.tls.found.1.drop tempBufferSize = [] :=
    List.drop_of_length_le session.tls.found.2
  rw [status, bytes, kept]
  simp only [TlsLayer.read, PlainTls.arrive, plain, OpenSslTls.plain, List.nil_append]
  by_cases nothing : session.tls.found.1.isEmpty = true
  · have empty : session.tls.found.1 = [] := List.isEmpty_iff.mp nothing
    simp only [empty]
    rfl
  · simp only [nothing, Bool.false_eq_true, if_false, all, none]

end TlsSession

/-! ## Runs of calls -/

theorem no_failure : BioWriteAnswer.fail ∉ ([] : List BioWriteAnswer) := List.not_mem_nil

/-- A request is found once the handshake is done, and ten bytes of ciphertext are taken out. -/
def requestFound (request : Bytes) (callCount : ℕ) : SslWork where
  bioReads := [.moved 9 true]
  plaintext := if callCount = 1 then request else []
  healthy := no_failure

namespace Http1Handler

/-- The calls of a session with their answers; `on_write` is not asked for one. -/
def sessionMachine : Transducer (Http1Handler OpenSslTls) SessionCall ProtocolStatus where
  step handler
    | .onRead => (handler.onRead.2, [handler.onRead.1])
    | .onWrite => (handler.onWrite.2, [])
    | .sendResponse data => ((handler.sendResponse data.1).2, [(handler.sendResponse data.1).1])
    | .sendResponseNull len =>
        ((handler.sendResponseNull len.toNat).2, [(handler.sendResponseNull len.toNat).1])

/-- The same on a plaintext stream, where a read comes with what arrives for it. -/
def plainMachine : Transducer (Http1Handler PlainTls) Http1Call ProtocolStatus where
  step handler
    | .onRead bytes =>
        (handler.deliver bytes.1,
          [{ handler with tlsHandler := handler.tlsHandler.arrive bytes.1 }.onRead.1])
    | .sendResponse data => ((handler.sendResponse data.1).2, [(handler.sendResponse data.1).1])
    | .sendResponseNull len =>
        ((handler.sendResponseNull len.toNat).2, [(handler.sendResponseNull len.toNat).1])

/-- What a call of a session is on the stream. -/
def plainCalls (handler : Http1Handler OpenSslTls) : SessionCall → List Http1Call
  | .onRead => [.onRead handler.tlsHandler.found]
  | .onWrite => []
  | .sendResponse data => [.sendResponse data]
  | .sendResponseNull len => [.sendResponseNull len]

def plain (handler : Http1Handler OpenSslTls) : Http1Handler PlainTls :=
  handler.mapTls OpenSslTls.plain

/-- The TLS handler under an HTTP handler has a session. -/
structure InSession (handler : Http1Handler OpenSslTls) : Prop where
  wired : handler.tlsHandler.Wired
  handshakeDone : handler.tlsHandler.handler.handshakeDone = true

/-- The handler with its TLS handler as a session. -/
def InSession.lift {handler : Http1Handler OpenSslTls} (inSession : handler.InSession) :
    Http1Handler TlsSession :=
  handler.mapTls fun _ => ⟨handler.tlsHandler, inSession.wired, inSession.handshakeDone⟩

theorem inSession_mapTls (lifted : Http1Handler TlsSession) :
    (lifted.mapTls TlsSession.tls).InSession :=
  ⟨lifted.tlsHandler.wired, lifted.tlsHandler.handshakeDone⟩

@[simp]
theorem plain_mapTls (lifted : Http1Handler TlsSession) :
    (lifted.mapTls TlsSession.tls).plain = lifted.mapTls TlsSession.plain :=
  rfl

variable {handler : Http1Handler OpenSslTls}

/-- A call of a session keeps the session and is what it is on the stream. -/
theorem InSession.step (inSession : handler.InSession) (call : SessionCall) :
    (sessionMachine.step handler call).1.InSession ∧
      plainMachine.run handler.plain (handler.plainCalls call) =
        ((sessionMachine.step handler call).1.plain, (sessionMachine.step handler call).2) := by
  cases call with
  | onRead =>
      have session : handler.onRead = mapResult TlsSession.tls inSession.lift.onRead :=
        onRead_mapTls TlsSession.translates_tls inSession.lift rfl
      have stream : { handler.plain with
          tlsHandler := handler.plain.tlsHandler.arrive handler.tlsHandler.found.1 }.onRead =
            mapResult TlsSession.plain inSession.lift.onRead :=
        onRead_mapTls TlsSession.translates_plain inSession.lift
          inSession.lift.tlsHandler.read_plain
      simp only [sessionMachine, session, plainCalls, Transducer.run, plainMachine, deliver, stream,
        mapResult_fst, mapResult_snd, plain_mapTls, List.append_nil]
      exact ⟨inSession_mapTls _, trivial⟩
  | onWrite => exact ⟨inSession, rfl⟩
  | sendResponse data =>
      have session : handler.sendResponse data.1 =
          mapResult TlsSession.tls (inSession.lift.sendResponse data.1) :=
        sendResponse_mapTls TlsSession.translates_tls inSession.lift data.1
      have stream : handler.plain.sendResponse data.1 =
          mapResult TlsSession.plain (inSession.lift.sendResponse data.1) :=
        sendResponse_mapTls TlsSession.translates_plain inSession.lift data.1
      simp only [sessionMachine, session, plainCalls, Transducer.run, plainMachine, stream,
        mapResult_fst, mapResult_snd, plain_mapTls, List.append_nil]
      exact ⟨inSession_mapTls _, trivial⟩
  | sendResponseNull len =>
      have session : handler.sendResponseNull len.toNat =
          mapResult TlsSession.tls (inSession.lift.sendResponseNull len.toNat) :=
        sendResponseNull_mapTls TlsSession.translates_tls inSession.lift len.toNat
      have stream : handler.plain.sendResponseNull len.toNat =
          mapResult TlsSession.plain (inSession.lift.sendResponseNull len.toNat) :=
        sendResponseNull_mapTls TlsSession.translates_plain inSession.lift len.toNat
      simp only [sessionMachine, session, plainCalls, Transducer.run, plainMachine, stream,
        mapResult_fst, mapResult_snd, plain_mapTls, List.append_nil]
      exact ⟨inSession_mapTls _, trivial⟩

/-- A new handler after `init` and `continue_handshake`. -/
def handshaken (script : ℕ → SslWork) : Http1Handler OpenSslTls :=
  let handler : Http1Handler OpenSslTls := ((construct { script := script }).init true).2
  { handler with tlsHandler := handler.tlsHandler.continueHandshake.2 }

theorem inSession_handshaken (script : ℕ → SslWork) : (handshaken script).InSession := by
  have wired : ((construct ({ script := script } : OpenSslTls)).init true).2.tlsHandler.Wired :=
    ⟨rfl, rfl, rfl, rfl, rfl⟩
  rcases OpenSslTls.continueHandshake_spec wired with ⟨wired, _, done⟩
  exact ⟨wired, done⟩

/-- Every run of calls in a TLS session answers and ends as on the plaintext stream on which what
`SSL_read` finds arrives before each read, and the stream has been written what SSL accepted. -/
theorem http1_session_refines (inSession : handler.InSession) (calls : List SessionCall) :
    plainMachine.run handler.plain (sessionMachine.inputsAlong plainCalls handler calls) =
      ((sessionMachine.run handler calls).1.plain, (sessionMachine.run handler calls).2) :=
  sessionMachine.run_inputsAlong (fun _ call inSession => (inSession.step call).1)
    (fun _ call inSession => (inSession.step call).2) inSession calls

theorem http1_session_refines_get :
    plainMachine.run (handshaken (requestFound (ascii "GET / HTTP/1.1\r\n\r\n"))).plain
        (sessionMachine.inputsAlong plainCalls
          (handshaken (requestFound (ascii "GET / HTTP/1.1\r\n\r\n"))) [.onRead, .onWrite]) =
      ((sessionMachine.run (handshaken (requestFound (ascii "GET / HTTP/1.1\r\n\r\n")))
          [.onRead, .onWrite]).1.plain,
        (sessionMachine.run (handshaken (requestFound (ascii "GET / HTTP/1.1\r\n\r\n")))
          [.onRead, .onWrite]).2) :=
  http1_session_refines (inSession_handshaken _) [.onRead, .onWrite]

end Http1Handler

/-- What is called on an HTTP/2 handler in a session. -/
inductive Http2SessionCall where
  | onRead
  | sendResponse (data : ResponseData)
deriving DecidableEq

section Http2Runs

namespace Http2Handler

def plain (handler : Http2Handler OpenSslTls) : Http2Handler PlainTls :=
  handler.mapTls OpenSslTls.plain

@[simp]
theorem plain_mapTls (lifted : Http2Handler TlsSession) :
    (lifted.mapTls TlsSession.tls).plain = lifted.mapTls TlsSession.plain :=
  rfl

/-- The TLS handler under an HTTP handler has a session. -/
structure InSession (handler : Http2Handler OpenSslTls) : Prop where
  wired : handler.tlsHandler.Wired
  handshakeDone : handler.tlsHandler.handler.handshakeDone = true

/-- The handler with its TLS handler as a session. -/
def InSession.lift {handler : Http2Handler OpenSslTls} (inSession : handler.InSession) :
    Http2Handler TlsSession :=
  handler.mapTls fun _ => ⟨handler.tlsHandler, inSession.wired, inSession.handshakeDone⟩

theorem inSession_mapTls (lifted : Http2Handler TlsSession) :
    (lifted.mapTls TlsSession.tls).InSession :=
  ⟨lifted.tlsHandler.wired, lifted.tlsHandler.handshakeDone⟩

/-- What a call of a session is on the stream. -/
def plainInput (handler : Http2Handler OpenSslTls) : Http2SessionCall → Http2Input
  | .onRead => .onRead handler.tlsHandler.found
  | .sendResponse data => .sendResponse data

variable [WideShift]

/-- The calls of a session with their answers. -/
def sessionMachine : Transducer (Http2Handler OpenSslTls) Http2SessionCall ProtocolStatus where
  step handler
    | .onRead => (handler.onRead.2, [handler.onRead.1])
    | .sendResponse data => ((handler.sendResponse data.1).2, [(handler.sendResponse data.1).1])

/-- The same on a plaintext stream, where a read comes with what arrives for it. -/
def plainMachine : Transducer (Http2Handler PlainTls) Http2Input ProtocolStatus where
  step handler
    | .onRead bytes =>
        (handler.deliver bytes.1,
          [{ handler with tlsHandler := handler.tlsHandler.arrive bytes.1 }.onRead.1])
    | .sendResponse data => ((handler.sendResponse data.1).2, [(handler.sendResponse data.1).1])

variable {handler : Http2Handler OpenSslTls}

/-- A call of a session keeps the session and is what it is on the stream. -/
theorem InSession.step (inSession : handler.InSession) (call : Http2SessionCall) :
    (sessionMachine.step handler call).1.InSession ∧
      plainMachine.step handler.plain (handler.plainInput call) =
        ((sessionMachine.step handler call).1.plain, (sessionMachine.step handler call).2) := by
  cases call with
  | onRead =>
      have session : handler.onRead = mapResult TlsSession.tls inSession.lift.onRead :=
        onRead_mapTls TlsSession.translates_tls inSession.lift rfl
      have stream : { handler.plain with
          tlsHandler := handler.plain.tlsHandler.arrive handler.tlsHandler.found.1 }.onRead =
            mapResult TlsSession.plain inSession.lift.onRead :=
        onRead_mapTls TlsSession.translates_plain inSession.lift
          inSession.lift.tlsHandler.read_plain
      simp only [sessionMachine, session, plainInput, plainMachine, deliver, stream, mapResult_fst,
        mapResult_snd, plain_mapTls]
      exact ⟨inSession_mapTls _, trivial⟩
  | sendResponse data =>
      have session : handler.sendResponse data.1 =
          mapResult TlsSession.tls (inSession.lift.sendResponse data.1) :=
        sendResponse_mapTls TlsSession.translates_tls inSession.lift data.1
      have stream : handler.plain.sendResponse data.1 =
          mapResult TlsSession.plain (inSession.lift.sendResponse data.1) :=
        sendResponse_mapTls TlsSession.translates_plain inSession.lift data.1
      simp only [sessionMachine, session, plainInput, plainMachine, stream, mapResult_fst,
        mapResult_snd, plain_mapTls]
      exact ⟨inSession_mapTls _, trivial⟩

/-- The same for HTTP/2. -/
theorem http2_session_refines (inSession : handler.InSession) (calls : List Http2SessionCall) :
    plainMachine.run handler.plain
        (sessionMachine.inputsAlong (fun handler call => [handler.plainInput call]) handler calls) =
      ((sessionMachine.run handler calls).1.plain, (sessionMachine.run handler calls).2) :=
  sessionMachine.run_inputsAlong (fun _ call inSession => (inSession.step call).1)
    (fun _ call inSession => by
      rw [Transducer.run, Transducer.run, (inSession.step call).2, List.append_nil])
    inSession calls

end Http2Handler

end Http2Runs

namespace Http2Handler

theorem inSession_continueHandshake [WideShift] (script : ℕ → SslWork) :
    (afterCalls script [.continueHandshake]).InSession := by
  rcases OpenSslTls.continueHandshake_spec (afterCalls_nil script).1 with ⟨wired, _, done⟩
  exact ⟨wired, done⟩

/-- A handler whose reads find a `PING` frame once the handshake is done. -/
def pinged : Http2Handler OpenSslTls :=
  afterCalls (requestFound [0, 0, 8, 6, 0, 0, 0, 0, 0, 1, 2, 3, 4, 5, 6, 7, 8]) [.continueHandshake]

theorem three_bytes : ([1, 2, 3] : Bytes).length < 2 ^ 32 := by
  decide

theorem http2_session_refines_ping :
    plainMachine.run pinged.plain
        (sessionMachine.inputsAlong (fun handler call => [handler.plainInput call]) pinged
          [.onRead, .sendResponse ⟨[1, 2, 3], three_bytes⟩]) =
      ((sessionMachine.run pinged [.onRead, .sendResponse ⟨[1, 2, 3], three_bytes⟩]).1.plain,
        (sessionMachine.run pinged [.onRead, .sendResponse ⟨[1, 2, 3], three_bytes⟩]).2) :=
  http2_session_refines (inSession_continueHandshake _)
    [.onRead, .sendResponse ⟨[1, 2, 3], three_bytes⟩]

end Http2Handler

end HttpsServerSim
