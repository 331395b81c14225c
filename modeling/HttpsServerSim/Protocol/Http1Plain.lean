import HttpsServerSim.Protocol.Http1Steps
import HttpsServerSim.Protocol.HttpLines
import HttpsServerSim.Protocol.HttpResponses

/-!
# The HTTP/1.1 handler on a plaintext stream

Closed forms of the handler's steps on a TLS layer that takes every write, and what
holds of any step: requests are only ever added to the completed ones, and one call of
`on_read` writes at most one response.
-/

namespace HttpsServerSim

namespace Http1Handler

open HttpParser

/-- The handler after a response has been written. -/
def emit (handler : Http1Handler PlainTls) (out : Bytes) : Http1Handler PlainTls :=
  { handler with
    tlsHandler := { handler.tlsHandler with written := handler.tlsHandler.written ++ [out] } }

theorem generateResponse_of_fits {handler : Http1Handler PlainTls}
    (fits : (responseBytes handler.response).length ≤ estimatedSize handler.response) :
    handler.generateResponse = (.ok, handler.emit (responseBytes handler.response)) := by
  rw [generateResponse_eq fits, PlainTls.write_eq]
  rfl

/-! ## The answer to a request -/

/-- The body of the answer: the echoed request body, or `OK`. -/
def replyBody (body : Bytes) : Bytes :=
  if 0 < body.length % 2 ^ 32 then body.take (body.length % 2 ^ 32) else ascii "OK"

def replyHeaders : HttpHeaders :=
  (∅ : HttpHeaders).insert (ascii "Content-Type") (ascii "text/plain")

/-- The answer to a request with the given body. -/
def reply (body : Bytes) : HttpResponse where
  statusCode := 200
  statusText := ascii "OK"
  headers := replyHeaders
  body := replyBody body

theorem length_replyBody_lt (body : Bytes) : (replyBody body).length < 2 ^ 32 := by
  unfold replyBody
  split_ifs
  · rw [List.length_take]
    omega
  · decide

theorem replyBody_ne_nil (body : Bytes) : replyBody body ≠ [] := by
  unfold replyBody
  split_ifs with counted
  · intro empty
    rcases List.take_eq_nil_iff.mp empty with zero | nothing
    · omega
    · simp [nothing] at counted
  · decide

theorem replyHeaders_toList :
    replyHeaders.toList = [(ascii "Content-Type", ascii "text/plain")] := by
  decide +kernel

theorem responseParts_reply (body : Bytes) :
    responseParts (reply body) =
      [ascii "HTTP/1.1 200 OK" ++ crlf, headerLine (ascii "Content-Type") (ascii "text/plain"),
        headerLine (ascii "Content-Length") (toDecimal (replyBody body).length), crlf,
        replyBody body] := by
  have status : statusLine (reply body) = ascii "HTTP/1.1 200 OK" ++ crlf := by
    change ascii "HTTP/1.1 " ++ intToDecimal 200 ++ [charSpace] ++ ascii "OK" ++ crlf =
      ascii "HTTP/1.1 200 OK" ++ crlf
    decide +kernel
  have noLength : hasContentLength replyHeaders = false := by decide +kernel
  have nonempty : (replyBody body).isEmpty = false := by
    simpa using replyBody_ne_nil body
  rw [responseParts, status]
  simp [reply, replyHeaders_toList, noLength, nonempty]

/-- The two texts that the handler sets. -/
theorem length_statusText_le {response : HttpResponse}
    (status : response.statusCode = 200 ∧ response.statusText = ascii "OK" ∨
      response.statusCode = 400 ∧ response.statusText = ascii "Bad Request") :
    response.statusText.length ≤ 1000 := by
  rcases status with ⟨_, text⟩ | ⟨_, text⟩
  · rw [text]
    decide
  · rw [text]
    decide

theorem reply_fits (body : Bytes) :
    (responseBytes (reply body)).length ≤ estimatedSize (reply body) :=
  responseBytes_fits (length_statusText_le (Or.inl ⟨rfl, rfl⟩))
    ((length_replyBody_lt body).trans (by decide))

/-- A body that an earlier `send_response` has left is replaced. -/
theorem fillResponse_body (stale body : Bytes) :
    fillResponse { body := stale } body = reply body := by
  simp only [fillResponse, reply, replyBody]
  split_ifs <;> rfl

/-- The handler after it has answered the request it holds. -/
def answered (handler : Http1Handler PlainTls) : Http1Handler PlainTls :=
  { handler with
    state := .expectRequestLine
    request := {}
    response := {}
    parser := { bufferSet := true }
    completed := handler.completed ++ [handler.request]
    tlsHandler :=
      { handler.tlsHandler with
        written := handler.tlsHandler.written ++ [responseBytes (reply handler.request.body)] } }

/-- With at most a body in the response yet, a complete request is answered and the handler is ready
for the next. -/
theorem expectComplete_plain {handler : Http1Handler PlainTls} {stale : Bytes}
    (connSet : handler.connSet = true) (fresh : handler.response = { body := stale }) :
    handler.expectComplete = (.ok, handler.answered) := by
  have filled : Http1Handler.generateResponse
      { handler with
        response := reply handler.request.body
        completed := handler.completed ++ [handler.request] } =
      (.ok, emit
        { handler with
          response := reply handler.request.body
          completed := handler.completed ++ [handler.request] }
        (responseBytes (reply handler.request.body))) :=
    generateResponse_of_fits (reply_fits handler.request.body)
  simp only [expectComplete, handleCompleteRequest, connSet, Bool.true_eq_false, if_false, fresh,
    fillResponse_body] at filled ⊢
  rw [filled]
  simp only [if_true, emit, reset, answered, HttpParser.init, connSet]

/-! ## What every step keeps -/

/-- Requests were only added to the completed ones, and at most one response was written. -/
structure Progress (before after : Http1Handler PlainTls) : Prop where
  connSet : after.connSet = before.connSet
  pending : after.tlsHandler.pending = before.tlsHandler.pending
  completed : before.completed <+: after.completed
  written : after.tlsHandler.written.length ≤ before.tlsHandler.written.length + 1

theorem Progress.refl (handler : Http1Handler PlainTls) : Progress handler handler :=
  ⟨rfl, rfl, List.prefix_rfl, Nat.le_succ _⟩

theorem Progress.of_same {handler after : Http1Handler PlainTls}
    (connSet : after.connSet = handler.connSet) (tls : after.tlsHandler = handler.tlsHandler)
    (completed : after.completed = handler.completed) : Progress handler after := by
  refine ⟨connSet, by rw [tls], by rw [completed], ?_⟩
  rw [tls]
  exact Nat.le_succ _

/-- The state, the request and the buffer do not matter for progress. -/
theorem Progress.of_middle {handler middle after : Http1Handler PlainTls}
    (progress : Progress middle after) (connSet : middle.connSet = handler.connSet)
    (tls : middle.tlsHandler = handler.tlsHandler)
    (completed : middle.completed = handler.completed) : Progress handler after := by
  refine ⟨progress.connSet.trans connSet, progress.pending.trans (by rw [tls]), ?_, ?_⟩
  · rw [← completed]
    exact progress.completed
  · rw [← tls]
    exact progress.written

theorem generateResponse_progress (handler : Http1Handler PlainTls) :
    Progress handler handler.generateResponse.2 ∧
      handler.generateResponse.2.completed = handler.completed ∧
      handler.generateResponse.2.state = handler.state := by
  simp only [generateResponse, PlainTls.write_eq]
  split
  · exact ⟨Progress.of_same rfl rfl rfl, rfl, rfl⟩
  · refine ⟨⟨rfl, rfl, List.prefix_rfl, ?_⟩, rfl, rfl⟩
    simp

/-- The handler that `reject` lets generate its response. -/
def refused (handler : Http1Handler PlainTls) : Http1Handler PlainTls :=
  { handler with
    state := .error
    response := { handler.response with statusCode := 400, statusText := ascii "Bad Request" } }

theorem reject_snd (handler : Http1Handler PlainTls) :
    handler.reject.2 = handler.refused.generateResponse.2 := by
  rw [reject, refused]

theorem reject_progress (handler : Http1Handler PlainTls) :
    Progress handler handler.reject.2 ∧ handler.reject.2.completed = handler.completed ∧
      handler.reject.2.state = .error := by
  rcases generateResponse_progress handler.refused with ⟨progress, completed, state⟩
  rw [reject_snd]
  exact ⟨progress.of_middle rfl rfl rfl, completed, state⟩

/-- The handler that `handle_complete_request` lets generate its response. -/
def answering (handler : Http1Handler PlainTls) : Http1Handler PlainTls :=
  { handler with
    response := fillResponse handler.response handler.request.body
    completed := handler.completed ++ [handler.request] }

theorem handleCompleteRequest_eq (handler : Http1Handler PlainTls) :
    handler.handleCompleteRequest =
      if handler.connSet = false then (.invalid, handler)
      else handler.answering.generateResponse := by
  rw [handleCompleteRequest, answering]

/-- A complete request is recorded, whatever becomes of the response. -/
theorem expectComplete_completed {handler : Http1Handler PlainTls}
    (connSet : handler.connSet = true) :
    handler.expectComplete.2.completed = handler.completed ++ [handler.request] := by
  have completed : handler.answering.generateResponse.2.completed =
      handler.completed ++ [handler.request] :=
    (generateResponse_progress handler.answering).2.1
  simp only [expectComplete, handleCompleteRequest_eq, connSet, Bool.true_eq_false, if_false]
  split_ifs
  · rw [completed_reset, completed]
  · dsimp only
    exact completed

theorem expectComplete_progress (handler : Http1Handler PlainTls) :
    Progress handler handler.expectComplete.2 := by
  have handled : Progress handler handler.handleCompleteRequest.2 := by
    rw [handleCompleteRequest_eq]
    split_ifs
    · exact Progress.refl handler
    · rcases generateResponse_progress handler.answering with ⟨progress, _, _⟩
      exact ⟨progress.connSet, progress.pending,
        (List.prefix_append _ _).trans progress.completed, progress.written⟩
  simp only [expectComplete]
  split_ifs
  · exact ⟨handled.connSet, handled.pending, handled.completed, handled.written⟩
  · exact handled

theorem ParseEnd.progress {handler : Http1Handler PlainTls}
    {result : ProtocolStatus × Http1Handler PlainTls} (ends : ParseEnd handler result) :
    Progress handler result.2 := by
  cases ends with
  | waits carried => exact Progress.of_same carried.connSet carried.tlsHandler carried.completed
  | refuses carried =>
      exact (reject_progress _).1.of_middle carried.connSet carried.tlsHandler carried.completed
  | completes carried =>
      exact (expectComplete_progress _).of_middle carried.connSet carried.tlsHandler
        carried.completed

theorem parse_progress (handler : Http1Handler PlainTls) : Progress handler handler.parse.2 := by
  rcases parse_ends handler with ⟨_, waits⟩ | ends
  · have carried := waits.carried
    exact Progress.of_same carried.connSet carried.tlsHandler carried.completed
  · exact ends.progress

/-! ## Deliveries -/

/-- The handler after a successful `init` with a connection. -/
def connected : Http1Handler PlainTls := ((construct {}).init true).2

/-- Bytes arrive at the TLS layer and `on_read` is called. -/
def deliver (handler : Http1Handler PlainTls) (piece : Bytes) : Http1Handler PlainTls :=
  ({ handler with tlsHandler := handler.tlsHandler.arrive piece }).onRead.2

theorem deliver_nil {handler : Http1Handler PlainTls} (drained : handler.tlsHandler.pending = []) :
    handler.deliver [] = handler := by
  have arrived : handler.tlsHandler.arrive [] = handler.tlsHandler := by simp [PlainTls.arrive]
  simp only [deliver, arrived, onRead, TlsLayer.read, drained, List.isEmpty_nil, if_true]

/-- A piece that one read can hold is put into the buffer and parsed. -/
theorem onRead_arrive {handler : Http1Handler PlainTls}
    (drained : handler.tlsHandler.pending = []) {piece : Bytes} (nonempty : piece ≠ [])
    (short : piece.length ≤ tempBufferSize) :
    ({ handler with tlsHandler := handler.tlsHandler.arrive piece }).onRead =
      ({ handler with
        plaintextBuffer := (handler.plaintextBuffer.write .always piece).2
        parser := { bufferSet := true } }).parse := by
  have takeEq : piece.take tempBufferSize = piece := List.take_of_length_le short
  have dropEq : piece.drop tempBufferSize = [] := List.drop_eq_nil_of_le short
  have tlsEq : ({ pending := [], written := handler.tlsHandler.written } : PlainTls) =
      handler.tlsHandler := by
    rw [← drained]
  simp only [onRead, TlsLayer.read, PlainTls.arrive, drained, List.nil_append,
    List.isEmpty_iff, nonempty, if_false, takeEq, dropEq, tlsEq, HttpParser.init]
  rfl

theorem deliver_eq_parse {handler : Http1Handler PlainTls}
    (drained : handler.tlsHandler.pending = []) {piece : Bytes} (nonempty : piece ≠ [])
    (short : piece.length ≤ tempBufferSize) :
    handler.deliver piece =
      ({ handler with
        plaintextBuffer := (handler.plaintextBuffer.write .always piece).2
        parser := { bufferSet := true } }).parse.2 := by
  rw [deliver, onRead_arrive drained nonempty short]

theorem deliver_progress {handler : Http1Handler PlainTls}
    (drained : handler.tlsHandler.pending = []) {piece : Bytes}
    (short : piece.length ≤ tempBufferSize) : Progress handler (handler.deliver piece) := by
  by_cases empty : piece = []
  · rw [empty, deliver_nil drained]
    exact Progress.refl handler
  · rw [deliver_eq_parse drained empty short]
    exact (parse_progress _).of_middle rfl rfl rfl

end Http1Handler

end HttpsServerSim
