import HttpsServerSim.Protocol.Http1Calls

/-!
# What an HTTP/1.1 handler writes

A TLS layer of any behaviour is observed: what the handler hands to it is recorded. What
`on_read` can do to a handler is then one of three things (`ReadOutcome`), and from them
follows what holds of the handler over whole histories of calls (`Sound`): its response is
`200 OK`, or `400 Bad Request` in state `ERROR`, and has no header of its own but
`Content-Type`.
-/

namespace HttpsServerSim

universe u

open HttpParser

/-- A TLS layer that has its reads written down. -/
structure ReadScript where
  reads : List (ProtocolStatus × Bytes)
deriving DecidableEq

instance : TlsLayer ReadScript where
  init script := (.ok, script)
  read script len :=
    match script.reads with
    | [] => (.eagain, [], script)
    | (ret, bytes) :: reads => (ret, bytes.take len, { reads := reads })
  write script bytes := (.ok, bytes.length, script)
  close script := script

namespace Http1Handler

variable {Tls : Type u} [TlsLayer Tls]

/-- The response of a parse error. -/
def toBadRequest (response : HttpResponse) : HttpResponse :=
  { response with statusCode := 400, statusText := ascii "Bad Request" }

/-! ## What `on_read` can do -/

/-- Nothing is written, or the request is refused, or a request is answered. After an answer that
was written the response is as new. -/
inductive ReadOutcome (before after : Http1Handler (Observed Tls)) : Prop where
  | waits (sent : after.tlsHandler.sent = before.tlsHandler.sent)
      (response : after.response = before.response)
      (state : after.state = .error ↔ before.state = .error)
  | refuses
      (sent : after.tlsHandler.sent =
        before.tlsHandler.sent ++ [responseBytes (toBadRequest before.response)])
      (response : after.response = toBadRequest before.response) (state : after.state = .error)
  | replies (body : Bytes)
      (sent : after.tlsHandler.sent =
        before.tlsHandler.sent ++ [responseBytes (fillResponse before.response body)])
      (response : after.response = {} ∨ after.response = fillResponse before.response body)
      (state : after.state ≠ .error)

omit [TlsLayer Tls] in
/-- The request and the buffer do not matter for the outcome. -/
theorem ReadOutcome.of_same {before middle after : Http1Handler (Observed Tls)}
    (outcome : ReadOutcome middle after) (tls : middle.tlsHandler.sent = before.tlsHandler.sent)
    (response : middle.response = before.response)
    (state : middle.state = .error ↔ before.state = .error) : ReadOutcome before after := by
  cases outcome with
  | waits sentEq responseEq stateIff =>
      exact .waits (sentEq.trans tls) (responseEq.trans response) (stateIff.trans state)
  | refuses sentEq responseEq failed =>
      rw [tls, response] at sentEq
      rw [response] at responseEq
      exact .refuses sentEq responseEq failed
  | replies body sentEq responseEq alive =>
      rw [tls, response] at sentEq
      rw [response] at responseEq
      exact .replies body sentEq responseEq alive

/-- A response that fits is handed to the TLS layer. -/
theorem generateResponse_observed {handler : Http1Handler (Observed Tls)}
    (fits : (responseBytes handler.response).length ≤ estimatedSize handler.response) :
    handler.generateResponse.2 =
      { handler with
        tlsHandler := handler.tlsHandler.hand (responseBytes handler.response) } := by
  rw [generateResponse_eq fits]
  rfl

theorem fillResponse_status (response : HttpResponse) (body : Bytes) :
    (fillResponse response body).statusCode = 200 ∧
      (fillResponse response body).statusText = ascii "OK" := by
  simp only [fillResponse]
  split_ifs <;> exact ⟨rfl, rfl⟩

theorem fillResponse_body_eq (response : HttpResponse) (body : Bytes) :
    (fillResponse response body).body = replyBody body := by
  simp only [fillResponse, replyBody]
  split_ifs <;> rfl

theorem fillResponse_headers (response : HttpResponse) (body : Bytes) :
    (fillResponse response body).headers =
      response.headers.insert (ascii "Content-Type") (ascii "text/plain") := by
  simp only [fillResponse]
  split_ifs <;> rfl

/-- The type is stored once, however often the response is filled in. -/
theorem fillResponse_replyHeaders {response : HttpResponse}
    (headers : response.headers = ∅ ∨ response.headers = replyHeaders) (body : Bytes) :
    (fillResponse response body).headers = replyHeaders := by
  rw [fillResponse_headers]
  rcases headers with none | some
  · rw [none]
    rfl
  · rw [some]
    decide +kernel

/-- A refused request is answered, whatever has been answered before. -/
theorem reject_eq {handler : Http1Handler (Observed Tls)}
    (short : handler.response.body.length < 2 ^ 32) :
    handler.reject.2 =
      { handler with
        state := .error
        response := toBadRequest handler.response
        tlsHandler :=
          handler.tlsHandler.hand (responseBytes (toBadRequest handler.response)) } := by
  have fits : (responseBytes (toBadRequest handler.response)).length ≤
      estimatedSize (toBadRequest handler.response) :=
    responseBytes_fits (length_statusText_le (Or.inr ⟨rfl, rfl⟩)) (short.trans (by decide))
  rw [reject]
  exact generateResponse_observed fits

theorem reject_outcome {handler : Http1Handler (Observed Tls)}
    (short : handler.response.body.length < 2 ^ 32) :
    ReadOutcome handler handler.reject.2 := by
  rw [reject_eq short]
  exact .refuses rfl rfl rfl

theorem expectComplete_outcome {handler : Http1Handler (Observed Tls)}
    (alive : handler.state ≠ .error) : ReadOutcome handler handler.expectComplete.2 := by
  by_cases connSet : handler.connSet = false
  · have unhandled : handler.handleCompleteRequest = (.invalid, handler) := by
      rw [handleCompleteRequest, if_pos connSet]
    have result : handler.expectComplete.2 = handler := by
      simp only [expectComplete, unhandled]
      rfl
    rw [result]
    exact .waits rfl rfl Iff.rfl
  · have filled := fillResponse_status handler.response handler.request.body
    have short : (fillResponse handler.response handler.request.body).body.length < 2 ^ 32 := by
      rw [fillResponse_body_eq]
      exact length_replyBody_lt _
    have generated : handler.handleCompleteRequest.2 =
        { handler with
          response := fillResponse handler.response handler.request.body
          completed := handler.completed ++ [handler.request]
          tlsHandler := handler.tlsHandler.hand
            (responseBytes (fillResponse handler.response handler.request.body)) } := by
      rw [handleCompleteRequest, if_neg connSet]
      exact generateResponse_observed
        (responseBytes_fits (length_statusText_le (Or.inl filled)) (short.trans (by decide)))
    simp only [expectComplete]
    split_ifs
    · rw [generated]
      exact .replies handler.request.body rfl (Or.inl rfl) Http1ParseState.noConfusion
    · rw [generated]
      exact .replies handler.request.body rfl (Or.inr rfl) alive

theorem ParseEnd.outcome {handler : Http1Handler (Observed Tls)}
    {result : ProtocolStatus × Http1Handler (Observed Tls)} (ends : ParseEnd handler result)
    (alive : handler.state ≠ .error) (short : handler.response.body.length < 2 ^ 32) :
    ReadOutcome handler result.2 := by
  cases ends with
  | waits carried state =>
      refine .waits (congrArg Observed.sent carried.tlsHandler) carried.response ?_
      refine iff_of_false ?_ alive
      rcases state with state | state <;> rw [state] <;> exact Http1ParseState.noConfusion
  | @refuses middle carried =>
      have shortMiddle : middle.response.body.length < 2 ^ 32 := by
        rw [carried.response]
        exact short
      rw [reject_eq shortMiddle]
      refine .refuses ?_ (congrArg toBadRequest carried.response) rfl
      rw [← carried.tlsHandler, ← carried.response]
      rfl
  | @completes middle carried state =>
      have middleAlive : middle.state ≠ .error := by
        rw [state]
        exact Http1ParseState.noConfusion
      exact (expectComplete_outcome middleAlive).of_same
        (congrArg Observed.sent carried.tlsHandler) carried.response
        (iff_of_false middleAlive alive)

theorem parse_outcome {handler : Http1Handler (Observed Tls)}
    (short : handler.response.body.length < 2 ^ 32) : ReadOutcome handler handler.parse.2 := by
  by_cases failed : handler.state = .error
  · rw [parse, failed]
    exact reject_outcome short
  · rcases parse_ends handler with ⟨_, waits⟩ | ends
    · have carried := waits.carried
      refine .waits (congrArg Observed.sent carried.tlsHandler) carried.response ?_
      rw [waits.state]
    · exact ends.outcome failed short

theorem onRead_outcome {handler : Http1Handler (Observed Tls)}
    (short : handler.response.body.length < 2 ^ 32) : ReadOutcome handler handler.onRead.2 := by
  simp only [onRead]
  split_ifs
  · exact .waits rfl rfl Iff.rfl
  · exact ReadOutcome.of_same (reject_outcome short) rfl rfl Iff.rfl
  · exact ReadOutcome.of_same (parse_outcome short) rfl rfl Iff.rfl
  · exact ReadOutcome.of_same (parse_outcome short) rfl rfl Iff.rfl

/-! ## Histories -/

end Http1Handler

/-- A call between `init` and `close`; what a read finds is up to the TLS layer. -/
inductive SessionCall where
  | onRead
  | onWrite
  | sendResponse (data : ResponseData)
  | sendResponseNull (len : UInt32)
deriving DecidableEq

/-- What may be done to a handler. -/
inductive Http1Event where
  | init (connSet : Bool)
  | call (call : SessionCall)
  | close
deriving DecidableEq

namespace Http1Handler

variable {Tls : Type u} [TlsLayer Tls]

def onSessionCall (handler : Http1Handler (Observed Tls)) :
    SessionCall → Http1Handler (Observed Tls)
  | .onRead => handler.onRead.2
  | .onWrite => handler.onWrite.2
  | .sendResponse data => (handler.sendResponse data.1).2
  | .sendResponseNull len => (handler.sendResponseNull len.toNat).2

def onEvent (handler : Http1Handler (Observed Tls)) : Http1Event → Http1Handler (Observed Tls)
  | .init connSet => (handler.init connSet).2
  | .call call => handler.onSessionCall call
  | .close => handler.close

/-- What holds between two events. -/
structure Sound (handler : Http1Handler (Observed Tls)) : Prop where
  headers : handler.response.headers = ∅ ∨ handler.response.headers = replyHeaders
  short : handler.response.body.length < 2 ^ 32
  serving : handler.state ≠ .error →
    handler.response.statusCode = 200 ∧ handler.response.statusText = ascii "OK"
  failed : handler.state = .error →
    handler.response.statusCode = 400 ∧ handler.response.statusText = ascii "Bad Request"

omit [TlsLayer Tls] in
/-- A handler with a new response. -/
theorem sound_of_new {handler : Http1Handler (Observed Tls)} (response : handler.response = {})
    (alive : handler.state ≠ .error) : handler.Sound := by
  refine ⟨?_, ?_, ?_, ?_⟩
  · rw [response]
    exact Or.inl rfl
  · rw [response]
    decide
  · intro _
    rw [response]
    exact ⟨rfl, rfl⟩
  · intro failed
    exact absurd failed alive

omit [TlsLayer Tls] in
theorem sound_construct (tls : Observed Tls) : (construct tls).Sound :=
  sound_of_new rfl Http1ParseState.noConfusion

omit [TlsLayer Tls] in
theorem Sound.length_statusText {handler : Http1Handler (Observed Tls)} (sound : handler.Sound) :
    handler.response.statusText.length ≤ 1000 := by
  apply length_statusText_le
  by_cases failed : handler.state = .error
  · exact Or.inr (sound.failed failed)
  · exact Or.inl (sound.serving failed)

omit [TlsLayer Tls] in
theorem Sound.of_outcome {before after : Http1Handler (Observed Tls)} (sound : before.Sound)
    (outcome : ReadOutcome before after) : after.Sound := by
  cases outcome with
  | waits sent response state =>
      refine ⟨?_, ?_, ?_, ?_⟩
      · rw [response]
        exact sound.headers
      · rw [response]
        exact sound.short
      · intro alive
        rw [response]
        exact sound.serving (fun failed => alive (state.mpr failed))
      · intro failed
        rw [response]
        exact sound.failed (state.mp failed)
  | refuses sent response state =>
      refine ⟨?_, ?_, ?_, ?_⟩
      · rw [response]
        exact sound.headers
      · rw [response]
        exact sound.short
      · intro alive
        exact absurd state alive
      · intro _
        rw [response]
        exact ⟨rfl, rfl⟩
  | replies body sent response alive =>
      rcases response with fresh | filled
      · exact sound_of_new fresh alive
      · refine ⟨Or.inr ?_, ?_, ?_, ?_⟩
        · rw [filled]
          exact fillResponse_replyHeaders sound.headers body
        · rw [filled, fillResponse_body_eq]
          exact length_replyBody_lt body
        · intro _
          rw [filled]
          exact fillResponse_status _ _
        · intro failed
          exact absurd failed alive

/-- The handler after its response has been handed over with another body. -/
def sentBody (handler : Http1Handler (Observed Tls)) (body : Bytes) :
    Http1Handler (Observed Tls) :=
  { handler with
    response := handler.response.setBody body
    tlsHandler := handler.tlsHandler.hand (responseBytes (handler.response.setBody body)) }

/-- What a call can do: what a read can, or hand over the response with a body. -/
inductive CallOutcome (before after : Http1Handler (Observed Tls)) : Prop where
  | read (outcome : ReadOutcome before after)
  | sends (body : Bytes) (short : body.length < 2 ^ 32) (after_eq : after = before.sentBody body)

theorem Sound.generate_body {handler : Http1Handler (Observed Tls)} (sound : handler.Sound)
    {body : Bytes} (short : body.length < 2 ^ 32) :
    ({ handler with response := handler.response.setBody body }).generateResponse.2 =
      handler.sentBody body :=
  generateResponse_observed (responseBytes_fits sound.length_statusText (short.trans (by decide)))

theorem Sound.callOutcome {handler : Http1Handler (Observed Tls)} (sound : handler.Sound)
    (call : SessionCall) : CallOutcome handler (handler.onSessionCall call) := by
  cases call with
  | onRead => exact .read (onRead_outcome sound.short)
  | onWrite => exact .read (.waits rfl rfl Iff.rfl)
  | sendResponse data => exact .sends data.1 data.2 (sound.generate_body data.2)
  | sendResponseNull len =>
      have short : (vectorResize handler.response.body len.toNat).length < 2 ^ 32 := by
        rw [length_vectorResize]
        exact len.toNat_lt
      exact .sends _ short (sound.generate_body short)

theorem Sound.of_callOutcome {before after : Http1Handler (Observed Tls)} (sound : before.Sound)
    (outcome : CallOutcome before after) : after.Sound := by
  cases outcome with
  | read outcome => exact sound.of_outcome outcome
  | sends body short after_eq =>
      rw [after_eq]
      exact ⟨sound.headers, short, sound.serving, sound.failed⟩

theorem Sound.onSessionCall {handler : Http1Handler (Observed Tls)} (sound : handler.Sound)
    (call : SessionCall) : (handler.onSessionCall call).Sound :=
  sound.of_callOutcome (sound.callOutcome call)

/-- `init` starts anew, or leaves all as it is when the TLS layer fails. -/
theorem Sound.onEvent {handler : Http1Handler (Observed Tls)} (sound : handler.Sound)
    (event : Http1Event) : (handler.onEvent event).Sound := by
  cases event with
  | init connSet =>
      simp only [Http1Handler.onEvent, init]
      split_ifs
      · exact ⟨sound.headers, sound.short, sound.serving, sound.failed⟩
      · exact sound_of_new rfl Http1ParseState.noConfusion
  | call call => exact sound.onSessionCall call
  | close => exact sound_of_new rfl Http1ParseState.noConfusion

end Http1Handler

end HttpsServerSim
