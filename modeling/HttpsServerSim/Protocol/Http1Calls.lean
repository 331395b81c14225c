import HttpsServerSim.Protocol.Http1Plain

/-!
# Histories of an HTTP/1.1 connection

What the server and the application can do to a handler once it is connected: `on_read`
with whatever one read of the TLS layer returns, and `send_response`. Between such calls a
handler that has not failed holds nothing in its response but a body that
`send_response` has left there, and nothing in its request when it waits for a request line.
-/

namespace HttpsServerSim

/-- What one read of the TLS layer can return. -/
abbrev ReadBytes := { bytes : Bytes // bytes.length ≤ tempBufferSize }

/-- An empty buffer takes the bytes of a read as they are. -/
theorem ReadBytes.contents_write_of_nil (bytes : ReadBytes) {buffer : Buffer}
    (empty : buffer.contents = []) : (buffer.write .always bytes.1).2.contents = bytes.1 := by
  have limit : tempBufferSize ≤ Buffer.maxCapacity := by decide
  have within : buffer.readableBytes + bytes.1.length ≤ Buffer.maxCapacity := by
    rw [← Buffer.length_contents, empty, List.length_nil, Nat.zero_add]
    exact bytes.2.trans limit
  rw [(buffer.write_of_fits within).2, empty, List.nil_append]

/-- The data of a `send_response`; its length has 32 bits. -/
abbrev ResponseData := { bytes : Bytes // bytes.length < 2 ^ 32 }

inductive Http1Call where
  | onRead (bytes : ReadBytes)
  | sendResponse (data : ResponseData)
  | sendResponseNull (len : UInt32)
deriving DecidableEq

namespace Http1Handler

def onCall (handler : Http1Handler PlainTls) : Http1Call → Http1Handler PlainTls
  | .onRead bytes => handler.deliver bytes.1
  | .sendResponse data => (handler.sendResponse data.1).2
  | .sendResponseNull len => (handler.sendResponseNull len.toNat).2

def afterCalls (handler : Http1Handler PlainTls) (calls : List Http1Call) :
    Http1Handler PlainTls :=
  calls.foldl onCall handler

@[simp]
theorem afterCalls_cons (handler : Http1Handler PlainTls) (call : Http1Call)
    (calls : List Http1Call) :
    handler.afterCalls (call :: calls) = (handler.onCall call).afterCalls calls :=
  rfl

/-! ## What a handler holds between calls -/

/-- The response is as new but for a body. -/
def StaleBodyOnly (response : HttpResponse) : Prop :=
  ∃ stale : Bytes, stale.length < 2 ^ 32 ∧ response = { body := stale }

/-- A handler that can still complete its request. -/
structure Serving (handler : Http1Handler PlainTls) : Prop where
  connSet : handler.connSet = true
  drained : handler.tlsHandler.pending = []
  response : StaleBodyOnly handler.response

/-- A handler between two calls. -/
structure Orderly (handler : Http1Handler PlainTls) : Prop where
  connSet : handler.connSet = true
  drained : handler.tlsHandler.pending = []
  response : handler.state ≠ .error → StaleBodyOnly handler.response
  settled : handler.state ≠ .expectComplete
  request : handler.state = .expectRequestLine → handler.request = {}

theorem Orderly.serving {handler : Http1Handler PlainTls} (orderly : handler.Orderly)
    (alive : handler.state ≠ .error) : handler.Serving :=
  ⟨orderly.connSet, orderly.drained, orderly.response alive⟩

theorem orderly_connected : connected.Orderly := by
  refine ⟨rfl, rfl, ?_, ?_, fun _ => rfl⟩
  · intro _
    exact ⟨[], by decide, rfl⟩
  · intro state
    cases state

/-- A failed handler stays orderly whatever its response is. -/
theorem reject_orderly {handler : Http1Handler PlainTls} (connSet : handler.connSet = true)
    (drained : handler.tlsHandler.pending = []) : handler.reject.2.Orderly := by
  rcases reject_progress handler with ⟨progress, _, failed⟩
  refine ⟨progress.connSet.trans connSet, progress.pending.trans drained, ?_, ?_, ?_⟩
  · intro alive
    exact absurd failed alive
  · rw [failed]
    exact Http1ParseState.noConfusion
  · rw [failed]
    exact Http1ParseState.noConfusion

theorem Serving.expectComplete_orderly {handler : Http1Handler PlainTls}
    (serving : handler.Serving) : handler.expectComplete.2.Orderly := by
  rcases serving.response with ⟨stale, _, responseEq⟩
  rw [expectComplete_plain serving.connSet responseEq]
  refine ⟨serving.connSet, serving.drained, ?_, Http1ParseState.noConfusion, fun _ => rfl⟩
  intro _
  exact ⟨[], by decide, rfl⟩

/-- A handler that waits in the middle of a request. -/
theorem Serving.orderly_of_waiting {handler : Http1Handler PlainTls} (serving : handler.Serving)
    (waiting : handler.state = .expectHeaders ∨ handler.state = .expectBody) :
    handler.Orderly := by
  refine ⟨serving.connSet, serving.drained, fun _ => serving.response, ?_, ?_⟩
  · rcases waiting with state | state <;> rw [state] <;> exact Http1ParseState.noConfusion
  · rcases waiting with state | state <;> rw [state] <;> exact Http1ParseState.noConfusion

theorem Serving.of_carried {before after : Http1Handler PlainTls} (serving : before.Serving)
    (carried : Carried before after) : after.Serving := by
  refine ⟨carried.connSet.trans serving.connSet, ?_, ?_⟩
  · rw [carried.tlsHandler]
    exact serving.drained
  · rw [carried.response]
    exact serving.response

theorem Serving.orderly_of_ends {handler : Http1Handler PlainTls}
    {result : ProtocolStatus × Http1Handler PlainTls} (serving : handler.Serving)
    (ends : ParseEnd handler result) : result.2.Orderly := by
  cases ends with
  | waits carried state => exact (serving.of_carried carried).orderly_of_waiting state
  | refuses carried =>
      have middle := serving.of_carried carried
      exact reject_orderly middle.connSet middle.drained
  | completes carried => exact (serving.of_carried carried).expectComplete_orderly

/-- A request line that is not there yet leaves everything as it was. -/
theorem Orderly.of_stillWaits {handler : Http1Handler PlainTls}
    {result : ProtocolStatus × Http1Handler PlainTls} (orderly : handler.Orderly)
    (waits : StillWaits handler result) : result.2.Orderly := by
  have carried := waits.carried
  refine ⟨carried.connSet.trans orderly.connSet, ?_, ?_, ?_, ?_⟩
  · rw [carried.tlsHandler]
    exact orderly.drained
  · rw [waits.state, carried.response]
    exact orderly.response
  · rw [waits.state]
    exact orderly.settled
  · rw [waits.state, waits.request]
    exact orderly.request

theorem Orderly.parse_orderly {handler : Http1Handler PlainTls} (orderly : handler.Orderly) :
    handler.parse.2.Orderly := by
  by_cases failed : handler.state = .error
  · rw [parse, failed]
    exact reject_orderly orderly.connSet orderly.drained
  · rcases parse_ends handler with ⟨_, waits⟩ | ends
    · exact orderly.of_stillWaits waits
    · exact (orderly.serving failed).orderly_of_ends ends

theorem Orderly.deliver_orderly {handler : Http1Handler PlainTls} (orderly : handler.Orderly)
    (bytes : ReadBytes) : (handler.deliver bytes.1).Orderly := by
  by_cases empty : bytes.1 = []
  · rw [empty, deliver_nil orderly.drained]
    exact orderly
  · rw [deliver_eq_parse orderly.drained empty bytes.2]
    apply Orderly.parse_orderly
    exact ⟨orderly.connSet, orderly.drained, orderly.response, orderly.settled, orderly.request⟩

/-- `send_response` leaves its data behind, and nothing else. -/
theorem Orderly.generateResponse_orderly {handler : Http1Handler PlainTls}
    (orderly : handler.Orderly) {body : Bytes} (short : body.length < 2 ^ 32) :
    ({ handler with response := handler.response.setBody body }).generateResponse.2.Orderly := by
  have response : handler.state ≠ .error →
      StaleBodyOnly (handler.response.setBody body) := by
    intro alive
    rcases orderly.response alive with ⟨_, _, responseEq⟩
    refine ⟨body, short, ?_⟩
    rw [responseEq]
    rfl
  simp only [generateResponse, PlainTls.write_eq]
  split
  · exact ⟨orderly.connSet, orderly.drained, response, orderly.settled, orderly.request⟩
  · exact ⟨orderly.connSet, orderly.drained, response, orderly.settled, orderly.request⟩

theorem Orderly.onCall_orderly {handler : Http1Handler PlainTls} (orderly : handler.Orderly)
    (call : Http1Call) : (handler.onCall call).Orderly := by
  cases call with
  | onRead bytes => exact orderly.deliver_orderly bytes
  | sendResponse data => exact orderly.generateResponse_orderly data.2
  | sendResponseNull len =>
      apply orderly.generateResponse_orderly
      rw [length_vectorResize]
      exact len.toNat_lt

theorem Orderly.afterCalls_orderly {handler : Http1Handler PlainTls} (orderly : handler.Orderly)
    (calls : List Http1Call) : (handler.afterCalls calls).Orderly := by
  induction calls generalizing handler with
  | nil => exact orderly
  | cons call calls ih => exact ih (orderly.onCall_orderly call)

end Http1Handler

end HttpsServerSim
