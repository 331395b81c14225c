import HttpsServerSim.Protocol.Http1Plain
import HttpsServerSim.Protocol.HttpNumbers

/-!
# The length of a request body

How `on_read` comes to the length of a body, over any TLS layer. `AcceptsHeaders` is the
point in `on_read` where the header block has been parsed; from there the length is read
with `strtoull`. What is to be accepted is a string of digits within `MAX_BODY_SIZE`, and
`contentLengthContract_iff` tells for which values of the field that is what happens.
-/

namespace HttpsServerSim

universe u

namespace Http1Handler

variable {Tls : Type u} [TlsLayer Tls]

/-- `generate_response` leaves everything as it is but the parser and the TLS layer. -/
theorem generateResponse_frame (handler : Http1Handler Tls) :
    ∃ parser tls, handler.generateResponse.2 =
      { handler with parser := parser, tlsHandler := tls } := by
  simp only [generateResponse]
  split
  · exact ⟨_, handler.tlsHandler, rfl⟩
  · exact ⟨_, _, rfl⟩

/-! ## The way to the end of the headers -/

/-- The handler in `on_read` when its loop starts. -/
def received (handler : Http1Handler Tls) (bytes : Bytes) (tls : Tls) : Http1Handler Tls :=
  { handler with
    tlsHandler := tls
    plaintextBuffer :=
      if bytes.isEmpty then handler.plaintextBuffer
      else (handler.plaintextBuffer.write .always bytes).2
    parser := handler.parser.init }

theorem onRead_of_ok {handler : Http1Handler Tls} {bytes : Bytes} {tls : Tls}
    (read : TlsLayer.read handler.tlsHandler tempBufferSize = (.ok, bytes, tls)) :
    handler.onRead = (handler.received bytes tls).parse := by
  simp only [onRead, read]
  rfl

/-- The loop of `on_read` comes to `EXPECT_HEADERS`. -/
inductive ReachesHeaders : Http1Handler Tls → Http1Handler Tls → Prop where
  | waiting {handler : Http1Handler Tls} (state : handler.state = .expectHeaders) :
      ReachesHeaders handler handler
  | line {handler : Http1Handler Tls} {text method path version : Bytes}
      {parser parserAfter : HttpParser} {buffer : Buffer}
      (state : handler.state = .expectRequestLine)
      (read : handler.parser.readLine handler.plaintextBuffer maxLineLen =
        (.ok, text, parser, buffer))
      (parsed : parser.parseRequestLine text = (.ok, (method, path, version), parserAfter)) :
      ReachesHeaders handler
        { handler with
          state := .expectHeaders
          request :=
            { handler.request with method := method, path := path, version := version }
          parser := parserAfter
          plaintextBuffer := buffer }

theorem ReachesHeaders.parse_eq {handler middle : Http1Handler Tls}
    (reaches : ReachesHeaders handler middle) :
    handler.parse = middle.expectHeaders ∧ middle.completed = handler.completed := by
  cases reaches with
  | waiting state =>
      refine ⟨?_, rfl⟩
      rw [parse, state]
  | line state read parsed =>
      refine ⟨?_, rfl⟩
      rw [parse, state]
      simp only [expectRequestLine, read, parsed]
      rfl

/-- `on_read` of the first handler has accepted a header block, as the second. -/
def AcceptsHeaders (handler inner : Http1Handler Tls) : Prop :=
  ∃ bytes tls middle headers parser buffer,
    TlsLayer.read handler.tlsHandler tempBufferSize = (.ok, bytes, tls) ∧
      ReachesHeaders (handler.received bytes tls) middle ∧
      middle.parser.parseHeaders middle.plaintextBuffer = (.ok, headers, parser, buffer) ∧
      inner =
        { middle with
          request := { middle.request with headers := headers }
          parser := parser
          plaintextBuffer := buffer }

theorem AcceptsHeaders.onRead_eq {handler inner : Http1Handler Tls}
    (accepts : AcceptsHeaders handler inner) :
    handler.onRead = inner.headersComplete ∧ inner.completed = handler.completed := by
  rcases accepts with ⟨bytes, tls, middle, headers, parser, buffer, read, reaches, parsed, rfl⟩
  rcases reaches.parse_eq with ⟨parseEq, completedEq⟩
  refine ⟨?_, completedEq⟩
  rw [onRead_of_ok read, parseEq]
  simp only [expectHeaders, parsed]
  rfl

/-- A request line and a header block that are in the buffer after the read are accepted. -/
theorem exists_acceptsHeaders {handler : Http1Handler Tls} {bytes : Bytes} {tls : Tls}
    {line : HttpLine} {method path : Bytes} {lines : List HttpLine} {rest : Bytes}
    (read : TlsLayer.read handler.tlsHandler tempBufferSize = (.ok, bytes, tls))
    (state : handler.state = .expectRequestLine) (short : line.1.length < maxLineLen)
    (parses : HttpParser.splitRequestLine line.1 = some (method, path, ascii "HTTP/1.1"))
    (valid : ∀ line ∈ lines, HttpParser.ValidHeader line) (few : lines.length ≤ maxHeaders)
    (contentsEq : (handler.received bytes tls).plaintextBuffer.contents =
      line.encode ++ (lines.flatMap HttpLine.encode ++ (crlf ++ rest))) :
    ∃ inner, AcceptsHeaders handler inner ∧
      inner.request.headers = HttpParser.headersOf lines := by
  have ready : handler.parser.init.bufferSet = true := rfl
  rcases HttpParser.readLine_of_complete ready contentsEq short with
    ⟨buffer, bufferEq, readLineEq⟩
  have parsed : handler.parser.init.parseRequestLine line.1 =
      (.ok, (method, path, ascii "HTTP/1.1"), handler.parser.init) := by
    simp [HttpParser.parseRequestLine, parses]
  rcases HttpParser.parseHeaders_complete ready valid few bufferEq with
    ⟨after, _, parsedHeaders⟩
  exact ⟨_, ⟨bytes, tls, _, _, _, _, read, .line state readLineEq parsed, parsedHeaders, rfl⟩, rfl⟩

/-! ## The two outcomes -/

section Outcomes

omit [TlsLayer Tls]

/-- The request goes on with the given length of its body: the handler waits for the body, or the
request is complete. -/
def GoesOnWith (before after : Http1Handler Tls) (length : ℕ) : Prop :=
  (after.completed = before.completed ∧
      (after.state = .expectBody ∨ after.state = .expectComplete) ∧
      after.request.contentLength = length) ∨
    ∃ request : HttpRequest, after.completed = before.completed ++ [request] ∧
      request.contentLength = length

theorem GoesOnWith.of_same {before middle after : Http1Handler Tls} {length : ℕ}
    (goesOn : GoesOnWith middle after length) (completedEq : middle.completed = before.completed) :
    GoesOnWith before after length := by
  rw [GoesOnWith, completedEq] at goesOn
  exact goesOn

/-- The outcome tells the length. -/
theorem GoesOnWith.unique {before after : Http1Handler Tls} {first second : ℕ}
    (goesOn : GoesOnWith before after first) (other : GoesOnWith before after second) :
    first = second := by
  rcases goesOn with ⟨same, _, rfl⟩ | ⟨request, appended, rfl⟩
  · rcases other with ⟨_, _, rfl⟩ | ⟨request, appended, _⟩
    · rfl
    · simp [same] at appended
  · rcases other with ⟨same, _, _⟩ | ⟨otherRequest, otherAppended, rfl⟩
    · simp [same] at appended
    · rw [appended, List.append_cancel_left_eq, List.cons.injEq] at otherAppended
      rw [otherAppended.1]

end Outcomes

/-- The request is answered with 400, and the handler is in state `ERROR`. -/
def IsRefused (before : Http1Handler Tls) (result : ProtocolStatus × Http1Handler Tls) : Prop :=
  result.1 = .invalid ∧ result.2.state = .error ∧ result.2.completed = before.completed ∧
    ∃ refused : Http1Handler Tls, result = refused.reject

theorem reject_isRefused {before handler : Http1Handler Tls}
    (completedEq : handler.completed = before.completed) : IsRefused before handler.reject := by
  rcases generateResponse_frame
    { handler with
      state := .error
      response := { handler.response with statusCode := 400, statusText := ascii "Bad Request" } }
    with ⟨parser, tls, generated⟩
  refine ⟨rfl, ?_, ?_, handler, rfl⟩
  · rw [reject, generated]
  · rw [reject, generated]
    exact completedEq

theorem IsRefused.not_goesOnWith {before : Http1Handler Tls}
    {result : ProtocolStatus × Http1Handler Tls} (refused : IsRefused before result)
    (length : ℕ) : ¬ GoesOnWith before result.2 length := by
  rcases refused with ⟨_, state, completedEq, _⟩
  rintro (⟨_, waits | waits, _⟩ | ⟨request, appended, _⟩)
  · rw [state] at waits
    cases waits
  · rw [state] at waits
    cases waits
  · simp [completedEq] at appended

theorem handleCompleteRequest_frame {handler : Http1Handler Tls}
    (connSet : handler.connSet ≠ false) :
    ∃ parser tls, handler.handleCompleteRequest.2 =
      { handler with
        response := fillResponse handler.response handler.request.body
        completed := handler.completed ++ [handler.request]
        parser := parser
        tlsHandler := tls } := by
  rw [handleCompleteRequest, if_neg connSet]
  exact generateResponse_frame _

theorem expectComplete_goesOn {handler : Http1Handler Tls}
    (state : handler.state = .expectComplete) :
    GoesOnWith handler handler.expectComplete.2 handler.request.contentLength := by
  by_cases connSet : handler.connSet = false
  · left
    have unhandled : handler.handleCompleteRequest = (.invalid, handler) := by
      rw [handleCompleteRequest, if_pos connSet]
    have result : handler.expectComplete.2 = handler := by
      simp only [expectComplete, unhandled]
      rfl
    rw [result]
    exact ⟨rfl, Or.inr state, rfl⟩
  · right
    rcases handleCompleteRequest_frame connSet with ⟨parser, tls, handled⟩
    refine ⟨handler.request, ?_, rfl⟩
    simp only [expectComplete]
    split_ifs
    · rw [completed_reset, handled]
    · rw [handled]

theorem expectBody_goesOn {handler : Http1Handler Tls} (state : handler.state = .expectBody) :
    GoesOnWith handler handler.expectBody.2 handler.request.contentLength := by
  simp only [expectBody]
  split_ifs
  · exact (expectComplete_goesOn rfl).of_same rfl
  · exact Or.inl ⟨rfl, Or.inl state, rfl⟩

/-- After the headers of a request that is not chunked, all depends on the number that has been
read. -/
theorem headersComplete_refused {handler : Http1Handler Tls}
    (notChunked : isChunked handler.request.headers = false)
    (noNumber : contentLengthOf handler.request.headers = none) :
    IsRefused handler handler.headersComplete := by
  simp only [headersComplete, notChunked, Bool.false_eq_true, if_false, noNumber]
  exact reject_isRefused rfl

theorem headersComplete_goesOn {handler : Http1Handler Tls} {length : ℕ}
    (notChunked : isChunked handler.request.headers = false)
    (number : contentLengthOf handler.request.headers = some length) :
    GoesOnWith handler handler.headersComplete.2 length := by
  simp only [headersComplete, notChunked, Bool.false_eq_true, if_false, number]
  split_ifs
  · exact (expectBody_goesOn rfl).of_same rfl
  · exact (expectComplete_goesOn rfl).of_same rfl

/-! ## Which values are read as they should be -/

/-- What is to become of a request with the given value in its `Content-Length` field. -/
structure ContentLengthContract (handler : Http1Handler Tls) (value : Bytes) : Prop where
  goesOn : ∀ length, GoesOnWith handler handler.onRead.2 length ↔
    IsDecimal value length ∧ length ≤ maxBodySize
  refused : (¬ ∃ length, IsDecimal value length ∧ length ≤ maxBodySize) →
    IsRefused handler handler.onRead

section Reading

variable {handler inner : Http1Handler Tls} {value : Bytes}

/-- A value that is no number is refused. -/
theorem AcceptsHeaders.refused_of_strtoull (accepts : AcceptsHeaders handler inner)
    (notChunked : isChunked inner.request.headers = false)
    (found : HttpParser.findHeader inner.request.headers (ascii "Content-Length") = some value)
    (noNumber : strtoull value = none) : IsRefused handler handler.onRead := by
  rcases accepts.onRead_eq with ⟨onReadEq, completedEq⟩
  have lengthEq : contentLengthOf inner.request.headers = none := by
    rw [contentLengthOf, found]
    exact noNumber
  rcases headersComplete_refused notChunked lengthEq with ⟨status, state, completed, refused⟩
  rw [onReadEq]
  exact ⟨status, state, completed.trans completedEq, refused⟩

/-- The number that `strtoull` reads is the one that the request goes on with. -/
theorem AcceptsHeaders.goesOn_of_strtoull {number : ℕ} (accepts : AcceptsHeaders handler inner)
    (notChunked : isChunked inner.request.headers = false)
    (found : HttpParser.findHeader inner.request.headers (ascii "Content-Length") = some value)
    (read : strtoull value = some number) : GoesOnWith handler handler.onRead.2 number := by
  rcases accepts.onRead_eq with ⟨onReadEq, completedEq⟩
  have lengthEq : contentLengthOf inner.request.headers = some number := by
    rw [contentLengthOf, found]
    exact read
  rw [onReadEq]
  exact (headersComplete_goesOn notChunked lengthEq).of_same completedEq

/-- The length is read as it should be exactly for a string of digits within `MAX_BODY_SIZE`, and
for what `strtoull` does not read as a number at all. -/
theorem contentLengthContract_iff (accepts : AcceptsHeaders handler inner)
    (notChunked : isChunked inner.request.headers = false)
    (found : HttpParser.findHeader inner.request.headers (ascii "Content-Length") = some value) :
    ContentLengthContract handler value ↔
      (∃ length, IsDecimal value length ∧ length ≤ maxBodySize) ∨
        ¬ ∃ number, IsCNumber value number := by
  have limit : maxBodySize < 2 ^ 64 := by decide
  rw [← strtoull_eq_none_iff]
  constructor
  · intro contract
    cases read : strtoull value with
    | none => exact Or.inr rfl
    | some number =>
        have goesOn := accepts.goesOn_of_strtoull notChunked found read
        exact Or.inl ⟨number, (contract.goesOn number).mp goesOn⟩
  · rintro (⟨length, decimal, within⟩ | noNumber)
    · have goesOn := accepts.goesOn_of_strtoull notChunked found
        (decimal.strtoull (by omega))
      refine ⟨?_, ?_⟩
      · intro other
        constructor
        · intro otherGoesOn
          rw [otherGoesOn.unique goesOn]
          exact ⟨decimal, within⟩
        · rintro ⟨otherDecimal, _⟩
          rw [otherDecimal.unique decimal]
          exact goesOn
      · intro nothing
        exact absurd ⟨length, decimal, within⟩ nothing
    · have refused := accepts.refused_of_strtoull notChunked found noNumber
      refine ⟨?_, fun _ => refused⟩
      intro length
      constructor
      · intro goesOn
        exact absurd goesOn (refused.not_goesOnWith length)
      · rintro ⟨decimal, within⟩
        rw [decimal.strtoull (by omega)] at noNumber
        cases noNumber

end Reading

def postLine : HttpLine := ⟨ascii "POST /item HTTP/1.1", by decide⟩

/-- A new connection on which a request with the given header lines has arrived. -/
def requested (lines : List HttpLine) : Http1Handler PlainTls :=
  { connected with
    tlsHandler := { pending := postLine.encode ++ (lines.flatMap HttpLine.encode ++ crlf) } }

theorem exists_acceptsHeaders_requested (lines : List HttpLine)
    (valid : ∀ line ∈ lines, HttpParser.ValidHeader line) (few : lines.length ≤ maxHeaders)
    (short : (lines.flatMap HttpLine.encode).length ≤ 1024) :
    ∃ inner, AcceptsHeaders (requested lines) inner ∧
      inner.request.headers = HttpParser.headersOf lines := by
  have start : postLine.encode.length = 21 := by decide
  have limits : tempBufferSize = 4096 ∧ tempBufferSize ≤ Buffer.maxCapacity := by decide
  have size : (requested lines).tlsHandler.pending.length ≤ tempBufferSize := by
    simp only [requested, List.length_append, start, crlf, List.length_cons, List.length_nil]
    omega
  have nonempty : (requested lines).tlsHandler.pending ≠ [] := by
    intro empty
    have length := congrArg List.length empty
    simp [requested, start] at length
  have read : TlsLayer.read (requested lines).tlsHandler tempBufferSize =
      (.ok, (requested lines).tlsHandler.pending,
        { (requested lines).tlsHandler with
          pending := (requested lines).tlsHandler.pending.drop tempBufferSize }) := by
    simp only [TlsLayer.read, List.isEmpty_iff, nonempty, if_false, List.take_of_length_le size]
  have fits : Buffer.construct.readableBytes + (requested lines).tlsHandler.pending.length ≤
      Buffer.maxCapacity := by
    have unread : Buffer.construct.readableBytes = 0 := rfl
    omega
  have lineShort : postLine.1.length < maxLineLen := by decide
  have parses : HttpParser.splitRequestLine postLine.1 =
      some (ascii "POST", ascii "/item", ascii "HTTP/1.1") := by decide
  have contentsEq : ((requested lines).received (requested lines).tlsHandler.pending
      { (requested lines).tlsHandler with
        pending := (requested lines).tlsHandler.pending.drop tempBufferSize }
      ).plaintextBuffer.contents =
        postLine.encode ++ (lines.flatMap HttpLine.encode ++ (crlf ++ [])) := by
    simp only [received, List.isEmpty_iff, nonempty, if_false, List.append_nil]
    exact (Buffer.construct.write_of_fits fits).2
  exact exists_acceptsHeaders read rfl lineShort parses valid few contentsEq

/-- Five bytes are announced, and the handler waits for them. -/
theorem contentLengthContract_iff_five :
    ContentLengthContract (requested [⟨ascii "Content-Length: 5", by decide⟩]) (ascii "5") := by
  rcases exists_acceptsHeaders_requested [⟨ascii "Content-Length: 5", by decide⟩]
    (by decide) (by decide) (by decide) with ⟨inner, accepts, headersEq⟩
  have notChunked : isChunked inner.request.headers = false := by
    rw [headersEq]
    decide +kernel
  have found : HttpParser.findHeader inner.request.headers (ascii "Content-Length") =
      some (ascii "5") := by
    rw [headersEq]
    decide +kernel
  have decimal : IsDecimal (ascii "5") 5 := .of_all (by decide) (by decide) (by decide)
  exact (contentLengthContract_iff accepts notChunked found).mpr
    (Or.inl ⟨5, decimal, by decide⟩)

/-- A negative length is read as a number near `2 ^ 64`. -/
theorem contentLength_not_exact :
    ¬ ∀ (handler inner : Http1Handler PlainTls) (value : Bytes), AcceptsHeaders handler inner →
      isChunked inner.request.headers = false →
      HttpParser.findHeader inner.request.headers (ascii "Content-Length") = some value →
      ContentLengthContract handler value := by
  intro exact
  rcases exists_acceptsHeaders_requested [⟨ascii "Content-Length: -1", by decide⟩]
    (by decide) (by decide) (by decide) with ⟨inner, accepts, headersEq⟩
  have notChunked : isChunked inner.request.headers = false := by
    rw [headersEq]
    decide +kernel
  have found : HttpParser.findHeader inner.request.headers (ascii "Content-Length") =
      some (ascii "-1") := by
    rw [headersEq]
    decide +kernel
  have contract := exact _ inner _ accepts notChunked found
  have goesOn := accepts.goesOn_of_strtoull notChunked found
    (by decide : strtoull (ascii "-1") = some (2 ^ 64 - 1))
  have decimal := ((contract.goesOn _).mp goesOn).1
  exact absurd (decimal.digits 45 (by decide)) (by decide)

end Http1Handler

end HttpsServerSim
