import HttpsServerSim.Protocol.HttpParser
import HttpsServerSim.Protocol.TlsLayer

/-!
# The HTTP/1.1 handler

`Http1Handler` over any TLS layer. The loop of `on_read` only moves forward through the
states and ends in `EXPECT_COMPLETE` at the latest, so its cases call one another
instead of going round a loop. The client context that `handle_complete_request` fills
for the stubbed callback is left out, and `conn_` is only compared with the null pointer.

`completed` is a history variable: the requests for which `handle_complete_request` ran.
-/

namespace HttpsServerSim

universe u

structure Http1Handler (Tls : Type u) where
  connSet : Bool
  tlsHandler : Tls
  state : Http1ParseState
  request : HttpRequest
  response : HttpResponse
  plaintextBuffer : Buffer
  parser : HttpParser
  completed : List HttpRequest

namespace Http1Handler

variable {Tls : Type u}

def construct (tls : Tls) : Http1Handler Tls where
  connSet := false
  tlsHandler := tls
  state := .expectRequestLine
  request := {}
  response := {}
  plaintextBuffer := .construct
  parser := {}
  completed := []

def reset (handler : Http1Handler Tls) : Http1Handler Tls :=
  { handler with
    state := .expectRequestLine
    request := {}
    response := {}
    parser := handler.parser.reset.init }

theorem completed_reset (handler : Http1Handler Tls) :
    handler.reset.completed = handler.completed :=
  rfl

section Handling

variable [TlsLayer Tls]

/-- The size that `generate_response` first guesses. -/
def estimatedSize (response : HttpResponse) : ℕ :=
  1024 + (response.headers.toList.map fun field =>
    field.1.length + field.2.length + 32).sum + (response.body.length + 64)

/-- `generate_response`; a partial write is not noticed. -/
def generateResponse (handler : Http1Handler Tls) : ProtocolStatus × Http1Handler Tls :=
  let first := handler.parser.buildResponse handler.response (estimatedSize handler.response)
  let (built, parser) :=
    match first with
    | (some out, parser) => (some out, parser)
    | (none, parser) =>
        parser.buildResponse handler.response (4096 + handler.response.body.length)
  match built with
  | none => (.buffer, { handler with parser := parser })
  | some out =>
      let (ret, _, tls) := TlsLayer.write handler.tlsHandler out
      (ret, { handler with parser := parser, tlsHandler := tls })

/-- A parse error: state `ERROR` and the answer `400 Bad Request`. -/
def reject (handler : Http1Handler Tls) : ProtocolStatus × Http1Handler Tls :=
  (.invalid,
    { handler with
      state := .error
      response := { handler.response with statusCode := 400, statusText := ascii "Bad Request" }
      }.generateResponse.2)

/-- The response that `handle_complete_request` fills in. `body_len` has 32 bits, and a body of no
bytes by that count is answered with `OK`. -/
def fillResponse (response : HttpResponse) (body : Bytes) : HttpResponse :=
  let bodyLen := body.length % 2 ^ 32
  let response := { response with statusCode := 200, statusText := ascii "OK" }
  let response := response.addHeader (ascii "Content-Type") (ascii "text/plain")
  if 0 < bodyLen then response.setBody (body.take bodyLen) else response.setBody (ascii "OK")

def handleCompleteRequest (handler : Http1Handler Tls) : ProtocolStatus × Http1Handler Tls :=
  if handler.connSet = false then (.invalid, handler)
  else
    { handler with
      response := fillResponse handler.response handler.request.body
      completed := handler.completed ++ [handler.request] }.generateResponse

/-- `EXPECT_COMPLETE`. -/
def expectComplete (handler : Http1Handler Tls) : ProtocolStatus × Http1Handler Tls :=
  let (ret, handler) := handler.handleCompleteRequest
  if ret = .ok then (ret, handler.reset) else (ret, handler)

/-- `EXPECT_BODY`; `remaining` is computed modulo `2 ^ 64`. -/
def expectBody (handler : Http1Handler Tls) : ProtocolStatus × Http1Handler Tls :=
  let remaining :=
    (handler.request.contentLength + 2 ^ 64 - handler.request.body.length % 2 ^ 64) % 2 ^ 64
  let readable := handler.plaintextBuffer.readableBytes
  let toRead := min readable remaining
  let body := handler.request.body ++ handler.plaintextBuffer.contents.take toRead
  let handler :=
    { handler with
      request := { handler.request with body := body }
      plaintextBuffer := handler.plaintextBuffer.skip toRead }
  if body.length = handler.request.contentLength then
    { handler with state := .expectComplete }.expectComplete
  else (.ok, handler)

/-- The test for a transfer encoding that is not supported. -/
def isChunked (headers : HttpHeaders) : Bool :=
  match HttpParser.findHeader headers (ascii "Transfer-Encoding") with
  | none => false
  | some value => decide (ascii "chunked" <:+: value ∨ ascii "CHUNKED" <:+: value)

/-- `content_length` from the headers: 0 if there is none, `none` if it is not a number. -/
def contentLengthOf (headers : HttpHeaders) : Option ℕ :=
  match HttpParser.findHeader headers (ascii "Content-Length") with
  | none => some 0
  | some value => strtoull value

/-- `EXPECT_HEADERS` after `parse_headers` has succeeded. -/
def headersComplete (handler : Http1Handler Tls) : ProtocolStatus × Http1Handler Tls :=
  if isChunked handler.request.headers then handler.reject
  else
    let debugToken :=
      (HttpParser.findHeader handler.request.headers (ascii "Debug-Token")).getD
        handler.request.debugToken
    let handler := { handler with request := { handler.request with debugToken := debugToken } }
    match contentLengthOf handler.request.headers with
    | none => handler.reject
    | some contentLength =>
        let handler :=
          { handler with request := { handler.request with contentLength := contentLength } }
        if 0 < contentLength then { handler with state := .expectBody }.expectBody
        else { handler with state := .expectComplete }.expectComplete

/-- `EXPECT_HEADERS`. -/
def expectHeaders (handler : Http1Handler Tls) : ProtocolStatus × Http1Handler Tls :=
  let (ret, headers, parser, buffer) := handler.parser.parseHeaders handler.plaintextBuffer
  let handler :=
    { handler with
      request := { handler.request with headers := headers }
      parser := parser
      plaintextBuffer := buffer }
  if ret = .eagain then (.ok, handler)
  else if ret.failed then handler.reject
  else handler.headersComplete

/-- `EXPECT_REQUEST_LINE`. -/
def expectRequestLine (handler : Http1Handler Tls) : ProtocolStatus × Http1Handler Tls :=
  let (ret, line, parser, buffer) := handler.parser.readLine handler.plaintextBuffer maxLineLen
  let handler := { handler with parser := parser, plaintextBuffer := buffer }
  if ret = .eagain then (.ok, handler)
  else if ret.failed then handler.reject
  else
    let (ret, (method, path, version), parser) := handler.parser.parseRequestLine line
    let handler :=
      { handler with
        request := { handler.request with method := method, path := path, version := version }
        parser := parser }
    if ret.failed then handler.reject
    else { handler with state := .expectHeaders }.expectHeaders

/-- The loop of `on_read`. -/
def parse (handler : Http1Handler Tls) : ProtocolStatus × Http1Handler Tls :=
  match handler.state with
  | .expectRequestLine => handler.expectRequestLine
  | .expectHeaders => handler.expectHeaders
  | .expectBody => handler.expectBody
  | .expectComplete => handler.expectComplete
  | .error => handler.reject

def onRead (handler : Http1Handler Tls) : ProtocolStatus × Http1Handler Tls :=
  let (ret, bytes, tls) := TlsLayer.read handler.tlsHandler tempBufferSize
  let handler := { handler with tlsHandler := tls }
  if ret = .eagain then (.ok, handler)
  else if ret.failed then handler.reject
  else
    let buffer :=
      if bytes.isEmpty then handler.plaintextBuffer
      else (handler.plaintextBuffer.write .always bytes).2
    { handler with plaintextBuffer := buffer, parser := handler.parser.init }.parse

/-- `on_write` has nothing to do: what `generate_response` writes is flushed at once. -/
def onWrite (handler : Http1Handler Tls) : ProtocolStatus × Http1Handler Tls := (.ok, handler)

def init (handler : Http1Handler Tls) (connSet : Bool) : ProtocolStatus × Http1Handler Tls :=
  let (ret, tls) := TlsLayer.init handler.tlsHandler
  let handler := { handler with connSet := connSet, tlsHandler := tls }
  if ret ≠ .ok then (ret, handler) else (.ok, handler.reset)

/-- `send_response`. -/
def sendResponse (handler : Http1Handler Tls) (bytes : Bytes) :
    ProtocolStatus × Http1Handler Tls :=
  { handler with response := handler.response.setBody bytes }.generateResponse

/-- `send_response` with a null pointer: `set_body` changes the size of the body only. -/
def sendResponseNull (handler : Http1Handler Tls) (len : ℕ) :
    ProtocolStatus × Http1Handler Tls :=
  { handler with
    response := handler.response.setBody (vectorResize handler.response.body len)
    }.generateResponse

def close (handler : Http1Handler Tls) : Http1Handler Tls :=
  { handler with tlsHandler := TlsLayer.close handler.tlsHandler }.reset

end Handling

end Http1Handler

end HttpsServerSim
