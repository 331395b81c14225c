import HttpsServerSim.Lib.Transducer
import HttpsServerSim.Protocol.Http1Calls
import HttpsServerSim.Protocol.Http1Request
import HttpsServerSim.Protocol.HttpLetterCase
import HttpsServerSim.Protocol.HttpNumbers

/-!
# The answer to a request

A request with a plain length is to be answered with its own body, and what follows it stays
in the buffer. The header lines arrive in one read. If the empty line after them comes with
them, all is as it should be. If it comes later, the handler has forgotten the headers by
then: it answers as if there were no body, and the body stays in the buffer.
-/

namespace HttpsServerSim

open HttpParser

/-- A request without a transfer encoding, and with one length at most. -/
structure EchoRequest where
  line : HttpLine
  method : Bytes
  path : Bytes
  line_short : line.1.length < maxLineLen
  line_parses : splitRequestLine line.1 = some (method, path, ascii "HTTP/1.1")
  headerLines : List HttpLine
  fields : List (Bytes × Bytes)
  areLines : List.Forall₂ IsHeaderLine headerLines fields
  headers_few : headerLines.length ≤ maxHeaders
  names_noNul : ∀ field ∈ fields, (0 : UInt8) ∉ field.1
  no_encoding : ∀ field ∈ fields, ¬ SameLetters field.1 transferEncoding
  body : Bytes
  body_small : body.length ≤ maxBodySize
  length : (body = [] ∧ ∀ field ∈ fields, ¬ SameLetters field.1 contentLengthName) ∨
    ∃ before field after, fields = before ++ field :: after ∧
      SameLetters field.1 contentLengthName ∧
      (∀ other ∈ before ++ after, ¬ SameLetters other.1 contentLengthName) ∧
      IsDecimal field.2 body.length

/-- What is sent back: the body, or `OK` if there is none. -/
def echo (body : Bytes) : Bytes := if body = [] then ascii "OK" else body

/-- The response that a request with this body asks for. -/
def echoResponse (body : Bytes) : Bytes :=
  ascii "HTTP/1.1 200 OK\r\nContent-Type: text/plain\r\nContent-Length: " ++
    toDecimal (echo body).length ++ ascii "\r\n\r\n" ++ echo body

theorem replyBody_eq_echo {body : Bytes} (small : body.length ≤ maxBodySize) :
    Http1Handler.replyBody body = echo body := by
  have limit : maxBodySize < 2 ^ 32 := by decide
  have counted : body.length % 2 ^ 32 = body.length := Nat.mod_eq_of_lt (by omega)
  rw [Http1Handler.replyBody, counted, List.take_length, echo]
  by_cases empty : body = []
  · simp [empty]
  · rw [if_pos (List.length_pos_of_ne_nil empty), if_neg empty]

theorem responseBytes_reply {body : Bytes} (small : body.length ≤ maxBodySize) :
    responseBytes (Http1Handler.reply body) = echoResponse body := by
  have head : ascii "HTTP/1.1 200 OK\r\nContent-Type: text/plain\r\nContent-Length: " =
      ascii "HTTP/1.1 200 OK" ++ crlf ++
        (headerLine (ascii "Content-Type") (ascii "text/plain") ++
          (ascii "Content-Length" ++ ascii ": ")) := by
    decide
  have ending : ascii "\r\n\r\n" = crlf ++ crlf := by decide
  rw [responseBytes, Http1Handler.responseParts_reply, replyBody_eq_echo small, echoResponse, head,
    ending]
  simp only [headerLine, List.flatten_cons, List.flatten_nil, List.append_nil, List.append_assoc]

namespace EchoRequest

/-- A name without a NUL is looked up as it is. -/
theorem names_iff_sameLetters {key name : Bytes} (noNul : (0 : UInt8) ∉ key)
    (plain : cString name = name) : Names key name ↔ SameLetters key name := by
  have whole : cString key = key := by
    rw [cString, List.takeWhile_eq_self_iff]
    intro char member
    rw [decide_eq_true_eq]
    rintro rfl
    exact noNul member
  rw [names_iff, whole, plain]

theorem findHeader_transferEncoding (request : EchoRequest) :
    findHeader (headersOf request.headerLines) (ascii "Transfer-Encoding") = none := by
  rw [findHeader_eq_none_iff request.areLines]
  intro field member names
  rw [names_iff_sameLetters (request.names_noNul field member) (by decide)] at names
  exact request.no_encoding field member names

/-- The length that is found is that of the body. -/
theorem announced (request : EchoRequest) :
    Http1Handler.contentLengthOf (headersOf request.headerLines) = some request.body.length := by
  have limit : maxBodySize < 2 ^ 64 := by decide
  have small := request.body_small
  have namesIff {field : Bytes × Bytes} (member : field ∈ request.fields) :
      Names field.1 (ascii "Content-Length") ↔ SameLetters field.1 contentLengthName :=
    names_iff_sameLetters (request.names_noNul field member) (by decide)
  rw [Http1Handler.contentLengthOf]
  rcases request.length with ⟨empty, noField⟩ | ⟨before, field, after, fieldsEq, isLength,
    others, decimal⟩
  · have notFound : findHeader (headersOf request.headerLines) (ascii "Content-Length") =
        none := by
      rw [findHeader_eq_none_iff request.areLines]
      intro field member names
      exact noField field member ((namesIff member).mp names)
    rw [notFound, empty]
    rfl
  · have present : field ∈ request.fields := by
      rw [fieldsEq]
      exact List.mem_append_right before List.mem_cons_self
    cases found : findHeader (headersOf request.headerLines) (ascii "Content-Length") with
    | none =>
        rw [findHeader_eq_none_iff request.areLines] at found
        exact absurd ((namesIff present).mpr isLength) (found field present)
    | some value =>
        rcases exists_of_findHeader request.areLines found with ⟨other, member, names, valueEq⟩
        have isOther := (namesIff member).mp names
        have same : other = field := by
          rw [fieldsEq, List.mem_append, List.mem_cons] at member
          rcases member with inBefore | same | inAfter
          · exact absurd isOther (others other (List.mem_append_left after inBefore))
          · exact same
          · exact absurd isOther (others other (List.mem_append_right before inAfter))
        rw [← valueEq, same]
        exact decimal.strtoull (by omega)

/-- The request as one of those that the handler parses. -/
def toWellFormed (request : EchoRequest) : WellFormedRequest where
  line := request.line
  method := request.method
  path := request.path
  headerLines := request.headerLines
  body := request.body
  line_short := request.line_short
  line_parses := request.line_parses
  headers_valid := validHeader_of_areLines request.areLines
  headers_few := request.headers_few
  not_chunked := by rw [Http1Handler.isChunked, request.findHeader_transferEncoding]
  announced := request.announced

/-- The header lines with their line ends. -/
def headerBytes (request : EchoRequest) : Bytes := request.headerLines.flatMap HttpLine.encode

def bytes (request : EchoRequest) : Bytes :=
  request.line.encode ++ (request.headerBytes ++ (crlf ++ request.body))

/-- Where the header lines start and end, and where the body starts. -/
def headersStart (request : EchoRequest) : ℕ := request.line.encode.length

def headersEnd (request : EchoRequest) : ℕ := request.headersStart + request.headerBytes.length

def bodyStart (request : EchoRequest) : ℕ := request.headersEnd + 2

theorem head_toWellFormed (request : EchoRequest) :
    request.toWellFormed.head = request.line.encode ++ (request.headerBytes ++ crlf) := by
  simp [WellFormedRequest.head, WellFormedRequest.headLines, WellFormedRequest.blank,
    HttpLine.encode, toWellFormed, headerBytes]

theorem length_head (request : EchoRequest) :
    request.toWellFormed.head.length = request.bodyStart := by
  rw [head_toWellFormed, bodyStart, headersEnd, headersStart, List.length_append,
    List.length_append, crlf, List.length_cons, List.length_cons, List.length_nil]
  omega

/-- The request arrives in these reads, and in the last of them the rest after it. The header lines
arrive in one read. -/
structure Delivery (request : EchoRequest) (pieces : List Bytes) (rest : Bytes) : Prop where
  readable : Http1Handler.Readable pieces
  arrives : ∃ before last, pieces = before ++ [last ++ rest] ∧ last ≠ [] ∧
    before.flatten ++ last = request.bytes
  together : Uncut pieces request.headersStart request.headersEnd

end EchoRequest

namespace Http1Handler

/-- What `on_read` returns when the bytes arrive. -/
def deliverStatus (handler : Http1Handler PlainTls) (piece : Bytes) : ProtocolStatus :=
  ({ handler with tlsHandler := handler.tlsHandler.arrive piece }).onRead.1

end Http1Handler

namespace EchoRequest

open Http1Handler

/-- The request has been answered, and nothing else has. -/
structure Echoed (request : EchoRequest) (pieces : List Bytes) (rest : Bytes) : Prop where
  written : (connected.deliverAll pieces).tlsHandler.written = [echoResponse request.body]
  statuses : EveryStep (fun before piece => (connected.deliverAll before).deliverStatus piece = .ok)
    pieces
  state : (connected.deliverAll pieces).state = .expectRequestLine
  contents : (connected.deliverAll pieces).plaintextBuffer.contents = rest

end EchoRequest

namespace Http1Handler

/-! ## The last read of a request -/

/-- The handler has answered a request with this body, and waits for the next with the rest. -/
structure Echoes (base handler : Http1Handler PlainTls) (body rest : Bytes) : Prop where
  state : handler.state = .expectRequestLine
  contents : handler.plaintextBuffer.contents = rest
  written : handler.tlsHandler.written = base.tlsHandler.written ++ [responseBytes (reply body)]

theorem expectComplete_echoes {base handler : Http1Handler PlainTls} {body rest : Bytes}
    (listening : Listening base handler) (bodyEq : handler.request.body = body)
    (contentsEq : handler.plaintextBuffer.contents = rest) :
    Echoes base handler.expectComplete.2 body rest := by
  rw [expectComplete_plain listening.connSet listening.response]
  refine ⟨rfl, contentsEq, ?_⟩
  simp only [answered, listening.written, bodyEq]

/-- The rest of the body arrives, and more with it. -/
theorem expectBody_echoes {request : WellFormedRequest} {base handler : Http1Handler PlainTls}
    {done fresh rest : Bytes} (listening : Listening base handler)
    (requestEq : handler.request = { request.message with body := done })
    (contentsEq : handler.plaintextBuffer.contents = fresh ++ rest)
    (within : request.body = done ++ fresh) :
    Echoes base handler.expectBody.2 request.body rest := by
  have bodyLt := request.length_body_lt
  have lengthEq : request.body.length = done.length + fresh.length := by
    rw [within, List.length_append]
  have readableEq : handler.plaintextBuffer.readableBytes = fresh.length + rest.length := by
    rw [← Buffer.length_contents, contentsEq, List.length_append]
  have bodyEq : handler.request.body = done := by
    rw [requestEq]
  have announcedEq : handler.request.contentLength = request.body.length := by
    rw [requestEq]
    rfl
  have toRead : min handler.plaintextBuffer.readableBytes
      ((request.body.length + 2 ^ 64 - done.length % 2 ^ 64) % 2 ^ 64) = fresh.length := by
    rw [readableEq]
    omega
  have taken : handler.plaintextBuffer.contents.take fresh.length = fresh := by
    rw [contentsEq, List.take_left]
  have skipped : (handler.plaintextBuffer.skip fresh.length).contents = rest := by
    rw [Buffer.contents_skip, contentsEq, List.drop_left]
  simp only [expectBody, bodyEq, announcedEq, toRead, taken, ← within, if_true]
  apply expectComplete_echoes _ rfl skipped
  exact listening.of_same rfl rfl rfl rfl

/-- The head is complete with the whole body in the buffer, and more. -/
theorem headersComplete_echoes {request : WellFormedRequest} {base handler : Http1Handler PlainTls}
    {rest : Bytes} (listening : Listening base handler)
    (requestEq : handler.request =
      { request.opened with headers := headersOf request.headerLines })
    (contentsEq : handler.plaintextBuffer.contents = request.body ++ rest) :
    Echoes base handler.headersComplete.2 request.body rest := by
  have headersEq : handler.request.headers = headersOf request.headerLines := by
    rw [requestEq]
  simp only [headersComplete, headersEq, request.not_chunked, request.announced,
    Bool.false_eq_true, if_false]
  split_ifs with announced
  · have within : request.body = [] ++ request.body := (List.nil_append _).symm
    refine expectBody_echoes ?_ ?_ ?_ within
    · exact listening.of_same rfl rfl rfl rfl
    · rw [requestEq]
      rfl
    · exact contentsEq
  · have noBody : request.body = [] := by
      rw [← List.length_eq_zero_iff]
      omega
    rw [noBody, List.nil_append] at contentsEq
    refine expectComplete_echoes ?_ ?_ ?_
    · exact listening.of_same rfl rfl rfl rfl
    · rw [noBody, requestEq]
      rfl
    · exact contentsEq

/-- Without any header the request is answered as one without a body. -/
theorem headersComplete_forgetful {base handler : Http1Handler PlainTls} {opened : HttpRequest}
    {rest : Bytes} (listening : Listening base handler) (noBody : opened.body = [])
    (requestEq : handler.request = { opened with headers := headersOf [] })
    (contentsEq : handler.plaintextBuffer.contents = rest) :
    Echoes base handler.headersComplete.2 [] rest := by
  have noChunks : isChunked (headersOf []) = false := by decide +kernel
  have noLength : contentLengthOf (headersOf []) = some 0 := by decide +kernel
  have headersEq : handler.request.headers = headersOf [] := by
    rw [requestEq]
  simp only [headersComplete, headersEq, noChunks, noLength, Bool.false_eq_true, if_false,
    Nat.lt_irrefl]
  refine expectComplete_echoes ?_ ?_ ?_
  · exact listening.of_same rfl rfl rfl rfl
  · rw [requestEq]
    exact noBody
  · exact contentsEq

/-- The last read of a request whose body has begun to arrive. -/
theorem BodyPhase.deliver_last {request : WellFormedRequest} {base handler : Http1Handler PlainTls}
    {done last rest : Bytes} (phase : BodyPhase request base handler done) (nonempty : last ≠ [])
    (short : (last ++ rest).length ≤ tempBufferSize) (within : request.body = done ++ last) :
    Echoes base (handler.deliver (last ++ rest)) request.body rest := by
  rcases phase with ⟨complete, _⟩ | ⟨_, listening, state, requestEq, contentsEq⟩
  · rw [complete] at within
    exact absurd (List.self_eq_append_right.mp within) nonempty
  · have small : handler.plaintextBuffer.contents.length < 8194 := by
      rw [contentsEq]
      decide
    have arrives : last ++ rest ≠ [] := List.append_ne_nil_of_left_ne_nil nonempty rest
    rcases exists_loaded listening.drained arrives short small with ⟨loaded, load, delivers⟩
    have loadedEq := load.contents
    rw [contentsEq, List.nil_append] at loadedEq
    have parses : loaded.parse = loaded.expectBody := by
      rw [parse, load.state, state]
    rw [delivers, parses]
    exact expectBody_echoes (load.listening listening) (load.request.trans requestEq) loadedEq
      within

/-- The reads of a request whose body has begun to arrive. -/
theorem BodyPhase.deliverAll_last {request : WellFormedRequest}
    {base handler : Http1Handler PlainTls} {done last rest : Bytes} {pieces : List Bytes}
    (phase : BodyPhase request base handler done) (nonempty : last ≠ [])
    (readable : Readable (pieces ++ [last ++ rest]))
    (within : request.body = done ++ (pieces.flatten ++ last)) :
    Echoes base (handler.deliverAll (pieces ++ [last ++ rest])) request.body rest := by
  induction pieces generalizing handler done with
  | nil => exact phase.deliver_last nonempty readable.of_cons.1 within
  | cons piece pieces ih =>
      rcases readable.of_cons with ⟨short, laterReadable⟩
      rw [List.flatten_cons, List.append_assoc] at within
      have next := phase.deliver short within
      rw [← List.append_assoc] at within
      exact ih next laterReadable within

/-! ## Which header lines are lost -/

section Lost

variable {request : WellFormedRequest} {delivered missing : Bytes}

theorem flatMap_linesBefore (first : HttpLine) (headers : List HttpLine)
    (linesEq : (HttpLine.framing.parse delivered).1 = first :: headers) :
    delivered.length = first.encode.length + (headers.flatMap HttpLine.encode).length +
      (HttpLine.framing.parse delivered).2.length := by
  have whole := HttpLine.framing.flatMap_parse_append HttpLine.eq_encode_of_split delivered
  have lengths := congrArg List.length whole
  rw [linesEq, List.flatMap_cons, List.length_append, List.length_append] at lengths
  exact lengths.symm

/-- Before the request line is over, no header line is. -/
theorem linesBefore_of_early (cut : delivered ++ missing = request.head)
    (unfinished : missing ≠ []) (early : delivered.length ≤ request.line.encode.length) :
    linesBefore delivered = [] := by
  rcases HeadPhase.exists_later cut unfinished with ⟨later, linesEq, _, nonempty⟩
  rcases WellFormedRequest.lines_of_headLines_eq linesEq nonempty with
    nothing | ⟨headers, others, seenEq, _, _⟩
  · rw [linesBefore, nothing]
    rfl
  · have lengthEq := flatMap_linesBefore request.line headers seenEq
    rw [linesBefore, seenEq, List.tail_cons]
    cases headers with
    | nil => rfl
    | cons header headers =>
        rw [List.flatMap_cons, List.length_append, HttpLine.encode, HttpLine.encode,
          List.length_append, List.length_append, crlf, List.length_cons] at lengthEq
        rw [HttpLine.encode, List.length_append, crlf, List.length_cons] at early
        omega

/-- After the last header line, all of them are over. -/
theorem linesBefore_of_late (cut : delivered ++ missing = request.head) (unfinished : missing ≠ [])
    (late : request.line.encode.length + (request.headerLines.flatMap HttpLine.encode).length ≤
      delivered.length) :
    linesBefore delivered = request.headerLines := by
  have incomplete := HttpLine.findCrlf_parse_rest delivered
  rcases HeadPhase.exists_later cut unfinished with ⟨later, linesEq, restEq, nonempty⟩
  rcases WellFormedRequest.lines_of_headLines_eq linesEq nonempty with
    nothing | ⟨headers, others, seenEq, headersEq, laterEq⟩
  · -- not even the request line is over
    have whole := HttpLine.framing.flatMap_parse_append HttpLine.eq_encode_of_split delivered
    rw [nothing, List.flatMap_nil, List.nil_append] at whole
    rw [nothing, List.nil_append] at linesEq
    rw [← linesEq, WellFormedRequest.headLines, List.flatMap_cons] at restEq
    have short := HttpLine.length_lt_of_incomplete incomplete restEq
    rw [whole] at short
    rw [HttpLine.encode, List.length_append, crlf, List.length_cons, List.length_cons,
      List.length_nil] at late
    omega
  · have lengthEq := flatMap_linesBefore request.line headers seenEq
    rw [linesBefore, seenEq, List.tail_cons, headersEq]
    cases others with
    | nil => exact (List.append_nil headers).symm
    | cons other others =>
        rw [laterEq, List.cons_append, List.flatMap_cons] at restEq
        have short := HttpLine.length_lt_of_incomplete incomplete restEq
        rw [headersEq, List.flatMap_append, List.flatMap_cons, List.length_append,
          List.length_append] at late
        have encodeLength : other.encode.length = other.1.length + 2 := by
          simp [HttpLine.encode, crlf]
        omega

end Lost

/-! ## What a read may do -/

/-- Nothing that was written is taken back, the handler waits for another request line only after it
has written something more, and no error is reported but in state `ERROR`. -/
structure FairStep (before : Http1Handler PlainTls)
    (result : ProtocolStatus × Http1Handler PlainTls) : Prop where
  kept : before.tlsHandler.written.length ≤ result.2.tlsHandler.written.length
  next : result.2.state = .expectRequestLine →
    before.tlsHandler.written.length < result.2.tlsHandler.written.length
  status : result.2.state ≠ .error → result.1 = .ok

theorem FairStep.of_middle {before middle : Http1Handler PlainTls}
    {result : ProtocolStatus × Http1Handler PlainTls} (fair : FairStep middle result)
    (tls : middle.tlsHandler = before.tlsHandler) : FairStep before result := by
  rcases fair with ⟨kept, next, status⟩
  rw [tls] at kept next
  exact ⟨kept, next, status⟩

theorem fairStep_of_waiting {before after : Http1Handler PlainTls}
    (tls : after.tlsHandler = before.tlsHandler) (state : after.state ≠ .expectRequestLine) :
    FairStep before (.ok, after) := by
  refine ⟨?_, fun waiting => absurd waiting state, fun _ => rfl⟩
  rw [tls]

theorem reject_fairStep (handler : Http1Handler PlainTls) : FairStep handler handler.reject := by
  have failed := (reject_progress handler).2.2
  refine ⟨?_, ?_, fun alive => absurd failed alive⟩
  · simp only [reject, generateResponse, PlainTls.write_eq]
    split
    · exact Nat.le_refl _
    · rw [List.length_append]
      exact Nat.le_add_right _ _
  · rw [failed]
    exact Http1ParseState.noConfusion

theorem Serving.expectComplete_fairStep {handler : Http1Handler PlainTls}
    (serving : handler.Serving) : FairStep handler handler.expectComplete := by
  rcases serving.response with ⟨stale, _, responseEq⟩
  rw [expectComplete_plain serving.connSet responseEq]
  have more : handler.answered.tlsHandler.written.length =
      handler.tlsHandler.written.length + 1 := by
    rw [answered, List.length_append, List.length_singleton]
  exact ⟨more.ge.trans' (Nat.le_succ _), fun _ => more.ge, fun _ => rfl⟩

theorem Serving.fairStep_of_ends {handler : Http1Handler PlainTls}
    {result : ProtocolStatus × Http1Handler PlainTls} (serving : handler.Serving)
    (ends : ParseEnd handler result) : FairStep handler result := by
  cases ends with
  | waits carried state =>
      refine fairStep_of_waiting carried.tlsHandler ?_
      rcases state with state | state <;> rw [state] <;> exact Http1ParseState.noConfusion
  | refuses carried => exact (reject_fairStep _).of_middle carried.tlsHandler
  | completes carried =>
      exact (serving.of_carried carried).expectComplete_fairStep.of_middle carried.tlsHandler

theorem Orderly.parse_fairStep {handler : Http1Handler PlainTls} (orderly : handler.Orderly) :
    (handler.state = .expectRequestLine ∧ StillWaits handler handler.parse) ∨
      FairStep handler handler.parse := by
  by_cases failed : handler.state = .error
  · right
    rw [parse, failed]
    exact reject_fairStep handler
  · rcases parse_ends handler with waits | ends
    · exact Or.inl waits
    · exact Or.inr ((orderly.serving failed).fairStep_of_ends ends)

/-- The handler in `on_read` when the piece is in its buffer. -/
def holding (handler : Http1Handler PlainTls) (piece : Bytes) : Http1Handler PlainTls :=
  { handler with
    plaintextBuffer := (handler.plaintextBuffer.write .always piece).2
    parser := { bufferSet := true } }

theorem Orderly.holding {handler : Http1Handler PlainTls} (orderly : handler.Orderly)
    (piece : Bytes) : (handler.holding piece).Orderly :=
  ⟨orderly.connSet, orderly.drained, orderly.response, orderly.settled, orderly.request⟩

/-- A read that leaves no error behind reports none. -/
theorem Orderly.deliverStatus_of_alive {handler : Http1Handler PlainTls}
    (orderly : handler.Orderly) {piece : Bytes} (short : piece.length ≤ tempBufferSize)
    (alive : (handler.deliver piece).state ≠ .error) : handler.deliverStatus piece = .ok := by
  by_cases empty : piece = []
  · rw [empty, deliverStatus]
    simp only [onRead, TlsLayer.read, PlainTls.arrive, orderly.drained, List.append_nil,
      List.isEmpty_nil, if_true]
  · rw [deliver_eq_parse orderly.drained empty short] at alive
    rw [deliverStatus, onRead_arrive orderly.drained empty short]
    rcases (orderly.holding piece).parse_fairStep with ⟨_, waits⟩ | fair
    · exact waits.status
    · exact fair.status alive

/-- An error stays. -/
theorem Orderly.error_deliver {handler : Http1Handler PlainTls} (orderly : handler.Orderly)
    {piece : Bytes} (short : piece.length ≤ tempBufferSize) (failed : handler.state = .error) :
    (handler.deliver piece).state = .error := by
  by_cases empty : piece = []
  · rw [empty, deliver_nil orderly.drained]
    exact failed
  · rw [deliver_eq_parse orderly.drained empty short, parse, failed]
    exact (reject_progress _).2.2

theorem Orderly.deliverAll_orderly {handler : Http1Handler PlainTls} (orderly : handler.Orderly)
    {pieces : List Bytes} (readable : Readable pieces) : (handler.deliverAll pieces).Orderly := by
  induction pieces generalizing handler with
  | nil => exact orderly
  | cons piece pieces ih =>
      rcases readable.of_cons with ⟨short, laterReadable⟩
      exact ih (orderly.deliver_orderly ⟨piece, short⟩) laterReadable

/-- If no error is left behind in the end, no read has reported one. -/
theorem Orderly.statuses_of_alive {handler : Http1Handler PlainTls} (orderly : handler.Orderly)
    {pieces : List Bytes} (readable : Readable pieces)
    (alive : (handler.deliverAll pieces).state ≠ .error) :
    EveryStep (fun before piece => (handler.deliverAll before).deliverStatus piece = .ok)
      pieces := by
  induction pieces using List.reverseRecOn with
  | nil => exact everyStep_nil
  | append_singleton pieces piece ih =>
      rcases readable.of_append with ⟨earlierReadable, lastReadable⟩
      have short := lastReadable.of_cons.1
      have before := orderly.deliverAll_orderly earlierReadable
      rw [deliverAll_append] at alive
      refine everyStep_concat.mpr ⟨ih earlierReadable ?_, ?_⟩
      · intro failed
        exact alive (before.error_deliver short failed)
      · exact before.deliverStatus_of_alive short alive

/-! ## A body that is left in the buffer -/

/-- Something has been answered. If the handler waits for a request line, it has answered once more,
or all the bytes that were left then and have come since are in its buffer. -/
structure Overdue (handler : Http1Handler PlainTls) (left : ℕ) : Prop where
  orderly : handler.Orderly
  answered : 1 ≤ handler.tlsHandler.written.length
  left : handler.state = .expectRequestLine →
    1 < handler.tlsHandler.written.length ∨
      min left Buffer.maxCapacity ≤ handler.plaintextBuffer.contents.length

theorem Overdue.deliver {handler : Http1Handler PlainTls} {left : ℕ}
    (overdue : handler.Overdue left) {piece : Bytes} (short : piece.length ≤ tempBufferSize) :
    (handler.deliver piece).Overdue (left + piece.length) := by
  have orderly := overdue.orderly
  have answered := overdue.answered
  have next := orderly.deliver_orderly ⟨piece, short⟩
  by_cases empty : piece = []
  · rw [empty, deliver_nil orderly.drained]
    exact overdue
  · rw [deliver_eq_parse orderly.drained empty short] at next ⊢
    rcases (orderly.holding piece).parse_fairStep with ⟨state, waits⟩ | fair
    · have tlsEq : ((handler.holding piece).parse.2).tlsHandler = handler.tlsHandler :=
        waits.carried.tlsHandler
      have limit : Buffer.maxCapacity + tempBufferSize < 2 ^ 64 := by decide
      have readable := handler.plaintextBuffer.readableBytes_le
      have contentsEq : ((handler.holding piece).parse.2).plaintextBuffer.contents =
          (handler.plaintextBuffer.contents ++ piece).take Buffer.maxCapacity := by
        rw [waits.buffer]
        exact handler.plaintextBuffer.contents_write (by omega)
      refine ⟨next, ?_, fun _ => ?_⟩
      · exact answered.trans_eq (congrArg (fun tls => tls.written.length) tlsEq).symm
      · rcases overdue.left state with more | kept
        · left
          exact more.trans_eq (congrArg (fun tls => tls.written.length) tlsEq).symm
        · right
          change _ ≤ ((handler.holding piece).parse.2).plaintextBuffer.contents.length
          rw [contentsEq, List.length_take, List.length_append]
          omega
    · refine ⟨next, answered.trans fair.kept, fun state => Or.inl ?_⟩
      exact Nat.lt_of_le_of_lt answered (fair.next state)

theorem Overdue.deliverAll {handler : Http1Handler PlainTls} {left : ℕ}
    (overdue : handler.Overdue left) {pieces : List Bytes} (readable : Readable pieces) :
    (handler.deliverAll pieces).Overdue (left + pieces.flatten.length) := by
  induction pieces generalizing handler left with
  | nil => exact overdue
  | cons piece pieces ih =>
      rcases readable.of_cons with ⟨short, laterReadable⟩
      rw [List.flatten_cons, List.length_append, ← Nat.add_assoc]
      exact ih (overdue.deliver short) laterReadable

end Http1Handler

namespace EchoRequest

open Http1Handler

/-! ## Deliveries -/

section Deliveries

variable {request : EchoRequest} {pieces : List Bytes} {rest : Bytes}

theorem bytes_eq (request : EchoRequest) :
    request.bytes = request.toWellFormed.head ++ request.body := by
  rw [bytes, head_toWellFormed, List.append_assoc, List.append_assoc]

theorem Delivery.flatten_eq (delivery : request.Delivery pieces rest) :
    pieces.flatten = request.toWellFormed.head ++ (request.body ++ rest) := by
  rcases delivery.arrives with ⟨before, last, rfl, _, arrives⟩
  rw [List.flatten_append, List.flatten_singleton, ← List.append_assoc, arrives, bytes_eq,
    List.append_assoc]

/-- What an answered request leaves behind. -/
theorem Delivery.echoed_of_echoes (delivery : request.Delivery pieces rest)
    (echoes : Echoes connected (connected.deliverAll pieces) request.body rest) :
    request.Echoed pieces rest := by
  refine ⟨?_, ?_, echoes.state, echoes.contents⟩
  · rw [echoes.written, responseBytes_reply request.body_small]
    rfl
  · apply orderly_connected.statuses_of_alive delivery.readable
    rw [echoes.state]
    exact Http1ParseState.noConfusion

/-- The read that completes the head is the last one, or it brings a part of the body and the last
one brings the end of it. -/
theorem Delivery.last_cases {before after : List Bytes} {piece fresh : Bytes}
    (delivery : request.Delivery pieces rest) (piecesEq : pieces = before ++ piece :: after)
    (moreEq : request.body ++ rest = fresh ++ after.flatten) :
    (after = [] ∧ fresh = request.body ++ rest) ∨
      ∃ middle last, after = middle ++ [last ++ rest] ∧ last ≠ [] ∧
        request.body = fresh ++ (middle.flatten ++ last) := by
  rcases delivery.arrives with ⟨front, last, frontEq, nonempty, _⟩
  rcases List.eq_nil_or_concat after with rfl | ⟨middle, final, rfl⟩
  · left
    rw [List.flatten_nil, List.append_nil] at moreEq
    exact ⟨rfl, moreEq.symm⟩
  · right
    rw [List.concat_eq_append] at piecesEq moreEq ⊢
    have split : (before ++ piece :: middle) ++ [final] = front ++ [last ++ rest] := by
      rw [← frontEq, piecesEq, List.append_assoc, List.cons_append]
    have finalEq : final = last ++ rest := by
      have same := (List.append_inj' split rfl).2
      rw [List.cons.injEq] at same
      exact same.1
    refine ⟨middle, last, by rw [finalEq], nonempty, ?_⟩
    rw [List.flatten_append, List.flatten_singleton, finalEq, ← List.append_assoc,
      ← List.append_assoc] at moreEq
    rw [List.append_cancel_right moreEq, List.append_assoc]

/-- If no header line is lost, the request is answered. -/
theorem Delivery.echoes_of_early {before after : List Bytes} {piece fresh : Bytes}
    {next : Http1Handler PlainTls} (delivery : request.Delivery pieces rest)
    (piecesEq : pieces = before ++ piece :: after)
    (moreEq : request.body ++ rest = fresh ++ after.flatten) (listening : Listening connected next)
    (requestEq : next.request =
      { request.toWellFormed.opened with headers := headersOf request.headerLines })
    (contentsEq : next.plaintextBuffer.contents = fresh) :
    Echoes connected (next.headersComplete.2.deliverAll after) request.body rest := by
  have readable := delivery.readable
  rcases delivery.last_cases piecesEq moreEq with ⟨rfl, freshEq⟩ | ⟨middle, last, rfl, nonempty,
    bodyEq⟩
  · have wellFormed : Echoes connected next.headersComplete.2 request.toWellFormed.body rest :=
      headersComplete_echoes listening requestEq (contentsEq.trans freshEq)
    exact wellFormed
  · rw [piecesEq] at readable
    have phase : BodyPhase request.toWellFormed connected next.headersComplete.2 fresh :=
      headersComplete_bodyPhase listening requestEq rfl contentsEq bodyEq
    exact phase.deliverAll_last nonempty readable.of_append.2.of_cons.2 bodyEq

/-- If all header lines are lost and there was no body, the request is answered. -/
theorem Delivery.echoes_of_no_body {before after : List Bytes} {piece fresh : Bytes}
    {next : Http1Handler PlainTls} (delivery : request.Delivery pieces rest)
    (piecesEq : pieces = before ++ piece :: after)
    (moreEq : request.body ++ rest = fresh ++ after.flatten) (noBody : request.body = [])
    (echoes : Echoes connected next [] fresh) :
    Echoes connected (next.deliverAll after) request.body rest := by
  rcases delivery.last_cases piecesEq moreEq with ⟨rfl, freshEq⟩ | ⟨middle, last, _, nonempty,
    bodyEq⟩
  · rw [noBody, List.nil_append] at freshEq
    rw [noBody, ← freshEq]
    exact echoes
  · rw [noBody, eq_comm, List.append_eq_nil_iff, List.append_eq_nil_iff] at bodyEq
    exact absurd bodyEq.2.2 nonempty

/-- If all header lines are lost, a body is left in the buffer. -/
theorem Delivery.not_echoed_of_late {before after : List Bytes} {piece fresh : Bytes}
    {next : Http1Handler PlainTls} (delivery : request.Delivery pieces rest)
    (piecesEq : pieces = before ++ piece :: after)
    (moreEq : request.body ++ rest = fresh ++ after.flatten) (someBody : request.body ≠ [])
    (orderly : next.Orderly) (echoes : Echoes connected next [] fresh)
    (delivers : connected.deliverAll pieces = next.deliverAll after) :
    ¬ request.Echoed pieces rest := by
  intro echoed
  have readable := delivery.readable
  have restShort : rest.length ≤ tempBufferSize := by
    rcases delivery.arrives with ⟨front, last, frontEq, _, _⟩
    rw [frontEq] at readable
    have short := readable.of_append.2.of_cons.1
    rw [List.length_append] at short
    omega
  have bodyLength := List.length_pos_of_ne_nil someBody
  have left : next.Overdue fresh.length := by
    refine ⟨orderly, ?_, fun _ => Or.inr ?_⟩
    · rw [echoes.written, List.length_append, List.length_singleton]
      exact Nat.le_add_left _ _
    · rw [echoes.contents]
      exact Nat.min_le_left _ _
  rw [piecesEq] at readable
  have overdue := left.deliverAll readable.of_append.2.of_cons.2
  rw [← List.length_append, ← moreEq, ← delivers, List.length_append] at overdue
  have limit : tempBufferSize < Buffer.maxCapacity := by decide
  rcases overdue.left echoed.state with more | kept
  · rw [echoed.written] at more
    exact Nat.lt_irrefl 1 more
  · rw [echoed.contents] at kept
    omega

theorem headerBytes_ne_nil (someBody : request.body ≠ []) : request.headerBytes ≠ [] := by
  rcases request.length with ⟨empty, _⟩ | ⟨before, field, after, fieldsEq, _⟩
  · exact absurd empty someBody
  · have lengths := request.areLines.length_eq
    cases linesEq : request.headerLines with
    | nil =>
        rw [linesEq, fieldsEq, List.length_append, List.length_cons, List.length_nil] at lengths
        omega
    | cons line lines =>
        simp [headerBytes, linesEq, HttpLine.encode, crlf]

/-- A request whose header lines arrive in one read is answered as it should be, if and only if it
has no body or the end of its head arrives in the same read. -/
theorem echoed_iff (delivery : request.Delivery pieces rest) :
    request.Echoed pieces rest ↔
      request.body = [] ∨ Uncut pieces request.headersStart request.bodyStart := by
  rcases idle_connected.exists_head delivery.readable delivery.flatten_eq with
    ⟨before, missing, fresh, after, lines, next, piecesEq, missingEq, unfinished, moreEq, linesEq,
      listening, requestEq, contentsEq, delivers⟩
  have headLength := request.length_head
  rw [← missingEq, List.length_append] at headLength
  have missingLength := List.length_pos_of_ne_nil unfinished
  rcases delivery.together before _ piecesEq with early | late
  · have noneLost := linesBefore_of_early missingEq unfinished early
    rw [noneLost, List.nil_append] at linesEq
    have echoes := delivery.echoes_of_early piecesEq moreEq listening
      (requestEq.trans (by rw [← linesEq]; rfl)) contentsEq
    rw [← delivers] at echoes
    have together : Uncut pieces request.headersStart request.bodyStart := by
      rw [piecesEq]
      apply uncut_of_piece early
      rw [List.length_append]
      omega
    exact iff_of_true (delivery.echoed_of_echoes echoes) (Or.inr together)
  · have allLost := linesBefore_of_late missingEq unfinished late
    rw [allLost, List.self_eq_append_right] at linesEq
    rw [linesEq] at requestEq
    have forgetful : Echoes connected next.headersComplete.2 [] fresh :=
      headersComplete_forgetful listening rfl requestEq contentsEq
    by_cases noBody : request.body = []
    · have echoes := delivery.echoes_of_no_body piecesEq moreEq noBody forgetful
      rw [← delivers] at echoes
      exact iff_of_true (delivery.echoed_of_echoes echoes) (Or.inl noBody)
    · have serving : next.Serving := by
        refine ⟨listening.connSet, listening.drained, [], by decide, ?_⟩
        rw [listening.response]
      have orderly := serving.orderly_of_ends (headersComplete_ends next)
      refine iff_of_false ?_ ?_
      · exact delivery.not_echoed_of_late piecesEq moreEq noBody orderly forgetful delivers
      · have someHeaders := List.length_pos_of_ne_nil (headerBytes_ne_nil noBody)
        rintro (empty | together)
        · exact noBody empty
        · rcases together before _ piecesEq with inLine | inBody
          · rw [headersEnd] at late
            omega
          · omega

end Deliveries

/-! ## A request with a body of two bytes -/

def putHi : EchoRequest where
  line := ⟨ascii "PUT / HTTP/1.1", by decide⟩
  method := ascii "PUT"
  path := ascii "/"
  line_short := by decide
  line_parses := by decide
  headerLines := [⟨ascii "content-length: 2", by decide⟩]
  fields := [(ascii "content-length", ascii "2")]
  areLines := .cons ((isHeaderLine_iff _ _).mpr ⟨by decide, by decide⟩) .nil
  headers_few := by decide
  names_noNul := by decide
  no_encoding := by
    intro field member
    rw [List.mem_singleton.mp member, SameLetters]
    decide
  body := ascii "hi"
  body_small := by decide
  length := by
    refine Or.inr ⟨[], _, [], rfl, ?_, List.forall_mem_nil _, ?_⟩
    · rw [SameLetters]
      decide
    · exact IsDecimal.of_all (by decide) (by decide) (by decide)

/-- The head arrives in one read, the end of the body with the start of another request. -/
theorem echoed_iff_putHi :
    putHi.Echoed
        [ascii "PUT / HTTP/1.1\r\ncontent-length: 2\r\n\r\nh", ascii "iGET"] (ascii "GET") ↔
      putHi.body = [] ∨
        Uncut [ascii "PUT / HTTP/1.1\r\ncontent-length: 2\r\n\r\nh", ascii "iGET"]
          putHi.headersStart putHi.bodyStart := by
  apply echoed_iff
  refine ⟨by decide, ?_, ?_⟩
  · exact ⟨[ascii "PUT / HTTP/1.1\r\ncontent-length: 2\r\n\r\nh"], ascii "i", by decide, by decide,
      by decide⟩
  · apply @uncut_of_piece _ []
    · decide
    · decide

/-- The empty line comes late: the request is answered without its body, which stays behind. -/
theorem late_end_not_echoed :
    putHi.Delivery [ascii "PUT / HTTP/1.1\r\ncontent-length: 2\r\n", ascii "\r\nhi"] [] ∧
      ¬ putHi.Echoed [ascii "PUT / HTTP/1.1\r\ncontent-length: 2\r\n", ascii "\r\nhi"] [] := by
  refine ⟨⟨by decide, ?_, ?_⟩, ?_⟩
  · exact ⟨[ascii "PUT / HTTP/1.1\r\ncontent-length: 2\r\n"], ascii "\r\nhi", by decide, by decide,
      by decide⟩
  · apply @uncut_of_piece _ []
    · decide
    · decide
  · intro echoed
    have behind : (connected.deliverAll
        [ascii "PUT / HTTP/1.1\r\ncontent-length: 2\r\n",
          ascii "\r\nhi"]).plaintextBuffer.contents = ascii "hi" := by
      decide +kernel
    have nothing := echoed.contents
    rw [behind] at nothing
    cases nothing

end EchoRequest

end HttpsServerSim
