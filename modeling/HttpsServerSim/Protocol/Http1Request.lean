import HttpsServerSim.Lib.Segments
import HttpsServerSim.Protocol.Http1Plain

/-!
# One request, in pieces

A well-formed request is a request line, header lines and an empty line, and a body of
the announced length. This file follows the handler through such a request, however it
is cut into reads. Before the head is complete, the buffer holds the incomplete line at
the end of what was delivered, and the complete lines before it have been taken off
(`HeadPhase`). Header lines taken off by an earlier read are not remembered: the read
that completes the head sees the headers that are left. If their fields are those of the
whole head, the body is collected (`BodyPhase`) and the request is answered (`Answered`).
-/

namespace HttpsServerSim

open HttpParser

structure WellFormedRequest where
  line : HttpLine
  method : Bytes
  path : Bytes
  headerLines : List HttpLine
  body : Bytes
  line_short : line.1.length < maxLineLen
  line_parses : splitRequestLine line.1 = some (method, path, ascii "HTTP/1.1")
  headers_valid : ∀ line ∈ headerLines, ValidHeader line
  headers_few : headerLines.length ≤ maxHeaders
  not_chunked : Http1Handler.isChunked (headersOf headerLines) = false
  announced : Http1Handler.contentLengthOf (headersOf headerLines) = some body.length

namespace WellFormedRequest

/-- The empty line at the end of the headers. -/
def blank : HttpLine := ⟨[], rfl⟩

/-- The lines of the head, the empty one included. -/
def headLines (request : WellFormedRequest) : List HttpLine :=
  request.line :: (request.headerLines ++ [blank])

def head (request : WellFormedRequest) : Bytes := request.headLines.flatMap HttpLine.encode

def bytes (request : WellFormedRequest) : Bytes := request.head ++ request.body

/-- The request after its first line has been parsed. -/
def opened (request : WellFormedRequest) : HttpRequest where
  method := request.method
  path := request.path

/-- The request as it should be seen by `handle_complete_request`. -/
def message (request : WellFormedRequest) : HttpRequest :=
  { request.opened with
    headers := headersOf request.headerLines
    body := request.body
    contentLength := request.body.length
    debugToken := (findHeader (headersOf request.headerLines) (ascii "Debug-Token")).getD [] }

/-- Lines that are followed by others in the head are header lines, after the first. -/
theorem lines_of_headLines_eq {request : WellFormedRequest} {seen later : List HttpLine}
    (split : request.headLines = seen ++ later) (unfinished : later ≠ []) :
    seen = [] ∨ ∃ headers others, seen = request.line :: headers ∧
      request.headerLines = headers ++ others ∧ later = others ++ [blank] := by
  cases seen with
  | nil => exact Or.inl rfl
  | cons first headers =>
      right
      rw [headLines, List.cons_append, List.cons.injEq] at split
      rcases split with ⟨rfl, split⟩
      rcases List.eq_nil_or_concat later with rfl | ⟨others, last, rfl⟩
      · exact absurd rfl unfinished
      · rw [List.concat_eq_append, ← List.append_assoc] at split
        rcases List.append_inj' split rfl with ⟨headersEq, lastEq⟩
        cases lastEq
        exact ⟨headers, others, rfl, headersEq, by simp⟩

/-- Of lines that arrive after some others, the first may be the request line; the rest are header
lines. -/
theorem exists_header_lines {request : WellFormedRequest}
    {seen fresh headers others : List HttpLine}
    (linesEq : seen ++ fresh = request.line :: headers)
    (headersEq : request.headerLines = headers ++ others) :
    ∃ before lines, request.headerLines = before ++ lines ++ others ∧
      fresh.flatMap HttpLine.encode =
        (if seen = [] then request.line.encode else []) ++ lines.flatMap HttpLine.encode := by
  cases seen with
  | nil =>
      rw [List.nil_append] at linesEq
      refine ⟨[], headers, headersEq, ?_⟩
      rw [linesEq, List.flatMap_cons, if_pos rfl]
  | cons first before =>
      rw [List.cons_append, List.cons.injEq] at linesEq
      refine ⟨before, fresh, ?_, ?_⟩
      · rw [headersEq, ← linesEq.2]
      · rw [if_neg (List.cons_ne_nil _ _), List.nil_append]

end WellFormedRequest

namespace Http1Handler

/-! ## Steps through the head -/

theorem expectRequestLine_incomplete {handler : Http1Handler PlainTls}
    (ready : handler.parser.bufferSet = true)
    (incomplete : findCrlf handler.plaintextBuffer.contents = none) :
    handler.expectRequestLine = (.ok, handler) := by
  simp [expectRequestLine, readLine_of_incomplete ready incomplete]

theorem expectRequestLine_complete {handler : Http1Handler PlainTls} {request : WellFormedRequest}
    {rest : Bytes} (ready : handler.parser.bufferSet = true)
    (contentsEq : handler.plaintextBuffer.contents = request.line.encode ++ rest) :
    ∃ after : Buffer, after.contents = rest ∧
      handler.expectRequestLine =
        expectHeaders
          { handler with
            state := .expectHeaders
            request :=
              { handler.request with
                method := request.method
                path := request.path
                version := ascii "HTTP/1.1" }
            plaintextBuffer := after } := by
  rcases readLine_of_complete ready contentsEq request.line_short with ⟨after, afterEq, readEq⟩
  refine ⟨after, afterEq, ?_⟩
  have parsed : handler.parser.parseRequestLine request.line.1 =
      (.ok, (request.method, request.path, ascii "HTTP/1.1"), handler.parser) := by
    simp [parseRequestLine, request.line_parses]
  simp only [expectRequestLine, readEq, parsed]
  rfl

theorem expectHeaders_incomplete {handler : Http1Handler PlainTls} {lines : List HttpLine}
    {rest : Bytes} (ready : handler.parser.bufferSet = true)
    (valid : ∀ line ∈ lines, ValidHeader line) (few : lines.length ≤ maxHeaders)
    (contentsEq : handler.plaintextBuffer.contents = lines.flatMap HttpLine.encode ++ rest)
    (incomplete : findCrlf rest = none) :
    ∃ after : Buffer, after.contents = rest ∧
      handler.expectHeaders =
        (.ok,
          { handler with
            request := { handler.request with headers := headersOf lines }
            plaintextBuffer := after }) := by
  rcases parseHeaders_incomplete ready valid few contentsEq incomplete with
    ⟨after, afterEq, parsed⟩
  refine ⟨after, afterEq, ?_⟩
  simp only [expectHeaders, parsed]
  rfl

theorem expectHeaders_complete {handler : Http1Handler PlainTls} {lines : List HttpLine}
    {rest : Bytes} (ready : handler.parser.bufferSet = true)
    (valid : ∀ line ∈ lines, ValidHeader line) (few : lines.length ≤ maxHeaders)
    (contentsEq : handler.plaintextBuffer.contents =
      lines.flatMap HttpLine.encode ++ (crlf ++ rest)) :
    ∃ after : Buffer, after.contents = rest ∧
      handler.expectHeaders =
        headersComplete
          { handler with
            request := { handler.request with headers := headersOf lines }
            plaintextBuffer := after } := by
  rcases parseHeaders_complete ready valid few contentsEq with ⟨after, afterEq, parsed⟩
  refine ⟨after, afterEq, ?_⟩
  simp only [expectHeaders, parsed]
  rfl

/-! ## The head of a request in pieces -/

/-- Nothing has been completed or written since `base`. -/
structure Listening (base handler : Http1Handler PlainTls) : Prop where
  connSet : handler.connSet = true
  drained : handler.tlsHandler.pending = []
  response : handler.response = {}
  completed : handler.completed = base.completed
  written : handler.tlsHandler.written = base.tlsHandler.written

/-- The state, the request and the buffer do not matter for listening. -/
theorem Listening.of_same {base handler after : Http1Handler PlainTls}
    (listening : Listening base handler) (connSet : after.connSet = handler.connSet)
    (tls : after.tlsHandler = handler.tlsHandler) (response : after.response = handler.response)
    (completed : after.completed = handler.completed) : Listening base after where
  connSet := connSet.trans listening.connSet
  drained := by rw [tls, listening.drained]
  response := response.trans listening.response
  completed := completed.trans listening.completed
  written := by rw [tls, listening.written]

/-- The handler after a part of the head has been delivered. -/
structure HeadPhase (request : WellFormedRequest) (base handler : Http1Handler PlainTls)
    (delivered : Bytes) : Prop where
  listening : Listening base handler
  contents : handler.plaintextBuffer.contents = (HttpLine.framing.parse delivered).2
  position :
    ((HttpLine.framing.parse delivered).1 = [] ∧ handler.state = .expectRequestLine ∧
        handler.request = {}) ∨
      ((HttpLine.framing.parse delivered).1 ≠ [] ∧ handler.state = .expectHeaders ∧
        { handler.request with headers := ∅ } = request.opened)

/-- The lines delivered so far and those to come. -/
theorem HeadPhase.exists_later {request : WellFormedRequest} {delivered rest : Bytes}
    (cut : delivered ++ rest = request.head) (unfinished : rest ≠ []) :
    ∃ later, request.headLines = (HttpLine.framing.parse delivered).1 ++ later ∧
      (HttpLine.framing.parse delivered).2 ++ rest = later.flatMap HttpLine.encode ∧
      later ≠ [] := by
  rcases HttpLine.framing.exists_later_of_append_eq HttpLine.eq_encode_of_split cut with
    ⟨later, linesEq, restEq⟩
  refine ⟨later, linesEq, restEq, ?_⟩
  rintro rfl
  exact unfinished (List.append_eq_nil_iff.mp restEq).2

end Http1Handler

theorem HttpLine.findCrlf_parse_rest (input : Bytes) :
    findCrlf (HttpLine.framing.parse input).2 = none :=
  (HttpLine.split_eq_none_iff _).mp (HttpLine.framing.split_parse_rest input)

/-- An incomplete line is shorter than the complete one. -/
theorem HttpLine.length_lt_of_incomplete {rest more later : Bytes} {line : HttpLine}
    (incomplete : findCrlf rest = none) (cut : rest ++ more = line.encode ++ later) :
    rest.length < line.1.length + 2 := by
  by_contra long
  have encodeLength : line.encode.length = line.1.length + 2 := by
    simp [HttpLine.encode, crlf]
  have lineFirst : line.encode <+: rest := by
    have within : line.encode <+: rest ++ more := ⟨later, cut.symm⟩
    exact List.prefix_of_prefix_length_le within (List.prefix_append _ _) (by omega)
  rcases lineFirst with ⟨tail, rfl⟩
  have complete := HttpLine.split_encode line tail
  rw [(HttpLine.split_eq_none_iff _).mpr incomplete] at complete
  cases complete

namespace WellFormedRequest

theorem length_lt_of_mem_headLines {request : WellFormedRequest} {line : HttpLine}
    (member : line ∈ request.headLines) : line.1.length < 8192 := by
  rcases List.mem_cons.mp member with rfl | inHeaders
  · exact request.line_short
  · rcases List.mem_append.mp inHeaders with header | isBlank
    · exact (request.headers_valid line header).1
    · rw [List.mem_singleton.mp isBlank]
      decide

end WellFormedRequest

namespace Http1Handler

theorem HeadPhase.length_contents_lt {request : WellFormedRequest}
    {base handler : Http1Handler PlainTls} {delivered rest : Bytes}
    (phase : HeadPhase request base handler delivered) (cut : delivered ++ rest = request.head)
    (unfinished : rest ≠ []) : handler.plaintextBuffer.contents.length < 8194 := by
  rcases HeadPhase.exists_later cut unfinished with ⟨later, linesEq, restEq, nonempty⟩
  rcases List.exists_cons_of_ne_nil nonempty with ⟨line, others, rfl⟩
  have member : line ∈ request.headLines := by
    rw [linesEq]
    simp
  have short := WellFormedRequest.length_lt_of_mem_headLines member
  have bound := HttpLine.length_lt_of_incomplete (HttpLine.findCrlf_parse_rest delivered)
    (restEq.trans List.flatMap_cons)
  rw [phase.contents]
  omega

/-- `loaded` is the handler with the given bytes in its buffer, ready to parse. -/
structure Loaded (handler loaded : Http1Handler PlainTls) (contents : Bytes) : Prop where
  connSet : loaded.connSet = handler.connSet
  tlsHandler : loaded.tlsHandler = handler.tlsHandler
  state : loaded.state = handler.state
  request : loaded.request = handler.request
  response : loaded.response = handler.response
  completed : loaded.completed = handler.completed
  ready : loaded.parser.bufferSet = true
  contents : loaded.plaintextBuffer.contents = contents

/-- A piece that fits is appended to what the buffer holds. -/
theorem exists_loaded {handler : Http1Handler PlainTls}
    (drained : handler.tlsHandler.pending = []) {piece : Bytes} (nonempty : piece ≠ [])
    (short : piece.length ≤ tempBufferSize)
    (small : handler.plaintextBuffer.contents.length < 8194) :
    ∃ loaded, Loaded handler loaded (handler.plaintextBuffer.contents ++ piece) ∧
      handler.deliver piece = loaded.parse.2 := by
  have fits : handler.plaintextBuffer.readableBytes + piece.length ≤ Buffer.maxCapacity := by
    rw [← Buffer.length_contents]
    have limit : tempBufferSize + 8194 ≤ Buffer.maxCapacity := by decide
    omega
  refine ⟨_, ?_, deliver_eq_parse drained nonempty short⟩
  exact ⟨rfl, rfl, rfl, rfl, rfl, rfl, rfl, (handler.plaintextBuffer.write_of_fits fits).2⟩

theorem Loaded.listening {base handler loaded : Http1Handler PlainTls} {contents : Bytes}
    (load : Loaded handler loaded contents) (listening : Listening base handler) :
    Listening base loaded :=
  listening.of_same load.connSet load.tlsHandler load.response load.completed

/-- The header lines of a list are few and valid if they are among those of a request. -/
theorem valid_of_infix {request : WellFormedRequest} {before lines after : List HttpLine}
    (within : request.headerLines = before ++ lines ++ after) :
    (∀ line ∈ lines, ValidHeader line) ∧ lines.length ≤ maxHeaders := by
  refine ⟨?_, ?_⟩
  · intro line member
    apply request.headers_valid
    simp [within, member]
  · have few := request.headers_few
    rw [within, List.length_append, List.length_append] at few
    omega

/-- The handler is about to parse headers from the given bytes. -/
structure AtHeaders (request : WellFormedRequest) (base handler : Http1Handler PlainTls)
    (contents : Bytes) : Prop where
  listening : Listening base handler
  state : handler.state = .expectHeaders
  request : { handler.request with headers := ∅ } = request.opened
  ready : handler.parser.bufferSet = true
  contents : handler.plaintextBuffer.contents = contents

/-- After the request line, or after what was left of earlier headers, the handler parses
headers. -/
theorem HeadPhase.exists_atHeaders {request : WellFormedRequest}
    {base handler loaded : Http1Handler PlainTls} {delivered contents more : Bytes}
    (phase : HeadPhase request base handler delivered) (load : Loaded handler loaded contents)
    (contentsEq : contents =
      (if (HttpLine.framing.parse delivered).1 = [] then request.line.encode else []) ++ more) :
    ∃ next, AtHeaders request base next more ∧ loaded.parse = next.expectHeaders := by
  have listening := load.listening phase.listening
  have loadedEq := load.contents.trans contentsEq
  rcases phase.position with ⟨noLine, stateEq, requestEq⟩ | ⟨someLine, stateEq, requestEq⟩
  · rw [if_pos noLine] at loadedEq
    rcases expectRequestLine_complete load.ready loadedEq with ⟨after, afterEq, lineEq⟩
    have parsesLine : loaded.parse = loaded.expectRequestLine := by
      rw [parse, load.state, stateEq]
    refine ⟨_, ?_, parsesLine.trans lineEq⟩
    refine ⟨listening.of_same rfl rfl rfl rfl, rfl, ?_, load.ready, afterEq⟩
    rw [load.request, requestEq]
    rfl
  · rw [if_neg someLine, List.nil_append] at loadedEq
    refine ⟨loaded, ⟨listening, load.state.trans stateEq, ?_, load.ready, loadedEq⟩, ?_⟩
    · rw [load.request, requestEq]
    · rw [parse, load.state, stateEq]

theorem AtHeaders.incomplete {request : WellFormedRequest} {base handler : Http1Handler PlainTls}
    {before lines after : List HttpLine} {rest : Bytes}
    (atHeaders : AtHeaders request base handler (lines.flatMap HttpLine.encode ++ rest))
    (within : request.headerLines = before ++ lines ++ after) (incomplete : findCrlf rest = none) :
    Listening base handler.expectHeaders.2 ∧
      handler.expectHeaders.2.plaintextBuffer.contents = rest ∧
      handler.expectHeaders.2.state = .expectHeaders ∧
      { handler.expectHeaders.2.request with headers := ∅ } = request.opened := by
  rcases valid_of_infix within with ⟨valid, few⟩
  rcases expectHeaders_incomplete atHeaders.ready valid few atHeaders.contents incomplete with
    ⟨buffer, bufferEq, headersEq⟩
  rw [headersEq]
  exact ⟨atHeaders.listening.of_same rfl rfl rfl rfl, bufferEq, atHeaders.state,
    atHeaders.request⟩

theorem AtHeaders.complete {request : WellFormedRequest} {base handler : Http1Handler PlainTls}
    {before lines : List HttpLine} {rest : Bytes}
    (atHeaders : AtHeaders request base handler (lines.flatMap HttpLine.encode ++ (crlf ++ rest)))
    (within : request.headerLines = before ++ lines) :
    ∃ next, Listening base next ∧
      next.request = { request.opened with headers := headersOf lines } ∧
      next.plaintextBuffer.contents = rest ∧ handler.expectHeaders = next.headersComplete := by
  rcases valid_of_infix (within.trans (List.append_nil _).symm) with ⟨valid, few⟩
  rcases expectHeaders_complete atHeaders.ready valid few atHeaders.contents with
    ⟨buffer, bufferEq, headersEq⟩
  refine ⟨_, ?_, ?_, ?_, headersEq⟩
  · exact atHeaders.listening.of_same rfl rfl rfl rfl
  · rw [← atHeaders.request]
  · exact bufferEq

/-- As long as the request line is not complete, nothing happens. -/
theorem HeadPhase.parse_incomplete {request : WellFormedRequest}
    {base handler loaded : Http1Handler PlainTls} {delivered contents : Bytes}
    (phase : HeadPhase request base handler delivered) (load : Loaded handler loaded contents)
    (noLine : (HttpLine.framing.parse delivered).1 = []) (incomplete : findCrlf contents = none) :
    loaded.state = .expectRequestLine ∧ loaded.request = {} ∧ loaded.parse.2 = loaded := by
  rcases phase.position with ⟨_, stateEq, requestEq⟩ | ⟨someLine, _, _⟩
  · have stateEq := load.state.trans stateEq
    refine ⟨stateEq, load.request.trans requestEq, ?_⟩
    rw [parse, stateEq]
    simp only [expectRequestLine_incomplete load.ready (load.contents ▸ incomplete)]
  · exact absurd noLine someLine

/-- A piece that does not complete the head. -/
theorem HeadPhase.deliver {request : WellFormedRequest} {base handler : Http1Handler PlainTls}
    {delivered piece rest : Bytes} (phase : HeadPhase request base handler delivered)
    (short : piece.length ≤ tempBufferSize) (cut : delivered ++ (piece ++ rest) = request.head)
    (unfinished : rest ≠ []) :
    HeadPhase request base (handler.deliver piece) (delivered ++ piece) := by
  by_cases empty : piece = []
  · rw [empty, deliver_nil phase.listening.drained, List.append_nil]
    exact phase
  have small := phase.length_contents_lt cut (by simp [unfinished])
  rcases exists_loaded phase.listening.drained empty short small with ⟨loaded, load, delivers⟩
  have contentsEq := load.contents
  rw [phase.contents] at contentsEq
  have parsedEq := HttpLine.framing.parse_append delivered piece
  -- the lines that this piece completes, and the incomplete line after them
  have newLines := HttpLine.framing.flatMap_parse_append HttpLine.eq_encode_of_split
    ((HttpLine.framing.parse delivered).2 ++ piece)
  have incomplete := HttpLine.findCrlf_parse_rest ((HttpLine.framing.parse delivered).2 ++ piece)
  rw [← List.append_assoc] at cut
  rcases HeadPhase.exists_later cut unfinished with ⟨later, linesEq, _, nonempty⟩
  have lines := WellFormedRequest.lines_of_headLines_eq linesEq nonempty
  rw [parsedEq] at lines
  generalize (HttpLine.framing.parse ((HttpLine.framing.parse delivered).2 ++ piece)).1 = fresh
    at lines newLines parsedEq
  generalize (HttpLine.framing.parse ((HttpLine.framing.parse delivered).2 ++ piece)).2 = tail
    at lines newLines parsedEq incomplete
  rw [← newLines] at contentsEq
  have loadedEq := load.contents.symm.trans contentsEq
  rw [delivers]
  rcases lines with nothing | ⟨headers, others, seenEq, headersEq, _⟩
  · -- not even the request line is complete
    rcases List.append_eq_nil_iff.mp nothing with ⟨noLine, rfl⟩
    rcases phase.parse_incomplete load noLine (loadedEq ▸ incomplete) with
      ⟨stateEq, requestEq, waits⟩
    rw [waits]
    refine ⟨load.listening phase.listening, ?_, Or.inl ⟨?_, stateEq, requestEq⟩⟩
    · rw [parsedEq]
      exact contentsEq
    · rw [parsedEq]
      exact nothing
  · rcases WellFormedRequest.exists_header_lines seenEq headersEq with
      ⟨before, lines, within, linesSplit⟩
    have loadedEq := loadedEq.trans (congrArg (fun front => front ++ tail) linesSplit)
    rw [List.append_assoc] at loadedEq
    rcases phase.exists_atHeaders load loadedEq with ⟨next, atHeaders, parses⟩
    rw [parses]
    rcases atHeaders.incomplete within incomplete with ⟨listening, contents, state, requestEq⟩
    refine ⟨listening, ?_, Or.inr ⟨?_, state, requestEq⟩⟩
    · rw [parsedEq]
      exact contents
    · rw [parsedEq, seenEq]
      exact List.cons_ne_nil _ _

/-- The header lines that reads before the one that completes the head have taken off the
buffer. -/
def linesBefore (delivered : Bytes) : List HttpLine := (HttpLine.framing.parse delivered).1.tail

/-- A piece that completes the head: the headers are those of the lines not taken off before. -/
theorem HeadPhase.complete {request : WellFormedRequest} {base handler : Http1Handler PlainTls}
    {delivered piece rest missing : Bytes} (phase : HeadPhase request base handler delivered)
    (short : piece.length ≤ tempBufferSize) (cut : delivered ++ missing = request.head)
    (unfinished : missing ≠ []) (pieceEq : piece = missing ++ rest) :
    ∃ lines next, request.headerLines = linesBefore delivered ++ lines ∧ Listening base next ∧
      next.request = { request.opened with headers := headersOf lines } ∧
      next.plaintextBuffer.contents = rest ∧ handler.deliver piece = next.headersComplete.2 := by
  have nonempty : piece ≠ [] := by
    rw [pieceEq]
    simp [unfinished]
  have small := phase.length_contents_lt cut unfinished
  rcases exists_loaded phase.listening.drained nonempty short small with ⟨loaded, load, delivers⟩
  rcases HeadPhase.exists_later cut unfinished with ⟨later, linesEq, restEq, laterNonempty⟩
  have contentsEq : handler.plaintextBuffer.contents ++ piece =
      later.flatMap HttpLine.encode ++ rest := by
    rw [phase.contents, pieceEq, ← List.append_assoc, restEq]
  have split : ∃ lines, request.headerLines = linesBefore delivered ++ lines ∧
      later.flatMap HttpLine.encode ++ rest =
        (if (HttpLine.framing.parse delivered).1 = [] then request.line.encode else []) ++
          (lines.flatMap HttpLine.encode ++ (crlf ++ rest)) := by
    rcases WellFormedRequest.lines_of_headLines_eq linesEq laterNonempty with
      nothing | ⟨headers, others, seenEq, headersEq, laterEq⟩
    · rw [nothing, List.nil_append] at linesEq
      refine ⟨request.headerLines, ?_, ?_⟩
      · rw [linesBefore, nothing]
        rfl
      · rw [if_pos nothing, ← linesEq]
        simp [WellFormedRequest.headLines, WellFormedRequest.blank, HttpLine.encode]
    · refine ⟨others, ?_, ?_⟩
      · rw [linesBefore, seenEq, headersEq]
        rfl
      · rw [seenEq, if_neg (List.cons_ne_nil _ _), laterEq]
        simp [WellFormedRequest.blank, HttpLine.encode]
  rcases split with ⟨lines, within, splitEq⟩
  rcases phase.exists_atHeaders load (contentsEq.trans splitEq) with ⟨next, atHeaders, parses⟩
  rcases atHeaders.complete within with ⟨final, listening, requestEq, finalEq, headersEq⟩
  refine ⟨lines, final, within, listening, requestEq, finalEq, ?_⟩
  rw [delivers, parses, headersEq]

end Http1Handler

/-! ## The body of a request in pieces -/

theorem strtoull_lt {text : Bytes} {number : ℕ} (parsed : strtoull text = some number) :
    number < 2 ^ 64 := by
  simp only [strtoull] at parsed
  split_ifs at parsed with invalid negative
  · cases parsed
    exact Nat.mod_lt _ (by decide)
  · cases parsed
    simp only [not_or] at invalid
    omega

theorem Http1Handler.contentLengthOf_lt {headers : HttpHeaders} {contentLength : ℕ}
    (announced : contentLengthOf headers = some contentLength) : contentLength < 2 ^ 64 := by
  simp only [contentLengthOf] at announced
  split at announced
  · have zero := Option.some.inj announced
    omega
  · exact strtoull_lt announced

namespace WellFormedRequest

theorem length_body_lt (request : WellFormedRequest) : request.body.length < 2 ^ 64 :=
  Http1Handler.contentLengthOf_lt request.announced

/-- The bytes of the answer to the request. -/
def response (request : WellFormedRequest) : Bytes :=
  responseBytes (Http1Handler.reply request.body)

end WellFormedRequest

namespace Http1Handler

/-- The handler waits for a request. -/
structure Idle (handler : Http1Handler PlainTls) : Prop where
  connSet : handler.connSet = true
  drained : handler.tlsHandler.pending = []
  state : handler.state = .expectRequestLine
  request : handler.request = {}
  response : handler.response = {}
  contents : handler.plaintextBuffer.contents = []

theorem idle_connected : connected.Idle :=
  ⟨rfl, rfl, rfl, rfl, rfl, rfl⟩

/-- The request has been answered, as the only one since `base`. -/
structure Answered (request : WellFormedRequest) (base handler : Http1Handler PlainTls) :
    Prop where
  idle : handler.Idle
  completed : handler.completed = base.completed ++ [request.message]
  written : handler.tlsHandler.written = base.tlsHandler.written ++ [request.response]

theorem expectComplete_answered {request : WellFormedRequest}
    {base handler : Http1Handler PlainTls} (listening : Listening base handler)
    (requestEq : handler.request = request.message)
    (contentsEq : handler.plaintextBuffer.contents = []) :
    Answered request base handler.expectComplete.2 := by
  rw [expectComplete_plain listening.connSet listening.response]
  refine ⟨⟨listening.connSet, listening.drained, rfl, rfl, rfl, contentsEq⟩, ?_, ?_⟩
  · simp only [answered, listening.completed, requestEq]
  · simp only [answered, listening.written, requestEq, WellFormedRequest.response,
      WellFormedRequest.message]

/-- A part of the body has been delivered; the whole of it is answered at once. -/
def BodyPhase (request : WellFormedRequest) (base handler : Http1Handler PlainTls)
    (done : Bytes) : Prop :=
  (done = request.body ∧ Answered request base handler) ∨
    (done ≠ request.body ∧ Listening base handler ∧ handler.state = .expectBody ∧
      handler.request = { request.message with body := done } ∧
      handler.plaintextBuffer.contents = [])

theorem expectBody_bodyPhase {request : WellFormedRequest} {base handler : Http1Handler PlainTls}
    {done fresh later : Bytes} (listening : Listening base handler)
    (state : handler.state = .expectBody)
    (requestEq : handler.request = { request.message with body := done })
    (contentsEq : handler.plaintextBuffer.contents = fresh)
    (within : request.body = done ++ (fresh ++ later)) :
    BodyPhase request base handler.expectBody.2 (done ++ fresh) := by
  have bodyLt := request.length_body_lt
  have lengthEq : request.body.length = done.length + (fresh.length + later.length) := by
    rw [within, List.length_append, List.length_append]
  have readableEq : handler.plaintextBuffer.readableBytes = fresh.length := by
    rw [← Buffer.length_contents, contentsEq]
  have bodyEq : handler.request.body = done := by
    rw [requestEq]
  have announcedEq : handler.request.contentLength = request.body.length := by
    rw [requestEq]
    rfl
  have toRead : min handler.plaintextBuffer.readableBytes
      ((request.body.length + 2 ^ 64 - done.length % 2 ^ 64) % 2 ^ 64) = fresh.length := by
    rw [readableEq]
    omega
  have skipped : (handler.plaintextBuffer.skip fresh.length).contents = [] := by
    rw [Buffer.contents_skip, contentsEq, List.drop_length]
  simp only [expectBody, contentsEq, bodyEq, announcedEq, toRead, List.take_length]
  have isBody : (done ++ fresh).length = request.body.length ↔ done ++ fresh = request.body := by
    refine ⟨?_, congrArg List.length⟩
    intro same
    have exhausted : later = [] := by
      rw [← List.length_eq_zero_iff]
      rw [List.length_append] at same
      omega
    rw [within, exhausted, List.append_nil]
  split_ifs with complete
  · rw [isBody] at complete
    refine Or.inl ⟨complete, expectComplete_answered ?_ ?_ skipped⟩
    · exact listening.of_same rfl rfl rfl rfl
    · rw [requestEq, complete]
      rfl
  · rw [isBody] at complete
    refine Or.inr ⟨complete, listening.of_same rfl rfl rfl rfl, state, ?_, skipped⟩
    rw [requestEq]
    rfl

/-- The head of a request is complete, and none of its fields is missing. -/
theorem headersComplete_bodyPhase {request : WellFormedRequest}
    {base handler : Http1Handler PlainTls} {lines : List HttpLine} {fresh later : Bytes}
    (listening : Listening base handler)
    (requestEq : handler.request = { request.opened with headers := headersOf lines })
    (lossless : headersOf lines = headersOf request.headerLines)
    (contentsEq : handler.plaintextBuffer.contents = fresh)
    (within : request.body = fresh ++ later) :
    BodyPhase request base handler.headersComplete.2 fresh := by
  have headersEq : handler.request.headers = headersOf request.headerLines := by
    rw [requestEq, ← lossless]
  have messageEq :
      { handler.request with
        headers := headersOf request.headerLines
        debugToken := (findHeader (headersOf request.headerLines) (ascii "Debug-Token")).getD
          handler.request.debugToken
        contentLength := request.body.length } = { request.message with body := [] } := by
    rw [requestEq]
    rfl
  simp only [headersComplete, headersEq, request.not_chunked, request.announced,
    Bool.false_eq_true, if_false]
  split_ifs with announced
  · rw [← List.nil_append fresh]
    exact expectBody_bodyPhase (listening.of_same rfl rfl rfl rfl) rfl messageEq contentsEq within
  · have noBody : request.body = [] := by
      rw [← List.length_eq_zero_iff]
      omega
    rw [noBody, eq_comm, List.append_eq_nil_iff] at within
    refine Or.inl ⟨within.1.trans noBody.symm, expectComplete_answered ?_ ?_ ?_⟩
    · exact listening.of_same rfl rfl rfl rfl
    · rw [← noBody] at messageEq
      exact messageEq
    · exact contentsEq.trans within.1

/-- A piece of the body. -/
theorem BodyPhase.deliver {request : WellFormedRequest} {base handler : Http1Handler PlainTls}
    {done piece later : Bytes} (phase : BodyPhase request base handler done)
    (short : piece.length ≤ tempBufferSize) (within : request.body = done ++ (piece ++ later)) :
    BodyPhase request base (handler.deliver piece) (done ++ piece) := by
  rcases phase with ⟨complete, answered⟩ | ⟨incomplete, listening, state, requestEq, contentsEq⟩
  · have nothing : piece ++ later = [] := by
      rw [complete] at within
      exact List.self_eq_append_right.mp within
    rw [(List.append_eq_nil_iff.mp nothing).1, deliver_nil answered.idle.drained, List.append_nil]
    exact Or.inl ⟨complete, answered⟩
  · by_cases empty : piece = []
    · rw [empty, deliver_nil listening.drained, List.append_nil]
      exact Or.inr ⟨incomplete, listening, state, requestEq, contentsEq⟩
    · have small : handler.plaintextBuffer.contents.length < 8194 := by
        rw [contentsEq]
        decide
      rcases exists_loaded listening.drained empty short small with ⟨loaded, load, delivers⟩
      have loadedEq := load.contents
      rw [contentsEq, List.nil_append] at loadedEq
      have parses : loaded.parse = loaded.expectBody := by
        rw [parse, load.state, state]
      rw [delivers, parses]
      exact expectBody_bodyPhase (load.listening listening) (load.state.trans state)
        (load.request.trans requestEq) loadedEq within

/-! ## A whole request in pieces -/

/-- One call of `on_read` for each piece; an empty piece is a read that reports `EAGAIN`. -/
def deliverAll (handler : Http1Handler PlainTls) (pieces : List Bytes) : Http1Handler PlainTls :=
  pieces.foldl deliver handler

theorem deliverAll_cons (handler : Http1Handler PlainTls) (piece : Bytes) (pieces : List Bytes) :
    handler.deliverAll (piece :: pieces) = (handler.deliver piece).deliverAll pieces :=
  rfl

theorem deliverAll_append (handler : Http1Handler PlainTls) (before after : List Bytes) :
    handler.deliverAll (before ++ after) = (handler.deliverAll before).deliverAll after :=
  List.foldl_append

/-- No piece is larger than what one read takes. -/
def Readable (pieces : List Bytes) : Prop := ∀ piece ∈ pieces, piece.length ≤ tempBufferSize

instance (pieces : List Bytes) : Decidable (Readable pieces) :=
  inferInstanceAs (Decidable (∀ piece ∈ pieces, _))

theorem Readable.of_cons {piece : Bytes} {pieces : List Bytes}
    (readable : Readable (piece :: pieces)) : piece.length ≤ tempBufferSize ∧ Readable pieces :=
  List.forall_mem_cons.mp readable

theorem Readable.of_append {before after : List Bytes} (readable : Readable (before ++ after)) :
    Readable before ∧ Readable after :=
  List.forall_mem_append.mp readable

/-- Pieces that do not complete the head. -/
theorem HeadPhase.deliverAll {request : WellFormedRequest} {base handler : Http1Handler PlainTls}
    {delivered rest : Bytes} {pieces : List Bytes}
    (phase : HeadPhase request base handler delivered) (readable : Readable pieces)
    (cut : delivered ++ (pieces.flatten ++ rest) = request.head) (unfinished : rest ≠ []) :
    HeadPhase request base (handler.deliverAll pieces) (delivered ++ pieces.flatten) := by
  induction pieces generalizing handler delivered with
  | nil =>
      rw [List.flatten_nil, List.append_nil]
      exact phase
  | cons piece pieces ih =>
      rcases readable.of_cons with ⟨short, laterReadable⟩
      rw [List.flatten_cons, List.append_assoc] at cut
      have stillUnfinished : pieces.flatten ++ rest ≠ [] := by simp [unfinished]
      have next := phase.deliver short cut stillUnfinished
      rw [deliverAll_cons, List.flatten_cons, ← List.append_assoc]
      rw [← List.append_assoc] at cut
      exact ih next laterReadable cut

theorem BodyPhase.deliverAll {request : WellFormedRequest} {base handler : Http1Handler PlainTls}
    {done : Bytes} {pieces : List Bytes} (phase : BodyPhase request base handler done)
    (readable : Readable pieces) (within : request.body = done ++ pieces.flatten) :
    Answered request base (handler.deliverAll pieces) := by
  induction pieces generalizing handler done with
  | nil =>
      rw [List.flatten_nil, List.append_nil] at within
      rcases phase with ⟨_, answered⟩ | ⟨incomplete, _⟩
      · exact answered
      · exact absurd within.symm incomplete
  | cons piece pieces ih =>
      rcases readable.of_cons with ⟨short, laterReadable⟩
      rw [List.flatten_cons] at within
      have next := phase.deliver short within
      rw [← List.append_assoc] at within
      exact ih next laterReadable within

theorem Idle.headPhase {base : Http1Handler PlainTls} (idle : base.Idle)
    (request : WellFormedRequest) : HeadPhase request base base [] where
  listening := ⟨idle.connSet, idle.drained, idle.response, rfl, rfl⟩
  contents := by rw [idle.contents, HttpLine.framing.parse_nil]
  position := by
    left
    exact ⟨by rw [HttpLine.framing.parse_nil], idle.state, idle.request⟩

end Http1Handler

namespace WellFormedRequest

theorem head_ne_nil (request : WellFormedRequest) : request.head ≠ [] := by
  simp [head, headLines, HttpLine.encode, crlf]

/-- The header lines that are complete before the read that completes the head. -/
def lostLines (request : WellFormedRequest) (pieces : List Bytes) : List HttpLine :=
  Http1Handler.linesBefore (readBefore request.head.length pieces)

/-- The name of every line that is lost comes again on a line that is not. -/
def Lossless (request : WellFormedRequest) (pieces : List Bytes) : Prop :=
  ∀ line ∈ request.lostLines pieces,
    ∃ later ∈ request.headerLines.drop (request.lostLines pieces).length,
      fieldName later = fieldName line

instance (request : WellFormedRequest) (pieces : List Bytes) :
    Decidable (request.Lossless pieces) :=
  inferInstanceAs (Decidable (∀ line ∈ _, _))

theorem lossless_iff {request : WellFormedRequest} {pieces : List Bytes} {lines : List HttpLine}
    (linesEq : request.headerLines = request.lostLines pieces ++ lines) :
    request.Lossless pieces ↔ headersOf lines = headersOf request.headerLines := by
  have valid : ∀ line ∈ request.lostLines pieces, ValidHeader line := by
    intro line member
    apply request.headers_valid
    rw [linesEq]
    exact List.mem_append_left lines member
  have dropEq : request.headerLines.drop (request.lostLines pieces).length = lines := by
    rw [linesEq, List.drop_left]
  rw [Lossless, dropEq, ← headersOf_eq_append_iff valid, ← linesEq]

end WellFormedRequest

namespace Http1Handler

/-- The read that completes the head, and those after it, whatever follows the head. The request
then has the fields of the header lines that are not lost. -/
theorem Idle.exists_head {base : Http1Handler PlainTls} (idle : base.Idle)
    {request : WellFormedRequest} {pieces : List Bytes} {more : Bytes}
    (readable : Readable pieces) (flattenEq : pieces.flatten = request.head ++ more) :
    ∃ before missing fresh after lines next,
      pieces = before ++ (missing ++ fresh) :: after ∧
      before.flatten ++ missing = request.head ∧ missing ≠ [] ∧ more = fresh ++ after.flatten ∧
      request.headerLines = linesBefore before.flatten ++ lines ∧ Listening base next ∧
      next.request = { request.opened with headers := headersOf lines } ∧
      next.plaintextBuffer.contents = fresh ∧
      base.deliverAll pieces = next.headersComplete.2.deliverAll after := by
  rcases exists_piece_of_flatten_eq request.head_ne_nil flattenEq with
    ⟨before, piece, after, missing, fresh, rfl, missingEq, unfinished, rfl, moreEq⟩
  rcases readable.of_append with ⟨beforeReadable, restReadable⟩
  have headEq : [] ++ (before.flatten ++ missing) = request.head := missingEq
  have phase := (idle.headPhase request).deliverAll beforeReadable headEq unfinished
  rw [List.nil_append] at phase
  rcases phase.complete restReadable.of_cons.1 missingEq unfinished rfl with
    ⟨lines, next, linesEq, listening, requestEq, contentsEq, delivers⟩
  refine ⟨before, missing, fresh, after, lines, next, rfl, missingEq, unfinished, moreEq, linesEq,
    listening, requestEq, contentsEq, ?_⟩
  rw [deliverAll_append, deliverAll_cons, delivers]

/-- The lines that are lost, by the read that completes the head. -/
theorem lostLines_eq {request : WellFormedRequest} {before after : List Bytes}
    {missing fresh : Bytes} (missingEq : before.flatten ++ missing = request.head)
    (unfinished : missing ≠ []) :
    request.lostLines (before ++ (missing ++ fresh) :: after) = linesBefore before.flatten := by
  have missingLength := List.length_pos_of_ne_nil unfinished
  have lost : readBefore request.head.length (before ++ (missing ++ fresh) :: after) =
      before.flatten := by
    apply readBefore_append
    · rw [← missingEq, List.length_append]
      omega
    · rw [← missingEq, List.length_append, List.length_append]
      omega
  rw [WellFormedRequest.lostLines, lost]

/-- The read that completes the head, and those after it, for a request and no more. -/
theorem Idle.exists_headersComplete {base : Http1Handler PlainTls} (idle : base.Idle)
    {request : WellFormedRequest} {pieces : List Bytes} (readable : Readable pieces)
    (flattenEq : pieces.flatten = request.bytes) :
    ∃ lines next fresh after, request.headerLines = request.lostLines pieces ++ lines ∧
      Listening base next ∧
      next.request = { request.opened with headers := headersOf lines } ∧
      next.plaintextBuffer.contents = fresh ∧ request.body = fresh ++ after.flatten ∧
      Readable after ∧ base.deliverAll pieces = next.headersComplete.2.deliverAll after := by
  rcases idle.exists_head readable flattenEq with
    ⟨before, missing, fresh, after, lines, next, rfl, missingEq, unfinished, bodyEq, linesEq,
      listening, requestEq, contentsEq, delivers⟩
  refine ⟨lines, next, fresh, after, ?_, listening, requestEq, contentsEq, bodyEq,
    readable.of_append.2.of_cons.2, delivers⟩
  rw [lostLines_eq missingEq unfinished, linesEq]

/-- A request of which no field is lost is answered, and the handler waits for the next. -/
theorem Idle.deliverAll_answered {base : Http1Handler PlainTls} (idle : base.Idle)
    {request : WellFormedRequest} {pieces : List Bytes} (readable : Readable pieces)
    (flattenEq : pieces.flatten = request.bytes) (lossless : request.Lossless pieces) :
    Answered request base (base.deliverAll pieces) := by
  rcases idle.exists_headersComplete readable flattenEq with
    ⟨lines, next, fresh, after, linesEq, listening, requestEq, contentsEq, bodyEq, afterReadable,
      delivers⟩
  rw [WellFormedRequest.lossless_iff linesEq] at lossless
  have phase := headersComplete_bodyPhase listening requestEq lossless contentsEq bodyEq
  rw [delivers]
  exact phase.deliverAll afterReadable bodyEq

end Http1Handler

end HttpsServerSim
