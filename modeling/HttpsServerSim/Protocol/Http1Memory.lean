import HttpsServerSim.Lib.ByteScan
import HttpsServerSim.Protocol.Http1Handler
import HttpsServerSim.Protocol.HttpLines

/-!
# Reading requests from memory

`on_read` of the HTTP/1.1 handler and the parser under it, on pointers: `read_line` looks for the
end of a line in the plaintext buffer and copies the line to an array on the stack, and the parsers
of the request line and of a header go over that array. The array is not initialised, and the one of
`parse_headers` is used for one header after the other, so it holds what earlier lines have left
there. Every access is logged.

No access leaves what it is meant for (`http1OnRead_safe`): the received bytes, the array when it is
written, and the characters of the line that was read last when it is read.
-/

namespace HttpsServerSim

open ByteMemory

namespace Http1Memory

/-- What is read of the plaintext buffer, what is written to the array of a line, with the size of
the array, and what is read of it, with the length of the line that is in it. -/
inductive Access where
  | received (origin length : ℕ)
  | written (size first length : ℕ)
  | line (len first length : ℕ)

/-- The access stays in this range of the buffer, in the array, or in the line. -/
def Within (start stop : ℕ) : Access → Prop
  | .received origin length => start ≤ origin ∧ origin + length ≤ stop
  | .written size first length => first + length ≤ size
  | .line len first length => first + length ≤ len

/-- The variables `line` and `line_len`. -/
structure Line where
  array : ℕ → UInt8
  length : ℕ

/-- The characters of the line. -/
def Line.text (line : Line) : Bytes := bytesAt line.array 0 line.length

section Parser

/-- The loop of `read_line`, which looks for `\r\n`. -/
def findLoop (memory : ℕ → UInt8) (ptr readable : ℕ) : ℕ → ℕ → LoggedRun Access (Option ℕ)
  | 0, pos => if pos + 1 < readable then none else .done none
  | rounds + 1, pos =>
      if pos + 1 < readable then
        .access (.received (ptr + pos) 1)
          (if memory (ptr + pos) = charCr then
            .access (.received (ptr + (pos + 1)) 1)
              (if memory (ptr + (pos + 1)) = charLf then .done (some pos)
              else findLoop memory ptr readable rounds (pos + 1))
          else findLoop memory ptr readable rounds (pos + 1))
      else .done none

/-- `memcpy(out, data, pos)`, if there is something to copy. -/
def copyIn (memory : ℕ → UInt8) (ptr pos size : ℕ) (array : ℕ → UInt8) :
    LoggedRun Access (ℕ → UInt8) :=
  if 0 < pos then
    .access (.received ptr pos)
      (.access (.written size 0 pos) (.done (copyTo array 0 (bytesAt memory ptr pos))))
  else .done array

variable (parser : HttpParser)

/-- `read_line(line, max_len, &line_len)`. -/
def readLine (buffer : Buffer) (line : Line) (maxLen : ℕ) :
    LoggedRun Access (ProtocolStatus × Line × HttpParser × Buffer) :=
  if parser.bufferSet = false then
    .done (.invalid, line, parser.setError .invalid "Buffer not initialized", buffer)
  else if buffer.readableBytes = 0 then .done (.eagain, { line with length := 0 }, parser, buffer)
  else
    let memory := ofList buffer.data
    let ptr := buffer.readIdx
    (findLoop memory ptr buffer.readableBytes buffer.readableBytes 0).andThen fun
      | none => .done (.eagain, { line with length := 0 }, parser, buffer)
      | some pos =>
          if maxLen ≤ pos then
            .done (.tooLong, line, parser.setError .tooLong "Line too long", buffer)
          else
            (copyIn memory ptr pos maxLen line.array).andThen fun array =>
              .access (.written maxLen pos 1)
                (.done (.ok, ⟨copyTo array pos [0], pos⟩, parser, buffer.skip (pos + 2)))

variable (line : Line)

/-- The characters of the line from `pos` on that pass the test. -/
def scanLine (test : UInt8 → Bool) (stop pos : ℕ) : LoggedRun Access ℕ :=
  scan (fun index => .line line.length index 1) line.array test stop stop pos

def scanLineBack (test : UInt8 → Bool) (start pos : ℕ) : LoggedRun Access ℕ :=
  scanBack (fun index => .line line.length index 1) line.array test start pos pos

/-- `std::string(line + first, length)`. -/
def copyText (first length : ℕ) : LoggedRun Access Bytes :=
  .access (.line line.length first length) (.done (bytesAt line.array first length))

/-- `parse_request_line`, with its three outputs. -/
def parseRequestLine : LoggedRun Access (ProtocolStatus × (Bytes × Bytes × Bytes) × HttpParser) :=
  let len := line.length
  let invalid (outputs : Bytes × Bytes × Bytes) :=
    LoggedRun.done
      (.invalid, outputs, parser.setError .invalid "Invalid request line format")
  (scanLine line HttpParser.isNotSpace len 0).andThen fun pos =>
    if pos = 0 ∨ len ≤ pos then invalid ([], [], [])
    else
      (copyText line 0 pos).andThen fun method =>
        (scanLine line HttpParser.isSpaceChar len pos).andThen fun pathStart =>
          if len ≤ pathStart then invalid (method, [], [])
          else
            (scanLine line HttpParser.isNotSpace len pathStart).andThen fun pos =>
              if pos = pathStart ∨ len ≤ pos then invalid (method, [], [])
              else
                (copyText line pathStart (pos - pathStart)).andThen fun path =>
                  (scanLine line HttpParser.isSpaceChar len pos).andThen fun pos =>
                    if len ≤ pos then invalid (method, path, [])
                    else
                      (copyText line pos (len - pos)).andThen fun version =>
                        .done
                          (if version = ascii "HTTP/1.1" then
                            (.ok, (method, path, version), parser)
                          else
                            (.version, (method, path, version),
                              parser.setError .version "HTTP version not supported"))

/-- `parse_header`, with its two outputs. -/
def parseHeader : LoggedRun Access (ProtocolStatus × (Bytes × Bytes) × HttpParser) :=
  let len := line.length
  let fail (status : ProtocolStatus) (msg : String) (key : Bytes) :=
    LoggedRun.done (status, (key, []), parser.setError status msg)
  (scanLine line HttpParser.isNotColon len 0).andThen fun colon =>
    if len ≤ colon then fail .invalid "Invalid header format" []
    else
      (scanLine line HttpParser.isBlank colon 0).andThen fun keyStart =>
        (scanLineBack line HttpParser.isBlank keyStart colon).andThen fun keyEnd =>
          if keyEnd - keyStart = 0 then fail .invalid "Empty header name" []
          else if maxHeaderNameLen < keyEnd - keyStart then
            fail .tooLong "Header name too long" []
          else
            (copyText line keyStart (keyEnd - keyStart)).andThen fun key =>
              (scanLine line HttpParser.isBlank len (colon + 1)).andThen fun valueStart =>
                (scanLineBack line HttpParser.isBlank valueStart len).andThen fun valueEnd =>
                  if maxHeaderValueLen < valueEnd - valueStart then
                    fail .tooLong "Header value too long" key
                  else
                    (copyText line valueStart (valueEnd - valueStart)).andThen fun value =>
                      .done (.ok, (key, value), parser)

end Parser

/-- The loop of `parse_headers`, with room for `remaining` more headers. -/
def parseHeadersLoop : ℕ → HttpParser → Buffer → Line → HttpHeaders →
    LoggedRun Access (ProtocolStatus × HttpHeaders × HttpParser × Buffer)
  | remaining, parser, buffer, line, headers =>
      (readLine parser buffer line maxHeaderLineLen).andThen fun (ret, line, parser, buffer) =>
        if ret ≠ .ok then .done (ret, headers, parser, buffer)
        else if line.length = 0 then .done (.ok, headers, parser, buffer)
        else
          match remaining with
          | 0 => .done (.tooMany, headers, parser.setError .tooMany "Too many headers", buffer)
          | remaining + 1 =>
              (parseHeader parser line).andThen fun (ret, (key, value), parser) =>
                if ret ≠ .ok then .done (ret, headers, parser, buffer)
                else parseHeadersLoop remaining parser buffer line (headers.insert key value)

section Handler

universe u

variable {Tls : Type u} [TlsLayer Tls] (handler : Http1Handler Tls)

/-- The bytes that go into the body, if there are any. -/
def takeBytes (buffer : Buffer) (toRead : ℕ) : LoggedRun Access Bytes :=
  if 0 < toRead then
    .access (.received buffer.readIdx toRead)
      (.done (bytesAt (ofList buffer.data) buffer.readIdx toRead))
  else .done []

/-- `EXPECT_BODY`. -/
def expectBody : LoggedRun Access (ProtocolStatus × Http1Handler Tls) :=
  let remaining :=
    (handler.request.contentLength + 2 ^ 64 - handler.request.body.length % 2 ^ 64) % 2 ^ 64
  let readable := handler.plaintextBuffer.readableBytes
  let toRead := min readable remaining
  (takeBytes handler.plaintextBuffer toRead).andThen fun bytes =>
    let body := handler.request.body ++ bytes
    let handler :=
      { handler with
        request := { handler.request with body := body }
        plaintextBuffer := handler.plaintextBuffer.skip toRead }
    .done
      (if body.length = handler.request.contentLength then
        { handler with state := .expectComplete }.expectComplete
      else (.ok, handler))

/-- `EXPECT_HEADERS` after `parse_headers` has succeeded. -/
def headersComplete : LoggedRun Access (ProtocolStatus × Http1Handler Tls) :=
  if Http1Handler.isChunked handler.request.headers then .done handler.reject
  else
    let debugToken :=
      (HttpParser.findHeader handler.request.headers (ascii "Debug-Token")).getD
        handler.request.debugToken
    let handler := { handler with request := { handler.request with debugToken := debugToken } }
    match Http1Handler.contentLengthOf handler.request.headers with
    | none => .done handler.reject
    | some contentLength =>
        let handler :=
          { handler with request := { handler.request with contentLength := contentLength } }
        if 0 < contentLength then expectBody { handler with state := .expectBody }
        else .done { handler with state := .expectComplete }.expectComplete

variable (stack : ℕ → UInt8)

/-- `EXPECT_HEADERS`. -/
def expectHeaders : LoggedRun Access (ProtocolStatus × Http1Handler Tls) :=
  (parseHeadersLoop maxHeaders handler.parser handler.plaintextBuffer ⟨stack, 0⟩ ∅).andThen
    fun (ret, headers, parser, buffer) =>
      let handler :=
        { handler with
          request := { handler.request with headers := headers }
          parser := parser
          plaintextBuffer := buffer }
      if ret = .eagain then .done (.ok, handler)
      else if ret.failed then .done handler.reject
      else headersComplete handler

/-- `EXPECT_REQUEST_LINE`. -/
def expectRequestLine : LoggedRun Access (ProtocolStatus × Http1Handler Tls) :=
  (readLine handler.parser handler.plaintextBuffer ⟨stack, 0⟩ maxLineLen).andThen
    fun (ret, line, parser, buffer) =>
      let handler := { handler with parser := parser, plaintextBuffer := buffer }
      if ret = .eagain then .done (.ok, handler)
      else if ret.failed then .done handler.reject
      else
        (parseRequestLine handler.parser line).andThen
          fun (ret, (method, path, version), parser) =>
            let handler :=
              { handler with
                request :=
                  { handler.request with method := method, path := path, version := version }
                parser := parser }
            if ret.failed then .done handler.reject
            else expectHeaders { handler with state := .expectHeaders } stack

/-- The loop of `on_read`. -/
def parse : LoggedRun Access (ProtocolStatus × Http1Handler Tls) :=
  match handler.state with
  | .expectRequestLine => expectRequestLine handler stack
  | .expectHeaders => expectHeaders handler stack
  | .expectBody => expectBody handler
  | .expectComplete => .done handler.expectComplete
  | .error => .done handler.reject

/-- What `on_read` has taken from the TLS layer is in the buffer. -/
def received : Buffer :=
  let (ret, bytes, _) := TlsLayer.read handler.tlsHandler tempBufferSize
  if ret.failed ∨ bytes.isEmpty then handler.plaintextBuffer
  else (handler.plaintextBuffer.write .always bytes).2

/-- `on_read`, where the stack holds these bytes. -/
def onRead : LoggedRun Access (ProtocolStatus × Http1Handler Tls) :=
  let (ret, bytes, tls) := TlsLayer.read handler.tlsHandler tempBufferSize
  let handler := { handler with tlsHandler := tls }
  if ret = .eagain then .done (.ok, handler)
  else if ret.failed then .done handler.reject
  else
    let buffer :=
      if bytes.isEmpty then handler.plaintextBuffer
      else (handler.plaintextBuffer.write .always bytes).2
    parse { handler with plaintextBuffer := buffer, parser := handler.parser.init } stack

end Handler

/-! ## Lines -/

section Lines

variable {start stop : ℕ}

theorem Within.mono {first last : ℕ} {access : Access} (within : Within first last access)
    (start_le : start ≤ first) (le_stop : last ≤ stop) : Within start stop access := by
  cases access with
  | received origin length => exact ⟨start_le.trans within.1, within.2.trans le_stop⟩
  | written size position length => exact within
  | line len position length => exact within

theorem findCrlf_of_past (memory : ℕ → UInt8) {ptr readable pos : ℕ} (past : ¬ pos + 1 < readable) :
    findCrlf (bytesAt memory (ptr + pos) (ptr + readable - (ptr + pos))) = none := by
  have short : (bytesAt memory (ptr + pos) (ptr + readable - (ptr + pos))).length ≤ 1 := by
    rw [length_bytesAt]
    omega
  match bytesAt memory (ptr + pos) (ptr + readable - (ptr + pos)), short with
  | [], _ => rfl
  | [_], _ => rfl

theorem findLoop_ends (memory : ℕ → UInt8) (ptr readable : ℕ) {rounds pos : ℕ}
    (enough : readable ≤ pos + 1 + rounds) :
    (findLoop memory ptr readable rounds pos).Ends (Within ptr (ptr + readable))
      (· = (findCrlf (bytesAt memory (ptr + pos) (ptr + readable - (ptr + pos)))).map
        (pos + ·)) := by
  induction rounds generalizing pos with
  | zero =>
      have past : ¬ pos + 1 < readable := by omega
      simp only [findLoop, past, if_false, findCrlf_of_past memory past]
      exact .done rfl
  | succ rounds ih =>
      by_cases under : pos + 1 < readable
      · have further := ih (show readable ≤ pos + 1 + 1 + rounds by omega)
        have first : ptr + pos < ptr + readable := by omega
        have second : ptr + pos + 1 < ptr + readable := by omega
        have goesOn (noCrlf : ¬ (memory (ptr + pos) = charCr ∧ memory (ptr + pos + 1) = charLf)) :
            (findCrlf (bytesAt memory (ptr + (pos + 1)) (ptr + readable - (ptr + (pos + 1))))).map
                (pos + 1 + ·) =
              (findCrlf (bytesAt memory (ptr + pos) (ptr + readable - (ptr + pos)))).map
                (pos + ·) := by
          rw [bytesAt_cons memory first, bytesAt_cons memory second, findCrlf, if_neg noCrlf,
            Option.map_map, ← bytesAt_cons memory second]
          congr 1
          funext found
          simp only [Function.comp_apply]
          omega
        simp only [findLoop, under, if_true]
        apply LoggedRun.Ends.access ⟨by omega, by omega⟩
        split_ifs with cr lf
        · apply LoggedRun.Ends.access ⟨by omega, by omega⟩
          apply LoggedRun.Ends.done
          rw [bytesAt_cons memory first, bytesAt_cons memory second, findCrlf, if_pos ⟨cr, lf⟩]
          rfl
        · apply LoggedRun.Ends.access ⟨by omega, by omega⟩
          rw [← goesOn fun both => lf both.2]
          exact further
        · rw [← goesOn fun both => cr both.1]
          exact further
      · simp only [findLoop, under, if_false, findCrlf_of_past memory under]
        exact .done rfl

/-- The line has the characters that were read. -/
def Reads (expected : ProtocolStatus × Bytes × HttpParser × Buffer)
    (result : ProtocolStatus × Line × HttpParser × Buffer) : Prop :=
  result.1 = expected.1 ∧ result.2.2 = expected.2.2 ∧
    (expected.1 = .ok → result.2.1.text = expected.2.1)

theorem copyIn_ends (memory array : ℕ → UInt8) {ptr pos size : ℕ} (inside : pos ≤ size)
    (start_le : start ≤ ptr) (le_stop : ptr + pos ≤ stop) :
    (copyIn memory ptr pos size array).Ends (Within start stop)
      (fun array => bytesAt array 0 pos = bytesAt memory ptr pos) := by
  by_cases something : 0 < pos
  · simp only [copyIn, something, if_true]
    apply LoggedRun.Ends.access ⟨start_le, le_stop⟩
    apply LoggedRun.Ends.access
    · simpa only [Within, Nat.zero_add] using inside
    · apply LoggedRun.Ends.done
      have copied := bytesAt_copyTo array 0 (bytesAt memory ptr pos)
      rwa [length_bytesAt] at copied
  · have nothing : pos = 0 := by omega
    subst nothing
    exact .done rfl

theorem readLine_ends (parser : HttpParser) (buffer : Buffer) (line : Line) (maxLen : ℕ) :
    (readLine parser buffer line maxLen).Ends (Within buffer.readIdx buffer.writeIdx)
      (Reads (parser.readLine buffer maxLen)) := by
  have sizeEq : buffer.readIdx + buffer.readableBytes = buffer.writeIdx :=
    Nat.add_sub_cancel' buffer.read_le_write
  have contents : bytesAt (ofList buffer.data) buffer.readIdx buffer.readableBytes =
      buffer.contents :=
    bytesAt_ofList buffer.read_le_write buffer.write_le_size
  by_cases unset : parser.bufferSet = false
  · simp only [readLine, HttpParser.readLine, unset, if_true]
    exact .done ⟨rfl, rfl, nofun⟩
  · by_cases empty : buffer.readableBytes = 0
    · have nothing : findCrlf buffer.contents = none := by
        rw [← contents, empty]
        rfl
      simp only [readLine, HttpParser.readLine, unset, empty, if_true, nothing]
      exact .done ⟨rfl, rfl, nofun⟩
    · have searched : (findLoop (ofList buffer.data) buffer.readIdx buffer.readableBytes
          buffer.readableBytes 0).Ends (Within buffer.readIdx buffer.writeIdx)
          (· = findCrlf buffer.contents) := by
        have ends := findLoop_ends (ofList buffer.data) buffer.readIdx buffer.readableBytes
          (show buffer.readableBytes ≤ 0 + 1 + buffer.readableBytes by omega)
        rw [Nat.add_zero, Nat.add_sub_cancel_left, contents, sizeEq] at ends
        simpa only [Nat.zero_add, Option.map_id'] using ends
      unfold readLine HttpParser.readLine
      rw [if_neg unset, if_neg empty, if_neg unset]
      apply searched.andThen
      rintro _ rfl
      cases found : findCrlf buffer.contents with
      | none => exact .done ⟨rfl, rfl, nofun⟩
      | some pos =>
          have insideBuffer : pos + 2 ≤ buffer.readableBytes := by
            rcases findCrlf_some found with ⟨before, rest, contentsEq, lengthEq, _⟩
            have lengths := congrArg List.length contentsEq
            simp only [Buffer.length_contents, List.length_append, lengthEq, crlf,
              List.length_cons, List.length_nil] at lengths
            omega
          by_cases long : maxLen ≤ pos
          · simp only [long, if_true]
            exact .done ⟨rfl, rfl, nofun⟩
          · simp only [long, if_false]
            apply (copyIn_ends (ofList buffer.data) line.array (Nat.le_of_not_le long)
              (le_refl buffer.readIdx) (by omega)).andThen
            intro array copied
            apply LoggedRun.Ends.access
            · simp only [Within]
              omega
            · refine .done ⟨rfl, rfl, fun _ => ?_⟩
              have text : bytesAt (copyTo array pos [0]) 0 pos = bytesAt array 0 pos := by
                apply bytesAt_congr
                intro address _ inside
                exact copyTo_of_before [0] (by omega)
              have taken : buffer.contents.take pos =
                  bytesAt (ofList buffer.data) buffer.readIdx pos := by
                have split : buffer.readableBytes = pos + (buffer.readableBytes - pos) := by omega
                rw [← contents, split, bytesAt_add]
                exact List.take_left' (length_bytesAt ..)
              exact text.trans (copied.trans taken.symm)

/-! ## The parsers of a line -/

theorem scanLine_ends (line : Line) (test : UInt8 → Bool) {last pos : ℕ} (inside : pos ≤ last)
    (inLine : last ≤ line.length) :
    (scanLine line test last pos).Ends (Within start stop)
      (Scanned line.array test pos last) := by
  apply scan_ends _ inside (Nat.le_add_left last pos)
  intro address _ before
  simp only [Within]
  omega

theorem scanLineBack_ends (line : Line) (test : UInt8 → Bool) {first pos : ℕ} (inside : first ≤ pos)
    (inLine : pos ≤ line.length) :
    (scanLineBack line test first pos).Ends (Within start stop)
      (ScannedBack line.array test first pos) := by
  apply scanBack_ends _ inside (Nat.le_add_left pos first)
  intro address _ before
  simp only [Within]
  omega

theorem copyText_ends (line : Line) {first length : ℕ} (inLine : first + length ≤ line.length) :
    (copyText line first length).Ends (Within start stop)
      (· = bytesAt line.array first length) :=
  .access inLine (.done rfl)

/-- What is in a line from a position on. -/
def Line.from (line : Line) (pos : ℕ) : Bytes := bytesAt line.array pos (line.length - pos)

theorem Line.from_eq_nil_iff (line : Line) (pos : ℕ) : line.from pos = [] ↔ line.length ≤ pos := by
  rw [← List.length_eq_zero_iff, Line.from, length_bytesAt]
  omega

/-- The result, and the outputs of a line that is accepted. -/
def RequestLineAgrees (expected result : ProtocolStatus × (Bytes × Bytes × Bytes) × HttpParser) :
    Prop :=
  result.1 = expected.1 ∧ result.2.2 = expected.2.2 ∧
    (expected.1 = .ok → result.2.1 = expected.2.1)

theorem requestLineAgrees_of_malformed (parser : HttpParser) {text : Bytes}
    (malformed : HttpParser.splitRequestLine text = none) (outputs : Bytes × Bytes × Bytes) :
    RequestLineAgrees (parser.parseRequestLine text)
      (.invalid, outputs, parser.setError .invalid "Invalid request line format") := by
  simp only [HttpParser.parseRequestLine, malformed]
  exact ⟨rfl, rfl, nofun⟩

theorem splitRequestLine_eq_none {text : Bytes}
    (malformed : text.takeWhile HttpParser.isNotSpace = [] ∨
      (text.dropWhile HttpParser.isNotSpace).dropWhile HttpParser.isSpaceChar = [] ∨
      (((text.dropWhile HttpParser.isNotSpace).dropWhile HttpParser.isSpaceChar).dropWhile
        HttpParser.isNotSpace).dropWhile HttpParser.isSpaceChar = []) :
    HttpParser.splitRequestLine text = none := by
  simp only [HttpParser.splitRequestLine, List.isEmpty_iff]
  exact if_pos malformed

/-- Behind blanks there is something that is no blank. -/
theorem takeWhile_isNotSpace_ne_nil {text : Bytes}
    (something : text.dropWhile HttpParser.isSpaceChar ≠ []) :
    (text.dropWhile HttpParser.isSpaceChar).takeWhile HttpParser.isNotSpace ≠ [] := by
  have first := List.head_dropWhile_not HttpParser.isSpaceChar something
  cases shape : text.dropWhile HttpParser.isSpaceChar with
  | nil => exact absurd shape something
  | cons char rest =>
      simp only [shape, List.head_cons, HttpParser.isSpaceChar, decide_eq_false_iff_not] at first
      simp [HttpParser.isNotSpace, first]

theorem parseRequestLine_ends (parser : HttpParser) (line : Line) :
    (parseRequestLine parser line).Ends (Within start stop)
      (RequestLineAgrees (parser.parseRequestLine line.text)) := by
  have whole : line.text = bytesAt line.array 0 (line.length - 0) := rfl
  have malformed (outputs : Bytes × Bytes × Bytes)
      (refused : HttpParser.splitRequestLine line.text = none) :
      (LoggedRun.done (.invalid, outputs,
        parser.setError .invalid "Invalid request line format")).Ends (Within start stop)
          (RequestLineAgrees (parser.parseRequestLine line.text)) :=
    .done (requestLineAgrees_of_malformed parser refused outputs)
  unfold parseRequestLine
  apply (scanLine_ends line HttpParser.isNotSpace (Nat.zero_le _) (le_refl _)).andThen
  intro methodEnd method
  have methodText := method.passed
  have methodRest : line.from methodEnd = line.text.dropWhile HttpParser.isNotSpace := method.rest
  rw [← whole, Nat.sub_zero] at methodText
  split_ifs with noMethod
  · apply malformed
    apply splitRequestLine_eq_none
    rcases noMethod with nothing | noBlank
    · left
      rw [← methodText, nothing]
      rfl
    · right
      left
      rw [← methodRest, (line.from_eq_nil_iff methodEnd).mpr noBlank]
      rfl
  · apply (copyText_ends line (by omega)).andThen
    rintro _ rfl
    apply (scanLine_ends line HttpParser.isSpaceChar method.le_stop (le_refl _)).andThen
    intro pathStart blanks
    have afterMethod : line.from pathStart =
        (line.text.dropWhile HttpParser.isNotSpace).dropWhile HttpParser.isSpaceChar := by
      rw [← methodRest]
      exact blanks.rest
    split_ifs with noPath
    · apply malformed
      apply splitRequestLine_eq_none
      right
      left
      rw [← afterMethod, (line.from_eq_nil_iff pathStart).mpr noPath]
    · apply (scanLine_ends line HttpParser.isNotSpace blanks.le_stop (le_refl _)).andThen
      intro pathEnd path
      have pathText : bytesAt line.array pathStart (pathEnd - pathStart) =
          (line.from pathStart).takeWhile HttpParser.isNotSpace := path.passed
      have pathRest : line.from pathEnd = (line.from pathStart).dropWhile HttpParser.isNotSpace :=
        path.rest
      split_ifs with noVersion
      · apply malformed
        apply splitRequestLine_eq_none
        right
        right
        rcases noVersion with same | noBlank
        · have something : (line.text.dropWhile HttpParser.isNotSpace).dropWhile
              HttpParser.isSpaceChar ≠ [] := by
            rw [← afterMethod, ne_eq, line.from_eq_nil_iff]
            exact noPath
          have pathEmpty : (line.from pathStart).takeWhile HttpParser.isNotSpace = [] := by
            rw [← pathText, same, Nat.sub_self]
            rfl
          rw [afterMethod] at pathEmpty
          exact absurd pathEmpty (takeWhile_isNotSpace_ne_nil something)
        · rw [← afterMethod, ← pathRest, (line.from_eq_nil_iff pathEnd).mpr noBlank]
          rfl
      · have pathLe := path.le
        apply (copyText_ends line (by omega)).andThen
        rintro _ rfl
        apply (scanLine_ends line HttpParser.isSpaceChar path.le_stop (le_refl _)).andThen
        intro versionStart moreBlanks
        have version : line.from versionStart =
            (((line.text.dropWhile HttpParser.isNotSpace).dropWhile
              HttpParser.isSpaceChar).dropWhile HttpParser.isNotSpace).dropWhile
                HttpParser.isSpaceChar := by
          rw [← afterMethod, ← pathRest]
          exact moreBlanks.rest
        split_ifs with nothing
        · apply malformed
          apply splitRequestLine_eq_none
          right
          right
          rw [← version, (line.from_eq_nil_iff versionStart).mpr nothing]
        · apply (copyText_ends line (by omega)).andThen
          rintro _ rfl
          apply LoggedRun.Ends.done
          have someMethod : line.text.takeWhile HttpParser.isNotSpace ≠ [] := by
            rw [← methodText, ← List.length_pos_iff, length_bytesAt]
            omega
          have someAfter : (line.text.dropWhile HttpParser.isNotSpace).dropWhile
              HttpParser.isSpaceChar ≠ [] := by
            rw [← afterMethod, ne_eq, line.from_eq_nil_iff]
            exact noPath
          have someVersion : (((line.text.dropWhile HttpParser.isNotSpace).dropWhile
              HttpParser.isSpaceChar).dropWhile HttpParser.isNotSpace).dropWhile
                HttpParser.isSpaceChar ≠ [] := by
            rw [← version, ne_eq, line.from_eq_nil_iff]
            exact nothing
          have split : HttpParser.splitRequestLine line.text =
              some (bytesAt line.array 0 methodEnd,
                bytesAt line.array pathStart (pathEnd - pathStart), line.from versionStart) := by
            rw [methodText, pathText, version, afterMethod]
            simp only [HttpParser.splitRequestLine, List.isEmpty_iff]
            exact if_neg (by simp only [someMethod, someAfter, someVersion, or_self,
              not_false_eq_true])
          change RequestLineAgrees _ (if line.from versionStart = ascii "HTTP/1.1" then _ else _)
          simp only [HttpParser.parseRequestLine, split]
          split_ifs with supported
          · exact ⟨rfl, rfl, fun _ => rfl⟩
          · exact ⟨rfl, rfl, nofun⟩

/-- The result with its error, or with the two outputs. -/
def HeaderAgrees (parser : HttpParser) :
    Except (ProtocolStatus × String) (Bytes × Bytes) →
      ProtocolStatus × (Bytes × Bytes) × HttpParser → Prop
  | .error (status, msg), result =>
      status ≠ .ok ∧ result.1 = status ∧ result.2.2 = parser.setError status msg
  | .ok field, result => result = (.ok, field, parser)

/-- The two loops that take the blanks off a text. -/
theorem bytesAt_trimmed {array : ℕ → UInt8} {first last textStart textEnd : ℕ}
    (front : Scanned array HttpParser.isBlank first last textStart)
    (back : ScannedBack array HttpParser.isBlank textStart last textEnd) :
    bytesAt array textStart (textEnd - textStart) =
      HttpParser.trim (bytesAt array first (last - first)) := by
  rw [back.kept, front.rest]
  rfl

theorem parseHeader_ends (parser : HttpParser) (line : Line) :
    (parseHeader parser line).Ends (Within start stop)
      (HeaderAgrees parser (HttpParser.splitHeader line.text)) := by
  unfold parseHeader
  apply (scanLine_ends line HttpParser.isNotColon (Nat.zero_le _) (le_refl _)).andThen
  intro colon name
  have nameText : bytesAt line.array 0 (colon - 0) = line.text.takeWhile HttpParser.isNotColon :=
    name.passed
  have nameRest : line.from colon = line.text.dropWhile HttpParser.isNotColon := name.rest
  split_ifs with noColon
  · rw [(line.from_eq_nil_iff colon).mpr noColon] at nameRest
    simp only [HttpParser.splitHeader, ← nameRest]
    exact .done ⟨nofun, rfl, rfl⟩
  · have inLine : colon < line.length := Nat.not_le.mp noColon
    have split : HttpParser.splitHeader line.text =
        if (HttpParser.trim (line.text.takeWhile HttpParser.isNotColon)).isEmpty then
          .error (.invalid, "Empty header name")
        else if maxHeaderNameLen <
            (HttpParser.trim (line.text.takeWhile HttpParser.isNotColon)).length then
          .error (.tooLong, "Header name too long")
        else if maxHeaderValueLen < (HttpParser.trim (line.from (colon + 1))).length then
          .error (.tooLong, "Header value too long")
        else
          .ok (HttpParser.trim (line.text.takeWhile HttpParser.isNotColon),
            HttpParser.trim (line.from (colon + 1))) := by
      rw [Line.from, bytesAt_cons line.array inLine] at nameRest
      simp only [HttpParser.splitHeader, ← nameRest]
      rfl
    apply (scanLine_ends line HttpParser.isBlank (Nat.zero_le _) inLine.le).andThen
    intro keyStart keyFront
    apply (scanLineBack_ends line HttpParser.isBlank keyFront.le_stop inLine.le).andThen
    intro keyEnd keyBack
    have key := bytesAt_trimmed keyFront keyBack
    rw [nameText] at key
    rw [split, ← key, length_bytesAt]
    have keyEmpty : (bytesAt line.array keyStart (keyEnd - keyStart)).isEmpty = true ↔
        keyEnd - keyStart = 0 := by
      rw [List.isEmpty_iff, ← List.length_eq_zero_iff, length_bytesAt]
    simp only [keyEmpty]
    by_cases noName : keyEnd - keyStart = 0
    · simp only [noName, if_true]
      exact .done ⟨nofun, rfl, rfl⟩
    · by_cases longName : maxHeaderNameLen < keyEnd - keyStart
      · simp only [noName, longName, if_true, if_false]
        exact .done ⟨nofun, rfl, rfl⟩
      · have keyInside := keyBack.le
        have keyOrdered := keyBack.start_le
        simp only [noName, longName, if_false]
        apply (copyText_ends line (by omega)).andThen
        rintro _ rfl
        apply (scanLine_ends line HttpParser.isBlank inLine (le_refl _)).andThen
        intro valueStart valueFront
        apply (scanLineBack_ends line HttpParser.isBlank valueFront.le_stop (le_refl _)).andThen
        intro valueEnd valueBack
        have value : bytesAt line.array valueStart (valueEnd - valueStart) =
            HttpParser.trim (line.from (colon + 1)) :=
          bytesAt_trimmed valueFront valueBack
        rw [← value, length_bytesAt]
        have valueInside := valueBack.le
        have valueOrdered := valueBack.start_le
        split_ifs with longValue
        · exact .done ⟨nofun, rfl, rfl⟩
        · apply (copyText_ends line (by omega)).andThen
          rintro _ rfl
          exact .done rfl

theorem readLine_buffer (parser : HttpParser) (buffer : Buffer) (maxLen : ℕ) :
    buffer.readIdx ≤ (parser.readLine buffer maxLen).2.2.2.readIdx ∧
      (parser.readLine buffer maxLen).2.2.2.writeIdx = buffer.writeIdx := by
  unfold HttpParser.readLine
  split_ifs
  · exact ⟨le_refl _, rfl⟩
  · split
    · exact ⟨le_refl _, rfl⟩
    · split_ifs
      · exact ⟨le_refl _, rfl⟩
      · exact ⟨Nat.le_add_right _ _, rfl⟩

theorem Line.length_eq_zero_iff (line : Line) : line.length = 0 ↔ line.text = [] := by
  rw [← List.length_eq_zero_iff, Line.text, length_bytesAt]

/-- Whatever earlier lines have left in the array, it plays no part. -/
theorem parseHeadersLoop_ends (remaining : ℕ) (parser : HttpParser) (buffer : Buffer) (line : Line)
    (headers : HttpHeaders) :
    (parseHeadersLoop remaining parser buffer line headers).Ends
      (Within buffer.readIdx buffer.writeIdx)
      (· = parser.parseHeadersLoop remaining buffer headers) := by
  induction remaining using Nat.strongRecOn generalizing parser buffer line headers with
  | ind remaining ih =>
      have moved := readLine_buffer parser buffer maxHeaderLineLen
      unfold parseHeadersLoop HttpParser.parseHeadersLoop
      apply (readLine_ends parser buffer line maxHeaderLineLen).andThen
      rintro ⟨status, line, rest⟩ ⟨rfl, rfl, text⟩
      rcases read : parser.readLine buffer maxHeaderLineLen with ⟨status, given, parser, after⟩
      rw [read] at text moved
      by_cases ok : status = .ok
      · subst ok
        have lineText := text rfl
        simp only [ne_eq, not_true_eq_false, if_false, line.length_eq_zero_iff, lineText]
        cases given with
        | nil => exact .done rfl
        | cons char chars =>
            cases remaining with
            | zero => exact .done rfl
            | succ remaining =>
                simp only [reduceCtorEq, if_false]
                apply (parseHeader_ends parser line).andThen
                rintro ⟨ret, ⟨key, value⟩, parserAfter⟩ agrees
                rw [lineText] at agrees
                cases header : HttpParser.splitHeader (char :: chars) with
                | error refused =>
                    rcases refused with ⟨status, msg⟩
                    rw [header] at agrees
                    rcases agrees with ⟨notOk, sameStatus, sameParser⟩
                    simp only at sameStatus sameParser
                    simp only [sameStatus, sameParser, notOk, not_false_eq_true, if_true]
                    exact .done rfl
                | ok field =>
                    rw [header] at agrees
                    cases agrees
                    simp only [not_true_eq_false, if_false]
                    have later := ih remaining (Nat.lt_succ_self remaining) parser after line
                      (headers.insert key value)
                    exact later.imp (fun _ within => within.mono moved.1 moved.2.le)
                      fun _ same => same
      · simp only [ne_eq, ok, not_false_eq_true, if_true]
        apply LoggedRun.Ends.done
        cases status <;> first | rfl | exact absurd rfl ok

end Lines

/-! ## The handler -/

section Handling

universe u

variable {Tls : Type u} [TlsLayer Tls] (handler : Http1Handler Tls)

/-- The handler without what is left of a request that was refused. -/
def forgetRefused (handler : Http1Handler Tls) : Http1Handler Tls :=
  if handler.state = .error then { handler with request := {} } else handler

def Agrees (expected result : ProtocolStatus × Http1Handler Tls) : Prop :=
  result.1 = expected.1 ∧ forgetRefused result.2 = forgetRefused expected.2

theorem state_reject : handler.reject.2.state = .error := by
  simp only [Http1Handler.reject, Http1Handler.generateResponse]
  split <;> rfl

/-- A request that is refused is not looked at. -/
theorem reject_request (request : HttpRequest) :
    { handler with request := request }.reject =
      (handler.reject.1, { handler.reject.2 with request := request }) := by
  simp only [Http1Handler.reject, Http1Handler.generateResponse]
  split <;> rfl

theorem agrees_reject (request : HttpRequest) :
    Agrees handler.reject { handler with request := request }.reject := by
  refine ⟨rfl, ?_⟩
  rw [reject_request]
  simp only [forgetRefused, state_reject, if_true]

theorem takeBytes_ends {buffer : Buffer} {toRead : ℕ} (inside : toRead ≤ buffer.readableBytes) :
    (takeBytes buffer toRead).Ends (Within buffer.readIdx buffer.writeIdx)
      (· = buffer.contents.take toRead) := by
  have ordered := buffer.read_le_write
  have contents : buffer.contents =
      bytesAt (ofList buffer.data) buffer.readIdx toRead ++
        bytesAt (ofList buffer.data) (buffer.readIdx + toRead) (buffer.readableBytes - toRead) := by
    rw [← bytesAt_add, Nat.add_sub_cancel' inside]
    exact (bytesAt_ofList ordered buffer.write_le_size).symm
  have taken : buffer.contents.take toRead =
      bytesAt (ofList buffer.data) buffer.readIdx toRead := by
    rw [contents]
    exact List.take_left' (length_bytesAt ..)
  rw [taken]
  by_cases something : 0 < toRead
  · simp only [takeBytes, something, if_true]
    refine .access ⟨le_refl _, ?_⟩ (.done rfl)
    simp only [Buffer.readableBytes] at inside
    omega
  · have nothing : toRead = 0 := by omega
    subst nothing
    exact .done rfl

theorem expectBody_ends :
    (expectBody handler).Ends
      (Within handler.plaintextBuffer.readIdx handler.plaintextBuffer.writeIdx)
      (· = handler.expectBody) := by
  apply (takeBytes_ends (Nat.min_le_left _ _)).andThen
  rintro _ rfl
  exact .done rfl

theorem headersComplete_ends :
    (headersComplete handler).Ends
      (Within handler.plaintextBuffer.readIdx handler.plaintextBuffer.writeIdx)
      (· = handler.headersComplete) := by
  simp only [headersComplete, Http1Handler.headersComplete]
  by_cases chunked : Http1Handler.isChunked handler.request.headers = true
  · simp only [chunked, if_true]
    exact .done rfl
  · cases found : Http1Handler.contentLengthOf handler.request.headers with
    | none =>
        simp only [chunked, Bool.false_eq_true, if_false]
        exact .done rfl
    | some contentLength =>
        simp only [chunked, Bool.false_eq_true, if_false]
        by_cases hasBody : 0 < contentLength
        · simp only [hasBody, if_true]
          exact expectBody_ends _
        · simp only [hasBody, if_false]
          exact .done rfl

theorem parseHeaders_buffer (remaining : ℕ) (parser : HttpParser) (buffer : Buffer)
    (headers : HttpHeaders) :
    buffer.readIdx ≤ (parser.parseHeadersLoop remaining buffer headers).2.2.2.readIdx ∧
      (parser.parseHeadersLoop remaining buffer headers).2.2.2.writeIdx = buffer.writeIdx := by
  induction remaining using Nat.strongRecOn generalizing parser buffer headers with
  | ind remaining ih =>
      have moved := readLine_buffer parser buffer maxHeaderLineLen
      unfold HttpParser.parseHeadersLoop
      split
      · rename_i read
        rwa [read] at moved
      · rename_i parser after _ read
        rw [read] at moved
        split
        · exact moved
        · rename_i remaining
          split
          · exact moved
          · rename_i key value _
            have later := ih remaining (Nat.lt_succ_self remaining) parser after
              (headers.insert key value)
            exact ⟨moved.1.trans later.1, later.2.trans moved.2⟩
      · rename_i read
        rwa [read] at moved

variable (stack : ℕ → UInt8)

theorem expectHeaders_ends :
    (expectHeaders handler stack).Ends
      (Within handler.plaintextBuffer.readIdx handler.plaintextBuffer.writeIdx)
      (· = handler.expectHeaders) := by
  have moved := parseHeaders_buffer maxHeaders handler.parser handler.plaintextBuffer ∅
  unfold expectHeaders Http1Handler.expectHeaders
  apply (parseHeadersLoop_ends maxHeaders handler.parser handler.plaintextBuffer ⟨stack, 0⟩
    ∅).andThen
  rintro _ rfl
  rcases parsed : handler.parser.parseHeadersLoop maxHeaders handler.plaintextBuffer ∅ with
    ⟨ret, headers, parser, buffer⟩
  rw [parsed] at moved
  simp only [HttpParser.parseHeaders, parsed]
  by_cases nothingYet : ret = .eagain
  · simp only [nothingYet, if_true]
    exact .done rfl
  · by_cases failed : ret.failed = true
    · simp only [nothingYet, failed, if_true, if_false]
      exact .done rfl
    · simp only [nothingYet, failed, Bool.false_eq_true, if_false]
      exact (headersComplete_ends _).imp (fun _ within => within.mono moved.1 moved.2.le)
        fun _ same => same

theorem expectRequestLine_ends :
    (expectRequestLine handler stack).Ends
      (Within handler.plaintextBuffer.readIdx handler.plaintextBuffer.writeIdx)
      (Agrees handler.expectRequestLine) := by
  have moved := readLine_buffer handler.parser handler.plaintextBuffer maxLineLen
  unfold expectRequestLine Http1Handler.expectRequestLine
  apply (readLine_ends handler.parser handler.plaintextBuffer ⟨stack, 0⟩ maxLineLen).andThen
  rintro ⟨ret, line, rest⟩ ⟨rfl, rfl, text⟩
  rcases read : handler.parser.readLine handler.plaintextBuffer maxLineLen with
    ⟨ret, given, parser, after⟩
  rw [read] at text moved
  simp only
  by_cases nothingYet : ret = .eagain
  · simp only [nothingYet, if_true]
    exact .done ⟨rfl, rfl⟩
  · by_cases failed : ret.failed = true
    · simp only [nothingYet, failed, if_true, if_false]
      exact .done ⟨rfl, rfl⟩
    · simp only [nothingYet, failed, Bool.false_eq_true, if_false]
      have lineText : line.text = given := by
        apply text
        rwa [ProtocolStatus.failed_iff, not_not] at failed
      apply (parseRequestLine_ends parser line).andThen
      rintro ⟨status, outputs, parserAfter⟩ ⟨sameStatus, sameParser, sameOutputs⟩
      rw [lineText] at sameStatus sameParser sameOutputs
      rcases parsed : parser.parseRequestLine given with ⟨expected, fields, expectedParser⟩
      rw [parsed] at sameStatus sameParser sameOutputs
      simp only at sameStatus sameParser sameOutputs
      subst sameStatus sameParser
      by_cases refused : status.failed = true
      · simp only [refused, if_true]
        exact .done (agrees_reject _ _)
      · have ok : status = .ok := by rwa [ProtocolStatus.failed_iff, not_not] at refused
        simp only [refused, Bool.false_eq_true, if_false, sameOutputs ok]
        apply (expectHeaders_ends _ stack).imp fun _ within => within.mono moved.1 moved.2.le
        rintro _ rfl
        exact ⟨rfl, rfl⟩

theorem parse_ends :
    (parse handler stack).Ends
      (Within handler.plaintextBuffer.readIdx handler.plaintextBuffer.writeIdx)
      (Agrees handler.parse) := by
  have exact_agrees (run : LoggedRun Access (ProtocolStatus × Http1Handler Tls))
      (expected : ProtocolStatus × Http1Handler Tls) {start stop : ℕ}
      (ends : run.Ends (Within start stop) (· = expected)) :
      run.Ends (Within start stop) (Agrees expected) := by
    apply ends.imp fun _ within => within
    rintro _ rfl
    exact ⟨rfl, rfl⟩
  unfold parse Http1Handler.parse
  cases handler.state with
  | expectRequestLine => exact expectRequestLine_ends handler stack
  | expectHeaders => exact exact_agrees _ _ (expectHeaders_ends handler stack)
  | expectBody => exact exact_agrees _ _ (expectBody_ends handler)
  | expectComplete => exact exact_agrees _ _ (.done rfl)
  | error => exact exact_agrees _ _ (.done rfl)

/-- Whatever the state of the handler, whatever bytes it has received and whatever the stack holds:
`on_read` comes to its end, reads only bytes that have been received, writes only inside its arrays,
reads of an array only the characters of the line that was read last, and does what it does to the
lines as byte strings. -/
theorem http1OnRead_safe :
    (onRead handler stack).Ends
      (Within (received handler).readIdx (received handler).writeIdx)
      (Agrees handler.onRead) := by
  rcases read : TlsLayer.read handler.tlsHandler tempBufferSize with ⟨ret, bytes, tls⟩
  simp only [onRead, Http1Handler.onRead, received, read]
  by_cases nothingYet : ret = .eagain
  · simp only [nothingYet, if_true]
    exact .done ⟨rfl, rfl⟩
  · by_cases failed : ret.failed = true
    · simp only [nothingYet, failed, if_true, if_false]
      exact .done ⟨rfl, rfl⟩
    · simp only [nothingYet, failed, if_false, Bool.false_eq_true, false_or]
      exact parse_ends _ stack

end Handling

end Http1Memory

end HttpsServerSim
