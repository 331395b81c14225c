import HttpsServerSim.Protocol.Http1Calls
import HttpsServerSim.Protocol.Http1Request

/-!
# What a response tells about earlier traffic

At a request boundary the handler waits for a request line and its buffer is empty. What it
writes for the next read is then told by the bytes of that read and by the body that an
earlier `send_response` has left in the response: a complete request replaces that body, so
it is answered alike after any history, but a malformed one is answered with `400 Bad
Request` on top of the body left there.

The written bytes are found by following the parser over the read (`firstRequest`); the two
histories of the main result are only compared at the end.
-/

namespace HttpsServerSim

open HttpParser

/-- What the bytes of one read, on their own, hold at their front. -/
inductive FirstRequest where
  | incomplete
  | malformed
  | complete (body : Bytes)
deriving DecidableEq, Repr

namespace FirstRequest

/-- The rest of a read after the header block. -/
def afterHeaders (headers : HttpHeaders) (rest : Bytes) : FirstRequest :=
  if Http1Handler.isChunked headers then .malformed
  else
    match Http1Handler.contentLengthOf headers with
    | none => .malformed
    | some contentLength =>
        if contentLength ≤ rest.length then .complete (rest.take contentLength) else .incomplete

/-- The rest of a read after the request line. -/
def afterRequestLine (parser : HttpParser) (buffer : Buffer) : FirstRequest :=
  match parser.parseHeaders buffer with
  | (.ok, headers, _, after) => afterHeaders headers after.contents
  | (.eagain, _, _, _) => .incomplete
  | _ => .malformed

end FirstRequest

/-- The parser's verdict on the bytes of one read. -/
def firstRequest (bytes : Bytes) : FirstRequest :=
  match HttpParser.readLine { bufferSet := true } (Buffer.construct.write .always bytes).2
      maxLineLen with
  | (.ok, line, parser, after) =>
      match parser.parseRequestLine line with
      | (.ok, _, parser) => .afterRequestLine parser after
      | _ => .malformed
  | (.eagain, _, _, _) => .incomplete
  | _ => .malformed

namespace Http1Handler

/-! ## The answer to a malformed request -/

/-- The `400 Bad Request` on top of a body left in the response. -/
def badRequest (stale : Bytes) : HttpResponse where
  statusCode := 400
  statusText := ascii "Bad Request"
  body := stale

theorem responseParts_badRequest (stale : Bytes) :
    responseParts (badRequest stale) =
      [ascii "HTTP/1.1 400 Bad Request" ++ crlf] ++
        (if stale.isEmpty then []
          else [headerLine (ascii "Content-Length") (toDecimal stale.length)]) ++
        [crlf] ++ (if stale.isEmpty then [] else [stale]) := by
  have status : statusLine (badRequest stale) = ascii "HTTP/1.1 400 Bad Request" ++ crlf := by
    change ascii "HTTP/1.1 " ++ intToDecimal 400 ++ [charSpace] ++ ascii "Bad Request" ++ crlf =
      ascii "HTTP/1.1 400 Bad Request" ++ crlf
    decide +kernel
  have noHeaders : (∅ : HttpHeaders).toList = [] := by decide +kernel
  have noLength : hasContentLength (∅ : HttpHeaders) = false := by decide +kernel
  rw [responseParts, status]
  cases empty : stale.isEmpty <;> simp [badRequest, noHeaders, noLength, empty]

/-- The bytes after the status line. -/
def badRequestTail (stale : Bytes) : Bytes :=
  if stale.isEmpty then crlf
  else headerLine (ascii "Content-Length") (toDecimal stale.length) ++ (crlf ++ stale)

theorem responseBytes_badRequest (stale : Bytes) :
    responseBytes (badRequest stale) =
      ascii "HTTP/1.1 400 Bad Request" ++ crlf ++ badRequestTail stale := by
  rw [responseBytes, responseParts_badRequest, badRequestTail]
  cases stale.isEmpty <;> simp

theorem badRequest_fits {stale : Bytes} (short : stale.length < 2 ^ 32) :
    (responseBytes (badRequest stale)).length ≤ estimatedSize (badRequest stale) :=
  responseBytes_fits (length_statusText_le (Or.inr ⟨rfl, rfl⟩)) (short.trans (by decide))

theorem length_toDecimal_mono {small large : ℕ} (le : small ≤ large) :
    (toDecimal small).length ≤ (toDecimal large).length := by
  have positive : 0 < (toDecimal large).length := by
    rw [toDecimal, List.length_map]
    exact Nat.length_toDigits_pos
  have bound : large < 10 ^ (toDecimal large).length := by
    rw [← Nat.length_toDigits_le_iff (by decide) positive, toDecimal, List.length_map]
  rw [toDecimal, List.length_map, Nat.length_toDigits_le_iff (by decide) positive]
  omega

/-- The body can be read off the answer. -/
theorem badRequest_injective {left right : Bytes}
    (same : responseBytes (badRequest left) = responseBytes (badRequest right)) :
    left = right := by
  rw [responseBytes_badRequest, responseBytes_badRequest] at same
  have tails : badRequestTail left = badRequestTail right := List.append_cancel_left same
  simp only [badRequestTail, headerLine] at tails
  split_ifs at tails with leftEmpty rightEmpty rightEmpty
  · rw [List.isEmpty_iff.mp leftEmpty, List.isEmpty_iff.mp rightEmpty]
  · cases tails
  · cases tails
  · simp only [List.append_assoc] at tails
    have numbers := List.append_cancel_left (List.append_cancel_left tails)
    -- a longer body has at least as long a number in front, so equal sums mean equal lengths
    have lengths := congrArg List.length numbers
    simp only [List.length_append] at lengths
    have lengthEq : left.length = right.length := by
      rcases Nat.le_total left.length right.length with le | le
      · have := length_toDecimal_mono le
        omega
      · have := length_toDecimal_mono le
        omega
    rw [lengthEq] at numbers
    exact List.append_cancel_left (List.append_cancel_left (List.append_cancel_left numbers))

/-! ## What one read makes the handler write -/

/-- The writes for a verdict of the parser, with `stale` left in the response. -/
def answer (stale : Bytes) : FirstRequest → List Bytes
  | .incomplete => []
  | .malformed => [responseBytes (badRequest stale)]
  | .complete body => [responseBytes (reply body)]

/-- A handler that serves, with the body left in its response named. -/
structure ServingWith (stale : Bytes) (handler : Http1Handler PlainTls) : Prop where
  connSet : handler.connSet = true
  short : stale.length < 2 ^ 32
  response : handler.response = { body := stale }

section Stages

variable {stale : Bytes} {handler : Http1Handler PlainTls}

theorem ServingWith.reject_written (serving : ServingWith stale handler) :
    handler.reject.2.tlsHandler.written =
      handler.tlsHandler.written ++ answer stale .malformed := by
  have generated : Http1Handler.generateResponse
      { handler with state := .error, response := badRequest stale } =
      (.ok, emit { handler with state := .error, response := badRequest stale }
        (responseBytes (badRequest stale))) :=
    generateResponse_of_fits (badRequest_fits serving.short)
  simp only [reject, serving.response]
  exact congrArg (fun result => result.2.tlsHandler.written) generated

theorem ServingWith.expectComplete_written (serving : ServingWith stale handler) {body : Bytes}
    (bodyEq : handler.request.body = body) :
    handler.expectComplete.2.tlsHandler.written =
      handler.tlsHandler.written ++ answer stale (.complete body) := by
  rw [expectComplete_plain serving.connSet serving.response, ← bodyEq]
  rfl

/-- A body of which nothing has been read yet. -/
theorem ServingWith.expectBody_written (serving : ServingWith stale handler)
    (fresh : handler.request.body = []) (bounded : handler.request.contentLength < 2 ^ 64) :
    handler.expectBody.2.tlsHandler.written =
      handler.tlsHandler.written ++ answer stale
        (if handler.request.contentLength ≤ handler.plaintextBuffer.contents.length then
          .complete (handler.plaintextBuffer.contents.take handler.request.contentLength)
        else .incomplete) := by
  have remaining : (handler.request.contentLength + 2 ^ 64 - 0 % 2 ^ 64) % 2 ^ 64 =
      handler.request.contentLength := by omega
  simp only [expectBody, fresh, List.length_nil, remaining, List.nil_append, List.length_take,
    ← Buffer.length_contents]
  by_cases enough : handler.request.contentLength ≤ handler.plaintextBuffer.contents.length
  · have all : min (min handler.plaintextBuffer.contents.length handler.request.contentLength)
        handler.plaintextBuffer.contents.length = handler.request.contentLength := by omega
    rw [if_pos enough, if_pos all, Nat.min_eq_right enough]
    apply ServingWith.expectComplete_written
    · exact ⟨serving.connSet, serving.short, serving.response⟩
    · rfl
  · have few : ¬ min (min handler.plaintextBuffer.contents.length handler.request.contentLength)
        handler.plaintextBuffer.contents.length = handler.request.contentLength := by omega
    rw [if_neg enough, if_neg few]
    simp [answer]

theorem ServingWith.headersComplete_written (serving : ServingWith stale handler)
    (fresh : handler.request.body = []) :
    handler.headersComplete.2.tlsHandler.written =
      handler.tlsHandler.written ++ answer stale
        (.afterHeaders handler.request.headers handler.plaintextBuffer.contents) := by
  simp only [headersComplete, FirstRequest.afterHeaders]
  split_ifs
  · exact serving.reject_written
  · cases lengthEq : contentLengthOf handler.request.headers with
    | none =>
        apply ServingWith.reject_written
        exact ⟨serving.connSet, serving.short, serving.response⟩
    | some contentLength =>
        simp only
        have bounded : contentLength < 2 ^ 64 := contentLengthOf_lt lengthEq
        by_cases positive : 0 < contentLength
        · rw [if_pos positive]
          apply ServingWith.expectBody_written
          · exact ⟨serving.connSet, serving.short, serving.response⟩
          · exact fresh
          · exact bounded
        · have zero : contentLength = 0 := by omega
          subst zero
          rw [if_neg positive, if_pos (Nat.zero_le _)]
          apply ServingWith.expectComplete_written
          · exact ⟨serving.connSet, serving.short, serving.response⟩
          · exact fresh

theorem ServingWith.expectHeaders_written (serving : ServingWith stale handler)
    (fresh : handler.request.body = []) {buffer : Buffer}
    (same : handler.plaintextBuffer.contents = buffer.contents) :
    handler.expectHeaders.2.tlsHandler.written =
      handler.tlsHandler.written ++ answer stale
        (.afterRequestLine handler.parser buffer) := by
  rcases parsed : handler.parser.parseHeaders buffer with ⟨status, headers, parser, after⟩
  rcases parseHeaders_congr same parsed with ⟨other, otherEq, otherParsed⟩
  simp only [expectHeaders, otherParsed, FirstRequest.afterRequestLine, parsed]
  cases status with
  | ok =>
      simp only [reduceCtorEq, if_false, ProtocolStatus.failed_iff, ne_eq, not_true_eq_false]
      rw [← otherEq]
      apply ServingWith.headersComplete_written
      · exact ⟨serving.connSet, serving.short, serving.response⟩
      · exact fresh
  | eagain => simp [answer]
  | _ =>
      apply ServingWith.reject_written
      exact ⟨serving.connSet, serving.short, serving.response⟩

theorem ServingWith.expectRequestLine_written (serving : ServingWith stale handler)
    (fresh : handler.request.body = []) (parserEq : handler.parser = { bufferSet := true })
    {bytes : Bytes}
    (same : handler.plaintextBuffer.contents =
      (Buffer.construct.write .always bytes).2.contents) :
    handler.expectRequestLine.2.tlsHandler.written =
      handler.tlsHandler.written ++ answer stale (firstRequest bytes) := by
  rcases read : HttpParser.readLine { bufferSet := true }
    (Buffer.construct.write .always bytes).2 maxLineLen with ⟨status, line, parser, after⟩
  rcases readLine_congr same read with ⟨other, otherEq, otherRead⟩
  simp only [expectRequestLine, parserEq, otherRead, firstRequest, read]
  cases status with
  | ok =>
      rcases parsed : parser.parseRequestLine line with ⟨ret, fields, parserAfter⟩
      simp only [parsed, reduceCtorEq, if_false, ProtocolStatus.failed_iff, ne_eq,
        not_true_eq_false]
      cases ret with
      | ok =>
          apply ServingWith.expectHeaders_written
          · exact ⟨serving.connSet, serving.short, serving.response⟩
          · exact fresh
          · exact otherEq
      | _ =>
          apply ServingWith.reject_written
          exact ⟨serving.connSet, serving.short, serving.response⟩
  | eagain => simp [answer]
  | _ =>
      apply ServingWith.reject_written
      exact ⟨serving.connSet, serving.short, serving.response⟩

end Stages

/-! ## Two histories -/

/-- The handler waits for a request line and holds no bytes. -/
structure AtBoundary (handler : Http1Handler PlainTls) : Prop where
  state : handler.state = .expectRequestLine
  contents : handler.plaintextBuffer.contents = []

/-- The bytes that `on_read` writes when a read returns the given bytes. -/
def writtenFor (handler : Http1Handler PlainTls) (bytes : ReadBytes) : Bytes :=
  ((handler.deliver bytes.1).tlsHandler.written.drop handler.tlsHandler.written.length).flatten

theorem firstRequest_nil : firstRequest [] = .incomplete := by
  rfl

/-- At a boundary the answer depends on the read and on the body left in the response only. -/
theorem Orderly.writtenFor_eq {handler : Http1Handler PlainTls} (orderly : handler.Orderly)
    (boundary : handler.AtBoundary) (bytes : ReadBytes) :
    handler.writtenFor bytes =
      (answer handler.response.body (firstRequest bytes.1)).flatten := by
  have written : (handler.deliver bytes.1).tlsHandler.written =
      handler.tlsHandler.written ++ answer handler.response.body (firstRequest bytes.1) := by
    by_cases empty : bytes.1 = []
    · rw [empty, deliver_nil orderly.drained, firstRequest_nil]
      simp [answer]
    · have alive : handler.state ≠ .error := by
        rw [boundary.state]
        exact Http1ParseState.noConfusion
      rcases orderly.response alive with ⟨stale, short, responseEq⟩
      rw [deliver_eq_parse orderly.drained empty bytes.2, parse, boundary.state, responseEq]
      apply ServingWith.expectRequestLine_written
      · exact ⟨orderly.connSet, short, rfl⟩
      · exact congrArg HttpRequest.body (orderly.request boundary.state)
      · rfl
      · rw [ReadBytes.contents_write_of_nil bytes boundary.contents,
          ReadBytes.contents_write_of_nil bytes (Buffer.contents_construct _)]
  rw [writtenFor, written, List.drop_left]

/-- Two histories are told apart by a read exactly if they have left different bodies in the
response and the read starts with a malformed request. -/
theorem writtenFor_alike_iff (first second : List Http1Call) (bytes : ReadBytes)
    (firstDone : (connected.afterCalls first).AtBoundary)
    (secondDone : (connected.afterCalls second).AtBoundary) :
    (connected.afterCalls first).writtenFor bytes =
        (connected.afterCalls second).writtenFor bytes ↔
      ((connected.afterCalls first).response.body = (connected.afterCalls second).response.body ∨
        firstRequest bytes.1 ≠ .malformed) := by
  rw [(orderly_connected.afterCalls_orderly first).writtenFor_eq firstDone,
    (orderly_connected.afterCalls_orderly second).writtenFor_eq secondDone]
  cases firstRequest bytes.1 with
  | incomplete => simp [answer]
  | complete body => simp [answer]
  | malformed =>
      simp only [answer, List.flatten_cons, List.flatten_nil, List.append_nil, ne_eq,
        not_true_eq_false, or_false]
      constructor
      · exact badRequest_injective
      · intro bodies
        rw [bodies]

/-- A history in which the application has sent a response. -/
def secretSent : List Http1Call := [.sendResponse ⟨ascii "secret", by decide⟩]

def getRead : ReadBytes := ⟨ascii "GET / HTTP/1.1\r\n\r\n", by decide⟩

def malformedRead : ReadBytes := ⟨ascii "GET\r\n", by decide⟩

theorem atBoundary_connected : (connected.afterCalls []).AtBoundary := ⟨rfl, rfl⟩

theorem atBoundary_secretSent : (connected.afterCalls secretSent).AtBoundary := by
  refine ⟨?_, ?_⟩
  · decide +kernel
  · decide +kernel

/-- A proper request is answered alike after the response and on a new connection. -/
theorem writtenFor_alike_get :
    (connected.afterCalls []).writtenFor getRead =
      (connected.afterCalls secretSent).writtenFor getRead := by
  apply (writtenFor_alike_iff [] secretSent getRead atBoundary_connected
    atBoundary_secretSent).mpr
  right
  decide +kernel

/-- A malformed request is answered with the body of the earlier response. -/
theorem writtenFor_alike_fails :
    (connected.afterCalls []).AtBoundary ∧ (connected.afterCalls secretSent).AtBoundary ∧
      (connected.afterCalls []).writtenFor malformedRead ≠
        (connected.afterCalls secretSent).writtenFor malformedRead := by
  refine ⟨atBoundary_connected, atBoundary_secretSent, ?_⟩
  decide +kernel

end Http1Handler

end HttpsServerSim
