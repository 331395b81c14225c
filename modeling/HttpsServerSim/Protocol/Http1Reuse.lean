import HttpsServerSim.Protocol.Http1Calls

/-!
# Using an HTTP/1.1 handler again

`close` and a new `init` put every field of the handler back to what it was after the first
`init`, except for `plaintext_buffer_`, which neither of them clears. Two handlers that differ
only in how their buffers hold the same contents go on alike, whatever is called on them;
so a handler that was closed with an empty buffer is as good as new. Bytes left in the
buffer are taken for the front of the first request, and some request shows it.
-/

namespace HttpsServerSim

/-- What happens to a handler of either protocol before it is closed. -/
inductive HandlerEvent (Call : Type) where
  | init (connSet : Bool)
  | call (call : Call)
deriving DecidableEq, Repr

namespace Http1Handler

open HttpParser

/-- `left` is `right` with the same contents held in another buffer, and with requests completed
before. -/
structure Alike (before : List HttpRequest) (left right : Http1Handler PlainTls) : Prop where
  contents : left.plaintextBuffer.contents = right.plaintextBuffer.contents
  others : left =
    { right with
      plaintextBuffer := left.plaintextBuffer
      completed := before ++ right.completed }

theorem Alike.exists_buffer {before : List HttpRequest} {left right : Http1Handler PlainTls}
    (alike : Alike before left right) :
    ∃ buffer : Buffer, buffer.contents = right.plaintextBuffer.contents ∧
      left = { right with plaintextBuffer := buffer, completed := before ++ right.completed } :=
  ⟨left.plaintextBuffer, alike.contents, alike.others⟩

/-- Two calls end alike. -/
def EndAlike (before : List HttpRequest) (left right : ProtocolStatus × Http1Handler PlainTls) :
    Prop :=
  left.1 = right.1 ∧ Alike before left.2 right.2

section Stages

variable {before : List HttpRequest} {left right : Http1Handler PlainTls}

theorem Alike.generateResponse (alike : Alike before left right) :
    EndAlike before left.generateResponse right.generateResponse := by
  rcases alike.exists_buffer with ⟨buffer, same, rfl⟩
  simp only [Http1Handler.generateResponse, PlainTls.write_eq]
  split
  · exact ⟨rfl, ⟨same, rfl⟩⟩
  · exact ⟨rfl, ⟨same, rfl⟩⟩

theorem Alike.reject (alike : Alike before left right) :
    EndAlike before left.reject right.reject := by
  have refused : Alike before left.refused right.refused := by
    rcases alike.exists_buffer with ⟨buffer, same, rfl⟩
    exact ⟨same, rfl⟩
  refine ⟨rfl, ?_⟩
  rw [reject_snd, reject_snd]
  exact refused.generateResponse.2

theorem Alike.reset (alike : Alike before left right) : Alike before left.reset right.reset := by
  rcases alike.exists_buffer with ⟨buffer, same, rfl⟩
  exact ⟨same, rfl⟩

theorem Alike.handleCompleteRequest (alike : Alike before left right) :
    EndAlike before left.handleCompleteRequest right.handleCompleteRequest := by
  have answered : Alike before left.answering right.answering := by
    rcases alike.exists_buffer with ⟨buffer, same, rfl⟩
    simp only [answering, List.append_assoc]
    exact ⟨same, rfl⟩
  have connSet : left.connSet = right.connSet := by
    rcases alike.exists_buffer with ⟨buffer, same, rfl⟩
    rfl
  rw [handleCompleteRequest_eq, handleCompleteRequest_eq, connSet]
  split_ifs
  · exact ⟨rfl, alike⟩
  · exact answered.generateResponse

theorem Alike.expectComplete (alike : Alike before left right) :
    EndAlike before left.expectComplete right.expectComplete := by
  rcases alike.handleCompleteRequest with ⟨status, after⟩
  simp only [Http1Handler.expectComplete, status]
  split_ifs with done
  · exact ⟨rfl, after.reset⟩
  · exact ⟨rfl, after⟩

theorem Alike.expectBody (alike : Alike before left right) :
    EndAlike before left.expectBody right.expectBody := by
  rcases alike.exists_buffer with ⟨buffer, same, rfl⟩
  have readable : buffer.readableBytes = right.plaintextBuffer.readableBytes := by
    rw [← Buffer.length_contents, same, Buffer.length_contents]
  have skipped (count : ℕ) :
      (buffer.skip count).contents = (right.plaintextBuffer.skip count).contents := by
    rw [Buffer.contents_skip, Buffer.contents_skip, same]
  simp only [Http1Handler.expectBody, readable, same]
  split_ifs
  · apply Alike.expectComplete
    exact ⟨skipped _, rfl⟩
  · exact ⟨rfl, ⟨skipped _, rfl⟩⟩

theorem Alike.headersComplete (alike : Alike before left right) :
    EndAlike before left.headersComplete right.headersComplete := by
  rcases alike.exists_buffer with ⟨buffer, same, rfl⟩
  simp only [Http1Handler.headersComplete]
  split_ifs
  · apply Alike.reject
    exact ⟨same, rfl⟩
  · split
    · apply Alike.reject
      exact ⟨same, rfl⟩
    · split_ifs
      · apply Alike.expectBody
        exact ⟨same, rfl⟩
      · apply Alike.expectComplete
        exact ⟨same, rfl⟩

theorem Alike.expectHeaders (alike : Alike before left right) :
    EndAlike before left.expectHeaders right.expectHeaders := by
  rcases alike.exists_buffer with ⟨buffer, same, rfl⟩
  rcases parsed : right.parser.parseHeaders right.plaintextBuffer with
    ⟨status, headers, parser, after⟩
  rcases parseHeaders_congr same parsed with ⟨other, otherEq, otherParsed⟩
  simp only [Http1Handler.expectHeaders, parsed, otherParsed]
  split_ifs
  · exact ⟨rfl, ⟨otherEq, rfl⟩⟩
  · apply Alike.reject
    exact ⟨otherEq, rfl⟩
  · apply Alike.headersComplete
    exact ⟨otherEq, rfl⟩

theorem Alike.expectRequestLine (alike : Alike before left right) :
    EndAlike before left.expectRequestLine right.expectRequestLine := by
  rcases alike.exists_buffer with ⟨buffer, same, rfl⟩
  rcases read : right.parser.readLine right.plaintextBuffer maxLineLen with
    ⟨status, line, parser, after⟩
  rcases readLine_congr same read with ⟨other, otherEq, otherRead⟩
  simp only [Http1Handler.expectRequestLine, read, otherRead]
  split_ifs
  · exact ⟨rfl, ⟨otherEq, rfl⟩⟩
  · apply Alike.reject
    exact ⟨otherEq, rfl⟩
  · apply Alike.reject
    exact ⟨otherEq, rfl⟩
  · apply Alike.expectHeaders
    exact ⟨otherEq, rfl⟩

theorem Alike.state_eq (alike : Alike before left right) : left.state = right.state := by
  rcases alike.exists_buffer with ⟨buffer, same, rfl⟩
  rfl

theorem Alike.parse (alike : Alike before left right) :
    EndAlike before left.parse right.parse := by
  simp only [Http1Handler.parse, alike.state_eq]
  cases right.state with
  | expectRequestLine => exact alike.expectRequestLine
  | expectHeaders => exact alike.expectHeaders
  | expectBody => exact alike.expectBody
  | expectComplete => exact alike.expectComplete
  | error => exact alike.reject

/-- The bytes of a read are appended to both buffers, up to the same limit. -/
theorem Alike.onRead (alike : Alike before left right) :
    EndAlike before left.onRead right.onRead := by
  rcases alike.exists_buffer with ⟨buffer, same, rfl⟩
  have short : (TlsLayer.read right.tlsHandler tempBufferSize).2.1.length ≤ Buffer.maxCapacity :=
    (PlainTls.length_read_le _ _).trans (by decide)
  simp only [Http1Handler.onRead]
  split_ifs
  · exact ⟨rfl, ⟨same, rfl⟩⟩
  · apply Alike.reject
    exact ⟨same, rfl⟩
  · apply Alike.parse
    exact ⟨same, rfl⟩
  · apply Alike.parse
    refine ⟨?_, rfl⟩
    exact Buffer.contents_write_congr same short

theorem Alike.onCall (alike : Alike before left right) (call : Http1Call) :
    Alike before (left.onCall call) (right.onCall call) := by
  rcases alike.exists_buffer with ⟨buffer, same, rfl⟩
  cases call with
  | onRead bytes =>
      apply (Alike.onRead _).2
      exact ⟨same, rfl⟩
  | sendResponse data =>
      apply (Alike.generateResponse _).2
      exact ⟨same, rfl⟩
  | sendResponseNull len =>
      apply (Alike.generateResponse _).2
      exact ⟨same, rfl⟩

theorem Alike.afterCalls (alike : Alike before left right) (calls : List Http1Call) :
    Alike before (left.afterCalls calls) (right.afterCalls calls) := by
  apply List.foldl_rel alike
  intro call _ leftNow rightNow now
  exact now.onCall call

end Stages

/-! ## A closed handler and a new connection -/

def onHandlerEvent (handler : Http1Handler PlainTls) :
    HandlerEvent Http1Call → Http1Handler PlainTls
  | .init connSet => (handler.init connSet).2
  | .call call => handler.onCall call

/-- A new handler after the given events. -/
def afterHistory (history : List (HandlerEvent Http1Call)) : Http1Handler PlainTls :=
  history.foldl onHandlerEvent (construct {})

/-- `close`, and `init` with a new connection. -/
def reconnect (handler : Http1Handler PlainTls) : Http1Handler PlainTls :=
  (handler.close.init true).2

/-- Used again, the handler completes the same requests and writes the same bytes as a new one. -/
def AsNew (handler : Http1Handler PlainTls) : Prop :=
  ∀ calls : List Http1Call,
    (handler.reconnect.afterCalls calls).completed =
        handler.completed ++ (connected.afterCalls calls).completed ∧
      (handler.reconnect.afterCalls calls).tlsHandler.written =
        (connected.afterCalls calls).tlsHandler.written

/-- `init` clears everything but the buffer. -/
theorem init_plain (handler : Http1Handler PlainTls) (connSet : Bool) :
    handler.init connSet =
      (.ok,
        { handler with
          connSet := connSet
          tlsHandler := {}
          state := .expectRequestLine
          request := {}
          response := {}
          parser := { bufferSet := true } }) :=
  rfl

theorem reconnect_eq (handler : Http1Handler PlainTls) :
    handler.reconnect =
      { connected with
        plaintextBuffer := handler.plaintextBuffer
        completed := handler.completed } := by
  rw [reconnect, connected, init_plain, init_plain]
  rfl

theorem asNew_of_contents_nil {handler : Http1Handler PlainTls}
    (empty : handler.plaintextBuffer.contents = []) : handler.AsNew := by
  have alike : Alike handler.completed handler.reconnect connected := by
    rw [reconnect_eq]
    exact ⟨empty, congrArg (fun earlier => { connected with
      plaintextBuffer := handler.plaintextBuffer
      completed := earlier }) (List.append_nil _).symm⟩
  intro calls
  have after := alike.afterCalls calls
  exact ⟨congrArg completed after.others,
    congrArg (fun handler => handler.tlsHandler.written) after.others⟩

/-! ## What is left in the buffer shows -/

/-- At most one request was completed, and it has the given method. -/
def CompletesMethod (completed : List HttpRequest) (method : Bytes)
    (after : Http1Handler PlainTls) : Prop :=
  after.completed = completed ∨
    ∃ request, after.completed = completed ++ [request] ∧ request.method = method

theorem CompletesMethod.of_middle {completed : List HttpRequest} {method : Bytes}
    {middle after : Http1Handler PlainTls}
    (completes : CompletesMethod middle.completed middle.request.method after)
    (completedEq : middle.completed = completed) (methodEq : middle.request.method = method) :
    CompletesMethod completed method after := by
  rw [← completedEq, ← methodEq]
  exact completes

theorem completesMethod_of_reject {completed : List HttpRequest} {middle : Http1Handler PlainTls}
    (completedEq : middle.completed = completed) (method : Bytes) :
    CompletesMethod completed method middle.reject.2 := by
  left
  rw [← completedEq]
  exact (reject_progress middle).2.1

theorem completesMethod_of_expectComplete {handler : Http1Handler PlainTls}
    (connSet : handler.connSet = true) :
    CompletesMethod handler.completed handler.request.method handler.expectComplete.2 :=
  Or.inr ⟨handler.request, expectComplete_completed connSet, rfl⟩

theorem completesMethod_of_expectBody {handler : Http1Handler PlainTls}
    (connSet : handler.connSet = true) :
    CompletesMethod handler.completed handler.request.method handler.expectBody.2 := by
  simp only [expectBody]
  split_ifs
  · refine CompletesMethod.of_middle (completesMethod_of_expectComplete ?_) rfl rfl
    exact connSet
  · exact Or.inl rfl

theorem completesMethod_of_headersComplete {handler : Http1Handler PlainTls}
    (connSet : handler.connSet = true) :
    CompletesMethod handler.completed handler.request.method handler.headersComplete.2 := by
  simp only [headersComplete]
  split_ifs
  · refine completesMethod_of_reject ?_ _
    rfl
  · split
    · refine completesMethod_of_reject ?_ _
      rfl
    · split_ifs
      · refine CompletesMethod.of_middle (completesMethod_of_expectBody ?_) rfl rfl
        exact connSet
      · refine CompletesMethod.of_middle (completesMethod_of_expectComplete ?_) rfl rfl
        exact connSet

theorem completesMethod_of_expectHeaders {handler : Http1Handler PlainTls}
    (connSet : handler.connSet = true) :
    CompletesMethod handler.completed handler.request.method handler.expectHeaders.2 := by
  simp only [expectHeaders]
  split_ifs
  · exact Or.inl rfl
  · refine completesMethod_of_reject ?_ _
    rfl
  · refine CompletesMethod.of_middle (completesMethod_of_headersComplete ?_) rfl rfl
    exact connSet

theorem splitRequestLine_method {line method path version : Bytes}
    (split : splitRequestLine line = some (method, path, version)) :
    method = line.takeWhile isNotSpace := by
  simp only [splitRequestLine] at split
  split_ifs at split
  cases split
  rfl

theorem parseRequestLine_method {parser : HttpParser} {line : Bytes}
    (accepted : ¬(parser.parseRequestLine line).1.failed = true) :
    (parser.parseRequestLine line).2.1.1 = line.takeWhile isNotSpace := by
  simp only [parseRequestLine] at accepted ⊢
  cases split : splitRequestLine line with
  | none => simp [split] at accepted
  | some parts =>
      rcases parts with ⟨method, path, version⟩
      have methodEq := splitRequestLine_method split
      by_cases supported : version = ascii "HTTP/1.1"
      · simp only [if_pos supported]
        exact methodEq
      · simp only [if_neg supported]
        exact methodEq

theorem line_isPrefix_of_readLine {parser parserAfter : HttpParser} {buffer after : Buffer}
    {maxLen : ℕ} {status : ProtocolStatus} {line : Bytes}
    (read : parser.readLine buffer maxLen = (status, line, parserAfter, after)) :
    line <+: buffer.contents := by
  simp only [readLine] at read
  split_ifs at read
  · cases read
    exact List.nil_prefix
  · split at read
    · cases read
      exact List.nil_prefix
    · split_ifs at read
      · cases read
        exact List.nil_prefix
      · cases read
        exact List.take_prefix _ _

/-- The method of the request that a handler completes from its request line on stands at the front
of its buffer. -/
theorem expectRequestLine_method (handler : Http1Handler PlainTls)
    (connSet : handler.connSet = true) :
    ∃ method, method <+: handler.plaintextBuffer.contents ∧
      CompletesMethod handler.completed method handler.expectRequestLine.2 := by
  rcases read : handler.parser.readLine handler.plaintextBuffer maxLineLen with
    ⟨status, line, parser, after⟩
  have front := line_isPrefix_of_readLine read
  simp only [expectRequestLine, read]
  split_ifs with waiting failed malformed
  · exact ⟨[], List.nil_prefix, Or.inl rfl⟩
  · refine ⟨[], List.nil_prefix, completesMethod_of_reject ?_ _⟩
    rfl
  · refine ⟨[], List.nil_prefix, completesMethod_of_reject ?_ _⟩
    rfl
  · refine ⟨line.takeWhile isNotSpace, (List.takeWhile_prefix _).trans front, ?_⟩
    rw [← parseRequestLine_method malformed]
    refine CompletesMethod.of_middle (completesMethod_of_expectHeaders ?_) rfl rfl
    exact connSet

/-- A request with the given method and nothing else in it. -/
def bareRequest (method : Bytes) : Bytes := method ++ ascii " / HTTP/1.1\r\n\r\n"

/-- What a new handler makes of a read, a handler that is as good as new finds at the front of its
buffer. -/
theorem AsNew.method_isPrefix {handler : Http1Handler PlainTls} (asNew : handler.AsNew)
    (bytes : ReadBytes) (nonempty : bytes.1 ≠ []) {request : HttpRequest}
    (alone : (connected.afterCalls [.onRead bytes]).completed = [request]) :
    request.method <+: (handler.plaintextBuffer.write .always bytes.1).2.contents := by
  have completedEq : (handler.reconnect.deliver bytes.1).completed =
      handler.completed ++ [request] := by
    rw [← alone]
    exact (asNew [.onRead bytes]).1
  rw [reconnect_eq, deliver_eq_parse rfl nonempty bytes.2] at completedEq
  rcases expectRequestLine_method
    { connected with
      plaintextBuffer := (handler.plaintextBuffer.write .always bytes.1).2
      completed := handler.completed
      parser := { bufferSet := true } } rfl with
    ⟨method, front, nothing | ⟨other, otherEq, methodEq⟩⟩
  · have longer := completedEq.symm.trans nothing
    simp at longer
  · have same := completedEq.symm.trans otherEq
    simp only [List.append_cancel_left_eq, List.cons.injEq, and_true] at same
    rw [same, methodEq]
    exact front

/-- Two requests with different methods tell whether something was left in the buffer. -/
theorem contents_nil_of_asNew {handler : Http1Handler PlainTls} (asNew : handler.AsNew) :
    handler.plaintextBuffer.contents = [] := by
  have first : (connected.afterCalls [.onRead ⟨bareRequest (ascii "A"), by decide⟩]).completed =
      [{ method := ascii "A", path := ascii "/" }] := by
    decide +kernel
  have second : (connected.afterCalls [.onRead ⟨bareRequest (ascii "B"), by decide⟩]).completed =
      [{ method := ascii "B", path := ascii "/" }] := by
    decide +kernel
  have firstFront := asNew.method_isPrefix _ (by decide) first
  have secondFront := asNew.method_isPrefix _ (by decide) second
  cases left : handler.plaintextBuffer.contents with
  | nil => rfl
  | cons byte rest =>
      -- what was left begins with the first byte of either method
      have starts {method bytes : Bytes} {letter : UInt8} (methodEq : method = [letter])
          (front : method <+: (handler.plaintextBuffer.write .always bytes).2.contents) :
          letter = byte := by
        rcases handler.plaintextBuffer.contents_isPrefix_write bytes with ⟨more, moreEq⟩
        rw [left, List.cons_append] at moreEq
        rw [← moreEq, methodEq, List.cons_prefix_cons] at front
        exact front.1
      have letterA := starts (by decide : ascii "A" = [65]) firstFront
      have letterB := starts (by decide : ascii "B" = [66]) secondFront
      rw [← letterB] at letterA
      cases letterA

theorem asNew_iff (handler : Http1Handler PlainTls) :
    handler.AsNew ↔ handler.plaintextBuffer.contents = [] :=
  ⟨contents_nil_of_asNew, asNew_of_contents_nil⟩

end Http1Handler

end HttpsServerSim
