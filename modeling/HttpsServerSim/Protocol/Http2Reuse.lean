import HttpsServerSim.Protocol.HpackCompose
import HttpsServerSim.Protocol.Http1Reuse
import HttpsServerSim.Protocol.Http2Reading

/-!
# Using an HTTP/2 handler again

As for HTTP/1.1, `init` puts everything back except for `plaintext_buffer_`, and the table size of
the HPACK decoder, which no decoding reads. A handler that was closed with an empty buffer
goes on like a new one.

With the result for HTTP/1.1 this says when a handler of either kind is as good as new.
-/

namespace HttpsServerSim

/-- Decoding does not read the decoder's state. -/
theorem HpackDecoder.exists_decode_eq [WideShift] (decoder other : HpackDecoder) (data : Bytes) :
    ∃ after, other.decode data = ((decoder.decode data).1, (decoder.decode data).2.1, after) := by
  rcases decodeLoop_decoder_irrelevant data.length other decoder ∅ data with
    ⟨status_eq, headers_eq⟩
  exact ⟨(other.decode data).2.2, Prod.ext status_eq (Prod.ext headers_eq rfl)⟩

namespace Http2Handler

open Http2Frame

/-- `left` is `right` with the same contents held in another buffer, another table size, and with
frames handled before. -/
structure Alike (before : List (Http2Frame × ProtocolStatus))
    (left right : Http2Handler PlainTls) : Prop where
  contents : left.plaintextBuffer.contents = right.plaintextBuffer.contents
  others : left =
    { right with
      plaintextBuffer := left.plaintextBuffer
      hpackDecoder := left.hpackDecoder
      handled := before ++ right.handled }

theorem Alike.exists_buffer {before : List (Http2Frame × ProtocolStatus)}
    {left right : Http2Handler PlainTls} (alike : Alike before left right) :
    ∃ (buffer : Buffer) (decoder : HpackDecoder),
      buffer.contents = right.plaintextBuffer.contents ∧
        left =
          { right with
            plaintextBuffer := buffer
            hpackDecoder := decoder
            handled := before ++ right.handled } :=
  ⟨left.plaintextBuffer, left.hpackDecoder, alike.contents, alike.others⟩

/-- Two calls end alike. -/
def EndAlike (before : List (Http2Frame × ProtocolStatus))
    (left right : ProtocolStatus × Http2Handler PlainTls) : Prop :=
  left.1 = right.1 ∧ Alike before left.2 right.2

section Stages

variable {before : List (Http2Frame × ProtocolStatus)} {left right : Http2Handler PlainTls}

/-! ## Sending -/

theorem Alike.writeAll (alike : Alike before left right) (bytes : Bytes) :
    EndAlike before (left.writeAll bytes) (right.writeAll bytes) := by
  rcases alike.exists_buffer with ⟨buffer, decoder, same, rfl⟩
  simp only [Http2Handler.writeAll]
  split_ifs
  · exact ⟨rfl, ⟨same, rfl⟩⟩
  · exact ⟨rfl, ⟨same, rfl⟩⟩
  · exact ⟨rfl, ⟨same, rfl⟩⟩

/-- Calls that go on alike after ending alike. -/
theorem EndAlike.andThen {leftEnd rightEnd : ProtocolStatus × Http2Handler PlainTls}
    (ends : EndAlike before leftEnd rightEnd)
    (next : Http2Handler PlainTls → ProtocolStatus × Http2Handler PlainTls)
    (goesOn : ∀ {leftNow rightNow}, Alike before leftNow rightNow →
      EndAlike before (next leftNow) (next rightNow)) :
    EndAlike before (if leftEnd.1 ≠ .ok then (leftEnd.1, leftEnd.2) else next leftEnd.2)
      (if rightEnd.1 ≠ .ok then (rightEnd.1, rightEnd.2) else next rightEnd.2) := by
  rw [ends.1]
  split_ifs
  · exact ⟨rfl, ends.2⟩
  · exact goesOn ends.2

theorem Alike.writeFrame (alike : Alike before left right) (type : Http2FrameType)
    (streamId : ℕ) (flags : UInt8) (payload : Bytes) :
    EndAlike before (left.writeFrame type streamId flags payload)
      (right.writeFrame type streamId flags payload) := by
  simp only [Http2Handler.writeFrame]
  apply (alike.writeAll _).andThen fun handler =>
    if payload.isEmpty then (.ok, handler) else handler.writeAll payload
  intro leftNow rightNow now
  split_ifs
  · exact ⟨rfl, now⟩
  · exact now.writeAll payload

theorem Alike.localSettings_eq (alike : Alike before left right) :
    left.localSettings = right.localSettings := by
  rcases alike.exists_buffer with ⟨buffer, decoder, same, rfl⟩
  rfl

theorem Alike.sendContinuations (alike : Alike before left right) (fuel streamId : ℕ)
    (rest : Bytes) :
    EndAlike before (Http2Handler.sendContinuations fuel left streamId rest)
      (Http2Handler.sendContinuations fuel right streamId rest) := by
  induction fuel generalizing left right rest with
  | zero => exact alike.writeFrame _ _ _ _
  | succ fuel ih =>
      simp only [Http2Handler.sendContinuations, alike.localSettings_eq]
      by_cases long : right.localSettings.maxFrameSize < rest.length
      · rw [if_pos long, if_pos long]
        apply (alike.writeFrame _ _ _ _).andThen fun handler =>
          Http2Handler.sendContinuations fuel handler streamId _
        intro leftNow rightNow now
        exact ih now _
      · rw [if_neg long, if_neg long]
        exact alike.writeFrame _ _ _ _

theorem Alike.sendHeadersFrame (alike : Alike before left right) (streamId : ℕ)
    (headers : HttpHeaders) (endStream : Bool) :
    EndAlike before (left.sendHeadersFrame streamId headers endStream)
      (right.sendHeadersFrame streamId headers endStream) := by
  simp only [Http2Handler.sendHeadersFrame, alike.localSettings_eq]
  by_cases fits : (Hpack.encode headers).length ≤ right.localSettings.maxFrameSize
  · rw [if_pos fits, if_pos fits]
    exact alike.writeFrame _ _ _ _
  · rw [if_neg fits, if_neg fits]
    apply (alike.writeFrame _ _ _ _).andThen fun handler =>
      Http2Handler.sendContinuations _ handler streamId _
    intro leftNow rightNow now
    exact now.sendContinuations _ _ _

theorem Alike.sendDataLoop (alike : Alike before left right) (fuel streamId : ℕ) (rest : Bytes)
    (endStream : Bool) :
    EndAlike before (Http2Handler.sendDataLoop fuel left streamId rest endStream)
      (Http2Handler.sendDataLoop fuel right streamId rest endStream) := by
  induction fuel generalizing left right rest with
  | zero => exact ⟨rfl, alike⟩
  | succ fuel ih =>
      simp only [Http2Handler.sendDataLoop, alike.localSettings_eq]
      by_cases empty : rest.isEmpty = true
      · rw [if_pos empty, if_pos empty]
        exact ⟨rfl, alike⟩
      · rw [if_neg empty, if_neg empty]
        apply (alike.writeFrame _ _ _ _).andThen fun handler =>
          Http2Handler.sendDataLoop fuel handler streamId _ endStream
        intro leftNow rightNow now
        exact ih now _

theorem Alike.handleCompleteRequest (alike : Alike before left right) (stream : Http2Stream) :
    EndAlike before (left.handleCompleteRequest stream) (right.handleCompleteRequest stream) := by
  have connSet : left.connSet = right.connSet := by
    rcases alike.exists_buffer with ⟨buffer, decoder, same, rfl⟩
    rfl
  simp only [Http2Handler.handleCompleteRequest, connSet]
  split_ifs
  · refine ⟨rfl, ?_⟩
    exact ((alike.sendHeadersFrame _ _ _).2.sendDataLoop _ _ _ _).2
  · exact ⟨rfl, alike⟩

theorem Alike.sendSettingsAck (alike : Alike before left right) :
    EndAlike before left.sendSettingsAck right.sendSettingsAck := by
  rcases alike.exists_buffer with ⟨buffer, decoder, same, rfl⟩
  simp only [Http2Handler.sendSettingsAck]
  split_ifs
  · exact ⟨rfl, alike⟩
  · apply Alike.writeFrame
    exact ⟨same, rfl⟩

/-! ## Frames -/

theorem Alike.handleSettingsFrame (alike : Alike before left right) (payload : Bytes) :
    EndAlike before (left.handleSettingsFrame payload) (right.handleSettingsFrame payload) := by
  rcases alike.exists_buffer with ⟨buffer, decoder, same, rfl⟩
  simp only [Http2Handler.handleSettingsFrame]
  split_ifs
  · exact ⟨rfl, ⟨same, rfl⟩⟩
  · apply Alike.sendSettingsAck
    exact ⟨same, rfl⟩

theorem Alike.handlePingFrame (alike : Alike before left right) (payload : Bytes) :
    EndAlike before (left.handlePingFrame payload) (right.handlePingFrame payload) := by
  simp only [Http2Handler.handlePingFrame]
  split_ifs
  · exact ⟨rfl, (alike.writeFrame _ _ _ _).2⟩
  · exact ⟨rfl, alike⟩

theorem Alike.handleWindowUpdateFrame (alike : Alike before left right)
    (streamId increment : ℕ) :
    EndAlike before (left.handleWindowUpdateFrame streamId increment)
      (right.handleWindowUpdateFrame streamId increment) := by
  rcases alike.exists_buffer with ⟨buffer, decoder, same, rfl⟩
  simp only [Http2Handler.handleWindowUpdateFrame]
  split_ifs
  · exact ⟨rfl, alike⟩
  · exact ⟨rfl, ⟨same, rfl⟩⟩
  · exact ⟨rfl, ⟨same, rfl⟩⟩

theorem Alike.handleRstStreamFrame (alike : Alike before left right) (streamId : ℕ) :
    EndAlike before (left.handleRstStreamFrame streamId)
      (right.handleRstStreamFrame streamId) := by
  rcases alike.exists_buffer with ⟨buffer, decoder, same, rfl⟩
  exact ⟨rfl, ⟨same, rfl⟩⟩

theorem Alike.handleDataFrame (alike : Alike before left right) (streamId : ℕ) (payload : Bytes)
    (flags : UInt8) :
    EndAlike before (left.handleDataFrame streamId payload flags)
      (right.handleDataFrame streamId payload flags) := by
  rcases alike.exists_buffer with ⟨buffer, decoder, same, rfl⟩
  simp only [Http2Handler.handleDataFrame]
  split
  · exact ⟨rfl, alike⟩
  · split_ifs
    · apply Alike.handleCompleteRequest
      exact ⟨same, rfl⟩
    · exact ⟨rfl, ⟨same, rfl⟩⟩

theorem Alike.streams_eq (alike : Alike before left right) : left.streams = right.streams := by
  rcases alike.exists_buffer with ⟨buffer, decoder, same, rfl⟩
  rfl

theorem Alike.insertStream (alike : Alike before left right) (streamId : ℕ)
    (stream : Http2Stream) :
    Alike before { left with streams := left.streams.insert streamId stream }
      { right with streams := right.streams.insert streamId stream } := by
  rcases alike.exists_buffer with ⟨buffer, decoder, same, rfl⟩
  exact ⟨same, rfl⟩

theorem Alike.skip (alike : Alike before left right) (count : ℕ) :
    Alike before { left with plaintextBuffer := left.plaintextBuffer.skip count }
      { right with plaintextBuffer := right.plaintextBuffer.skip count } := by
  rcases alike.exists_buffer with ⟨buffer, decoder, same, rfl⟩
  refine ⟨?_, rfl⟩
  simp only [Buffer.contents_skip, same]

theorem Alike.handled (alike : Alike before left right) (entry : Http2Frame × ProtocolStatus) :
    Alike before { left with handled := left.handled ++ [entry] }
      { right with handled := right.handled ++ [entry] } := by
  rcases alike.exists_buffer with ⟨buffer, decoder, same, rfl⟩
  rw [List.append_assoc]
  exact ⟨same, rfl⟩

section Headers

variable [WideShift]

theorem Alike.mergeFragment (alike : Alike before left right) (streamId : ℕ)
    (stream : Http2Stream) (payload : Bytes) :
    (left.mergeFragment streamId stream payload).1 =
        (right.mergeFragment streamId stream payload).1 ∧
      (left.mergeFragment streamId stream payload).2.1 =
        (right.mergeFragment streamId stream payload).2.1 ∧
      Alike before (left.mergeFragment streamId stream payload).2.2
        (right.mergeFragment streamId stream payload).2.2 := by
  rcases alike.exists_buffer with ⟨buffer, decoder, same, rfl⟩
  rcases right.hpackDecoder.exists_decode_eq decoder payload with ⟨after, decoded⟩
  rcases read : right.hpackDecoder.decode payload with ⟨status, headers, rightAfter⟩
  rw [read] at decoded
  simp only [Http2Handler.mergeFragment, decoded, read]
  by_cases failed : status ≠ .ok
  · simp only [if_pos failed]
    exact ⟨trivial, trivial, ⟨same, rfl⟩⟩
  · simp only [if_neg failed]
    exact ⟨trivial, trivial, ⟨same, rfl⟩⟩

theorem Alike.handleHeadersFrame (alike : Alike before left right) (streamId : ℕ)
    (payload : Bytes) (flags : UInt8) :
    EndAlike before (left.handleHeadersFrame streamId payload flags)
      (right.handleHeadersFrame streamId payload flags) := by
  simp only [Http2Handler.handleHeadersFrame, alike.streams_eq]
  generalize (if (getOrCreateStream right.streams streamId).state = .idle then
    { getOrCreateStream right.streams streamId with state := Http2StreamState.open }
    else getOrCreateStream right.streams streamId) = stream
  have opened := alike.insertStream streamId stream
  rw [alike.streams_eq] at opened
  rcases opened.mergeFragment streamId stream payload with ⟨status, merged, after⟩
  simp only [status, merged]
  split_ifs
  · exact ⟨rfl, after⟩
  · exact ⟨rfl, after⟩
  · apply Alike.handleCompleteRequest
    exact after.insertStream _ _
  · exact ⟨rfl, after⟩

theorem Alike.handleContinuationFrame (alike : Alike before left right) (streamId : ℕ)
    (payload : Bytes) (flags : UInt8) :
    EndAlike before (left.handleContinuationFrame streamId payload flags)
      (right.handleContinuationFrame streamId payload flags) := by
  simp only [Http2Handler.handleContinuationFrame, alike.streams_eq]
  cases right.streams[streamId]? with
  | none => exact ⟨rfl, alike⟩
  | some stream =>
      rcases alike.mergeFragment streamId stream payload with ⟨status, merged, after⟩
      simp only [status, merged]
      split_ifs
      · exact ⟨rfl, after⟩
      · exact after.handleCompleteRequest _
      · exact ⟨rfl, after⟩

theorem Alike.handleFrame (alike : Alike before left right) (frame : Http2Frame) :
    EndAlike before (left.handleFrame frame) (right.handleFrame frame) := by
  simp only [Http2Handler.handleFrame]
  split_ifs
  · exact alike.handleSettingsFrame _
  · exact alike.handleHeadersFrame _ _ _
  · exact alike.handleDataFrame _ _ _
  · exact alike.handleContinuationFrame _ _ _
  · exact alike.handleWindowUpdateFrame _ _
  · exact alike.handleRstStreamFrame _
  · exact alike.handlePingFrame _
  · exact ⟨rfl, alike⟩

/-! ## Reading -/

theorem Alike.readFrame (alike : Alike before left right) :
    EndAlike before left.readFrame right.readFrame := by
  simp only [Http2Handler.readFrame, alike.contents]
  cases Http2Frame.splitFrame right.plaintextBuffer.contents with
  | none => exact ⟨rfl, alike⟩
  | some found =>
      rcases found with ⟨frame, rest⟩
      rcases (alike.skip http2FrameHeaderSize).handleFrame frame with ⟨status, after⟩
      simp only [status]
      refine ⟨rfl, ?_⟩
      exact (after.skip _).handled _

theorem Alike.readFrames (alike : Alike before left right) (fuel : ℕ) :
    EndAlike before (Http2Handler.readFrames fuel left) (Http2Handler.readFrames fuel right) := by
  induction fuel generalizing left right with
  | zero => exact ⟨rfl, alike⟩
  | succ fuel ih =>
      rcases alike.readFrame with ⟨status, after⟩
      simp only [Http2Handler.readFrames, status]
      split_ifs
      · exact ⟨rfl, after⟩
      · exact ⟨rfl, after⟩
      · exact ih after

theorem Alike.onRead (alike : Alike before left right) :
    EndAlike before left.onRead right.onRead := by
  rcases alike.exists_buffer with ⟨buffer, decoder, same, rfl⟩
  have short : (TlsLayer.read right.tlsHandler tempBufferSize).2.1.length ≤ Buffer.maxCapacity :=
    (PlainTls.length_read_le _ _).trans (by decide)
  simp only [Http2Handler.onRead]
  split_ifs
  · exact ⟨rfl, ⟨same, rfl⟩⟩
  · exact ⟨rfl, ⟨same, rfl⟩⟩
  · have readable : buffer.readableBytes = right.plaintextBuffer.readableBytes := by
      rw [← Buffer.length_contents, same, Buffer.length_contents]
    rw [readable]
    apply Alike.readFrames
    exact ⟨same, rfl⟩
  · have written := Buffer.contents_write_congr same short
    rw [← Buffer.length_contents, written, Buffer.length_contents]
    apply Alike.readFrames
    exact ⟨written, rfl⟩

end Headers

end Stages

end Http2Handler

namespace Http2Handler

open Http2Frame

/-- `init` clears everything but the buffer and the table size, and sends the settings. -/
theorem init_plain (handler : Http2Handler PlainTls) (connSet : Bool) :
    handler.init connSet =
      (.ok,
        { handler with
          connSet := connSet
          tlsHandler := { written := initialSettings.writes }
          settings := .reset
          localSettings := .reset
          streams := ∅
          settingsAckReceived := false
          settingsAckSent := false }) := by
  simp only [init, TlsLayer.init, ne_eq, not_true_eq_false, if_false]
  rw [sendSettingsFrame_plain _ rfl]
  simp [emit]

/-- `close`, and `init` with a new connection. -/
def reconnect (handler : Http2Handler PlainTls) : Http2Handler PlainTls :=
  (handler.close.init true).2

theorem reconnect_eq (handler : Http2Handler PlainTls) :
    handler.reconnect =
      { connected with
        plaintextBuffer := handler.plaintextBuffer
        hpackDecoder := handler.hpackDecoder
        handled := handler.handled } := by
  rw [reconnect, connected, init_plain, init_plain]
  rfl

end Http2Handler

/-- What the server and the application call on a connected handler. -/
inductive Http2Input where
  | onRead (bytes : ReadBytes)
  | sendResponse (data : ResponseData)
deriving DecidableEq

/-- The type of a frame stands in the fourth byte. -/
theorem Http2Frame.type_of_splitFrame {input rest : Bytes} {frame : Http2Frame}
    (found : splitFrame input = some (frame, rest)) : input[3]? = some frame.type.code := by
  simp only [splitFrame] at found
  split at found
  · split_ifs at found
    cases found
    rfl
  · cases found

namespace Http2Handler

open Http2Frame

/-- Two types that no handler knows. -/
def unknownTypes : List Http2FrameType := [⟨0xEE⟩, ⟨0xEF⟩]

/-- A frame of a type without payload. -/
def bareFrame (type : Http2FrameType) : Http2Frame where
  type := type
  flags := 0
  streamId := 0
  payload := []
  streamId_lt := Nat.two_pow_pos 31
  length_lt := Nat.two_pow_pos 24

theorem bareFrame_bytes (type : Http2FrameType) :
    (bareFrame type).bytes = [0, 0, 0, type.code, 0, 0, 0, 0, 0] := by
  simp [Http2Frame.bytes, frameHeader, bareFrame, BigEndian.encode]

def bareRead (type : Http2FrameType) : ReadBytes :=
  ⟨(bareFrame type).bytes, by
    rw [bareFrame_bytes]
    exact (by decide : 9 ≤ tempBufferSize)⟩

section Reuse

variable [WideShift]

def onInput (handler : Http2Handler PlainTls) : Http2Input → Http2Handler PlainTls
  | .onRead bytes => handler.deliver bytes.1
  | .sendResponse data => (handler.sendResponse data.1).2

def afterInputs (handler : Http2Handler PlainTls) (inputs : List Http2Input) :
    Http2Handler PlainTls :=
  inputs.foldl onInput handler

theorem afterInputs_onRead (handler : Http2Handler PlainTls) (read : ReadBytes) :
    handler.afterInputs [.onRead read] = handler.deliver read.1 :=
  rfl

theorem Alike.onInput {before : List (Http2Frame × ProtocolStatus)}
    {left right : Http2Handler PlainTls} (alike : Alike before left right) (input : Http2Input) :
    Alike before (left.onInput input) (right.onInput input) := by
  cases input with
  | onRead bytes =>
      rcases alike.exists_buffer with ⟨buffer, decoder, same, rfl⟩
      apply (Alike.onRead _).2
      exact ⟨same, rfl⟩
  | sendResponse data => exact (alike.sendDataLoop _ _ _ _).2

theorem Alike.afterInputs {before : List (Http2Frame × ProtocolStatus)}
    {left right : Http2Handler PlainTls} (alike : Alike before left right)
    (inputs : List Http2Input) :
    Alike before (left.afterInputs inputs) (right.afterInputs inputs) := by
  apply List.foldl_rel alike
  intro input _ leftNow rightNow now
  exact now.onInput input

/-! ## A closed handler and a new connection -/

def onHandlerEvent (handler : Http2Handler PlainTls) :
    HandlerEvent Http2Input → Http2Handler PlainTls
  | .init connSet => (handler.init connSet).2
  | .call input => handler.onInput input

/-- A new handler after the given events. -/
def afterHistory (history : List (HandlerEvent Http2Input)) : Http2Handler PlainTls :=
  history.foldl onHandlerEvent (construct {})

/-- Used again, the handler handles the same frames, has the same streams with their requests and
writes the same bytes as a new one. The frames are compared as well because one that is left over
and then ignored leaves no other trace. -/
def AsNew (handler : Http2Handler PlainTls) : Prop :=
  ∀ inputs : List Http2Input,
    (handler.reconnect.afterInputs inputs).handled =
        handler.handled ++ (connected.afterInputs inputs).handled ∧
      (handler.reconnect.afterInputs inputs).streams = (connected.afterInputs inputs).streams ∧
      (handler.reconnect.afterInputs inputs).tlsHandler.written =
        (connected.afterInputs inputs).tlsHandler.written

theorem asNew_of_contents_nil {handler : Http2Handler PlainTls}
    (empty : handler.plaintextBuffer.contents = []) : handler.AsNew := by
  have alike : Alike handler.handled handler.reconnect connected := by
    rw [reconnect_eq]
    exact ⟨empty, congrArg (fun earlier => { connected with
      plaintextBuffer := handler.plaintextBuffer
      hpackDecoder := handler.hpackDecoder
      handled := earlier }) (List.append_nil _).symm⟩
  intro inputs
  rcases (alike.afterInputs inputs).exists_buffer with ⟨buffer, decoder, same, after⟩
  rw [after]
  exact ⟨rfl, rfl, rfl⟩

/-! ## What is left in the buffer shows -/

/-- If one frame is handled, it is the one at the front of the buffer. -/
theorem splitFrame_of_handled {handler : Http2Handler PlainTls} {frame : Http2Frame}
    {status : ProtocolStatus} {fuel : ℕ}
    (handled : (readFrames (fuel + 1) handler).2.handled = handler.handled ++ [(frame, status)]) :
    ∃ rest, splitFrame handler.plaintextBuffer.contents = some (frame, rest) := by
  cases found : splitFrame handler.plaintextBuffer.contents with
  | none =>
      rw [readFrames, readFrame_of_incomplete found] at handled
      simp at handled
  | some result =>
      have first := (readFrame_of_complete found).2.1
      have kept : handler.handled ++ [(result.1, handler.readFrame.1)] <+:
          (readFrames (fuel + 1) handler).2.handled := by
        rw [← first]
        simp only [readFrames]
        split_ifs
        · exact List.prefix_rfl
        · exact List.prefix_rfl
        · exact handled_isPrefix_readFrames fuel _
      rw [handled, List.prefix_append_right_inj, List.cons_prefix_cons, Prod.mk.injEq] at kept
      exact ⟨result.2, by rw [← kept.1.1]⟩

/-- A single frame that is ignored is handled, and nothing else. -/
theorem readFrames_single (handler : Http2Handler PlainTls) (fuel : ℕ) {frame : Http2Frame}
    (found : splitFrame handler.plaintextBuffer.contents = some (frame, []))
    (ignored : ∀ other : Http2Handler PlainTls, other.handleFrame frame = (.ok, other)) :
    (readFrames (fuel + 2) handler).2.handled = handler.handled ++ [(frame, .ok)] := by
  have accepted : handler.readFrame.1 = .ok := by
    simp only [readFrame, found, ignored]
  rcases readFrame_of_complete found with ⟨contents, handled, _⟩
  have nothing : handler.readFrame.2.readFrame = (.eagain, handler.readFrame.2) := by
    apply readFrame_of_incomplete
    rw [contents]
    rfl
  have goesOn : ProtocolStatus.failed .ok = false := rfl
  simp only [readFrames, accepted, reduceCtorEq, goesOn, Bool.false_eq_true, if_false, nothing,
    if_true]
  rw [handled, accepted]

theorem handled_deliver_single {handler : Http2Handler PlainTls}
    (drained : handler.tlsHandler.pending = [])
    (empty : handler.plaintextBuffer.contents = []) (read : ReadBytes) {frame : Http2Frame}
    (readEq : read.1 = frame.bytes)
    (ignored : ∀ other : Http2Handler PlainTls, other.handleFrame frame = (.ok, other)) :
    (handler.deliver read.1).handled = handler.handled ++ [(frame, .ok)] := by
  have loaded := ReadBytes.contents_write_of_nil read empty
  have found := splitFrame_bytes frame []
  rw [List.append_nil, ← readEq, ← loaded] at found
  have shorter := framing.length_lt_of_split found
  rw [Buffer.length_contents] at shorter
  have nonempty : read.1 ≠ [] := by
    intro nothing
    rw [loaded, nothing] at found
    cases found
  rw [deliver_eq_readFrames drained nonempty read.2]
  rcases Nat.exists_eq_add_of_lt shorter with ⟨fuel, fuelEq⟩
  rw [fuelEq]
  exact readFrames_single _ _ found ignored

theorem handleFrame_bareFrame {type : Http2FrameType} (unknown : type ∈ unknownTypes)
    (handler : Http2Handler PlainTls) : handler.handleFrame (bareFrame type) = (.ok, handler) := by
  simp only [unknownTypes, List.mem_cons, List.not_mem_nil, or_false] at unknown
  rcases unknown with rfl | rfl
  · rfl
  · rfl

/-- A handler that is as good as new finds the type of the new connection's first frame in the
fourth byte of its buffer. -/
theorem AsNew.type_eq {handler : Http2Handler PlainTls} (asNew : handler.AsNew)
    {type : Http2FrameType} (unknown : type ∈ unknownTypes) :
    (handler.plaintextBuffer.write .always (bareRead type).1).2.contents[3]? =
      some type.code := by
  have nonempty : (bareRead type).1 ≠ [] := by
    change (bareFrame type).bytes ≠ []
    rw [bareFrame_bytes]
    exact List.cons_ne_nil _ _
  have fresh : (connected.deliver (bareRead type).1).handled = [(bareFrame type, .ok)] :=
    handled_deliver_single rfl rfl (bareRead type) rfl (handleFrame_bareFrame unknown)
  have handled : (handler.reconnect.deliver (bareRead type).1).handled =
      handler.handled ++ [(bareFrame type, .ok)] := by
    have same := (asNew [.onRead (bareRead type)]).1
    rw [afterInputs_onRead, afterInputs_onRead, fresh] at same
    exact same
  rw [reconnect_eq, deliver_eq_readFrames rfl nonempty (bareRead type).2] at handled
  rcases splitFrame_of_handled handled with ⟨rest, found⟩
  exact Http2Frame.type_of_splitFrame found

/-- What is left in the buffer moves the type of the first frame, or hides it. -/
theorem contents_nil_of_asNew {handler : Http2Handler PlainTls} (asNew : handler.AsNew) :
    handler.plaintextBuffer.contents = [] := by
  have first := asNew.type_eq (by decide : ⟨0xEE⟩ ∈ unknownTypes)
  have second := asNew.type_eq (by decide : ⟨0xEF⟩ ∈ unknownTypes)
  by_cases long : 3 < handler.plaintextBuffer.contents.length
  · -- the fourth byte is one that was left, and is not both types
    have kept (type : Http2FrameType) :
        (handler.plaintextBuffer.write .always (bareRead type).1).2.contents[3]? =
          handler.plaintextBuffer.contents[3]? := by
      have front := handler.plaintextBuffer.contents_isPrefix_write (bareRead type).1
      rcases front with ⟨more, moreEq⟩
      rw [← moreEq, List.getElem?_append_left long]
    rw [kept] at first second
    rw [first] at second
    cases second
  · -- the fourth byte is one of the length field
    have fits : handler.plaintextBuffer.readableBytes + (bareRead ⟨0xEE⟩).1.length ≤
        Buffer.maxCapacity := by
      have short := (bareRead ⟨0xEE⟩).2
      have limit : 3 + tempBufferSize ≤ Buffer.maxCapacity := by decide
      rw [← Buffer.length_contents]
      omega
    rw [(handler.plaintextBuffer.write_of_fits fits).2] at first
    have wire : (bareRead ⟨0xEE⟩).1 = [0, 0, 0, 0xEE, 0, 0, 0, 0, 0] := bareFrame_bytes ⟨0xEE⟩
    rw [wire] at first
    rcases left : handler.plaintextBuffer.contents with _ | ⟨b0, _ | ⟨b1, _ | ⟨b2, rest⟩⟩⟩
    · rfl
    · rw [left] at first
      cases first
    · rw [left] at first
      cases first
    · rw [left] at first long
      have none : rest = [] := by
        simp only [List.length_cons] at long
        exact List.length_eq_zero_iff.mp (by omega)
      rw [none] at first
      cases first

theorem asNew_iff (handler : Http2Handler PlainTls) :
    handler.AsNew ↔ handler.plaintextBuffer.contents = [] :=
  ⟨contents_nil_of_asNew, asNew_of_contents_nil⟩

end Reuse

end Http2Handler

/-! ## Both handlers -/

/-- A handler of either protocol is as good as new exactly if it is closed with an empty buffer. -/
theorem asNew_iff_closed_empty [WideShift] :
    (∀ history : List (HandlerEvent Http1Call),
      (Http1Handler.afterHistory history).AsNew ↔
        (Http1Handler.afterHistory history).plaintextBuffer.contents = []) ∧
      ∀ history : List (HandlerEvent Http2Input),
        (Http2Handler.afterHistory history).AsNew ↔
          (Http2Handler.afterHistory history).plaintextBuffer.contents = [] := by
  refine ⟨?_, ?_⟩
  · intro history
    exact Http1Handler.asNew_iff _
  · intro history
    exact Http2Handler.asNew_iff _

/-- After a connection that was closed in the middle of a request line, the first request of the
next one has another method than on a new handler. -/
theorem asNew_fails :
    ¬(Http1Handler.afterHistory
      [.init true, .call (.onRead ⟨ascii "GET", by decide⟩)]).AsNew := by
  intro asNew
  have same := (asNew [.onRead ⟨Http1Handler.bareRequest (ascii "A"), by decide⟩]).1
  revert same
  decide +kernel

end HttpsServerSim
