import HttpsServerSim.Protocol.Http2Draining
import HttpsServerSim.Protocol.Http2Reading

/-!
# A byte stream is the frames in it

`on_read` is called when some bytes have arrived. Up to the first call that fails, what
the calls come to is determined by the bytes alone: the complete frames among them are
handled in order, up to the first one that is refused, whichever reads they arrived in.

Handling a frame neither looks at the plaintext buffer nor changes it
(`handleFrame_withBuffer`), so the buffer holds what is left of the stream and has no
other part in what the handler does.
-/

namespace HttpsServerSim

universe u

namespace Http2Handler

open Http2Frame

section Frame

variable {Tls : Type u}

/-- The handler with another plaintext buffer and another history. -/
def withBuffer (handler : Http2Handler Tls) (buffer : Buffer)
    (handled : List (Http2Frame × ProtocolStatus)) : Http2Handler Tls :=
  { handler with plaintextBuffer := buffer, handled := handled }

/-- The end of a call with another plaintext buffer and another history. -/
def endWith (buffer : Buffer) (handled : List (Http2Frame × ProtocolStatus))
    (ended : ProtocolStatus × Http2Handler Tls) : ProtocolStatus × Http2Handler Tls :=
  (ended.1, ended.2.withBuffer buffer handled)

section Endings

variable (buffer : Buffer) (handled : List (Http2Frame × ProtocolStatus))

@[simp]
theorem endWith_fst (ended : ProtocolStatus × Http2Handler Tls) :
    (endWith buffer handled ended).1 = ended.1 :=
  rfl

@[simp]
theorem endWith_snd (ended : ProtocolStatus × Http2Handler Tls) :
    (endWith buffer handled ended).2 = ended.2.withBuffer buffer handled :=
  rfl

@[simp]
theorem endWith_mk (status : ProtocolStatus) (handler : Http2Handler Tls) :
    endWith buffer handled (status, handler) = (status, handler.withBuffer buffer handled) :=
  rfl

@[simp]
theorem endWith_ite (condition : Prop) [Decidable condition]
    (one other : ProtocolStatus × Http2Handler Tls) :
    endWith buffer handled (if condition then one else other) =
      if condition then endWith buffer handled one else endWith buffer handled other := by
  split_ifs <;> rfl

@[simp]
theorem localSettings_withBuffer (handler : Http2Handler Tls) :
    (handler.withBuffer buffer handled).localSettings = handler.localSettings :=
  rfl

@[simp]
theorem connSet_withBuffer (handler : Http2Handler Tls) :
    (handler.withBuffer buffer handled).connSet = handler.connSet :=
  rfl

@[simp]
theorem streams_withBuffer (handler : Http2Handler Tls) :
    (handler.withBuffer buffer handled).streams = handler.streams :=
  rfl

@[simp]
theorem tlsHandler_withBuffer (handler : Http2Handler Tls) :
    (handler.withBuffer buffer handled).tlsHandler = handler.tlsHandler :=
  rfl

end Endings

variable [TlsLayer Tls] (handler : Http2Handler Tls) (buffer : Buffer)
  (handled : List (Http2Frame × ProtocolStatus))

/-! ## Handling a frame takes no notice of the buffer -/

theorem writeAll_withBuffer (bytes : Bytes) :
    (handler.withBuffer buffer handled).writeAll bytes =
      endWith buffer handled (handler.writeAll bytes) := by
  simp only [writeAll, tlsHandler_withBuffer, endWith_ite]
  rfl

theorem writeFrame_withBuffer (type : Http2FrameType) (streamId : ℕ) (flags : UInt8)
    (payload : Bytes) :
    (handler.withBuffer buffer handled).writeFrame type streamId flags payload =
      endWith buffer handled (handler.writeFrame type streamId flags payload) := by
  simp only [writeFrame, writeAll_withBuffer, endWith_ite, endWith_fst, endWith_snd]
  rfl

theorem sendContinuations_withBuffer (fuel streamId : ℕ) (rest : Bytes) :
    sendContinuations fuel (handler.withBuffer buffer handled) streamId rest =
      endWith buffer handled (sendContinuations fuel handler streamId rest) := by
  induction fuel generalizing handler rest with
  | zero => exact handler.writeFrame_withBuffer buffer handled _ _ _ _
  | succ fuel ih =>
      simp only [sendContinuations, writeFrame_withBuffer, localSettings_withBuffer, endWith_ite,
        endWith_fst, endWith_snd, ih]
      rfl

theorem sendHeadersFrame_withBuffer (streamId : ℕ) (headers : HttpHeaders) (endStream : Bool) :
    (handler.withBuffer buffer handled).sendHeadersFrame streamId headers endStream =
      endWith buffer handled (handler.sendHeadersFrame streamId headers endStream) := by
  simp only [sendHeadersFrame, writeFrame_withBuffer, localSettings_withBuffer, endWith_ite,
    endWith_fst, endWith_snd, sendContinuations_withBuffer]
  rfl

theorem sendDataLoop_withBuffer (fuel streamId : ℕ) (rest : Bytes) (endStream : Bool) :
    sendDataLoop fuel (handler.withBuffer buffer handled) streamId rest endStream =
      endWith buffer handled (sendDataLoop fuel handler streamId rest endStream) := by
  induction fuel generalizing handler rest with
  | zero => rfl
  | succ fuel ih =>
      simp only [sendDataLoop, writeFrame_withBuffer, localSettings_withBuffer, endWith_ite,
        endWith_fst, endWith_snd, ih]
      rfl

theorem handleCompleteRequest_withBuffer (stream : Http2Stream) :
    (handler.withBuffer buffer handled).handleCompleteRequest stream =
      endWith buffer handled (handler.handleCompleteRequest stream) := by
  simp only [handleCompleteRequest, connSet_withBuffer, sendHeadersFrame_withBuffer, sendDataFrame,
    endWith_ite, endWith_snd, sendDataLoop_withBuffer]
  rfl

theorem handleSettingsFrame_withBuffer (payload : Bytes) :
    (handler.withBuffer buffer handled).handleSettingsFrame payload =
      endWith buffer handled (handler.handleSettingsFrame payload) := by
  have acknowledged (acting : Http2Handler Tls) :
      (acting.withBuffer buffer handled).sendSettingsAck =
        endWith buffer handled acting.sendSettingsAck := by
    have write := writeFrame_withBuffer { acting with settingsAckSent := true } buffer handled
      .settings 0 http2FlagAck []
    simp only [sendSettingsAck, endWith_ite, ← write]
    rfl
  simp only [handleSettingsFrame, endWith_ite, ← acknowledged]
  rfl

theorem handlePingFrame_withBuffer (payload : Bytes) :
    (handler.withBuffer buffer handled).handlePingFrame payload =
      endWith buffer handled (handler.handlePingFrame payload) := by
  simp only [handlePingFrame, writeFrame_withBuffer, endWith_ite, endWith_snd]
  rfl

theorem handleDataFrame_withBuffer (streamId : ℕ) (payload : Bytes) (flags : UInt8) :
    (handler.withBuffer buffer handled).handleDataFrame streamId payload flags =
      endWith buffer handled (handler.handleDataFrame streamId payload flags) := by
  simp only [handleDataFrame, streams_withBuffer]
  cases handler.streams[streamId]? with
  | none => rfl
  | some stream =>
      simp only [endWith_ite, ← handleCompleteRequest_withBuffer]
      rfl

section Headers

variable [WideShift]

omit [TlsLayer Tls] in
theorem mergeFragment_withBuffer (streamId : ℕ) (stream : Http2Stream) (payload : Bytes) :
    (handler.withBuffer buffer handled).mergeFragment streamId stream payload =
      ((handler.mergeFragment streamId stream payload).1,
        (handler.mergeFragment streamId stream payload).2.1,
        (handler.mergeFragment streamId stream payload).2.2.withBuffer buffer handled) := by
  have decoder : (handler.withBuffer buffer handled).hpackDecoder = handler.hpackDecoder := rfl
  simp only [mergeFragment, decoder]
  by_cases ok : (handler.hpackDecoder.decode payload).1 = .ok
  · simp only [ok, ne_eq, not_true_eq_false, if_false]
    rfl
  · simp only [ok, ne_eq, not_false_eq_true, if_true]
    rfl

theorem handleHeadersFrame_withBuffer (streamId : ℕ) (payload : Bytes) (flags : UInt8) :
    (handler.withBuffer buffer handled).handleHeadersFrame streamId payload flags =
      endWith buffer handled (handler.handleHeadersFrame streamId payload flags) := by
  have sameStream : getOrCreateStream (handler.withBuffer buffer handled).streams streamId =
      getOrCreateStream handler.streams streamId := rfl
  simp only [handleHeadersFrame]
  rw [sameStream]
  generalize (if (getOrCreateStream handler.streams streamId).state = .idle then
    { getOrCreateStream handler.streams streamId with state := Http2StreamState.open }
    else getOrCreateStream handler.streams streamId) = stream
  have merged := mergeFragment_withBuffer
    { handler with streams := handler.streams.insert streamId stream } buffer handled streamId
    stream payload
  simp only [withBuffer] at merged
  simp only [withBuffer, merged, endWith_ite, ← handleCompleteRequest_withBuffer]
  rfl

theorem handleContinuationFrame_withBuffer (streamId : ℕ) (payload : Bytes) (flags : UInt8) :
    (handler.withBuffer buffer handled).handleContinuationFrame streamId payload flags =
      endWith buffer handled (handler.handleContinuationFrame streamId payload flags) := by
  simp only [handleContinuationFrame, streams_withBuffer]
  cases handler.streams[streamId]? with
  | none => rfl
  | some stream =>
      simp only [mergeFragment_withBuffer, endWith_ite, ← handleCompleteRequest_withBuffer]
      rfl

theorem handleFrame_withBuffer (frame : Http2Frame) :
    (handler.withBuffer buffer handled).handleFrame frame =
      endWith buffer handled (handler.handleFrame frame) := by
  have window (streamId increment : ℕ) :
      (handler.withBuffer buffer handled).handleWindowUpdateFrame streamId increment =
        endWith buffer handled (handler.handleWindowUpdateFrame streamId increment) := by
    simp only [handleWindowUpdateFrame, endWith_ite]
    rfl
  simp only [handleFrame, endWith_ite, handleSettingsFrame_withBuffer,
    handleHeadersFrame_withBuffer, handleDataFrame_withBuffer, handleContinuationFrame_withBuffer,
    window, handlePingFrame_withBuffer]
  rfl

end Headers

end Frame

/-! ## Frames in turn -/

section Turn

variable {Tls : Type u} [TlsLayer Tls] [WideShift]

/-- `handle_frame` for one frame after the other, up to the first call that fails. -/
def handleFrames : List Http2Frame → Http2Handler Tls → ProtocolStatus × Http2Handler Tls
  | [], handler => (.ok, handler)
  | frame :: frames, handler =>
      let (ret, handler) := handler.handleFrame frame
      if ret.failed then (ret, handler) else handleFrames frames handler

theorem handleFrames_append (frames more : List Http2Frame) (handler : Http2Handler Tls) :
    handleFrames (frames ++ more) handler =
      if (handleFrames frames handler).1.failed then handleFrames frames handler
      else handleFrames more (handleFrames frames handler).2 := by
  induction frames generalizing handler with
  | nil => rfl
  | cons frame frames ih =>
      simp only [List.cons_append, handleFrames]
      by_cases failed : (handler.handleFrame frame).1.failed = true
      · simp [failed]
      · simp only [failed, Bool.false_eq_true, if_false, ih]

theorem handleFrames_writtenFrom (frames : List Http2Frame) (handler : Http2Handler Tls) :
    TlsLayer.WrittenFrom handler.tlsHandler (handleFrames frames handler).2.tlsHandler := by
  induction frames generalizing handler with
  | nil => exact .refl
  | cons frame frames ih =>
      have first := (handler.handleFrame_sameSession frame).tlsHandler
      simp only [handleFrames]
      split_ifs
      · exact first
      · exact first.trans (ih _)

omit [WideShift] in
/-- What is in a buffer behind its first frame. -/
theorem contents_skip_frame {buffer : Buffer} {frame : Http2Frame} {rest : Bytes}
    (complete : splitFrame buffer.contents = some (frame, rest)) :
    ((buffer.skip http2FrameHeaderSize).skip frame.payload.length).contents = rest := by
  rw [Buffer.contents_skip, Buffer.contents_skip, (splitFrame_spec complete).2.1, List.drop_left]

/-- `read_frame` on a buffer that starts with a complete frame. -/
theorem readFrame_withBuffer (handler : Http2Handler Tls) {buffer : Buffer}
    (handled : List (Http2Frame × ProtocolStatus)) {frame : Http2Frame} {rest : Bytes}
    (complete : splitFrame buffer.contents = some (frame, rest)) :
    (handler.withBuffer buffer handled).readFrame =
      endWith ((buffer.skip http2FrameHeaderSize).skip frame.payload.length)
        (handled ++ [(frame, (handler.handleFrame frame).1)]) (handler.handleFrame frame) := by
  have handledFrame := handler.handleFrame_withBuffer (buffer.skip http2FrameHeaderSize) handled
    frame
  simp only [withBuffer] at handledFrame ⊢
  simp only [readFrame, complete, handledFrame]
  rfl

end Turn

section Pieces

variable [WideShift]

/-- On a healthy connection a frame is handled or refused as invalid. -/
theorem handleFrame_plain_status (handler : Http2Handler PlainTls) (frame : Http2Frame) :
    (handler.handleFrame frame).1 = .ok ∨ (handler.handleFrame frame).1 = .invalid := by
  by_cases settings : frame.type = .settings
  · left
    simp only [handleFrame, settings, if_true, handleSettingsFrame, sendSettingsAck_plain]
    split_ifs <;> rfl
  · rcases handler.handleFrame_status settings with ⟨-, invalid⟩ | ⟨-, ok⟩
    · exact Or.inr invalid
    · exact Or.inl ok

/-- The loop of `on_read` handles the complete frames in the buffer and leaves the rest. -/
theorem readFrames_withBuffer {fuel : ℕ} (handler : Http2Handler PlainTls) {buffer : Buffer}
    (handled : List (Http2Frame × ProtocolStatus)) (enough : buffer.contents.length < fuel) :
    ∃ later history,
      readFrames fuel (handler.withBuffer buffer handled) =
        endWith later history (handleFrames (framing.parse buffer.contents).1 handler) ∧
      ((handleFrames (framing.parse buffer.contents).1 handler).1.failed = false →
        later.contents = (framing.parse buffer.contents).2) := by
  induction fuel generalizing handler buffer handled with
  | zero => omega
  | succ fuel ih =>
      cases found : splitFrame buffer.contents with
      | none =>
          have incomplete :
              splitFrame (handler.withBuffer buffer handled).plaintextBuffer.contents = none :=
            found
          rw [framing.parse_of_split_none found]
          refine ⟨buffer, handled, ?_, fun _ => rfl⟩
          simp only [readFrames, readFrame_of_incomplete incomplete, if_true, handleFrames,
            endWith_mk]
      | some result =>
          rcases result with ⟨frame, rest⟩
          have readEq := handler.readFrame_withBuffer handled found
          have contentsEq := contents_skip_frame found
          have shorter := framing.length_lt_of_split found
          have nextEnough : ((buffer.skip http2FrameHeaderSize).skip
              frame.payload.length).contents.length < fuel := by
            rw [contentsEq]
            omega
          have goesOn : (handler.handleFrame frame).1 ≠ .eagain := by
            rcases handler.handleFrame_plain_status frame with ok | invalid
            · simp [ok]
            · simp [invalid]
          rw [framing.parse_of_split_some found]
          simp only [readFrames, readEq, endWith_fst, endWith_snd, goesOn, if_false, handleFrames]
          by_cases failed : (handler.handleFrame frame).1.failed = true
          · simp only [failed, if_true]
            exact ⟨_, _, rfl, fun ok => absurd ok (by simp)⟩
          · simp only [failed, Bool.false_eq_true, if_false]
            have later := ih (handler.handleFrame frame).2
              (handled ++ [(frame, (handler.handleFrame frame).1)]) nextEnough
            rw [contentsEq] at later
            exact later

/-! ## Reads in turn -/

/-- The pieces arrive one after the other, each followed by `on_read`, up to the first call that
fails. -/
def readPieces : List Bytes → Http2Handler PlainTls → ProtocolStatus × Http2Handler PlainTls
  | [], handler => (.ok, handler)
  | piece :: pieces, handler =>
      let (ret, handler) :=
        { handler with tlsHandler := handler.tlsHandler.arrive piece }.onRead
      if ret.failed then (ret, handler) else readPieces pieces handler

/-- `on_read` when a piece has arrived at a handler that has read everything before it. -/
theorem onRead_arrive (handler : Http2Handler PlainTls)
    (drained : handler.tlsHandler.pending = []) {piece : Bytes}
    (fits : piece.length ≤ tempBufferSize) :
    { handler with tlsHandler := handler.tlsHandler.arrive piece }.onRead =
      if piece = [] then (.ok, handler)
      else
        readFrames ((handler.plaintextBuffer.write .always piece).2.readableBytes + 1)
          { handler with plaintextBuffer := (handler.plaintextBuffer.write .always piece).2 } := by
  by_cases empty : piece = []
  · have arrived : handler.tlsHandler.arrive [] = handler.tlsHandler := by simp [PlainTls.arrive]
    have read : TlsLayer.read handler.tlsHandler tempBufferSize =
        (.eagain, [], handler.tlsHandler) := by simp [TlsLayer.read, drained]
    simp [empty, arrived, onRead, read]
  · have read : TlsLayer.read (handler.tlsHandler.arrive piece) tempBufferSize =
        (.ok, piece, handler.tlsHandler) := by
      simp only [TlsLayer.read, PlainTls.arrive, drained, List.nil_append, List.isEmpty_iff,
        empty, if_false, List.take_of_length_le fits, List.drop_eq_nil_of_le fits]
      rw [← drained]
    have notFailed : ProtocolStatus.ok.failed = false := by decide
    simp [onRead, read, empty, notFailed]

/-- What the reads come to is determined by the bytes that have arrived: the complete frames in
them, handled in turn. -/
theorem readPieces_withBuffer (pieces : List Bytes)
    (fit : ∀ piece ∈ pieces, piece.length ≤ tempBufferSize) (handler : Http2Handler PlainTls)
    (drained : handler.tlsHandler.pending = []) {buffer : Buffer}
    (handled : List (Http2Frame × ProtocolStatus))
    (incomplete : splitFrame buffer.contents = none) :
    ∃ later history,
      readPieces pieces (handler.withBuffer buffer handled) =
        endWith later history
          (handleFrames (framing.parse (buffer.contents ++ pieces.flatten)).1 handler) := by
  induction pieces generalizing handler buffer handled with
  | nil =>
      rw [List.flatten_nil, List.append_nil, framing.parse_of_split_none incomplete]
      exact ⟨buffer, handled, rfl⟩
  | cons piece pieces ih =>
      rcases List.forall_mem_cons.mp fit with ⟨pieceFits, othersFit⟩
      have arrives := onRead_arrive (handler.withBuffer buffer handled) drained pieceFits
      simp only [readPieces, arrives]
      by_cases empty : piece = []
      · have notFailed : ProtocolStatus.ok.failed = false := by decide
        simp only [empty, if_true, notFailed, Bool.false_eq_true, if_false, List.flatten_cons,
          List.nil_append]
        exact ih othersFit handler drained handled incomplete
      · have short := length_lt_of_splitFrame_none incomplete
        have room : buffer.readableBytes + piece.length ≤ Buffer.maxCapacity := by
          simp only [Buffer.length_contents, http2FrameHeaderSize, tempBufferSize,
            Buffer.maxCapacity] at short pieceFits ⊢
          omega
        have contentsEq := (buffer.write_of_fits room).2
        have enough : (buffer.write .always piece).2.contents.length <
            (buffer.write .always piece).2.readableBytes + 1 := by
          rw [Buffer.length_contents]
          exact Nat.lt_succ_self _
        rcases handler.readFrames_withBuffer handled enough with ⟨next, history, readEq, restEq⟩
        rw [contentsEq] at readEq restEq
        simp only [withBuffer] at readEq ⊢
        simp only [empty, if_false, readEq, endWith_fst, endWith_snd]
        rw [List.flatten_cons, ← List.append_assoc,
          framing.parse_append (buffer.contents ++ piece) pieces.flatten, handleFrames_append]
        by_cases failed :
            (handleFrames (framing.parse (buffer.contents ++ piece)).1 handler).1.failed = true
        · simp only [failed, if_true]
          exact ⟨next, history, rfl⟩
        · simp only [failed, Bool.false_eq_true, if_false]
          have nextRest := restEq (by simpa only [Bool.not_eq_true] using failed)
          have nextDrained := (handleFrames_writtenFrom
            (framing.parse (buffer.contents ++ piece)).1 handler).pending_eq.trans drained
          have nextIncomplete : splitFrame next.contents = none := by
            rw [nextRest]
            exact framing.split_parse_rest _
          have later := ih othersFit _ nextDrained history nextIncomplete
          rw [nextRest] at later
          exact later

/-- Whatever bytes arrive on a fresh connection, and however they are cut into reads: up to the
first read that fails, the handler does with them what it does with the complete frames in them. -/
theorem readPieces_refines (pieces : List Bytes)
    (fit : ∀ piece ∈ pieces, piece.length ≤ tempBufferSize) :
    ∃ later history,
      readPieces pieces connected =
        endWith later history (handleFrames (framing.parse pieces.flatten).1 connected) :=
  readPieces_withBuffer pieces fit connected rfl [] rfl

end Pieces

/-- A ping, and a `DATA` frame for a stream that does not exist, cut inside both headers: the ping
is answered, and the read that completes the other frame fails. -/
theorem readPieces_refines_refused :
    ∃ later history,
      readPieces
          [[0, 0, 8, 6], [0, 0, 0, 0, 0, 1, 2, 3, 4, 5, 6, 7, 8, 0, 0], [0, 0, 1, 0, 0, 0, 7]]
          connected =
        endWith later history
          (handleFrames [⟨.ping, 0, 0, [1, 2, 3, 4, 5, 6, 7, 8], by decide, by decide⟩,
            ⟨.data, 1, 7, [], by decide, by decide⟩] connected) :=
  readPieces_refines
    [[0, 0, 8, 6], [0, 0, 0, 0, 0, 1, 2, 3, 4, 5, 6, 7, 8, 0, 0], [0, 0, 1, 0, 0, 0, 7]] (by decide)

end Http2Handler

end HttpsServerSim
