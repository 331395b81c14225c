import HttpsServerSim.Protocol.Http1Handler
import HttpsServerSim.Protocol.Http2Handler

/-!
# Handlers over another TLS layer

The protocol handlers are written over any TLS layer and know of it only what its operations
return. A map between two layers that writing commutes with therefore commutes with everything
that a handler does once it has read.
-/

namespace HttpsServerSim

universe u v

/-- A map between TLS layers that answers a write as its argument does. -/
structure TlsLayer.Translates {First : Type u} {Second : Type v} [TlsLayer First]
    [TlsLayer Second] (translate : First → Second) : Prop where
  write : ∀ tls bytes, TlsLayer.write (translate tls) bytes =
    ((TlsLayer.write tls bytes).1, (TlsLayer.write tls bytes).2.1,
      translate (TlsLayer.write tls bytes).2.2)

/-! ## HTTP/1.1 -/

namespace Http1Handler

section Translation

variable {First : Type u} {Second : Type v}

/-- The handler with its TLS layer replaced by what it is translated to. -/
def mapTls (translate : First → Second) (handler : Http1Handler First) : Http1Handler Second where
  connSet := handler.connSet
  tlsHandler := translate handler.tlsHandler
  state := handler.state
  request := handler.request
  response := handler.response
  plaintextBuffer := handler.plaintextBuffer
  parser := handler.parser
  completed := handler.completed

/-- The result of a call with its handler translated. -/
def mapResult (translate : First → Second) (result : ProtocolStatus × Http1Handler First) :
    ProtocolStatus × Http1Handler Second :=
  (result.1, result.2.mapTls translate)

section Results

variable (translate : First → Second)

@[simp]
theorem mapResult_fst (result : ProtocolStatus × Http1Handler First) :
    (mapResult translate result).1 = result.1 :=
  rfl

@[simp]
theorem mapResult_snd (result : ProtocolStatus × Http1Handler First) :
    (mapResult translate result).2 = result.2.mapTls translate :=
  rfl

@[simp]
theorem mapResult_ite (condition : Prop) [Decidable condition]
    (one other : ProtocolStatus × Http1Handler First) :
    mapResult translate (if condition then one else other) =
      if condition then mapResult translate one else mapResult translate other := by
  split_ifs <;> rfl

end Results

variable [TlsLayer First] [TlsLayer Second] {translate : First → Second}
  (translates : TlsLayer.Translates translate)

include translates

theorem generateResponse_mapTls (handler : Http1Handler First) :
    (handler.mapTls translate).generateResponse =
      mapResult translate handler.generateResponse := by
  simp only [generateResponse, mapTls, translates.write]
  split <;> rfl

theorem reject_mapTls (handler : Http1Handler First) :
    (handler.mapTls translate).reject = mapResult translate handler.reject := by
  have written := generateResponse_mapTls translates
    { handler with
      state := .error
      response :=
        { handler.response with statusCode := 400, statusText := ascii "Bad Request" } }
  simp only [mapTls] at written
  simp only [reject, mapTls, written, mapResult]

theorem expectComplete_mapTls (handler : Http1Handler First) :
    (handler.mapTls translate).expectComplete = mapResult translate handler.expectComplete := by
  have completes : (handler.mapTls translate).handleCompleteRequest =
      mapResult translate handler.handleCompleteRequest := by
    have written := generateResponse_mapTls translates
      { handler with
        response := fillResponse handler.response handler.request.body
        completed := handler.completed ++ [handler.request] }
    simp only [mapTls] at written
    simp only [handleCompleteRequest, mapTls, written]
    split_ifs <;> rfl
  simp only [expectComplete, completes, mapResult]
  split_ifs <;> rfl

theorem expectBody_mapTls (handler : Http1Handler First) :
    (handler.mapTls translate).expectBody = mapResult translate handler.expectBody := by
  have completes := fun body buffer => expectComplete_mapTls translates
    { handler with
      request := { handler.request with body := body }
      plaintextBuffer := buffer
      state := .expectComplete }
  simp only [mapTls] at completes
  simp only [expectBody, mapTls, completes]
  split_ifs <;> rfl

theorem headersComplete_mapTls (handler : Http1Handler First) :
    (handler.mapTls translate).headersComplete =
      mapResult translate handler.headersComplete := by
  have rejects := fun request => reject_mapTls translates { handler with request := request }
  have reads := fun request =>
    expectBody_mapTls translates { handler with request := request, state := .expectBody }
  have completes := fun request =>
    expectComplete_mapTls translates { handler with request := request, state := .expectComplete }
  simp only [mapTls] at rejects reads completes
  simp only [headersComplete, mapTls, rejects, reads, completes]
  split_ifs
  · rfl
  · split
    · rfl
    · split_ifs <;> rfl

theorem expectHeaders_mapTls (handler : Http1Handler First) :
    (handler.mapTls translate).expectHeaders = mapResult translate handler.expectHeaders := by
  have rejects := fun headers parser buffer => reject_mapTls translates
    { handler with
      request := { handler.request with headers := headers }
      parser := parser
      plaintextBuffer := buffer }
  have goesOn := fun headers parser buffer => headersComplete_mapTls translates
    { handler with
      request := { handler.request with headers := headers }
      parser := parser
      plaintextBuffer := buffer }
  simp only [mapTls] at rejects goesOn
  simp only [expectHeaders, mapTls, rejects, goesOn]
  split_ifs <;> rfl

theorem expectRequestLine_mapTls (handler : Http1Handler First) :
    (handler.mapTls translate).expectRequestLine =
      mapResult translate handler.expectRequestLine := by
  have rejects := fun request parser buffer => reject_mapTls translates
    { handler with request := request, parser := parser, plaintextBuffer := buffer }
  have goesOn := fun request parser buffer => expectHeaders_mapTls translates
    { handler with
      request := request
      parser := parser
      plaintextBuffer := buffer
      state := .expectHeaders }
  simp only [mapTls] at rejects goesOn
  simp only [expectRequestLine, mapTls, rejects, goesOn]
  split_ifs <;> rfl

theorem parse_mapTls (handler : Http1Handler First) :
    (handler.mapTls translate).parse = mapResult translate handler.parse := by
  have sameState : (handler.mapTls translate).state = handler.state := rfl
  simp only [parse, sameState]
  split
  · exact expectRequestLine_mapTls translates handler
  · exact expectHeaders_mapTls translates handler
  · exact expectBody_mapTls translates handler
  · exact expectComplete_mapTls translates handler
  · exact reject_mapTls translates handler

/-- A read is translated where the layers answer it alike. -/
theorem onRead_mapTls (handler : Http1Handler First) {start : Second}
    (read : TlsLayer.read start tempBufferSize =
      ((TlsLayer.read handler.tlsHandler tempBufferSize).1,
        (TlsLayer.read handler.tlsHandler tempBufferSize).2.1,
        translate (TlsLayer.read handler.tlsHandler tempBufferSize).2.2)) :
    { handler.mapTls translate with tlsHandler := start }.onRead =
      mapResult translate handler.onRead := by
  have rejects := fun tls => reject_mapTls translates { handler with tlsHandler := tls }
  have parses := fun tls buffer => parse_mapTls translates
    { handler with tlsHandler := tls, plaintextBuffer := buffer, parser := handler.parser.init }
  simp only [mapTls] at rejects parses
  simp only [onRead, mapTls, read, rejects, parses]
  split_ifs <;> rfl

theorem sendResponse_mapTls (handler : Http1Handler First) (bytes : Bytes) :
    (handler.mapTls translate).sendResponse bytes =
      mapResult translate (handler.sendResponse bytes) :=
  generateResponse_mapTls translates { handler with response := handler.response.setBody bytes }

theorem sendResponseNull_mapTls (handler : Http1Handler First) (len : ℕ) :
    (handler.mapTls translate).sendResponseNull len =
      mapResult translate (handler.sendResponseNull len) :=
  generateResponse_mapTls translates
    { handler with
      response := handler.response.setBody (vectorResize handler.response.body len) }

end Translation

end Http1Handler

/-! ## HTTP/2 -/

namespace Http2Handler

section Translation

variable {First : Type u} {Second : Type v}

/-- The handler with its TLS layer replaced by what it is translated to. -/
def mapTls (translate : First → Second) (handler : Http2Handler First) : Http2Handler Second where
  connSet := handler.connSet
  tlsHandler := translate handler.tlsHandler
  streams := handler.streams
  plaintextBuffer := handler.plaintextBuffer
  settings := handler.settings
  localSettings := handler.localSettings
  hpackDecoder := handler.hpackDecoder
  settingsAckReceived := handler.settingsAckReceived
  settingsAckSent := handler.settingsAckSent
  handled := handler.handled

/-- The result of a call with its handler translated. -/
def mapResult (translate : First → Second) (result : ProtocolStatus × Http2Handler First) :
    ProtocolStatus × Http2Handler Second :=
  (result.1, result.2.mapTls translate)

section Results

variable (translate : First → Second)

@[simp]
theorem mapResult_fst (result : ProtocolStatus × Http2Handler First) :
    (mapResult translate result).1 = result.1 :=
  rfl

@[simp]
theorem mapResult_snd (result : ProtocolStatus × Http2Handler First) :
    (mapResult translate result).2 = result.2.mapTls translate :=
  rfl

@[simp]
theorem mapResult_ite (condition : Prop) [Decidable condition]
    (one other : ProtocolStatus × Http2Handler First) :
    mapResult translate (if condition then one else other) =
      if condition then mapResult translate one else mapResult translate other := by
  split_ifs <;> rfl

@[simp]
theorem localSettings_mapTls (handler : Http2Handler First) :
    (handler.mapTls translate).localSettings = handler.localSettings :=
  rfl

@[simp]
theorem connSet_mapTls (handler : Http2Handler First) :
    (handler.mapTls translate).connSet = handler.connSet :=
  rfl

@[simp]
theorem streams_mapTls (handler : Http2Handler First) :
    (handler.mapTls translate).streams = handler.streams :=
  rfl

theorem handleWindowUpdateFrame_mapTls (handler : Http2Handler First) (streamId increment : ℕ) :
    (handler.mapTls translate).handleWindowUpdateFrame streamId increment =
      mapResult translate (handler.handleWindowUpdateFrame streamId increment) := by
  simp only [handleWindowUpdateFrame, mapResult_ite]
  rfl

end Results

variable [TlsLayer First] [TlsLayer Second] {translate : First → Second}
  (translates : TlsLayer.Translates translate)

include translates

theorem writeFrame_mapTls (handler : Http2Handler First) (type : Http2FrameType) (streamId : ℕ)
    (flags : UInt8) (payload : Bytes) :
    (handler.mapTls translate).writeFrame type streamId flags payload =
      mapResult translate (handler.writeFrame type streamId flags payload) := by
  have writes (handler : Http2Handler First) (bytes : Bytes) :
      (handler.mapTls translate).writeAll bytes =
        mapResult translate (handler.writeAll bytes) := by
    simp only [writeAll, mapTls, translates.write, mapResult_ite]
    rfl
  simp only [writeFrame, writes, mapResult_ite, mapResult_fst, mapResult_snd]
  rfl

theorem sendContinuations_mapTls (fuel : ℕ) (handler : Http2Handler First) (streamId : ℕ)
    (rest : Bytes) :
    sendContinuations fuel (handler.mapTls translate) streamId rest =
      mapResult translate (sendContinuations fuel handler streamId rest) := by
  induction fuel generalizing handler rest with
  | zero => exact writeFrame_mapTls translates handler _ _ _ _
  | succ fuel ih =>
      simp only [sendContinuations, writeFrame_mapTls translates, localSettings_mapTls,
        mapResult_ite, mapResult_fst, mapResult_snd, ih]
      rfl

theorem sendHeadersFrame_mapTls (handler : Http2Handler First) (streamId : ℕ)
    (headers : HttpHeaders) (endStream : Bool) :
    (handler.mapTls translate).sendHeadersFrame streamId headers endStream =
      mapResult translate (handler.sendHeadersFrame streamId headers endStream) := by
  simp only [sendHeadersFrame, writeFrame_mapTls translates, localSettings_mapTls, mapResult_ite,
    mapResult_fst, mapResult_snd, sendContinuations_mapTls translates]
  rfl

theorem sendDataLoop_mapTls (fuel : ℕ) (handler : Http2Handler First) (streamId : ℕ)
    (rest : Bytes) (endStream : Bool) :
    sendDataLoop fuel (handler.mapTls translate) streamId rest endStream =
      mapResult translate (sendDataLoop fuel handler streamId rest endStream) := by
  induction fuel generalizing handler rest with
  | zero => rfl
  | succ fuel ih =>
      simp only [sendDataLoop, writeFrame_mapTls translates, localSettings_mapTls, mapResult_ite,
        mapResult_fst, mapResult_snd, ih]
      rfl

theorem sendResponse_mapTls (handler : Http2Handler First) (bytes : Bytes) :
    (handler.mapTls translate).sendResponse bytes =
      mapResult translate (handler.sendResponse bytes) :=
  sendDataLoop_mapTls translates _ _ _ _ _

theorem handleCompleteRequest_mapTls (handler : Http2Handler First) (stream : Http2Stream) :
    (handler.mapTls translate).handleCompleteRequest stream =
      mapResult translate (handler.handleCompleteRequest stream) := by
  simp only [handleCompleteRequest, connSet_mapTls, sendHeadersFrame_mapTls translates,
    sendDataFrame, mapResult_ite, mapResult_snd, sendDataLoop_mapTls translates]
  rfl

theorem handleSettingsFrame_mapTls (handler : Http2Handler First) (payload : Bytes) :
    (handler.mapTls translate).handleSettingsFrame payload =
      mapResult translate (handler.handleSettingsFrame payload) := by
  have acknowledges (handler : Http2Handler First) :
      (handler.mapTls translate).sendSettingsAck =
        mapResult translate handler.sendSettingsAck := by
    have written := writeFrame_mapTls translates { handler with settingsAckSent := true }
      .settings 0 http2FlagAck []
    simp only [mapTls] at written
    simp only [sendSettingsAck, mapTls, written]
    split_ifs <;> rfl
  have acknowledges := acknowledges
    { handler with settings := applySettings handler.settings payload }
  simp only [mapTls] at acknowledges
  simp only [handleSettingsFrame, mapTls, acknowledges]
  split_ifs <;> rfl

theorem handlePingFrame_mapTls (handler : Http2Handler First) (payload : Bytes) :
    (handler.mapTls translate).handlePingFrame payload =
      mapResult translate (handler.handlePingFrame payload) := by
  simp only [handlePingFrame, writeFrame_mapTls translates, mapResult_ite, mapResult_snd]
  rfl

theorem handleDataFrame_mapTls (handler : Http2Handler First) (streamId : ℕ) (payload : Bytes)
    (flags : UInt8) :
    (handler.mapTls translate).handleDataFrame streamId payload flags =
      mapResult translate (handler.handleDataFrame streamId payload flags) := by
  simp only [handleDataFrame, streams_mapTls]
  cases handler.streams[streamId]? with
  | none => rfl
  | some stream =>
      simp only [mapResult_ite, ← handleCompleteRequest_mapTls translates]
      rfl

section Headers

variable [WideShift]

variable (translate) in
omit [TlsLayer First] [TlsLayer Second] translates in
theorem mergeFragment_mapTls (handler : Http2Handler First) (streamId : ℕ) (stream : Http2Stream)
    (payload : Bytes) :
    (handler.mapTls translate).mergeFragment streamId stream payload =
      ((handler.mergeFragment streamId stream payload).1,
        (handler.mergeFragment streamId stream payload).2.1,
        (handler.mergeFragment streamId stream payload).2.2.mapTls translate) := by
  have decoder : (handler.mapTls translate).hpackDecoder = handler.hpackDecoder := rfl
  simp only [mergeFragment, decoder]
  by_cases ok : (handler.hpackDecoder.decode payload).1 = .ok
  · simp only [ok, ne_eq, not_true_eq_false, if_false]
    rfl
  · simp only [ok, ne_eq, not_false_eq_true, if_true]
    rfl

theorem handleHeadersFrame_mapTls (handler : Http2Handler First) (streamId : ℕ) (payload : Bytes)
    (flags : UInt8) :
    (handler.mapTls translate).handleHeadersFrame streamId payload flags =
      mapResult translate (handler.handleHeadersFrame streamId payload flags) := by
  have sameStream : getOrCreateStream (handler.mapTls translate).streams streamId =
      getOrCreateStream handler.streams streamId := rfl
  simp only [handleHeadersFrame]
  rw [sameStream]
  generalize (if (getOrCreateStream handler.streams streamId).state = .idle then
    { getOrCreateStream handler.streams streamId with state := Http2StreamState.open }
    else getOrCreateStream handler.streams streamId) = stream
  have merged := mergeFragment_mapTls translate
    { handler with streams := handler.streams.insert streamId stream } streamId stream payload
  simp only [mapTls] at merged
  simp only [mapTls, merged, mapResult_ite, ← handleCompleteRequest_mapTls translates]
  rfl

theorem handleContinuationFrame_mapTls (handler : Http2Handler First) (streamId : ℕ)
    (payload : Bytes) (flags : UInt8) :
    (handler.mapTls translate).handleContinuationFrame streamId payload flags =
      mapResult translate (handler.handleContinuationFrame streamId payload flags) := by
  simp only [handleContinuationFrame, streams_mapTls]
  cases handler.streams[streamId]? with
  | none => rfl
  | some stream =>
      simp only [mergeFragment_mapTls, mapResult_ite, ← handleCompleteRequest_mapTls translates]
      rfl

theorem handleFrame_mapTls (handler : Http2Handler First) (frame : Http2Frame) :
    (handler.mapTls translate).handleFrame frame =
      mapResult translate (handler.handleFrame frame) := by
  simp only [handleFrame]
  split_ifs
  · exact handleSettingsFrame_mapTls translates handler _
  · exact handleHeadersFrame_mapTls translates handler _ _ _
  · exact handleDataFrame_mapTls translates handler _ _ _
  · exact handleContinuationFrame_mapTls translates handler _ _ _
  · exact handleWindowUpdateFrame_mapTls translate handler _ _
  · rfl
  · exact handlePingFrame_mapTls translates handler _
  · rfl

theorem readFrames_mapTls (fuel : ℕ) (handler : Http2Handler First) :
    readFrames fuel (handler.mapTls translate) = mapResult translate (readFrames fuel handler) := by
  have reads (handler : Http2Handler First) :
      (handler.mapTls translate).readFrame = mapResult translate handler.readFrame := by
    have handles := fun buffer frame => handleFrame_mapTls translates
      { handler with plaintextBuffer := buffer } frame
    simp only [mapTls] at handles
    simp only [readFrame, mapTls, handles]
    split <;> rfl
  induction fuel generalizing handler with
  | zero => rfl
  | succ fuel ih =>
      simp only [readFrames, reads, mapResult]
      split_ifs
      · rfl
      · rfl
      · exact ih _

/-- A read is translated where the layers answer it alike. -/
theorem onRead_mapTls (handler : Http2Handler First) {start : Second}
    (read : TlsLayer.read start tempBufferSize =
      ((TlsLayer.read handler.tlsHandler tempBufferSize).1,
        (TlsLayer.read handler.tlsHandler tempBufferSize).2.1,
        translate (TlsLayer.read handler.tlsHandler tempBufferSize).2.2)) :
    { handler.mapTls translate with tlsHandler := start }.onRead =
      mapResult translate handler.onRead := by
  have reads := fun fuel tls buffer => readFrames_mapTls translates fuel
    { handler with tlsHandler := tls, plaintextBuffer := buffer }
  simp only [mapTls] at reads
  simp only [onRead, mapTls, read, reads]
  split_ifs <;> rfl

end Headers

end Translation

end Http2Handler

end HttpsServerSim
