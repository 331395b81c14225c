import HttpsServerSim.Lib.MapOverlay
import HttpsServerSim.Protocol.Hpack
import HttpsServerSim.Protocol.Http2Frame
import HttpsServerSim.Protocol.HttpMessage
import HttpsServerSim.Protocol.TlsLayer
import HttpsServerSim.Utils.Buffer

/-!
# The HTTP/2 handler

`Http2Handler` and `Http2Stream` over any TLS layer. Functions return their result
code and the handler afterwards. The fields that only feed the stubbed callback
(`ClientContext`, the debug token) or that nothing reads (`recv_window`, the
stream's `response`, `last_stream_id_`) are left out; `conn_` is only ever compared
with the null pointer.

`handled` is a history variable: the frames given to `handle_frame` by `read_frame`,
each with the result.
-/

namespace HttpsServerSim

universe u

/-- `Http2Stream`; the defaults are those of `init`. -/
structure Http2Stream where
  streamId : ℕ
  state : Http2StreamState := .idle
  request : HttpRequest := {}
  sendWindow : ℤ := http2DefaultInitialWindowSize
deriving DecidableEq

/-- `std::map<uint32_t, std::unique_ptr<Http2Stream>>`. -/
abbrev Http2Streams := Std.ExtTreeMap ℕ Http2Stream compare

structure Http2Handler (Tls : Type u) where
  connSet : Bool
  tlsHandler : Tls
  streams : Http2Streams
  plaintextBuffer : Buffer
  settings : Http2Settings
  localSettings : Http2Settings
  hpackDecoder : HpackDecoder
  settingsAckReceived : Bool
  settingsAckSent : Bool
  handled : List (Http2Frame × ProtocolStatus)

namespace Http2Handler

variable {Tls : Type u}

/-- The constructor. -/
def construct (tls : Tls) : Http2Handler Tls where
  connSet := false
  tlsHandler := tls
  streams := ∅
  plaintextBuffer := .construct
  settings := .reset
  localSettings := .reset
  hpackDecoder := {}
  settingsAckReceived := false
  settingsAckSent := false
  handled := []

section Writing

variable [TlsLayer Tls]

/-- One call of `TlsHandler::write` and the two checks after it. -/
def writeAll (handler : Http2Handler Tls) (bytes : Bytes) :
    ProtocolStatus × Http2Handler Tls :=
  let (ret, written, tls) := TlsLayer.write handler.tlsHandler bytes
  let handler := { handler with tlsHandler := tls }
  if ret ≠ .ok then (ret, handler)
  else if written ≠ bytes.length then (.buffer, handler)
  else (.ok, handler)

def writeFrame (handler : Http2Handler Tls) (type : Http2FrameType) (streamId : ℕ)
    (flags : UInt8) (payload : Bytes) : ProtocolStatus × Http2Handler Tls :=
  let (ret, handler) :=
    handler.writeAll (Http2Frame.frameHeader type streamId flags payload.length)
  if ret ≠ .ok then (ret, handler)
  else if payload.isEmpty then (.ok, handler)
  else handler.writeAll payload

def sendSettingsFrame (handler : Http2Handler Tls) : ProtocolStatus × Http2Handler Tls :=
  let params : List (ℕ × ℕ) := [
    (1, handler.localSettings.headerTableSize),
    (2, handler.localSettings.enablePush),
    (3, handler.localSettings.maxConcurrentStreams),
    (4, handler.localSettings.initialWindowSize),
    (5, handler.localSettings.maxFrameSize)]
  let payload := params.flatMap fun param =>
    BigEndian.encode 2 param.1 ++ BigEndian.encode 4 param.2
  handler.writeFrame .settings 0 0 payload

def sendSettingsAck (handler : Http2Handler Tls) : ProtocolStatus × Http2Handler Tls :=
  if handler.settingsAckSent then (.ok, handler)
  else { handler with settingsAckSent := true }.writeFrame .settings 0 http2FlagAck []

/-- The middle `CONTINUATION` frames and the last one. Each takes `max_payload > 0` bytes off the
rest, so the length of the rest is fuel enough. -/
def sendContinuations : ℕ → Http2Handler Tls → ℕ → Bytes → ProtocolStatus × Http2Handler Tls
  | 0, handler, streamId, rest =>
      handler.writeFrame .continuation streamId http2FlagEndHeaders rest
  | fuel + 1, handler, streamId, rest =>
      let maxPayload := handler.localSettings.maxFrameSize
      if maxPayload < rest.length then
        let (ret, handler) := handler.writeFrame .continuation streamId 0 (rest.take maxPayload)
        if ret ≠ .ok then (ret, handler)
        else sendContinuations fuel handler streamId (rest.drop maxPayload)
      else handler.writeFrame .continuation streamId http2FlagEndHeaders rest

def sendHeadersFrame (handler : Http2Handler Tls) (streamId : ℕ) (headers : HttpHeaders)
    (endStream : Bool) : ProtocolStatus × Http2Handler Tls :=
  let payload := Hpack.encode headers
  let flags :=
    if endStream then http2FlagEndHeaders ||| http2FlagEndStream else http2FlagEndHeaders
  let maxPayload := handler.localSettings.maxFrameSize
  if payload.length ≤ maxPayload then handler.writeFrame .headers streamId flags payload
  else
    let firstFlags := flags &&& ~~~http2FlagEndHeaders
    let (ret, handler) := handler.writeFrame .headers streamId firstFlags (payload.take maxPayload)
    if ret ≠ .ok then (ret, handler)
    else sendContinuations payload.length handler streamId (payload.drop maxPayload)

/-- The loop of `send_data_frame` on the data from `offset` on, with the same remark on fuel. -/
def sendDataLoop : ℕ → Http2Handler Tls → ℕ → Bytes → Bool →
    ProtocolStatus × Http2Handler Tls
  | 0, handler, _, _, _ => (.ok, handler)
  | fuel + 1, handler, streamId, rest, endStream =>
      if rest.isEmpty then (.ok, handler)
      else
        let chunkSize := min rest.length handler.localSettings.maxFrameSize
        let lastChunk := chunkSize = rest.length
        let flags := if lastChunk ∧ endStream then http2FlagEndStream else 0
        let (ret, handler) := handler.writeFrame .data streamId flags (rest.take chunkSize)
        if ret ≠ .ok then (ret, handler)
        else sendDataLoop fuel handler streamId (rest.drop chunkSize) endStream

def sendDataFrame (handler : Http2Handler Tls) (streamId : ℕ) (bytes : Bytes)
    (endStream : Bool) : ProtocolStatus × Http2Handler Tls :=
  sendDataLoop bytes.length handler streamId bytes endStream

def sendWindowUpdateFrame (handler : Http2Handler Tls) (streamId increment : ℕ) :
    ProtocolStatus × Http2Handler Tls :=
  handler.writeFrame .windowUpdate streamId 0 (BigEndian.encode 4 (increment % 2 ^ 31))

def sendRstStreamFrame (handler : Http2Handler Tls) (streamId errorCode : ℕ) :
    ProtocolStatus × Http2Handler Tls :=
  handler.writeFrame .rstStream streamId 0 (BigEndian.encode 4 errorCode)

/-- The application's `send_response(data, len)`; `len` is the number of bytes of `data`. A null
`data` with a positive `len`, for which frame headers without their payload are written, is left
out. -/
def sendResponse (handler : Http2Handler Tls) (bytes : Bytes) :
    ProtocolStatus × Http2Handler Tls :=
  handler.sendDataFrame 1 bytes true

def responseHeaders : HttpHeaders :=
  ((∅ : HttpHeaders).insert (ascii ":status") (ascii "200")).insert
    (ascii "content-type") (ascii "text/plain")

/-- The echoed request body, or `OK` if it is empty. -/
def replyBody (body : Bytes) : Bytes := if body.isEmpty then ascii "OK" else body

/-- `handle_complete_request`: the results of the two sends are dropped. -/
def handleCompleteRequest (handler : Http2Handler Tls) (stream : Http2Stream) :
    ProtocolStatus × Http2Handler Tls :=
  if handler.connSet then
    let (_, handler) := handler.sendHeadersFrame stream.streamId responseHeaders false
    let (_, handler) := handler.sendDataFrame stream.streamId (replyBody stream.request.body) true
    (.ok, handler)
  else (.invalid, handler)

end Writing

/-! ## Frame handlers -/

/-- One six-byte entry of a `SETTINGS` payload. -/
def applySetting (settings : Http2Settings) (id value : ℕ) : Http2Settings :=
  match id with
  | 1 => { settings with headerTableSize := value }
  | 2 => { settings with enablePush := value }
  | 3 => { settings with maxConcurrentStreams := value }
  | 4 => { settings with initialWindowSize := value }
  | 5 => { settings with maxFrameSize := value }
  | 6 => { settings with maxHeaderListSize := value }
  | _ => settings

def applySettings (settings : Http2Settings) : Bytes → Http2Settings
  | i0 :: i1 :: v0 :: v1 :: v2 :: v3 :: rest =>
      applySettings
        (applySetting settings (BigEndian.decode [i0, i1]) (BigEndian.decode [v0, v1, v2, v3])) rest
  | _ => settings

def getOrCreateStream (streams : Http2Streams) (streamId : ℕ) : Http2Stream :=
  streams[streamId]?.getD { streamId := streamId }

/-- Saturating addition to a send window. -/
def addToWindow (increment : ℕ) (stream : Http2Stream) : Http2Stream :=
  let maxWindow : ℤ := 0x7FFFFFFF
  { stream with
    sendWindow :=
      if maxWindow - increment < stream.sendWindow then maxWindow
      else stream.sendWindow + increment }

def handleWindowUpdateFrame (handler : Http2Handler Tls) (streamId increment : ℕ) :
    ProtocolStatus × Http2Handler Tls :=
  if increment = 0 ∨ 0x7FFFFFFF < increment then (.invalid, handler)
  else if streamId = 0 then
    (.ok, { handler with streams := handler.streams.map fun _ => addToWindow increment })
  else (.ok, { handler with streams := handler.streams.modify streamId (addToWindow increment) })

def handleRstStreamFrame (handler : Http2Handler Tls) (streamId : ℕ) :
    ProtocolStatus × Http2Handler Tls :=
  let close (stream : Http2Stream) : Http2Stream := { stream with state := .closed }
  (.ok, { handler with streams := handler.streams.modify streamId close })

section Handling

variable [TlsLayer Tls]

def handleSettingsFrame (handler : Http2Handler Tls) (payload : Bytes) :
    ProtocolStatus × Http2Handler Tls :=
  if payload.isEmpty then (.ok, { handler with settingsAckReceived := true })
  else { handler with settings := applySettings handler.settings payload }.sendSettingsAck

def handlePingFrame (handler : Http2Handler Tls) (payload : Bytes) :
    ProtocolStatus × Http2Handler Tls :=
  if 8 ≤ payload.length then
    (.ok, (handler.writeFrame .ping 0 http2FlagAck (payload.take 8)).2)
  else (.ok, handler)

def handleDataFrame (handler : Http2Handler Tls) (streamId : ℕ) (payload : Bytes)
    (flags : UInt8) : ProtocolStatus × Http2Handler Tls :=
  match handler.streams[streamId]? with
  | none => (.invalid, handler)
  | some stream =>
      let request := { stream.request with body := stream.request.body ++ payload }
      let stream := { stream with request := request }
      if flags &&& http2FlagEndStream ≠ 0 then
        let stream := { stream with state := .halfClosedRemote }
        { handler with streams := handler.streams.insert streamId stream }.handleCompleteRequest
          stream
      else (.ok, { handler with streams := handler.streams.insert streamId stream })

section Headers

variable [WideShift]

/-- Decode a header fragment on its own and, if it decodes, overlay its fields on the request.
`HEADERS` and `CONTINUATION` both do this; `stream` is the table's entry for the id. -/
def mergeFragment (handler : Http2Handler Tls) (streamId : ℕ) (stream : Http2Stream)
    (payload : Bytes) : ProtocolStatus × Http2Stream × Http2Handler Tls :=
  let (ret, headers, decoder) := handler.hpackDecoder.decode payload
  let handler := { handler with hpackDecoder := decoder }
  if ret ≠ .ok then (ret, stream, handler)
  else
    let merged := MapOverlay.overlay stream.request.headers headers
    let stream := { stream with request := { stream.request with headers := merged } }
    (.ok, stream, { handler with streams := handler.streams.insert streamId stream })

def handleHeadersFrame (handler : Http2Handler Tls) (streamId : ℕ) (payload : Bytes)
    (flags : UInt8) : ProtocolStatus × Http2Handler Tls :=
  let stream := getOrCreateStream handler.streams streamId
  let stream := if stream.state = .idle then { stream with state := .open } else stream
  let handler := { handler with streams := handler.streams.insert streamId stream }
  let (ret, stream, handler) := handler.mergeFragment streamId stream payload
  if ret ≠ .ok then (ret, handler)
  else if flags &&& http2FlagEndHeaders = 0 then (.ok, handler)
  else if flags &&& http2FlagEndStream ≠ 0 then
    let stream := { stream with state := .halfClosedRemote }
    { handler with streams := handler.streams.insert streamId stream }.handleCompleteRequest stream
  else (.ok, handler)

def handleContinuationFrame (handler : Http2Handler Tls) (streamId : ℕ) (payload : Bytes)
    (flags : UInt8) : ProtocolStatus × Http2Handler Tls :=
  match handler.streams[streamId]? with
  | none => (.invalid, handler)
  | some stream =>
      let (ret, stream, handler) := handler.mergeFragment streamId stream payload
      if ret ≠ .ok then (ret, handler)
      else if flags &&& http2FlagEndHeaders ≠ 0 ∧ stream.state = .halfClosedRemote then
        handler.handleCompleteRequest stream
      else (.ok, handler)

/-- `handle_frame`. A `WINDOW_UPDATE` or `RST_STREAM` frame of fewer than four bytes, and a frame of
any other type, is accepted and ignored; `GOAWAY` is too. -/
def handleFrame (handler : Http2Handler Tls) (frame : Http2Frame) :
    ProtocolStatus × Http2Handler Tls :=
  if frame.type = .settings then handler.handleSettingsFrame frame.payload
  else if frame.type = .headers then
    handler.handleHeadersFrame frame.streamId frame.payload frame.flags
  else if frame.type = .data then
    handler.handleDataFrame frame.streamId frame.payload frame.flags
  else if frame.type = .continuation then
    handler.handleContinuationFrame frame.streamId frame.payload frame.flags
  else if frame.type = .windowUpdate ∧ 4 ≤ frame.payload.length then
    handler.handleWindowUpdateFrame frame.streamId
      (BigEndian.decode (frame.payload.take 4) % 2 ^ 31)
  else if frame.type = .rstStream ∧ 4 ≤ frame.payload.length then
    handler.handleRstStreamFrame frame.streamId
  else if frame.type = .ping then handler.handlePingFrame frame.payload
  else (.ok, handler)

/-! ## The handler's entry points -/

def readFrame (handler : Http2Handler Tls) : ProtocolStatus × Http2Handler Tls :=
  match Http2Frame.splitFrame handler.plaintextBuffer.contents with
  | none => (.eagain, handler)
  | some (frame, _) =>
      let (ret, handler) :=
        { handler with plaintextBuffer := handler.plaintextBuffer.skip http2FrameHeaderSize
          }.handleFrame frame
      (ret,
        { handler with
          plaintextBuffer := handler.plaintextBuffer.skip frame.payload.length
          handled := handler.handled ++ [(frame, ret)] })

/-- The loop of `on_read`. Every frame takes at least nine bytes off the buffer. -/
def readFrames : ℕ → Http2Handler Tls → ProtocolStatus × Http2Handler Tls
  | 0, handler => (.ok, handler)
  | fuel + 1, handler =>
      let (ret, handler) := handler.readFrame
      if ret = .eagain then (.ok, handler)
      else if ret.failed then (ret, handler)
      else readFrames fuel handler

def onRead (handler : Http2Handler Tls) : ProtocolStatus × Http2Handler Tls :=
  let (ret, bytes, tls) := TlsLayer.read handler.tlsHandler tempBufferSize
  let handler := { handler with tlsHandler := tls }
  if ret = .eagain then (.ok, handler)
  else if ret.failed then (ret, handler)
  else
    let buffer :=
      if bytes.isEmpty then handler.plaintextBuffer
      else (handler.plaintextBuffer.write .always bytes).2
    readFrames (buffer.readableBytes + 1) { handler with plaintextBuffer := buffer }

end Headers

/-- `init`: the result of sending the `SETTINGS` frame is dropped. -/
def init (handler : Http2Handler Tls) (connSet : Bool) : ProtocolStatus × Http2Handler Tls :=
  let (ret, tls) := TlsLayer.init handler.tlsHandler
  let handler := { handler with connSet := connSet, tlsHandler := tls }
  if ret ≠ .ok then (ret, handler)
  else
    (.ok,
      { handler with
        settings := .reset
        localSettings := .reset
        streams := ∅
        settingsAckReceived := false
        settingsAckSent := false }.sendSettingsFrame.2)

def close (handler : Http2Handler Tls) : Http2Handler Tls :=
  { handler with
    tlsHandler := TlsLayer.close handler.tlsHandler
    streams := ∅
    settingsAckReceived := false
    settingsAckSent := false }

end Handling

end Http2Handler

end HttpsServerSim
