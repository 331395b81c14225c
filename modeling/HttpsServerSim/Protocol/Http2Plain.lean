import HttpsServerSim.Protocol.Http2Handler

/-!
# The HTTP/2 handler on a plaintext stream

On a TLS layer that takes every write, the handler's writes are whole frames. This
file gives each sending function in closed form: it returns `PROTOCOL_OK`, appends
the bytes of a list of frames, and leaves everything else alone.

The frames of a response are described as such (`replyFrames`): one `HEADERS` frame,
since the fixed response headers fit a frame, and the body in `DATA` chunks.
-/

namespace HttpsServerSim

namespace Http2Frame

/-- The one or two writes that `write_frame` makes for a frame. -/
def writes (frame : Http2Frame) : List Bytes :=
  frameHeader frame.type frame.streamId frame.flags frame.payload.length ::
    if frame.payload.isEmpty then [] else [frame.payload]

theorem flatten_writes (frame : Http2Frame) : frame.writes.flatten = frame.bytes := by
  by_cases empty : frame.payload = []
  · simp [writes, bytes, empty]
  · simp [writes, bytes, empty]

theorem flatten_flatMap_writes (frames : List Http2Frame) :
    (frames.flatMap writes).flatten = frames.flatMap bytes := by
  induction frames with
  | nil => rfl
  | cons frame frames ih => simp [flatten_writes, ih]

section Data

variable (limit : ℕ) (limit_lt : limit < 2 ^ 24) (streamId : ℕ) (id_lt : streamId < 2 ^ 31)
  (endStream : Bool)

/-- The `DATA` frame for the first chunk of `rest`. -/
def dataFrame (rest : Bytes) : Http2Frame where
  type := .data
  flags := if min rest.length limit = rest.length ∧ endStream then http2FlagEndStream else 0
  streamId := streamId
  payload := rest.take (min rest.length limit)
  streamId_lt := id_lt
  length_lt := by
    rw [List.length_take]
    omega

/-- The `DATA` frames that `send_data_frame` cuts `rest` into. -/
def dataFrames : ℕ → Bytes → List Http2Frame
  | 0, _ => []
  | fuel + 1, rest =>
      if rest.isEmpty then []
      else
        dataFrame limit limit_lt streamId id_lt endStream rest ::
          dataFrames fuel (rest.drop (min rest.length limit))

end Data

theorem standard_limit_lt : Http2Settings.reset.maxFrameSize < 2 ^ 24 := by decide

/-- The body of a response on a stream, in frames of at most the default size. -/
def bodyFrames (streamId : ℕ) (id_lt : streamId < 2 ^ 31) (bytes : Bytes) : List Http2Frame :=
  dataFrames Http2Settings.reset.maxFrameSize standard_limit_lt streamId id_lt true
    bytes.length bytes

theorem length_encode_responseHeaders :
    (Hpack.encode Http2Handler.responseHeaders).length = 13 := by
  decide +kernel

/-- The response headers on a stream. -/
def replyHeaders (streamId : ℕ) (id_lt : streamId < 2 ^ 31) : Http2Frame where
  type := .headers
  flags := http2FlagEndHeaders
  streamId := streamId
  payload := Hpack.encode Http2Handler.responseHeaders
  streamId_lt := id_lt
  length_lt := by
    rw [length_encode_responseHeaders]
    decide

/-- The frames of the response to a request with the given body. -/
def replyFrames (streamId : ℕ) (id_lt : streamId < 2 ^ 31) (body : Bytes) : List Http2Frame :=
  replyHeaders streamId id_lt :: bodyFrames streamId id_lt (Http2Handler.replyBody body)

/-- The `SETTINGS` frame that `init` sends. -/
def initialSettings : Http2Frame where
  type := .settings
  flags := 0
  streamId := 0
  payload := [0, 1, 0, 0, 16, 0, 0, 2, 0, 0, 0, 0, 0, 3, 0, 0, 0, 100, 0, 4, 0, 0, 255, 255,
    0, 5, 0, 0, 64, 0]
  streamId_lt := by decide
  length_lt := by decide

def settingsAck : Http2Frame where
  type := .settings
  flags := http2FlagAck
  streamId := 0
  payload := []
  streamId_lt := by decide
  length_lt := by decide

def pingAck (payload : Bytes) : Http2Frame where
  type := .ping
  flags := http2FlagAck
  streamId := 0
  payload := payload.take 8
  streamId_lt := by decide
  length_lt := by
    rw [List.length_take]
    omega

end Http2Frame

namespace Http2Handler

open Http2Frame

/-- The handler after the given frames have been written. -/
def emit (handler : Http2Handler PlainTls) (frames : List Http2Frame) : Http2Handler PlainTls :=
  { handler with
    tlsHandler :=
      { handler.tlsHandler with written := handler.tlsHandler.written ++ frames.flatMap writes } }

@[simp]
theorem emit_nil (handler : Http2Handler PlainTls) : handler.emit [] = handler := by
  simp [emit]

@[simp]
theorem emit_emit (handler : Http2Handler PlainTls) (first second : List Http2Frame) :
    (handler.emit first).emit second = handler.emit (first ++ second) := by
  simp [emit]

theorem writeFrame_plain (handler : Http2Handler PlainTls) (frame : Http2Frame) :
    handler.writeFrame frame.type frame.streamId frame.flags frame.payload =
      (.ok, handler.emit [frame]) := by
  by_cases empty : frame.payload = []
  · simp [writeFrame, writeAll, emit, writes, empty]
  · simp [writeFrame, writeAll, emit, writes, empty]

theorem sendDataLoop_plain {limit : ℕ} (limit_lt : limit < 2 ^ 24) {streamId : ℕ}
    (id_lt : streamId < 2 ^ 31) (endStream : Bool) (fuel : ℕ) (rest : Bytes)
    (handler : Http2Handler PlainTls) (limited : handler.localSettings.maxFrameSize = limit) :
    sendDataLoop fuel handler streamId rest endStream =
      (.ok, handler.emit (dataFrames limit limit_lt streamId id_lt endStream fuel rest)) := by
  induction fuel generalizing rest handler with
  | zero => simp [sendDataLoop, dataFrames]
  | succ fuel ih =>
      by_cases empty : rest = []
      · simp [sendDataLoop, dataFrames, empty]
      · have first := handler.writeFrame_plain
          (dataFrame limit limit_lt streamId id_lt endStream rest)
        simp only [dataFrame] at first
        have others := ih (rest.drop (min rest.length limit))
          (handler.emit [dataFrame limit limit_lt streamId id_lt endStream rest]) limited
        simp only [dataFrame] at others
        simp only [sendDataLoop, List.isEmpty_iff, empty, if_false, limited, first, ne_eq,
          not_true_eq_false, others, emit_emit, dataFrames, dataFrame]
        rfl

theorem sendDataFrame_plain (handler : Http2Handler PlainTls)
    (standard : handler.localSettings = .reset) {streamId : ℕ} (id_lt : streamId < 2 ^ 31)
    (bytes : Bytes) :
    handler.sendDataFrame streamId bytes true =
      (.ok, handler.emit (bodyFrames streamId id_lt bytes)) := by
  apply sendDataLoop_plain
  rw [standard]

theorem sendHeadersFrame_plain (handler : Http2Handler PlainTls)
    (standard : handler.localSettings = .reset) {streamId : ℕ} (id_lt : streamId < 2 ^ 31) :
    handler.sendHeadersFrame streamId responseHeaders false =
      (.ok, handler.emit [replyHeaders streamId id_lt]) := by
  have fits : (Hpack.encode responseHeaders).length ≤ Http2Settings.reset.maxFrameSize := by
    rw [length_encode_responseHeaders]
    decide
  simp only [sendHeadersFrame, standard, fits, if_true]
  exact handler.writeFrame_plain (replyHeaders streamId id_lt)

theorem handleCompleteRequest_plain (handler : Http2Handler PlainTls)
    (standard : handler.localSettings = .reset) (stream : Http2Stream)
    (id_lt : stream.streamId < 2 ^ 31) :
    handler.handleCompleteRequest stream =
      if handler.connSet then
        (.ok, handler.emit (replyFrames stream.streamId id_lt stream.request.body))
      else (.invalid, handler) := by
  have afterHeaders : (handler.emit [replyHeaders stream.streamId id_lt]).localSettings = .reset :=
    standard
  simp only [handleCompleteRequest, handler.sendHeadersFrame_plain standard id_lt,
    sendDataFrame_plain _ afterHeaders id_lt, emit_emit]
  rfl

theorem sendSettingsFrame_plain (handler : Http2Handler PlainTls)
    (standard : handler.localSettings = .reset) :
    handler.sendSettingsFrame = (.ok, handler.emit [initialSettings]) := by
  have payload : ([(1, Http2Settings.reset.headerTableSize), (2, Http2Settings.reset.enablePush),
      (3, Http2Settings.reset.maxConcurrentStreams), (4, Http2Settings.reset.initialWindowSize),
      (5, Http2Settings.reset.maxFrameSize)].flatMap fun param =>
        BigEndian.encode 2 param.1 ++ BigEndian.encode 4 param.2) = initialSettings.payload := by
    decide
  simp only [sendSettingsFrame, standard, payload]
  exact handler.writeFrame_plain initialSettings

theorem sendSettingsAck_plain (handler : Http2Handler PlainTls) :
    handler.sendSettingsAck =
      (.ok, { handler with settingsAckSent := true }.emit
        (if handler.settingsAckSent then [] else [settingsAck])) := by
  cases sent : handler.settingsAckSent with
  | true =>
      simp only [sendSettingsAck, sent, if_true, emit_nil]
      rw [← sent]
  | false =>
      simp only [sendSettingsAck, sent, Bool.false_eq_true, if_false]
      exact writeFrame_plain { handler with settingsAckSent := true } settingsAck

theorem handlePingFrame_plain (handler : Http2Handler PlainTls) (payload : Bytes) :
    handler.handlePingFrame payload =
      (.ok, handler.emit (if 8 ≤ payload.length then [pingAck payload] else [])) := by
  by_cases long : 8 ≤ payload.length
  · have answered := handler.writeFrame_plain (pingAck payload)
    simp only [pingAck] at answered
    simp only [handlePingFrame, long, if_true, answered, pingAck]
  · simp [handlePingFrame, long]

/-- The handler after a successful `init` with a connection. -/
def connected : Http2Handler PlainTls := ((construct {}).init true).2

theorem connected_streams : connected.streams = ∅ := rfl

theorem connected_written : connected.tlsHandler.written = initialSettings.writes := by
  decide +kernel

end Http2Handler

end HttpsServerSim
