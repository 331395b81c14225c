import HttpsServerSim.Protocol.HpackRoundTrip
import HttpsServerSim.Protocol.Http2Lifecycle

/-!
# The answer to a request on a stream

A request is a `HEADERS` frame and `DATA` frames, the last of which ends the stream. Since
streams are isolated, what becomes of it is a matter of the stream's own transducer, which
collects the body and answers at the end.
-/

namespace HttpsServerSim

open Http2Frame

/-- The payload of a frame. -/
abbrev FramePayload := { payload : Bytes // payload.length < 2 ^ 24 }

/-- A request on a stream other than 0, with its header block and its body in pieces. -/
structure StreamRequest where
  streamId : ℕ
  positive : streamId ≠ 0
  streamId_lt : streamId < 2 ^ 31
  block : FramePayload
  pieces : List FramePayload

namespace StreamRequest

def body (request : StreamRequest) : Bytes := request.pieces.flatMap Subtype.val

def headersFrame (request : StreamRequest) : Http2Frame where
  type := .headers
  flags :=
    if request.pieces.isEmpty then http2FlagEndHeaders ||| http2FlagEndStream
    else http2FlagEndHeaders
  streamId := request.streamId
  payload := request.block.1
  streamId_lt := request.streamId_lt
  length_lt := request.block.2

def pieceFrame (request : StreamRequest) (flags : UInt8) (piece : FramePayload) : Http2Frame where
  type := .data
  flags := flags
  streamId := request.streamId
  payload := piece.1
  streamId_lt := request.streamId_lt
  length_lt := piece.2

/-- `DATA` frames, the last of which ends the stream. -/
def pieceFrames (request : StreamRequest) : List FramePayload → List Http2Frame
  | [] => []
  | piece :: pieces =>
      let flags := if pieces.isEmpty then http2FlagEndStream else 0
      request.pieceFrame flags piece :: request.pieceFrames pieces

def frames (request : StreamRequest) : List Http2Frame :=
  request.headersFrame :: request.pieceFrames request.pieces

end StreamRequest

/-! ## The reference answer -/

def textHeaders : HttpHeaders :=
  .ofList [(ascii ":status", ascii "200"), (ascii "content-type", ascii "text/plain")]

/-- `DATA` frames within the limit that carry the bytes. -/
structure CarriesBody (limit : ℕ) (bytes : Bytes) (frames : List Http2Frame) : Prop where
  data : ∀ frame ∈ frames, frame.type = .data
  within : ∀ frame ∈ frames, frame.payload.length ≤ limit
  bytes : frames.flatMap Http2Frame.payload = bytes

/-- The answer to a request with this body: its headers in one frame, then the body or `OK`; the
last frame and no other ends the stream. -/
structure EchoesBody [WideShift] (limit : ℕ) (body : Bytes) (frames : List Http2Frame) : Prop where
  shape : ∃ headers data, frames = headers :: data ∧ headers.type = .headers ∧
    headers.flags = http2FlagEndHeaders ∧
    (∃ decoder, HpackDecoder.decode {} headers.payload = (.ok, textHeaders, decoder)) ∧
    CarriesBody limit (if body = [] then ascii "OK" else body) data
  closes : ClosesAtEnd frames

/-! ## The frames that are written -/

theorem carriesBody_dataFrames {limit : ℕ} {limitLt : limit < 2 ^ 24} {streamId : ℕ}
    {idLt : streamId < 2 ^ 31} {endStream : Bool} (positive : 0 < limit) {fuel : ℕ} {rest : Bytes}
    (enough : rest.length ≤ fuel) :
    CarriesBody limit rest (dataFrames limit limitLt streamId idLt endStream fuel rest) := by
  induction fuel generalizing rest with
  | zero =>
      have empty : rest = [] := by simpa using enough
      refine ⟨?_, ?_, ?_⟩ <;> simp [dataFrames, empty]
  | succ fuel ih =>
      by_cases empty : rest = []
      · refine ⟨?_, ?_, ?_⟩ <;> simp [dataFrames, empty]
      · have lengthPos := List.length_pos_iff.mpr empty
        have shorter : (rest.drop (min rest.length limit)).length ≤ fuel := by
          simp only [List.length_drop]
          omega
        have later := ih shorter
        refine ⟨?_, ?_, ?_⟩
        · intro frame member
          exact (message_of_mem_dataFrames member).2
        · intro frame member
          simp only [dataFrames, List.isEmpty_iff, empty, if_false, List.mem_cons] at member
          rcases member with rfl | inLater
          · simp only [dataFrame, List.length_take]
            omega
          · exact later.within frame inLater
        · simp only [dataFrames, List.isEmpty_iff, empty, if_false, List.flatMap_cons, later.bytes]
          simp only [dataFrame, List.take_append_drop]

section Decoding

variable [WideShift]

theorem decode_responseHeaders :
    HpackDecoder.decode {} (Hpack.encode Http2Handler.responseHeaders) =
      (.ok, textHeaders, {}) := by
  have fields : ∀ field ∈ Http2Handler.responseHeaders.toList, field.1 ≠ [] ∧
      field.1.length < 2 ^ 32 ∧ field.2.length < 2 ^ 32 := by
    decide +kernel
  have decoded := HpackDecoder.decode_encode_of_fields {} Http2Handler.responseHeaders fields
  exact decoded

theorem echoesBody_replyFrames {streamId : ℕ} (idLt : streamId < 2 ^ 31) (body : Bytes) :
    EchoesBody Http2Settings.reset.maxFrameSize body (replyFrames streamId idLt body) := by
  have carries : CarriesBody Http2Settings.reset.maxFrameSize (Http2Handler.replyBody body)
      (bodyFrames streamId idLt (Http2Handler.replyBody body)) :=
    carriesBody_dataFrames (by decide) (Nat.le_refl _)
  have sent : Http2Handler.replyBody body = if body = [] then ascii "OK" else body := by
    simp [Http2Handler.replyBody]
  rw [sent] at carries
  refine ⟨⟨_, _, rfl, rfl, rfl, ⟨_, decode_responseHeaders⟩, ?_⟩, replyFrames_closesAtEnd idLt body⟩
  rw [sent]
  exact carries

/-! ## The run of the stream -/

namespace StreamRequest

open StreamView

/-- A piece that is not the last one is added to the body. -/
theorem step_piece (request : StreamRequest) (view : StreamView) (piece : FramePayload) :
    transducer.step (some view) (.frame (request.pieceFrame 0 piece)) =
      (some { view with body := view.body ++ piece.1 }, []) := by
  simp +decide [transducer, onFrame, pieceFrame, onData, answer]

/-- The last piece completes the request. -/
theorem step_last (request : StreamRequest) (view : StreamView) (piece : FramePayload) :
    transducer.step (some view) (.frame (request.pieceFrame http2FlagEndStream piece)) =
      (some { view with body := view.body ++ piece.1, state := .halfClosedRemote },
        replyFrames request.streamId request.streamId_lt (view.body ++ piece.1)) := by
  simp +decide [transducer, onFrame, pieceFrame, onData, answer]

theorem run_pieces (request : StreamRequest) (view : StreamView) {pieces : List FramePayload}
    (nonempty : pieces ≠ []) :
    transducer.run (some view) ((request.pieceFrames pieces).map .frame) =
      (some
        { view with
          body := view.body ++ pieces.flatMap Subtype.val
          state := .halfClosedRemote },
        replyFrames request.streamId request.streamId_lt
          (view.body ++ pieces.flatMap Subtype.val)) := by
  induction pieces generalizing view with
  | nil => exact absurd rfl nonempty
  | cons piece pieces ih =>
      by_cases last : pieces = []
      · simp only [last, pieceFrames, List.isEmpty_nil, if_true, List.map_cons, List.map_nil,
          Transducer.run, step_last, List.flatMap_cons, List.flatMap_nil, List.append_nil]
      · have later := ih { view with body := view.body ++ piece.1 } last
        simp only [pieceFrames, List.isEmpty_iff, last, if_false, List.map_cons, Transducer.run,
          step_piece, later, List.flatMap_cons, List.append_assoc, List.nil_append]

omit [WideShift] in
/-- The fields of the block on a stream that has just been opened. -/
theorem merge_opened (fields : HttpHeaders) :
    (opened none).merge fields = { headers := fields, body := [], state := .open } := by
  have overlaid : MapOverlay.overlay ∅ fields = fields := MapOverlay.overlay_empty_left fields
  simp [opened, merge, idle, overlaid]

theorem run_frames (request : StreamRequest) {fields : HttpHeaders}
    (decodes : decodeBlock request.block.1 = some fields) :
    transducer.run none (request.frames.map .frame) =
      (some { headers := fields, body := request.body, state := .halfClosedRemote },
        replyFrames request.streamId request.streamId_lt request.body) := by
  by_cases bodiless : request.pieces = []
  · have step : transducer.step none (.frame request.headersFrame) =
        (some { headers := fields, body := [], state := .halfClosedRemote },
          replyFrames request.streamId request.streamId_lt []) := by
      simp +decide [transducer, onFrame, headersFrame, bodiless, onHeaders, decodes, merge_opened,
        answer]
    simp only [frames, bodiless, pieceFrames, List.map_cons, List.map_nil, Transducer.run, step,
      body, List.flatMap_nil, List.append_nil]
  · have step : transducer.step none (.frame request.headersFrame) =
        (some { headers := fields, body := [], state := .open }, []) := by
      simp +decide [transducer, onFrame, headersFrame, bodiless, onHeaders, decodes, merge_opened,
        answer]
    have later := request.run_pieces { headers := fields, body := [], state := .open } bodiless
    simp only [frames, List.map_cons, Transducer.run, step, later, List.nil_append, body]

end StreamRequest

namespace Http2Handler

open StreamView

theorem valid_afterEvents (events : List Http2Event) : (afterEvents events).Valid := by
  induction events using List.reverseRecOn with
  | nil => exact valid_connected
  | append_singleton events event ih =>
      rw [afterEvents_concat]
      exact (onEvent_spec ih event).valid

/-- A request on a fresh stream, with any frames of other streams in between: its headers are those
of the block, its body is that of the pieces, and what is written on the stream is the answer to
it. -/
theorem stream_echoed (request : StreamRequest) {fields : HttpHeaders} {decoder : HpackDecoder}
    (decodes : HpackDecoder.decode {} request.block.1 = (.ok, fields, decoder))
    (frames : List Http2Frame)
    (own : (frames.filter fun frame => decide (frame.streamId = request.streamId)) =
      request.frames) :
    (afterEvents (frames.map .frame)).viewAt request.streamId =
        some { headers := fields, body := request.body, state := .halfClosedRemote } ∧
      EchoesBody (afterEvents (frames.map .frame)).localSettings.maxFrameSize request.body
        ((afterEvents (frames.map .frame)).framesOn request.streamId) := by
  have ownEvents : (frames.map Http2Event.frame).filter
      (fun event => decide (event.streamId = request.streamId)) = request.frames.map .frame := by
    rw [← own, List.filter_map]
    rfl
  have block : decodeBlock request.block.1 = some fields := by
    simp [decodeBlock, decodes]
  have run := request.run_frames block
  rcases run_stream request.streamId (frames.map .frame) with ⟨viewEq, messagesEq⟩
  rw [streamRun, ownEvents, run] at viewEq messagesEq
  refine ⟨viewEq, ?_⟩
  rw [framesOn_afterEvents request.positive, messagesEq, (valid_afterEvents _).standard]
  exact echoesBody_replyFrames request.streamId_lt request.body

end Http2Handler

end Decoding

/-- A request on stream 1 with a body in two pieces, and one on stream 3 in between. -/
theorem Http2Handler.stream_echoed_two_pieces :
    let request : StreamRequest :=
      ⟨1, by decide, by decide, ⟨[0x83], by decide⟩, [⟨[104], by decide⟩, ⟨[105], by decide⟩]⟩
    let other : Http2Frame := ⟨.headers, 5, 3, [0x84], by decide, by decide⟩
    let frames := [request.headersFrame, request.pieceFrame 0 ⟨[104], by decide⟩, other,
      request.pieceFrame http2FlagEndStream ⟨[105], by decide⟩]
    (afterEvents (frames.map .frame)).viewAt request.streamId =
        some
          { headers := .ofList [(ascii ":method", ascii "POST")]
            body := request.body
            state := .halfClosedRemote } ∧
      EchoesBody (afterEvents (frames.map .frame)).localSettings.maxFrameSize request.body
        ((afterEvents (frames.map .frame)).framesOn request.streamId) := by
  intro request other frames
  have decodes : HpackDecoder.decode {} request.block.1 =
      (.ok, .ofList [(ascii ":method", ascii "POST")], {}) := rfl
  exact stream_echoed request decodes frames (by decide)

end HttpsServerSim
