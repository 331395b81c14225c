import HttpsServerSim.Protocol.Http2Handler

/-!
# What handling a frame leaves alone

Whatever the TLS layer answers, the frame handlers change the streams, the peer's
settings, the HPACK decoder and the acknowledgement flags, and they reach the TLS
layer only through writes. The connection, the local settings, the plaintext buffer
and the history of handled frames stay as they are.
-/

namespace HttpsServerSim

universe u

namespace TlsLayer

variable {Tls : Type u} [TlsLayer Tls]

/-- The second layer state comes from the first by writes alone. -/
inductive WrittenFrom (start : Tls) : Tls → Prop where
  | refl : WrittenFrom start start
  | write {tls : Tls} (earlier : WrittenFrom start tls) (bytes : Bytes) :
      WrittenFrom start (TlsLayer.write tls bytes).2.2

theorem WrittenFrom.trans {first second third : Tls} (left : WrittenFrom first second)
    (right : WrittenFrom second third) : WrittenFrom first third := by
  induction right with
  | refl => exact left
  | write _ bytes ih => exact ih.write bytes

theorem WrittenFrom.pending_eq {before after : PlainTls} (written : WrittenFrom before after) :
    after.pending = before.pending := by
  induction written with
  | refl => rfl
  | write _ bytes ih => exact ih

end TlsLayer

namespace Http2Handler

open TlsLayer

variable {Tls : Type u} [TlsLayer Tls]

/-- The parts of a handler that frame handling does not change. -/
structure SameSession (before after : Http2Handler Tls) : Prop where
  connSet : after.connSet = before.connSet
  localSettings : after.localSettings = before.localSettings
  plaintextBuffer : after.plaintextBuffer = before.plaintextBuffer
  handled : after.handled = before.handled
  tlsHandler : WrittenFrom before.tlsHandler after.tlsHandler

namespace SameSession

theorem refl (handler : Http2Handler Tls) : SameSession handler handler :=
  ⟨rfl, rfl, rfl, rfl, .refl⟩

theorem trans {first second third : Http2Handler Tls} (left : SameSession first second)
    (right : SameSession second third) : SameSession first third where
  connSet := right.connSet.trans left.connSet
  localSettings := right.localSettings.trans left.localSettings
  plaintextBuffer := right.plaintextBuffer.trans left.plaintextBuffer
  handled := right.handled.trans left.handled
  tlsHandler := left.tlsHandler.trans right.tlsHandler

end SameSession

/-- Of the rest of the state only the streams and the HPACK decoder may have changed. -/
structure StreamsOnly (before after : Http2Handler Tls) : Prop
    extends SameSession before after where
  settings : after.settings = before.settings
  settingsAckReceived : after.settingsAckReceived = before.settingsAckReceived
  settingsAckSent : after.settingsAckSent = before.settingsAckSent

namespace StreamsOnly

theorem refl (handler : Http2Handler Tls) : StreamsOnly handler handler :=
  ⟨.refl handler, rfl, rfl, rfl⟩

theorem trans {first second third : Http2Handler Tls} (left : StreamsOnly first second)
    (right : StreamsOnly second third) : StreamsOnly first third where
  toSameSession := left.toSameSession.trans right.toSameSession
  settings := right.settings.trans left.settings
  settingsAckReceived := right.settingsAckReceived.trans left.settingsAckReceived
  settingsAckSent := right.settingsAckSent.trans left.settingsAckSent

end StreamsOnly

/-- Of the rest of the state nothing has changed. -/
structure Sends (before after : Http2Handler Tls) : Prop extends StreamsOnly before after where
  streams : after.streams = before.streams

namespace Sends

theorem refl (handler : Http2Handler Tls) : Sends handler handler :=
  ⟨.refl handler, rfl⟩

theorem trans {first second third : Http2Handler Tls} (left : Sends first second)
    (right : Sends second third) : Sends first third where
  toStreamsOnly := left.toStreamsOnly.trans right.toStreamsOnly
  streams := right.streams.trans left.streams

end Sends

theorem writeAll_sends (handler : Http2Handler Tls) (bytes : Bytes) :
    Sends handler (handler.writeAll bytes).2 := by
  have session : Sends handler
      { handler with tlsHandler := (TlsLayer.write handler.tlsHandler bytes).2.2 } :=
    ⟨⟨⟨rfl, rfl, rfl, rfl, .write .refl bytes⟩, rfl, rfl, rfl⟩, rfl⟩
  simp only [writeAll]
  split_ifs <;> exact session

theorem writeFrame_sends (handler : Http2Handler Tls) (type : Http2FrameType)
    (streamId : ℕ) (flags : UInt8) (payload : Bytes) :
    Sends handler (handler.writeFrame type streamId flags payload).2 := by
  have first := handler.writeAll_sends
    (Http2Frame.frameHeader type streamId flags payload.length)
  simp only [writeFrame]
  split_ifs
  · exact first
  · exact first
  · exact first.trans (writeAll_sends _ payload)

theorem sendContinuations_sends (fuel : ℕ) (handler : Http2Handler Tls) (streamId : ℕ)
    (rest : Bytes) : Sends handler (sendContinuations fuel handler streamId rest).2 := by
  induction fuel generalizing handler rest with
  | zero => exact handler.writeFrame_sends _ _ _ _
  | succ fuel ih =>
      simp only [sendContinuations]
      split_ifs
      · exact handler.writeFrame_sends _ _ _ _
      · exact (handler.writeFrame_sends _ _ _ _).trans (ih _ _)
      · exact handler.writeFrame_sends _ _ _ _

theorem sendHeadersFrame_sends (handler : Http2Handler Tls) (streamId : ℕ)
    (headers : HttpHeaders) (endStream : Bool) :
    Sends handler (handler.sendHeadersFrame streamId headers endStream).2 := by
  simp only [sendHeadersFrame]
  split_ifs <;>
    first
      | exact handler.writeFrame_sends _ _ _ _
      | exact (handler.writeFrame_sends _ _ _ _).trans
          (sendContinuations_sends _ _ _ _)

theorem sendDataLoop_sends (fuel : ℕ) (handler : Http2Handler Tls) (streamId : ℕ)
    (rest : Bytes) (endStream : Bool) :
    Sends handler (sendDataLoop fuel handler streamId rest endStream).2 := by
  induction fuel generalizing handler rest with
  | zero => exact .refl handler
  | succ fuel ih =>
      simp only [sendDataLoop]
      generalize (if min rest.length handler.localSettings.maxFrameSize = rest.length ∧
        endStream = true then http2FlagEndStream else 0) = flags
      split_ifs
      · exact .refl handler
      · exact handler.writeFrame_sends _ _ _ _
      · exact (handler.writeFrame_sends _ _ _ _).trans (ih _ _)

theorem sendDataFrame_sends (handler : Http2Handler Tls) (streamId : ℕ) (bytes : Bytes)
    (endStream : Bool) :
    Sends handler (handler.sendDataFrame streamId bytes endStream).2 :=
  sendDataLoop_sends _ _ _ _ _

theorem handleCompleteRequest_sends (handler : Http2Handler Tls) (stream : Http2Stream) :
    Sends handler (handler.handleCompleteRequest stream).2 := by
  simp only [handleCompleteRequest]
  split_ifs
  · exact (handler.sendHeadersFrame_sends _ _ _).trans (sendDataFrame_sends _ _ _ _)
  · exact .refl handler

theorem sendSettingsAck_sameSession (handler : Http2Handler Tls) :
    SameSession handler handler.sendSettingsAck.2 := by
  simp only [sendSettingsAck]
  split_ifs
  · exact .refl handler
  · have marked : SameSession handler { handler with settingsAckSent := true } :=
      ⟨rfl, rfl, rfl, rfl, .refl⟩
    exact marked.trans (writeFrame_sends _ _ _ _ _).toSameSession

theorem handleSettingsFrame_sameSession (handler : Http2Handler Tls) (payload : Bytes) :
    SameSession handler (handler.handleSettingsFrame payload).2 := by
  simp only [handleSettingsFrame]
  split_ifs
  · exact ⟨rfl, rfl, rfl, rfl, .refl⟩
  · have applied : SameSession handler
        { handler with settings := applySettings handler.settings payload } :=
      ⟨rfl, rfl, rfl, rfl, .refl⟩
    exact applied.trans (sendSettingsAck_sameSession _)

theorem handlePingFrame_sends (handler : Http2Handler Tls) (payload : Bytes) :
    Sends handler (handler.handlePingFrame payload).2 := by
  simp only [handlePingFrame]
  split_ifs
  · exact handler.writeFrame_sends _ _ _ _
  · exact .refl handler

theorem handleWindowUpdateFrame_streamsOnly (handler : Http2Handler Tls)
    (streamId increment : ℕ) :
    StreamsOnly handler (handler.handleWindowUpdateFrame streamId increment).2 := by
  simp only [handleWindowUpdateFrame]
  split_ifs <;> exact ⟨⟨rfl, rfl, rfl, rfl, .refl⟩, rfl, rfl, rfl⟩

theorem insertStream_streamsOnly (handler : Http2Handler Tls) (streamId : ℕ)
    (stream : Http2Stream) :
    StreamsOnly handler { handler with streams := handler.streams.insert streamId stream } :=
  ⟨⟨rfl, rfl, rfl, rfl, .refl⟩, rfl, rfl, rfl⟩

theorem handleDataFrame_streamsOnly (handler : Http2Handler Tls) (streamId : ℕ)
    (payload : Bytes) (flags : UInt8) :
    StreamsOnly handler (handler.handleDataFrame streamId payload flags).2 := by
  simp only [handleDataFrame]
  split
  · exact .refl handler
  · split_ifs
    · exact (handler.insertStream_streamsOnly _ _).trans
        (handleCompleteRequest_sends _ _).toStreamsOnly
    · exact handler.insertStream_streamsOnly _ _

section Headers

variable [WideShift]

theorem mergeFragment_streamsOnly (handler : Http2Handler Tls) (streamId : ℕ)
    (stream : Http2Stream) (payload : Bytes) :
    StreamsOnly handler (handler.mergeFragment streamId stream payload).2.2 := by
  simp only [mergeFragment]
  split_ifs <;> exact ⟨⟨rfl, rfl, rfl, rfl, .refl⟩, rfl, rfl, rfl⟩

theorem handleHeadersFrame_streamsOnly (handler : Http2Handler Tls) (streamId : ℕ)
    (payload : Bytes) (flags : UInt8) :
    StreamsOnly handler (handler.handleHeadersFrame streamId payload flags).2 := by
  simp only [handleHeadersFrame]
  generalize (if (getOrCreateStream handler.streams streamId).state = .idle then
    { getOrCreateStream handler.streams streamId with state := Http2StreamState.open }
    else getOrCreateStream handler.streams streamId) = stream
  have opened := handler.insertStream_streamsOnly streamId stream
  have merged := opened.trans (mergeFragment_streamsOnly
    { handler with streams := handler.streams.insert streamId stream } streamId stream payload)
  split_ifs
  · exact merged
  · exact merged
  · exact merged.trans ((insertStream_streamsOnly _ _ _).trans
      (handleCompleteRequest_sends _ _).toStreamsOnly)
  · exact merged

theorem handleContinuationFrame_streamsOnly (handler : Http2Handler Tls) (streamId : ℕ)
    (payload : Bytes) (flags : UInt8) :
    StreamsOnly handler (handler.handleContinuationFrame streamId payload flags).2 := by
  simp only [handleContinuationFrame]
  split
  · exact .refl handler
  · rename_i stream present
    have merged := handler.mergeFragment_streamsOnly streamId stream payload
    split_ifs
    · exact merged
    · exact merged.trans (handleCompleteRequest_sends _ _).toStreamsOnly
    · exact merged

/-- A frame of any type but `SETTINGS` leaves settings and acknowledgement flags alone. -/
theorem handleFrame_streamsOnly (handler : Http2Handler Tls) {frame : Http2Frame}
    (other : frame.type ≠ .settings) : StreamsOnly handler (handler.handleFrame frame).2 := by
  simp only [handleFrame, other, if_false]
  split_ifs
  · exact handler.handleHeadersFrame_streamsOnly _ _ _
  · exact handler.handleDataFrame_streamsOnly _ _ _
  · exact handler.handleContinuationFrame_streamsOnly _ _ _
  · exact handler.handleWindowUpdateFrame_streamsOnly _ _
  · exact ⟨⟨rfl, rfl, rfl, rfl, .refl⟩, rfl, rfl, rfl⟩
  · exact (handler.handlePingFrame_sends _).toStreamsOnly
  · exact .refl handler

theorem handleFrame_settings (handler : Http2Handler Tls) {frame : Http2Frame}
    (settings : frame.type = .settings) :
    handler.handleFrame frame = handler.handleSettingsFrame frame.payload := by
  simp only [handleFrame, settings, if_true]

theorem handleFrame_sameSession (handler : Http2Handler Tls) (frame : Http2Frame) :
    SameSession handler (handler.handleFrame frame).2 := by
  by_cases settings : frame.type = .settings
  · rw [handler.handleFrame_settings settings]
    exact handler.handleSettingsFrame_sameSession frame.payload
  · exact (handler.handleFrame_streamsOnly settings).toSameSession

end Headers

theorem sendSettingsAck_settingsAckSent (handler : Http2Handler Tls) :
    handler.sendSettingsAck.2.settingsAckSent = true := by
  unfold sendSettingsAck
  split_ifs with sent
  · exact sent
  · exact (writeFrame_sends { handler with settingsAckSent := true } _ _ _ _).settingsAckSent

end Http2Handler

end HttpsServerSim
