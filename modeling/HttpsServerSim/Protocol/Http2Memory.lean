import HttpsServerSim.Protocol.Http2Delivery
import HttpsServerSim.Protocol.HpackMemory

/-!
# Reading frames from memory

`read_frame` and the frame handlers on pointers into the plaintext buffer. Memory has a byte at
every offset, so only the comparisons with the number of readable bytes and with the length of the
frame keep them inside what has been received. Every access is logged, those of the decoder too.

They keep inside (`http2OnRead_safe`), and the loop over the frames ends.
-/

namespace HttpsServerSim

open ByteMemory Http2Handler
open HpackMemory (Access)
open Http2Frame (splitFrame)

namespace Http2Memory

/-- The access is to this range of the buffer, or to an entry of `static_table`. -/
def Within (start stop : ℕ) : Access → Prop
  | .byte offset => start ≤ offset ∧ offset < stop
  | .entry index => index < Hpack.staticTable.length
  | .literal origin length => start ≤ origin ∧ origin + length ≤ stop

/-- An access of the decoder, which counts from the pointer that it is given. -/
def shift (base : ℕ) : Access → Access
  | .byte offset => .byte (base + offset)
  | .entry index => .entry index
  | .literal origin length => .literal (base + origin) length

section Code

universe u

variable {Tls : Type u} [TlsLayer Tls] [WideShift] (memory : ℕ → UInt8)

/-- Bytes that are read one by one. -/
def readBytes : ℕ → ℕ → LoggedRun Access Bytes
  | _, 0 => .done []
  | ptr, count + 1 =>
      .access (.byte ptr) ((readBytes (ptr + 1) count).andThen fun bytes =>
        .done (memory ptr :: bytes))

def decodeAt (ptr len : ℕ) (decoder : HpackDecoder) :
    LoggedRun Access (ProtocolStatus × HttpHeaders × HpackDecoder) :=
  (HpackMemory.decode (fun offset => memory (ptr + offset)) len decoder).relabel (shift ptr)

/-- The loop of `handle_settings_frame`. -/
def settingsLoop (payload len : ℕ) : ℕ → ℕ → Http2Settings → LoggedRun Access Http2Settings
  | 0, pos, settings => if pos + 6 ≤ len then none else .done settings
  | rounds + 1, pos, settings =>
      if pos + 6 ≤ len then
        (readBytes memory (payload + pos) 2).andThen fun id =>
          (readBytes memory (payload + pos + 2) 4).andThen fun value =>
            settingsLoop payload len rounds (pos + 6)
              (applySetting settings (BigEndian.decode id) (BigEndian.decode value))
      else .done settings

variable (handler : Http2Handler Tls)

def handleSettingsFrame (payload len : ℕ) :
    LoggedRun Access (ProtocolStatus × Http2Handler Tls) :=
  if len = 0 then .done (.ok, { handler with settingsAckReceived := true })
  else
    (settingsLoop memory payload len len 0 handler.settings).andThen fun settings =>
      .done { handler with settings := settings }.sendSettingsAck

/-- The fields that the decoder gave are overlaid, if it gave any. -/
def mergeDecoded (handler : Http2Handler Tls) (streamId : ℕ) (stream : Http2Stream)
    (decoded : ProtocolStatus × HttpHeaders × HpackDecoder) :
    ProtocolStatus × Http2Stream × Http2Handler Tls :=
  let (ret, headers, decoder) := decoded
  let handler := { handler with hpackDecoder := decoder }
  if ret ≠ .ok then (ret, stream, handler)
  else
    let merged := MapOverlay.overlay stream.request.headers headers
    let stream := { stream with request := { stream.request with headers := merged } }
    (.ok, stream, { handler with streams := handler.streams.insert streamId stream })

def mergeFragment (streamId : ℕ) (stream : Http2Stream) (payload len : ℕ) :
    LoggedRun Access (ProtocolStatus × Http2Stream × Http2Handler Tls) :=
  (decodeAt memory payload len handler.hpackDecoder).andThen fun decoded =>
    .done (mergeDecoded handler streamId stream decoded)

def handleHeadersFrame (streamId payload len : ℕ) (flags : UInt8) :
    LoggedRun Access (ProtocolStatus × Http2Handler Tls) :=
  let stream := getOrCreateStream handler.streams streamId
  let stream := if stream.state = .idle then { stream with state := .open } else stream
  let handler := { handler with streams := handler.streams.insert streamId stream }
  (mergeFragment memory handler streamId stream payload len).andThen fun (ret, stream, handler) =>
    .done
      (if ret ≠ .ok then (ret, handler)
      else if flags &&& http2FlagEndHeaders = 0 then (.ok, handler)
      else if flags &&& http2FlagEndStream ≠ 0 then
        let stream := { stream with state := .halfClosedRemote }
        { handler with streams := handler.streams.insert streamId stream }.handleCompleteRequest
          stream
      else (.ok, handler))

def handleContinuationFrame (streamId payload len : ℕ) (flags : UInt8) :
    LoggedRun Access (ProtocolStatus × Http2Handler Tls) :=
  match handler.streams[streamId]? with
  | none => .done (.invalid, handler)
  | some stream =>
      (mergeFragment memory handler streamId stream payload len).andThen
        fun (ret, stream, handler) =>
          .done
            (if ret ≠ .ok then (ret, handler)
            else if flags &&& http2FlagEndHeaders ≠ 0 ∧ stream.state = .halfClosedRemote then
              handler.handleCompleteRequest stream
            else (.ok, handler))

/-- The body takes the whole payload, or nothing is read of it. -/
def handleDataFrame (streamId payload len : ℕ) (flags : UInt8) :
    LoggedRun Access (ProtocolStatus × Http2Handler Tls) :=
  match handler.streams[streamId]? with
  | none => .done (.invalid, handler)
  | some _ =>
      if 0 < len then
        .access (.literal payload len)
          (.done (handler.handleDataFrame streamId (bytesAt memory payload len) flags))
      else .done (handler.handleDataFrame streamId [] flags)

def handlePingFrame (payload len : ℕ) : LoggedRun Access (ProtocolStatus × Http2Handler Tls) :=
  if 8 ≤ len then
    .access (.literal payload 8)
      (.done (.ok, (handler.writeFrame .ping 0 http2FlagAck (bytesAt memory payload 8)).2))
  else .done (.ok, handler)

/-- `handle_frame`, with the pointer to the payload. -/
def handleFrame (type : Http2FrameType) (flags : UInt8) (streamId payload len : ℕ) :
    LoggedRun Access (ProtocolStatus × Http2Handler Tls) :=
  if type = .settings then handleSettingsFrame memory handler payload len
  else if type = .headers then handleHeadersFrame memory handler streamId payload len flags
  else if type = .data then handleDataFrame memory handler streamId payload len flags
  else if type = .continuation then
    handleContinuationFrame memory handler streamId payload len flags
  else if type = .windowUpdate ∧ 4 ≤ len then
    (readBytes memory payload 4).andThen fun increment =>
      .done (handler.handleWindowUpdateFrame streamId (BigEndian.decode increment % 2 ^ 31))
  else if type = .rstStream ∧ 4 ≤ len then
    (readBytes memory payload 4).andThen fun _ => .done (handler.handleRstStreamFrame streamId)
  else if type = .ping then handlePingFrame memory handler payload len
  else .done (.ok, handler)

/-- `read_frame`. The payload is read where the buffer has it; nobody writes to the buffer
meanwhile. -/
def readFrame (handler : Http2Handler Tls) : LoggedRun Access (ProtocolStatus × Http2Handler Tls) :=
  let buffer := handler.plaintextBuffer
  let memory := ofList buffer.data
  let ptr := buffer.readIdx
  if buffer.readableBytes < http2FrameHeaderSize then .done (.eagain, handler)
  else
    (readBytes memory ptr 3).andThen fun length =>
      (readBytes memory (ptr + 3) 1).andThen fun type =>
        (readBytes memory (ptr + 4) 1).andThen fun flags =>
          (readBytes memory (ptr + 5) 4).andThen fun streamId =>
            let len := BigEndian.decode length
            if buffer.readableBytes < http2FrameHeaderSize + len then .done (.eagain, handler)
            else
              let buffer := buffer.skip http2FrameHeaderSize
              (handleFrame memory { handler with plaintextBuffer := buffer } ⟨type.headD 0⟩
                (flags.headD 0) (BigEndian.decode streamId % 2 ^ 31) buffer.readIdx len).andThen
                fun (ret, handler) =>
                  .done
                    (ret,
                      { handler with plaintextBuffer := handler.plaintextBuffer.skip len })

/-- The loop of `on_read`; nothing if it is not over after so many rounds. -/
def readFrames : ℕ → Http2Handler Tls → LoggedRun Access (ProtocolStatus × Http2Handler Tls)
  | 0, _ => none
  | rounds + 1, handler =>
      (readFrame handler).andThen fun (ret, handler) =>
        if ret = .eagain then .done (.ok, handler)
        else if ret.failed then .done (ret, handler)
        else readFrames rounds handler

/-- What `on_read` has taken from the TLS layer is in the buffer. -/
def received (handler : Http2Handler Tls) : Buffer :=
  let (ret, bytes, _) := TlsLayer.read handler.tlsHandler tempBufferSize
  if ret.failed ∨ bytes.isEmpty then handler.plaintextBuffer
  else (handler.plaintextBuffer.write .always bytes).2

def onRead (handler : Http2Handler Tls) : LoggedRun Access (ProtocolStatus × Http2Handler Tls) :=
  let (ret, bytes, tls) := TlsLayer.read handler.tlsHandler tempBufferSize
  let handler := { handler with tlsHandler := tls }
  if ret = .eagain then .done (.ok, handler)
  else if ret.failed then .done (ret, handler)
  else
    let buffer :=
      if bytes.isEmpty then handler.plaintextBuffer
      else (handler.plaintextBuffer.write .always bytes).2
    readFrames (buffer.readableBytes + 1) { handler with plaintextBuffer := buffer }

end Code

/-! ## The reads are those of the payload's bytes -/

section Reading

variable (memory : ℕ → UInt8) {start stop : ℕ}

theorem Within.mono {first last : ℕ} {access : Access} (within : Within first last access)
    (start_le : start ≤ first) (le_stop : last ≤ stop) : Within start stop access := by
  cases access with
  | byte offset => exact ⟨start_le.trans within.1, within.2.trans_le le_stop⟩
  | entry index => exact within
  | literal origin length => exact ⟨start_le.trans within.1, within.2.trans le_stop⟩

theorem readBytes_ends {ptr count : ℕ} (start_le : start ≤ ptr) (le_stop : ptr + count ≤ stop) :
    (readBytes memory ptr count).Ends (Within start stop) (· = bytesAt memory ptr count) := by
  induction count generalizing ptr with
  | zero => exact .done rfl
  | succ count ih =>
      apply LoggedRun.Ends.access ⟨start_le, by omega⟩
      apply (ih (start_le.trans (Nat.le_succ ptr)) (by omega)).andThen
      rintro _ rfl
      apply LoggedRun.Ends.done
      rw [Nat.add_comm count 1, bytesAt_add]
      rfl

theorem decodeAt_ends [WideShift] (ptr len : ℕ) (decoder : HpackDecoder) :
    (decodeAt memory ptr len decoder).Ends (Within ptr (ptr + len))
      (· = decoder.decode (bytesAt memory ptr len)) := by
  have ends := HpackMemory.decode_ends (fun offset => memory (ptr + offset)) len decoder
  rw [bytesAt_shift, Nat.add_zero] at ends
  apply ends.relabel
  intro access inside
  cases access with
  | byte offset => exact ⟨Nat.le_add_right ptr offset, Nat.add_lt_add_left inside ptr⟩
  | entry index => exact inside
  | literal origin length =>
      have fits : origin + length ≤ len := inside
      exact ⟨Nat.le_add_right ptr origin, by omega⟩

theorem applySettings_short (settings : Http2Settings) {payload : Bytes}
    (short : payload.length < 6) :
    applySettings settings payload = settings := by
  apply applySettings.eq_2
  rintro i0 i1 v0 v1 v2 v3 rest rfl
  simp only [List.length_cons] at short
  omega

theorem applySettings_append (settings : Http2Settings) {id value : Bytes} (rest : Bytes)
    (two : id.length = 2) (four : value.length = 4) :
    applySettings settings (id ++ (value ++ rest)) =
      applySettings (applySetting settings (BigEndian.decode id) (BigEndian.decode value))
        rest := by
  rcases List.length_eq_two.mp two with ⟨i0, i1, rfl⟩
  match value, four with
  | [v0, v1, v2, v3], _ => rfl

theorem settingsLoop_ends (payload len : ℕ) {rounds pos : ℕ} (settings : Http2Settings)
    (pos_le : pos ≤ len) (enough : len ≤ pos + rounds) :
    (settingsLoop memory payload len rounds pos settings).Ends (Within payload (payload + len))
      (· = applySettings settings (bytesAt memory (payload + pos) (len - pos))) := by
  induction rounds generalizing pos settings with
  | zero =>
      have none_left : ¬ pos + 6 ≤ len := by omega
      have short : (bytesAt memory (payload + pos) (len - pos)).length < 6 := by
        rw [length_bytesAt]
        omega
      simp only [settingsLoop, none_left, if_false]
      exact .done (applySettings_short settings short).symm
  | succ rounds ih =>
      by_cases entry : pos + 6 ≤ len
      · simp only [settingsLoop, entry, if_true]
        apply (readBytes_ends memory (Nat.le_add_right payload pos) (by omega)).andThen
        rintro _ rfl
        apply (readBytes_ends memory (by omega) (by omega)).andThen
        rintro _ rfl
        have split : bytesAt memory (payload + pos) (len - pos) =
            bytesAt memory (payload + pos) 2 ++ (bytesAt memory (payload + pos + 2) 4 ++
              bytesAt memory (payload + (pos + 6)) (len - (pos + 6))) := by
          have lengths : len - pos = 2 + (4 + (len - (pos + 6))) := by omega
          rw [lengths, bytesAt_add, bytesAt_add]
          rfl
        rw [split, applySettings_append settings _ (length_bytesAt ..) (length_bytesAt ..)]
        exact ih _ (by omega) (by omega)
      · have short : (bytesAt memory (payload + pos) (len - pos)).length < 6 := by
          rw [length_bytesAt]
          omega
        simp only [settingsLoop, entry, if_false]
        exact .done (applySettings_short settings short).symm

end Reading

/-! ## A frame handler reads its own payload -/

section Handling

universe u

variable {Tls : Type u} [TlsLayer Tls] (memory : ℕ → UInt8) (handler : Http2Handler Tls)
  (streamId ptr len : ℕ) (flags : UInt8)

theorem handleSettingsFrame_ends :
    (handleSettingsFrame memory handler ptr len).Ends (Within ptr (ptr + len))
      (· = handler.handleSettingsFrame (bytesAt memory ptr len)) := by
  by_cases empty : len = 0
  · subst empty
    exact .done rfl
  · have someBytes : (bytesAt memory ptr len).isEmpty = false := by
      rw [List.isEmpty_eq_false_iff, ← List.length_pos_iff, length_bytesAt]
      omega
    simp only [handleSettingsFrame, empty, if_false, Http2Handler.handleSettingsFrame, someBytes,
      Bool.false_eq_true]
    apply (settingsLoop_ends memory ptr len handler.settings (Nat.zero_le len) (by omega)).andThen
    rintro _ rfl
    exact .done rfl

theorem handleDataFrame_ends :
    (handleDataFrame memory handler streamId ptr len flags).Ends (Within ptr (ptr + len))
      (· = handler.handleDataFrame streamId (bytesAt memory ptr len) flags) := by
  cases found : handler.streams[streamId]? with
  | none =>
      simp only [handleDataFrame, found, Http2Handler.handleDataFrame]
      exact .done rfl
  | some stream =>
      simp only [handleDataFrame, found]
      split_ifs with someBytes
      · exact .access ⟨Nat.le_refl ptr, Nat.le_refl _⟩ (.done rfl)
      · have empty : len = 0 := by omega
        subst empty
        exact .done rfl

theorem handlePingFrame_ends :
    (handlePingFrame memory handler ptr len).Ends (Within ptr (ptr + len))
      (· = handler.handlePingFrame (bytesAt memory ptr len)) := by
  simp only [handlePingFrame, Http2Handler.handlePingFrame, length_bytesAt]
  split_ifs with enough
  · have split : bytesAt memory ptr len =
        bytesAt memory ptr 8 ++ bytesAt memory (ptr + 8) (len - 8) := by
      rw [← bytesAt_add, Nat.add_sub_cancel' enough]
    have taken : (bytesAt memory ptr len).take 8 = bytesAt memory ptr 8 := by
      rw [split]
      exact List.take_left' (length_bytesAt memory ptr 8)
    rw [taken]
    exact .access ⟨Nat.le_refl ptr, Nat.add_le_add_left enough ptr⟩ (.done rfl)
  · exact .done rfl

section Headers

variable [WideShift]

omit [TlsLayer Tls] in
theorem mergeFragment_ends (stream : Http2Stream) :
    (mergeFragment memory handler streamId stream ptr len).Ends (Within ptr (ptr + len))
      (· = handler.mergeFragment streamId stream (bytesAt memory ptr len)) := by
  apply (decodeAt_ends memory ptr len handler.hpackDecoder).andThen
  rintro _ rfl
  exact .done rfl

theorem handleHeadersFrame_ends :
    (handleHeadersFrame memory handler streamId ptr len flags).Ends (Within ptr (ptr + len))
      (· = handler.handleHeadersFrame streamId (bytesAt memory ptr len) flags) := by
  apply (mergeFragment_ends memory _ streamId ptr len _).andThen
  rintro _ rfl
  exact .done rfl

theorem handleContinuationFrame_ends :
    (handleContinuationFrame memory handler streamId ptr len flags).Ends (Within ptr (ptr + len))
      (· = handler.handleContinuationFrame streamId (bytesAt memory ptr len) flags) := by
  cases found : handler.streams[streamId]? with
  | none =>
      simp only [handleContinuationFrame, found, Http2Handler.handleContinuationFrame]
      exact .done rfl
  | some stream =>
      simp only [handleContinuationFrame, found, Http2Handler.handleContinuationFrame]
      apply (mergeFragment_ends memory handler streamId ptr len stream).andThen
      rintro _ rfl
      exact .done rfl

/-- Whatever the type of a frame, its handler reads no byte outside the payload. -/
theorem handleFrame_ends {frame : Http2Frame}
    (payload : bytesAt memory ptr frame.payload.length = frame.payload) :
    (handleFrame memory handler frame.type frame.flags frame.streamId ptr
        frame.payload.length).Ends (Within ptr (ptr + frame.payload.length))
      (· = handler.handleFrame frame) := by
  have firstFour (enough : 4 ≤ frame.payload.length) :
      bytesAt memory ptr 4 = frame.payload.take 4 := by
    have split : frame.payload =
        bytesAt memory ptr 4 ++ bytesAt memory (ptr + 4) (frame.payload.length - 4) := by
      rw [← bytesAt_add, Nat.add_sub_cancel' enough, payload]
    rw [split]
    exact (List.take_left' (length_bytesAt memory ptr 4)).symm
  simp only [handleFrame, Http2Handler.handleFrame]
  split_ifs with settings headers isData continuation window reset ping
  · simpa only [payload] using handleSettingsFrame_ends memory handler ptr frame.payload.length
  · simpa only [payload] using
      handleHeadersFrame_ends memory handler frame.streamId ptr frame.payload.length frame.flags
  · simpa only [payload] using
      handleDataFrame_ends memory handler frame.streamId ptr frame.payload.length frame.flags
  · simpa only [payload] using
      handleContinuationFrame_ends memory handler frame.streamId ptr frame.payload.length
        frame.flags
  · apply (readBytes_ends memory (Nat.le_refl ptr) (Nat.add_le_add_left window.2 ptr)).andThen
    rintro _ rfl
    rw [firstFour window.2]
    exact .done rfl
  · apply (readBytes_ends memory (Nat.le_refl ptr) (Nat.add_le_add_left reset.2 ptr)).andThen
    rintro _ rfl
    exact .done rfl
  · simpa only [payload] using handlePingFrame_ends memory handler ptr frame.payload.length
  · exact .done rfl

end Headers

end Handling

/-! ## Frames in turn -/

section Frames

variable (memory : ℕ → UInt8) {ptr len : ℕ}

theorem splitFrame_bytesAt (tail : ℕ) :
    splitFrame (bytesAt memory ptr (http2FrameHeaderSize + tail)) =
      splitFrame (bytesAt memory ptr 3 ++ [memory (ptr + 3), memory (ptr + 4)] ++
        bytesAt memory (ptr + 5) 4 ++ bytesAt memory (ptr + http2FrameHeaderSize) tail) := by
  rw [bytesAt_add]
  rfl

theorem splitFrame_of_noHeader (ptr : ℕ) (short : len < http2FrameHeaderSize) :
    splitFrame (bytesAt memory ptr len) = none := by
  unfold splitFrame
  split
  · rename_i l0 l1 l2 type flags s0 s1 s2 s3 rest shape
    have lengths := congrArg List.length shape
    simp only [length_bytesAt, List.length_cons] at lengths
    simp only [http2FrameHeaderSize] at short
    omega
  · rfl

theorem splitFrame_of_cut (header : http2FrameHeaderSize ≤ len)
    (cut : len < http2FrameHeaderSize + BigEndian.decode (bytesAt memory ptr 3)) :
    splitFrame (bytesAt memory ptr len) = none := by
  rcases Nat.exists_eq_add_of_le header with ⟨tail, rfl⟩
  have incomplete : ¬ BigEndian.decode (bytesAt memory ptr 3) ≤
      (bytesAt memory (ptr + http2FrameHeaderSize) tail).length := by
    rw [length_bytesAt]
    omega
  rw [splitFrame_bytesAt]
  exact dif_neg incomplete

theorem splitFrame_of_complete
    (complete : http2FrameHeaderSize + BigEndian.decode (bytesAt memory ptr 3) ≤ len) :
    ∃ frame rest,
      splitFrame (bytesAt memory ptr len) = some (frame, rest) ∧
      frame.type = ⟨memory (ptr + 3)⟩ ∧ frame.flags = memory (ptr + 4) ∧
      frame.streamId = BigEndian.decode (bytesAt memory (ptr + 5) 4) % 2 ^ 31 ∧
      frame.payload.length = BigEndian.decode (bytesAt memory ptr 3) ∧
      bytesAt memory (ptr + http2FrameHeaderSize) frame.payload.length = frame.payload := by
  rcases Nat.exists_eq_add_of_le complete with ⟨rest, rfl⟩
  have fits : BigEndian.decode (bytesAt memory ptr 3) ≤
      (bytesAt memory (ptr + http2FrameHeaderSize)
        (BigEndian.decode (bytesAt memory ptr 3) + rest)).length := by
    rw [length_bytesAt]
    exact Nat.le_add_right _ rest
  have taken : (bytesAt memory (ptr + http2FrameHeaderSize)
      (BigEndian.decode (bytesAt memory ptr 3) + rest)).take
        (BigEndian.decode (bytesAt memory ptr 3)) =
      bytesAt memory (ptr + http2FrameHeaderSize) (BigEndian.decode (bytesAt memory ptr 3)) := by
    rw [bytesAt_add]
    exact List.take_left' (length_bytesAt ..)
  rw [Nat.add_assoc, splitFrame_bytesAt]
  refine ⟨_, _, dif_pos fits, rfl, rfl, rfl, ?_, ?_⟩
  · exact (congrArg List.length taken).trans (length_bytesAt ..)
  · have lengthEq := (congrArg List.length taken).trans (length_bytesAt ..)
    exact (congrArg (bytesAt memory (ptr + http2FrameHeaderSize)) lengthEq).trans taken.symm

end Frames

section Loop

universe u

variable {Tls : Type u} [TlsLayer Tls] [WideShift] (handler : Http2Handler Tls)

/-- The handler without the list of the frames that it has handled, which the code does not keep. -/
def withoutHistory (handler : Http2Handler Tls) : Http2Handler Tls :=
  handler.withBuffer handler.plaintextBuffer []

def forgetHistory (ended : ProtocolStatus × Http2Handler Tls) :
    ProtocolStatus × Http2Handler Tls :=
  (ended.1, withoutHistory ended.2)

omit [TlsLayer Tls] [WideShift] in
theorem bytesAt_buffer :
    bytesAt (ofList handler.plaintextBuffer.data) handler.plaintextBuffer.readIdx
      handler.plaintextBuffer.readableBytes = handler.plaintextBuffer.contents :=
  bytesAt_ofList handler.plaintextBuffer.read_le_write handler.plaintextBuffer.write_le_size

theorem readFrame_of_split {frame : Http2Frame} {rest : Bytes}
    (found : splitFrame handler.plaintextBuffer.contents = some (frame, rest)) :
    handler.readFrame =
      endWith ((handler.plaintextBuffer.skip http2FrameHeaderSize).skip frame.payload.length)
        (handler.handled ++ [(frame, (handler.handleFrame frame).1)]) (handler.handleFrame frame) :=
  handler.readFrame_withBuffer handler.handled found

theorem readFrame_ends :
    (readFrame (withoutHistory handler)).Ends
      (Within handler.plaintextBuffer.readIdx handler.plaintextBuffer.writeIdx)
      (· = forgetHistory handler.readFrame) := by
  have contents := bytesAt_buffer handler
  have sizeEq : handler.plaintextBuffer.readIdx + handler.plaintextBuffer.readableBytes =
      handler.plaintextBuffer.writeIdx :=
    Nat.add_sub_cancel' handler.plaintextBuffer.read_le_write
  have nothingYet (incomplete : splitFrame handler.plaintextBuffer.contents = none) :
      (ProtocolStatus.eagain, withoutHistory handler) = forgetHistory handler.readFrame := by
    rw [readFrame_of_incomplete incomplete]
    rfl
  by_cases noHeader : handler.plaintextBuffer.readableBytes < http2FrameHeaderSize
  · have incomplete := splitFrame_of_noHeader (ofList handler.plaintextBuffer.data)
      handler.plaintextBuffer.readIdx noHeader
    rw [contents] at incomplete
    simp only [readFrame, withoutHistory, withBuffer, noHeader, if_true]
    exact .done (nothingYet incomplete)
  · have header := Nat.not_lt.mp noHeader
    simp only [readFrame, withoutHistory, withBuffer, noHeader, if_false]
    simp only [http2FrameHeaderSize] at header
    apply (readBytes_ends _ (Nat.le_refl _) (by omega)).andThen
    rintro _ rfl
    apply (readBytes_ends _ (by omega) (by omega)).andThen
    rintro _ rfl
    apply (readBytes_ends _ (by omega) (by omega)).andThen
    rintro _ rfl
    apply (readBytes_ends _ (by omega) (by omega)).andThen
    rintro _ rfl
    by_cases cut : handler.plaintextBuffer.readableBytes < http2FrameHeaderSize +
        BigEndian.decode (bytesAt (ofList handler.plaintextBuffer.data)
          handler.plaintextBuffer.readIdx 3)
    · have incomplete := splitFrame_of_cut (ofList handler.plaintextBuffer.data) header cut
      rw [contents] at incomplete
      simp only [cut, if_true]
      exact .done (nothingYet incomplete)
    · have complete := Nat.not_lt.mp cut
      rcases splitFrame_of_complete (ofList handler.plaintextBuffer.data) complete with
        ⟨frame, rest, found, type, flags, streamId, length, payload⟩
      rw [contents] at found
      have skipped : (handler.plaintextBuffer.skip http2FrameHeaderSize).readIdx =
          handler.plaintextBuffer.readIdx + http2FrameHeaderSize := by
        simp only [Buffer.skip, http2FrameHeaderSize]
        omega
      have handled := handleFrame_ends (ofList handler.plaintextBuffer.data)
        (handler.withBuffer (handler.plaintextBuffer.skip http2FrameHeaderSize) []) _ payload
      rw [type, flags, streamId, length, ← skipped] at handled
      simp only [cut, if_false]
      have widen (access : Access)
          (within : Within (handler.plaintextBuffer.skip http2FrameHeaderSize).readIdx
            ((handler.plaintextBuffer.skip http2FrameHeaderSize).readIdx +
              BigEndian.decode (bytesAt (ofList handler.plaintextBuffer.data)
                handler.plaintextBuffer.readIdx 3)) access) :
          Within handler.plaintextBuffer.readIdx handler.plaintextBuffer.writeIdx access :=
        within.mono (by omega) (by omega)
      apply (handled.imp widen fun _ same => same).andThen
      rintro _ rfl
      apply LoggedRun.Ends.done
      rw [readFrame_of_split handler found, handleFrame_withBuffer, ← length]
      rfl

/-- A frame takes at least its header off the buffer. -/
theorem readFrame_progress (goesOn : handler.readFrame.1 ≠ .eagain) :
    handler.plaintextBuffer.readIdx < handler.readFrame.2.plaintextBuffer.readIdx ∧
      handler.readFrame.2.plaintextBuffer.writeIdx = handler.plaintextBuffer.writeIdx := by
  cases found : splitFrame handler.plaintextBuffer.contents with
  | none =>
      rw [readFrame_of_incomplete found] at goesOn
      exact absurd rfl goesOn
  | some split =>
      rcases split with ⟨frame, rest⟩
      have lengthEq := (Http2Frame.splitFrame_spec found).1
      rw [Buffer.length_contents] at lengthEq
      rw [readFrame_of_split handler found]
      refine ⟨?_, rfl⟩
      simp only [endWith_snd, withBuffer, Buffer.skip, http2FrameHeaderSize] at lengthEq ⊢
      omega

theorem readFrames_ends {rounds : ℕ} (enough : handler.plaintextBuffer.readableBytes < rounds) :
    (readFrames rounds (withoutHistory handler)).Ends
      (Within handler.plaintextBuffer.readIdx handler.plaintextBuffer.writeIdx)
      (· = forgetHistory (Http2Handler.readFrames rounds handler)) := by
  induction rounds generalizing handler with
  | zero => omega
  | succ rounds ih =>
      apply (readFrame_ends handler).andThen
      rintro _ rfl
      simp only [forgetHistory, Http2Handler.readFrames]
      by_cases ended : handler.readFrame.1 = .eagain
      · simp only [ended, if_true]
        exact .done rfl
      · have progress := readFrame_progress handler ended
        simp only [ended, if_false]
        by_cases failed : handler.readFrame.1.failed = true
        · simp only [failed, if_true]
          exact .done rfl
        · simp only [failed, Bool.false_eq_true, if_false]
          have ordered := handler.readFrame.2.plaintextBuffer.read_le_write
          have less : handler.readFrame.2.plaintextBuffer.readableBytes < rounds := by
            simp only [Buffer.readableBytes] at enough ⊢
            omega
          have widen (access : Access)
              (within : Within handler.readFrame.2.plaintextBuffer.readIdx
                handler.readFrame.2.plaintextBuffer.writeIdx access) :
              Within handler.plaintextBuffer.readIdx handler.plaintextBuffer.writeIdx access :=
            within.mono progress.1.le progress.2.le
          exact (ih handler.readFrame.2 less).imp widen fun _ same => same

/-- Whatever the state of the handler and whatever bytes it has received, `on_read` comes to its
end, reads only bytes that have been received, entries of the static table apart, and does what it
does to the byte strings that the frames are. -/
theorem http2OnRead_safe :
    (onRead (withoutHistory handler)).Ends
      (Within (received handler).readIdx (received handler).writeIdx)
      (· = forgetHistory handler.onRead) := by
  rcases read : TlsLayer.read handler.tlsHandler tempBufferSize with ⟨ret, bytes, tls⟩
  have sameRead : TlsLayer.read (withoutHistory handler).tlsHandler tempBufferSize =
      (ret, bytes, tls) := read
  simp only [onRead, Http2Handler.onRead, received, read, sameRead]
  by_cases nothingYet : ret = .eagain
  · simp only [nothingYet, if_true]
    exact .done rfl
  · by_cases failed : ret.failed = true
    · simp only [nothingYet, failed, if_true, if_false]
      exact .done rfl
    · simp only [nothingYet, failed, if_false, Bool.false_eq_true, false_or]
      exact readFrames_ends { handler with tlsHandler := tls, plaintextBuffer := _ }
        (Nat.lt_succ_self _)

end Loop

end Http2Memory

end HttpsServerSim
