import HttpsServerSim.Protocol.Http2Plain
import HttpsServerSim.Protocol.Http2Session
import HttpsServerSim.Utils.BufferQueue

/-!
# Reading frames from a segmented stream

The reader keeps what it cannot yet use in the plaintext buffer, so a run of
`on_read` calls sees the stream as `Framing.parse` does: the frames handled are the
complete frames delivered so far, and the buffer holds the incomplete rest. A rest
without a complete frame is shorter than a header and the longest payload, which is
far below the buffer's capacity limit; no read can overrun it.

The statement is about the calls of `handle_frame` that were made: if they all
returned `PROTOCOL_OK` then they were made for exactly the frames sent.
-/

namespace HttpsServerSim

universe u

namespace Http2Frame

theorem length_lt_of_splitFrame_none {input : Bytes} (incomplete : splitFrame input = none) :
    input.length < http2FrameHeaderSize + 2 ^ 24 := by
  unfold splitFrame at incomplete
  split at incomplete
  · rename_i l0 l1 l2 type flags s0 s1 s2 s3 rest
    split_ifs at incomplete with complete
    have := decode_three_lt l0 l1 l2
    simp only [http2FrameHeaderSize, List.length_cons]
    omega
  · rename_i short
    by_contra long
    have nine : http2FrameHeaderSize ≤ input.length := by omega
    rcases input with _ | ⟨l0, _ | ⟨l1, _ | ⟨l2, _ | ⟨type, _ | ⟨flags, _ | ⟨s0, _ | ⟨s1, _ |
      ⟨s2, _ | ⟨s3, rest⟩⟩⟩⟩⟩⟩⟩⟩⟩ <;>
      first
        | exact short _ _ _ _ _ _ _ _ _ _ rfl
        | simp [http2FrameHeaderSize] at nine

end Http2Frame

namespace Http2Handler

open Http2Frame TlsLayer

section Frames

variable {Tls : Type u} [TlsLayer Tls] [WideShift]

theorem readFrame_of_incomplete {handler : Http2Handler Tls}
    (incomplete : splitFrame handler.plaintextBuffer.contents = none) :
    handler.readFrame = (.eagain, handler) := by
  simp [readFrame, incomplete]

theorem readFrame_of_complete {handler : Http2Handler Tls} {frame : Http2Frame} {rest : Bytes}
    (complete : splitFrame handler.plaintextBuffer.contents = some (frame, rest)) :
    handler.readFrame.2.plaintextBuffer.contents = rest ∧
      handler.readFrame.2.handled = handler.handled ++ [(frame, handler.readFrame.1)] ∧
      WrittenFrom handler.tlsHandler handler.readFrame.2.tlsHandler := by
  have session := handleFrame_sameSession
    { handler with plaintextBuffer := handler.plaintextBuffer.skip http2FrameHeaderSize } frame
  have payload_eq := (splitFrame_spec complete).2.1
  simp only [readFrame, complete]
  refine ⟨?_, ?_, session.tlsHandler⟩
  · rw [Buffer.contents_skip, session.plaintextBuffer, Buffer.contents_skip, payload_eq,
      List.drop_left]
  · rw [session.handled]

/-- The loop of `on_read` takes all complete frames off the buffer. -/
theorem readFrames_spec {fuel : ℕ} {handler : Http2Handler Tls}
    (enough : handler.plaintextBuffer.contents.length < fuel)
    (allOk : ∀ entry ∈ (readFrames fuel handler).2.handled, entry.2 = .ok) :
    (readFrames fuel handler).2.handled.map Prod.fst =
        handler.handled.map Prod.fst ++ (framing.parse handler.plaintextBuffer.contents).1 ∧
      (readFrames fuel handler).2.plaintextBuffer.contents =
        (framing.parse handler.plaintextBuffer.contents).2 ∧
      WrittenFrom handler.tlsHandler (readFrames fuel handler).2.tlsHandler := by
  induction fuel generalizing handler with
  | zero => omega
  | succ fuel ih =>
      cases found : splitFrame handler.plaintextBuffer.contents with
      | none =>
          simp only [readFrames, readFrame_of_incomplete found, if_true,
            framing.parse_of_split_none found, List.append_nil]
          exact ⟨trivial, trivial, .refl⟩
      | some result =>
          rcases result with ⟨frame, rest⟩
          rcases readFrame_of_complete found with ⟨contents_eq, handled_eq, written⟩
          have rest_lt := framing.length_lt_of_split found
          simp only [readFrames] at allOk ⊢
          generalize handler.readFrame = step at *
          -- the loop stops early only when this frame was not handled with `ok`
          split_ifs at allOk ⊢ with stopped failed
          · have handledOk : step.1 = .ok := allOk (frame, step.1) (by simp [handled_eq])
            rw [stopped] at handledOk
            cases handledOk
          · have handledOk : step.1 = .ok := allOk (frame, step.1) (by simp [handled_eq])
            exact absurd handledOk ((ProtocolStatus.failed_iff _).mp failed)
          · have restEnough : step.2.plaintextBuffer.contents.length < fuel := by
              rw [contents_eq]
              omega
            rcases ih restEnough allOk with ⟨handled, contents, later⟩
            rw [framing.parse_of_split_some found, handled, contents, contents_eq, handled_eq]
            refine ⟨?_, rfl, written.trans later⟩
            simp

theorem handled_isPrefix_readFrames (fuel : ℕ) (handler : Http2Handler Tls) :
    handler.handled <+: (readFrames fuel handler).2.handled := by
  induction fuel generalizing handler with
  | zero => exact List.prefix_rfl
  | succ fuel ih =>
      have step : handler.handled <+: handler.readFrame.2.handled := by
        cases found : splitFrame handler.plaintextBuffer.contents with
        | none => rw [readFrame_of_incomplete found]
        | some result =>
            rw [(readFrame_of_complete found).2.1]
            exact List.prefix_append _ _
      simp only [readFrames]
      split_ifs
      · exact step
      · exact step
      · exact step.trans (ih _)

theorem handled_isPrefix_onRead (handler : Http2Handler Tls) :
    handler.handled <+: handler.onRead.2.handled := by
  simp only [onRead]
  generalize (if (TlsLayer.read handler.tlsHandler tempBufferSize).2.1.isEmpty then
    handler.plaintextBuffer else _) = buffer
  split_ifs
  · exact List.prefix_rfl
  · exact List.prefix_rfl
  · exact handled_isPrefix_readFrames _
      { handler with
        tlsHandler := (TlsLayer.read handler.tlsHandler tempBufferSize).2.2
        plaintextBuffer := buffer }

end Frames

/-! ## Delivering a stream in pieces -/

/-- Bytes arrive at the TLS layer and `on_read` is called. -/
def deliver [WideShift] (handler : Http2Handler PlainTls) (piece : Bytes) :
    Http2Handler PlainTls :=
  ({ handler with tlsHandler := handler.tlsHandler.arrive piece }).onRead.2

/-- The bytes that `write_frame` emits for a list of frames. -/
def wireBytes (frames : List Http2Frame) : Bytes :=
  let writer : Http2Handler PlainTls := frames.foldl
    (fun handler frame =>
      (handler.writeFrame frame.type frame.streamId frame.flags frame.payload).2) (construct {})
  writer.tlsHandler.written.flatten

theorem wireBytes_eq (frames : List Http2Frame) : wireBytes frames = frames.flatMap bytes := by
  have written : ∀ handler : Http2Handler PlainTls,
      frames.foldl (fun handler frame =>
        (handler.writeFrame frame.type frame.streamId frame.flags frame.payload).2) handler =
      handler.emit frames := by
    induction frames with
    | nil => simp
    | cons frame frames ih =>
        intro handler
        rw [List.foldl_cons, writeFrame_plain, ih, emit_emit]
        rfl
  simp [wireBytes, written, emit, construct, flatten_flatMap_writes]

/-- The handler has taken in `received`: the complete frames of it have been handled and the
incomplete rest is in the buffer. -/
structure Received (handler : Http2Handler PlainTls) (received : Bytes) : Prop where
  drained : handler.tlsHandler.pending = []
  parsed : framing.parse received =
    (handler.handled.map Prod.fst, handler.plaintextBuffer.contents)

theorem received_connected : connected.Received [] := by
  constructor
  · rfl
  · rw [framing.parse_nil]
    rfl

section Delivery

variable [WideShift]

theorem deliver_nil {handler : Http2Handler PlainTls} (drained : handler.tlsHandler.pending = []) :
    handler.deliver [] = handler := by
  have arrived : handler.tlsHandler.arrive [] = handler.tlsHandler := by simp [PlainTls.arrive]
  have read : TlsLayer.read handler.tlsHandler tempBufferSize =
      (.eagain, [], handler.tlsHandler) := by simp [TlsLayer.read, drained]
  simp [deliver, arrived, onRead, read]

theorem deliver_eq_readFrames {handler : Http2Handler PlainTls} {piece : Bytes}
    (drained : handler.tlsHandler.pending = []) (nonempty : piece ≠ [])
    (fits : piece.length ≤ tempBufferSize) :
    handler.deliver piece =
      (readFrames ((handler.plaintextBuffer.write .always piece).2.readableBytes + 1)
        { handler with plaintextBuffer := (handler.plaintextBuffer.write .always piece).2 }).2 := by
  have read : TlsLayer.read (handler.tlsHandler.arrive piece) tempBufferSize =
      (.ok, piece, handler.tlsHandler) := by
    simp only [TlsLayer.read, PlainTls.arrive, drained, List.nil_append, List.isEmpty_iff,
      nonempty, if_false, List.take_of_length_le fits, List.drop_eq_nil_of_le fits]
    rw [← drained]
  have not_failed : ProtocolStatus.ok.failed = false := by decide
  simp [deliver, onRead, read, nonempty, not_failed]

theorem received_deliver {handler : Http2Handler PlainTls} {received piece : Bytes}
    (before : handler.Received received) (fits : piece.length ≤ tempBufferSize)
    (allOk : ∀ entry ∈ (handler.deliver piece).handled, entry.2 = .ok) :
    (handler.deliver piece).Received (received ++ piece) := by
  by_cases empty : piece = []
  · subst piece
    rw [deliver_nil before.drained, List.append_nil]
    exact before
  · have incomplete := framing.split_parse_rest received
    rw [before.parsed] at incomplete
    have short := length_lt_of_splitFrame_none incomplete
    have room : handler.plaintextBuffer.readableBytes + piece.length ≤ Buffer.maxCapacity := by
      simp only [Buffer.length_contents, http2FrameHeaderSize, tempBufferSize,
        Buffer.maxCapacity] at short fits ⊢
      omega
    have contents_eq := (handler.plaintextBuffer.write_of_fits room).2
    rw [deliver_eq_readFrames before.drained empty fits] at allOk ⊢
    rcases readFrames_spec (by rw [Buffer.length_contents]; exact Nat.lt_succ_self _) allOk with
      ⟨handled, contents, written⟩
    constructor
    · rw [written.pending_eq]
      exact before.drained
    · rw [handled, contents, framing.parse_append, before.parsed, contents_eq]

theorem received_foldl_deliver {handler : Http2Handler PlainTls} {received : Bytes}
    (start : handler.Received received) (pieces : List Bytes)
    (fit : ∀ piece ∈ pieces, piece.length ≤ tempBufferSize)
    (allOk : ∀ entry ∈ (pieces.foldl deliver handler).handled, entry.2 = .ok) :
    (pieces.foldl deliver handler).Received (received ++ pieces.flatten) := by
  induction pieces using List.reverseRecOn with
  | nil => simpa using start
  | append_singleton pieces piece ih =>
      rw [List.foldl_concat] at allOk ⊢
      have extended : (pieces.foldl deliver handler).handled <+:
          ((pieces.foldl deliver handler).deliver piece).handled :=
        handled_isPrefix_onRead { pieces.foldl deliver handler with
          tlsHandler := (pieces.foldl deliver handler).tlsHandler.arrive piece }
      have earlier := ih
        (fun other other_mem => fit other (List.mem_append_left _ other_mem))
        (fun entry entry_mem => allOk entry (extended.subset entry_mem))
      rw [List.flatten_concat, ← List.append_assoc]
      exact received_deliver earlier (fit piece (by simp)) allOk

/-- However the bytes of a list of frames are cut into reads, the handler handles exactly these
frames in this order, as long as each is handled with `PROTOCOL_OK`. -/
theorem handled_frames_of_wireBytes (frames : List Http2Frame) (pieces : List Bytes)
    (cut : pieces.flatten = wireBytes frames)
    (fit : ∀ piece ∈ pieces, piece.length ≤ tempBufferSize)
    (allOk : ∀ entry ∈ (pieces.foldl deliver connected).handled, entry.2 = .ok) :
    (pieces.foldl deliver connected).handled.map Prod.fst = frames := by
  have received := (received_foldl_deliver received_connected pieces fit allOk).parsed
  rw [List.nil_append, cut, wireBytes_eq] at received
  have written := framing.parse_flatMap frames
  change framing.parse (frames.flatMap bytes) = (frames, []) at written
  rw [written, Prod.mk.injEq] at received
  exact received.1.symm

end Delivery

/-- A ping and a request on stream 1, cut inside the first header and inside the second one. -/
theorem handled_frames_three_reads :
    let ping : Http2Frame := ⟨.ping, 0, 0, [1, 2, 3, 4, 5, 6, 7, 8], by decide, by decide⟩
    let request : Http2Frame := ⟨.headers, 5, 1, [0x82], by decide, by decide⟩
    ([[0, 0, 8, 6], [0, 0, 0, 0, 0, 1, 2, 3, 4, 5, 6, 7, 8, 0, 0],
        [1, 1, 5, 0, 0, 0, 1, 0x82]].foldl deliver connected).handled.map Prod.fst =
      [ping, request] :=
  handled_frames_of_wireBytes _ _ (by decide +kernel) (by decide) (by decide +kernel)

end Http2Handler

end HttpsServerSim
