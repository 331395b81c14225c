import HttpsServerSim.Protocol.HpackCompose
import HttpsServerSim.Protocol.Http2Acks
import HttpsServerSim.Protocol.Http2Lifecycle
import HttpsServerSim.Protocol.Http2Reading

/-!
# What a read leaves behind

`on_read` is to handle every complete frame and to see to it that the replies are
written, or else to report an error. Two things stand in the way. `EAGAIN` tells the
loop that no complete frame is left, and it is also what `TlsHandler::write` answers
when it cannot write; a `SETTINGS` frame hands that answer on to the loop. And the
result of writing the reply to a `PING` frame is dropped.

The TLS layer here is scripted: it answers the writes one after the other in a given
way. A read is the run of `read_frame` steps in `visited`, and `drains_iff` tells from
the states before these steps whether it keeps its promise.
-/

namespace HttpsServerSim

open Http2Frame

/-! ## Replies -/

namespace Http2Frame

/-- A `SETTINGS` or `PING` frame that is to be acknowledged. -/
def needsReply (frame : Http2Frame) : Prop :=
  ¬ frame.hasAck ∧
    (frame.type = .settings ∨ (frame.type = .ping ∧ frame.payload.length = 8))

instance (frame : Http2Frame) : Decidable frame.needsReply := inferInstanceAs (Decidable (_ ∧ _))

/-- The acknowledgement it is to get. -/
def reply (frame : Http2Frame) : Http2Frame :=
  if frame.type = .settings then settingsAck else pingAck frame.payload

end Http2Frame

/-! ## A TLS layer that answers as it likes -/

/-- A plaintext byte stream whose writes are answered in turn as `answers` says, and with
`PROTOCOL_OK` after that. A write that is answered with `PROTOCOL_OK` is accepted in full. -/
structure ScriptedTls where
  pending : Bytes := []
  answers : List ProtocolStatus := []
  accepted : List Bytes := []
deriving DecidableEq, Repr

namespace ScriptedTls

instance : TlsLayer ScriptedTls where
  init tls := (.ok, tls)
  read tls len :=
    if tls.pending.isEmpty then (.eagain, [], tls)
    else (.ok, tls.pending.take len, { tls with pending := tls.pending.drop len })
  write tls bytes :=
    match tls.answers with
    | [] => (.ok, bytes.length, { tls with accepted := tls.accepted ++ [bytes] })
    | .ok :: answers =>
        (.ok, bytes.length, { tls with answers := answers, accepted := tls.accepted ++ [bytes] })
    | answer :: answers => (answer, 0, { tls with answers := answers })
  close tls := tls

/-- The answer to the next write. -/
def nextAnswer (tls : ScriptedTls) : ProtocolStatus := tls.answers.head?.getD .ok

/-- The layer after a write that it takes. -/
def take (tls : ScriptedTls) (bytes : Bytes) : ScriptedTls :=
  { tls with answers := tls.answers.tail, accepted := tls.accepted ++ [bytes] }

/-- The layer after a write that it does not take. -/
def refuse (tls : ScriptedTls) : ScriptedTls := { tls with answers := tls.answers.tail }

theorem nextAnswer_two_iff (tls : ScriptedTls) (bytes : Bytes) :
    (∀ answer ∈ tls.answers.take 2, answer = .ok) ↔
      tls.nextAnswer = .ok ∧ (tls.take bytes).nextAnswer = .ok := by
  rcases tls with ⟨pending, _ | ⟨first, _ | ⟨second, answers⟩⟩, accepted⟩ <;>
    simp [nextAnswer, take]

theorem write_of_ok {tls : ScriptedTls} (ok : tls.nextAnswer = .ok) (bytes : Bytes) :
    TlsLayer.write tls bytes = (.ok, bytes.length, tls.take bytes) := by
  rcases tls with ⟨pending, answers, accepted⟩
  cases answers with
  | nil => rfl
  | cons answer answers =>
      have answer_eq : answer = .ok := ok
      subst answer_eq
      rfl

theorem write_of_not_ok {tls : ScriptedTls} (refused : tls.nextAnswer ≠ .ok) (bytes : Bytes) :
    TlsLayer.write tls bytes = (tls.nextAnswer, 0, tls.refuse) := by
  rcases tls with ⟨pending, answers, accepted⟩
  cases answers with
  | nil => exact absurd rfl refused
  | cons answer answers =>
      cases answer with
      | ok => exact absurd rfl refused
      | _ => rfl

end ScriptedTls

namespace Http2Handler

universe u

/-- A `SETTINGS` frame that the handler tries to acknowledge. -/
def TriesAck {Tls : Type u} (handler : Http2Handler Tls) (frame : Http2Frame) : Prop :=
  frame.type = .settings ∧ frame.payload ≠ [] ∧ handler.settingsAckSent = false

instance {Tls : Type u} (handler : Http2Handler Tls) (frame : Http2Frame) :
    Decidable (handler.TriesAck frame) :=
  inferInstanceAs (Decidable (_ ∧ _))

section Statuses

variable {Tls : Type u} [TlsLayer Tls] [WideShift]

/-- The frames other than `SETTINGS` that `handle_frame` refuses. -/
def Rejects (handler : Http2Handler Tls) (frame : Http2Frame) : Prop :=
  (frame.type = .headers ∧
      (decodeBlock frame.payload = none ∨
        frame.endsHeaders ∧ frame.endsStream ∧ handler.connSet = false)) ∨
    (frame.type = .data ∧
      (handler.streams[frame.streamId]? = none ∨ frame.endsStream ∧ handler.connSet = false)) ∨
    (frame.type = .continuation ∧
      (handler.streams[frame.streamId]? = none ∨ decodeBlock frame.payload = none ∨
        frame.endsHeaders ∧ handler.connSet = false ∧
          handler.streams[frame.streamId]?.map Http2Stream.state = some .halfClosedRemote)) ∨
    (frame.type = .windowUpdate ∧ 4 ≤ frame.payload.length ∧
      BigEndian.decode (frame.payload.take 4) % 2 ^ 31 = 0)

omit [WideShift] in
/-- The settings are applied and acknowledged. -/
theorem TriesAck.handleSettingsFrame {handler : Http2Handler Tls} {frame : Http2Frame}
    (tries : handler.TriesAck frame) :
    handler.handleSettingsFrame frame.payload =
      { handler with
        settings := applySettings handler.settings frame.payload
        settingsAckSent := true }.writeFrame .settings 0 http2FlagAck [] := by
  simp only [Http2Handler.handleSettingsFrame, List.isEmpty_iff, tries.2.1, if_false,
    sendSettingsAck, tries.2.2, Bool.false_eq_true]

omit [WideShift] in
/-- Settings that the handler does not acknowledge are an acknowledgement, or not the first ones. -/
theorem handleSettingsFrame_of_not_triesAck {handler : Http2Handler Tls} {frame : Http2Frame}
    (settings : frame.type = .settings) (tries : ¬ handler.TriesAck frame) :
    (handler.handleSettingsFrame frame.payload).1 = .ok ∧
      (handler.handleSettingsFrame frame.payload).2.tlsHandler = handler.tlsHandler := by
  unfold handleSettingsFrame
  split_ifs with empty
  · exact ⟨rfl, rfl⟩
  · have sent : handler.settingsAckSent = true := by
      by_contra unsent
      exact tries ⟨settings, by simpa using empty, by simpa using unsent⟩
    simp [sendSettingsAck, sent]

omit [WideShift] in
theorem handleCompleteRequest_status (handler : Http2Handler Tls) (stream : Http2Stream) :
    (handler.handleCompleteRequest stream).1 = if handler.connSet then .ok else .invalid := by
  simp only [handleCompleteRequest]
  split_ifs <;> rfl

omit [TlsLayer Tls] in
theorem mergeFragment_status (handler : Http2Handler Tls) (streamId : ℕ) (stream : Http2Stream)
    (payload : Bytes) :
    (decodeBlock payload = none ∧
        (handler.mergeFragment streamId stream payload).1 = .invalid) ∨
      (decodeBlock payload ≠ none ∧ (handler.mergeFragment streamId stream payload).1 = .ok ∧
        (handler.mergeFragment streamId stream payload).2.1.state = stream.state ∧
        (handler.mergeFragment streamId stream payload).2.2.connSet = handler.connSet) := by
  rcases handler.hpackDecoder.decode_eq_decodeBlock payload with
    ⟨fields, decodes, ok, _⟩ | ⟨decodes, failed⟩
  · right
    refine ⟨by simp [decodes], ?_⟩
    simp [mergeFragment, ok]
  · left
    have invalid : (handler.hpackDecoder.decode payload).1 = .invalid :=
      (HpackDecoder.decodeLoop_status _ _ _ _).resolve_left failed
    refine ⟨decodes, ?_⟩
    simp [mergeFragment, invalid]

theorem handleHeadersFrame_status (handler : Http2Handler Tls) (streamId : ℕ) (payload : Bytes)
    (flags : UInt8) :
    (handler.handleHeadersFrame streamId payload flags).1 =
      if decodeBlock payload = none ∨ flags &&& http2FlagEndHeaders ≠ 0 ∧
          flags &&& http2FlagEndStream ≠ 0 ∧ handler.connSet = false then .invalid
      else .ok := by
  simp only [handleHeadersFrame]
  generalize (if (getOrCreateStream handler.streams streamId).state = .idle then
    { getOrCreateStream handler.streams streamId with state := Http2StreamState.open }
    else getOrCreateStream handler.streams streamId) = stream
  rcases mergeFragment_status { handler with streams := handler.streams.insert streamId stream }
    streamId stream payload with ⟨lost, status⟩ | ⟨found, status, _, connSet_eq⟩
  · simp [lost, status]
  · simp only [status, found, ne_eq, not_true_eq_false, if_false, false_or]
    by_cases endHeaders : flags &&& http2FlagEndHeaders = 0
    · simp [endHeaders]
    · by_cases endStream : flags &&& http2FlagEndStream = 0
      · simp [endHeaders, endStream]
      · simp only [endHeaders, endStream, not_false_eq_true, if_true, if_false, true_and,
          handleCompleteRequest_status, connSet_eq]
        cases handler.connSet <;> rfl

omit [WideShift] in
theorem handleDataFrame_status (handler : Http2Handler Tls) (streamId : ℕ) (payload : Bytes)
    (flags : UInt8) :
    (handler.handleDataFrame streamId payload flags).1 =
      if handler.streams[streamId]? = none ∨
          flags &&& http2FlagEndStream ≠ 0 ∧ handler.connSet = false then .invalid
      else .ok := by
  simp only [handleDataFrame]
  cases handler.streams[streamId]? with
  | none => simp
  | some stream =>
      simp only [reduceCtorEq, false_or]
      by_cases endStream : flags &&& http2FlagEndStream = 0
      · simp [endStream]
      · simp only [endStream, ne_eq, not_false_eq_true, if_true, true_and,
          handleCompleteRequest_status]
        cases handler.connSet <;> rfl

theorem handleContinuationFrame_status (handler : Http2Handler Tls) (streamId : ℕ)
    (payload : Bytes) (flags : UInt8) :
    (handler.handleContinuationFrame streamId payload flags).1 =
      if handler.streams[streamId]? = none ∨ decodeBlock payload = none ∨
          flags &&& http2FlagEndHeaders ≠ 0 ∧ handler.connSet = false ∧
            handler.streams[streamId]?.map Http2Stream.state = some .halfClosedRemote then .invalid
      else .ok := by
  simp only [handleContinuationFrame]
  cases handler.streams[streamId]? with
  | none => simp
  | some stream =>
      rcases mergeFragment_status handler streamId stream payload with
        ⟨lost, status⟩ | ⟨found, status, state_eq, connSet_eq⟩
      · simp [lost, status]
      · simp only [status, found, ne_eq, not_true_eq_false, if_false, false_or, reduceCtorEq,
          state_eq, Option.map_some, Option.some.injEq]
        by_cases complete : flags &&& http2FlagEndHeaders ≠ 0 ∧ stream.state = .halfClosedRemote
        · simp only [complete, not_false_eq_true, and_self, if_true, and_true, true_and,
            handleCompleteRequest_status, connSet_eq]
          cases handler.connSet <;> rfl
        · rw [if_neg complete, if_neg]
          exact fun all => complete ⟨all.1, all.2.2⟩

omit [TlsLayer Tls] [WideShift] in
theorem handleWindowUpdateFrame_status (handler : Http2Handler Tls) {streamId increment : ℕ}
    (increment_lt : increment < 2 ^ 31) :
    (handler.handleWindowUpdateFrame streamId increment).1 =
      if increment = 0 then .invalid else .ok := by
  have inRange : ¬ 0x7FFFFFFF < increment := by omega
  simp only [handleWindowUpdateFrame, inRange, or_false]
  split_ifs <;> rfl

omit [TlsLayer Tls] in
theorem rejects_cases {handler : Http2Handler Tls} {frame : Http2Frame} {invalid : Prop}
    [Decidable invalid] {status : ProtocolStatus} (rejects_iff : handler.Rejects frame ↔ invalid)
    (status_eq : status = if invalid then .invalid else .ok) :
    (handler.Rejects frame ∧ status = .invalid) ∨ (¬ handler.Rejects frame ∧ status = .ok) := by
  rw [rejects_iff, status_eq]
  split_ifs with isInvalid
  · exact Or.inl ⟨isInvalid, rfl⟩
  · exact Or.inr ⟨isInvalid, rfl⟩

/-- A frame of any type but `SETTINGS` is handled or refused as invalid. -/
theorem handleFrame_status (handler : Http2Handler Tls) {frame : Http2Frame}
    (other : frame.type ≠ .settings) :
    (handler.Rejects frame ∧ (handler.handleFrame frame).1 = .invalid) ∨
      (¬ handler.Rejects frame ∧ (handler.handleFrame frame).1 = .ok) := by
  by_cases headers : frame.type = .headers
  · simp +decide only [handleFrame, headers, if_true, if_false]
    exact rejects_cases (by simp +decide [Rejects, headers, endsHeaders, endsStream])
      (handler.handleHeadersFrame_status _ _ _)
  by_cases data : frame.type = .data
  · simp +decide only [handleFrame, data, if_true, if_false]
    exact rejects_cases (by simp +decide [Rejects, data, endsStream])
      (handler.handleDataFrame_status _ _ _)
  by_cases continuation : frame.type = .continuation
  · simp +decide only [handleFrame, continuation, if_true, if_false]
    exact rejects_cases (by simp +decide [Rejects, continuation, endsHeaders])
      (handler.handleContinuationFrame_status _ _ _)
  by_cases windowUpdate : frame.type = .windowUpdate ∧ 4 ≤ frame.payload.length
  · simp +decide only [handleFrame, windowUpdate, and_self, if_true, if_false]
    exact rejects_cases (by simp +decide [Rejects, windowUpdate])
      (handler.handleWindowUpdateFrame_status (Nat.mod_lt _ (by decide)))
  · right
    refine ⟨?_, ?_⟩
    · simp only [Rejects, headers, data, continuation, false_and, false_or]
      exact fun update => windowUpdate ⟨update.1, update.2.1⟩
    · simp only [handleFrame, other, headers, data, continuation, windowUpdate, if_false]
      split_ifs
      · rfl
      · unfold handlePingFrame
        split_ifs <;> rfl
      · rfl

end Statuses

/-! ## The calls of a read -/

section Calls

variable {Tls : Type u}

/-- The handler as it is when `read_frame` calls `handle_frame`. -/
def pastHeader (handler : Http2Handler Tls) : Http2Handler Tls :=
  { handler with plaintextBuffer := handler.plaintextBuffer.skip http2FrameHeaderSize }

variable [TlsLayer Tls] [WideShift]

/-- The calls of `handle_frame` in the loop of `on_read`: the handler and the frame. -/
def visited : ℕ → Http2Handler Tls → List (Http2Handler Tls × Http2Frame)
  | 0, _ => []
  | fuel + 1, handler =>
      match splitFrame handler.plaintextBuffer.contents with
      | none => []
      | some (frame, _) =>
          (handler.pastHeader, frame) ::
            if handler.readFrame.1 = .ok then visited fuel handler.readFrame.2 else []

/-- The handler at the start of the loop: what was read is in the buffer. -/
def loaded (handler : Http2Handler Tls) : Http2Handler Tls :=
  let (_, bytes, tls) := TlsLayer.read handler.tlsHandler tempBufferSize
  { handler with
    tlsHandler := tls
    plaintextBuffer :=
      if bytes.isEmpty then handler.plaintextBuffer
      else (handler.plaintextBuffer.write .always bytes).2 }

/-- The calls of `handle_frame` in a call of `on_read`. -/
def calls (handler : Http2Handler Tls) : List (Http2Handler Tls × Http2Frame) :=
  if (TlsLayer.read handler.tlsHandler tempBufferSize).1 = .ok then
    visited (handler.loaded.plaintextBuffer.readableBytes + 1) handler.loaded
  else []

theorem onRead_of_read_ok {handler : Http2Handler Tls}
    (ok : (TlsLayer.read handler.tlsHandler tempBufferSize).1 = .ok) :
    handler.onRead =
      readFrames (handler.loaded.plaintextBuffer.readableBytes + 1) handler.loaded := by
  have notFailed : ProtocolStatus.ok.failed = false := by decide
  simp only [onRead, ok, notFailed]
  rfl

theorem readFrame_status {handler : Http2Handler Tls} {frame : Http2Frame} {rest : Bytes}
    (complete : splitFrame handler.plaintextBuffer.contents = some (frame, rest)) :
    handler.readFrame.1 = (handler.pastHeader.handleFrame frame).1 := by
  simp only [readFrame, complete]
  rfl

end Calls

/-! ## One frame -/

section Scripted

variable {handler : Http2Handler ScriptedTls}

theorem writeAll_of_ok (ok : handler.tlsHandler.nextAnswer = .ok) (bytes : Bytes) :
    handler.writeAll bytes =
      (.ok, { handler with tlsHandler := handler.tlsHandler.take bytes }) := by
  simp [writeAll, ScriptedTls.write_of_ok ok]

theorem writeAll_of_not_ok (refused : handler.tlsHandler.nextAnswer ≠ .ok) (bytes : Bytes) :
    handler.writeAll bytes = (handler.tlsHandler.nextAnswer,
      { handler with tlsHandler := handler.tlsHandler.refuse }) := by
  simp [writeAll, ScriptedTls.write_of_not_ok refused, refused]

variable (handler) in
/-- A frame without payload is one write, and what the write answers is the result. -/
theorem writeFrame_empty (type : Http2FrameType) (streamId : ℕ) (flags : UInt8) :
    (handler.writeFrame type streamId flags []).1 = handler.tlsHandler.nextAnswer ∧
      (handler.writeFrame type streamId flags []).2.tlsHandler.accepted =
        handler.tlsHandler.accepted ++
          if handler.tlsHandler.nextAnswer = .ok then [frameHeader type streamId flags 0]
          else [] := by
  by_cases ok : handler.tlsHandler.nextAnswer = .ok
  · simp [writeFrame, writeAll_of_ok ok, ok, ScriptedTls.take]
  · simp [writeFrame, writeAll_of_not_ok ok, ok, ScriptedTls.refuse]

variable (handler) in
/-- A frame with payload is written in full if its two writes are taken, and only then. -/
theorem writeFrame_accepted_iff (type : Http2FrameType) (streamId : ℕ) (flags : UInt8)
    {payload : Bytes} (nonempty : payload ≠ []) :
    (handler.writeFrame type streamId flags payload).2.tlsHandler.accepted =
        handler.tlsHandler.accepted ++
          [frameHeader type streamId flags payload.length, payload] ↔
      ∀ answer ∈ handler.tlsHandler.answers.take 2, answer = .ok := by
  rw [handler.tlsHandler.nextAnswer_two_iff (frameHeader type streamId flags payload.length)]
  by_cases first : handler.tlsHandler.nextAnswer = .ok
  · simp only [writeFrame, writeAll_of_ok first, first, ne_eq, not_true_eq_false, if_false,
      List.isEmpty_iff, nonempty, true_and]
    by_cases second : (handler.tlsHandler.take
        (frameHeader type streamId flags payload.length)).nextAnswer = .ok
    · refine iff_of_true ?_ second
      rw [writeAll_of_ok second]
      simp [ScriptedTls.take]
    · refine iff_of_false ?_ second
      rw [writeAll_of_not_ok second]
      simp [ScriptedTls.take, ScriptedTls.refuse]
  · simp only [writeFrame, writeAll_of_not_ok first, first, ne_eq, not_false_eq_true, if_true,
      false_and]
    simp [ScriptedTls.refuse]

/-- The frames whose handling ends in an error that `on_read` reports. -/
def Refuses [WideShift] (handler : Http2Handler ScriptedTls) (frame : Http2Frame) : Prop :=
  handler.Rejects frame ∨
    (handler.TriesAck frame ∧ handler.tlsHandler.nextAnswer ≠ .ok ∧
      handler.tlsHandler.nextAnswer ≠ .eagain)

/-- The frames whose handling ends in `EAGAIN`. -/
def Stalls (handler : Http2Handler ScriptedTls) (frame : Http2Frame) : Prop :=
  handler.TriesAck frame ∧ handler.tlsHandler.nextAnswer = .eagain

instance (frame : Http2Frame) : Decidable (handler.Stalls frame) :=
  inferInstanceAs (Decidable (_ ∧ _))

/-- The frames whose reply gets written: the handler sends one, and the layer takes it. -/
def TakesReply (handler : Http2Handler ScriptedTls) (frame : Http2Frame) : Prop :=
  (frame.type = .settings → handler.TriesAck frame ∧ handler.tlsHandler.nextAnswer = .ok) ∧
    (frame.type = .ping → ∀ answer ∈ handler.tlsHandler.answers.take 2, answer = .ok)

instance (frame : Http2Frame) : Decidable (handler.TakesReply frame) :=
  inferInstanceAs (Decidable (_ ∧ _))

variable [WideShift]

theorem handleFrame_scripted_status (handler : Http2Handler ScriptedTls) (frame : Http2Frame) :
    (handler.Refuses frame ∧ (handler.handleFrame frame).1 ≠ .ok ∧
        (handler.handleFrame frame).1 ≠ .eagain) ∨
      (¬ handler.Refuses frame ∧ handler.Stalls frame ∧
        (handler.handleFrame frame).1 = .eagain) ∨
      (¬ handler.Refuses frame ∧ ¬ handler.Stalls frame ∧
        (handler.handleFrame frame).1 = .ok) := by
  by_cases settings : frame.type = .settings
  · have notRejected : ¬ handler.Rejects frame := by
      simp +decide [Rejects, settings]
    have status := handler.handleFrame_settings settings
    by_cases tries : handler.TriesAck frame
    · have written : (handler.handleFrame frame).1 = handler.tlsHandler.nextAnswer := by
        rw [status, tries.handleSettingsFrame]
        exact (writeFrame_empty _ _ _ _).1
      rw [written]
      simp only [Refuses, notRejected, false_or, tries, true_and, Stalls]
      cases handler.tlsHandler.nextAnswer <;> simp
    · have quiet : (handler.handleFrame frame).1 = .ok := by
        rw [status]
        exact (handleSettingsFrame_of_not_triesAck settings tries).1
      right
      right
      exact ⟨fun refused => refused.elim notRejected fun ack => tries ack.1,
        fun stalls => tries stalls.1, quiet⟩
  · have noAck : ¬ handler.TriesAck frame := fun tries => settings tries.1
    rcases handler.handleFrame_status settings with ⟨rejects, status⟩ | ⟨accepts, status⟩
    · left
      rw [status]
      exact ⟨Or.inl rejects, by decide, by decide⟩
    · right
      right
      exact ⟨fun refused => refused.elim accepts fun ack => noAck ack.1,
        fun stalls => noAck stalls.1, status⟩

/-- The reply to the frame was written in full while the frame was handled. -/
def Replied (handler : Http2Handler ScriptedTls) (frame : Http2Frame) : Prop :=
  (handler.handleFrame frame).2.tlsHandler.accepted =
    handler.tlsHandler.accepted ++ frame.reply.writes

instance (frame : Http2Frame) : Decidable (handler.Replied frame) :=
  inferInstanceAs (Decidable (_ = _))

theorem replied_settings_iff (handler : Http2Handler ScriptedTls) {frame : Http2Frame}
    (settings : frame.type = .settings) :
    handler.Replied frame ↔ handler.TriesAck frame ∧ handler.tlsHandler.nextAnswer = .ok := by
  rw [Replied, handler.handleFrame_settings settings, reply, if_pos settings]
  by_cases tries : handler.TriesAck frame
  · have written := (writeFrame_empty
      { handler with
        settings := applySettings handler.settings frame.payload
        settingsAckSent := true } .settings 0 http2FlagAck).2
    rw [tries.handleSettingsFrame, written]
    simp only [tries, true_and, List.append_cancel_left_eq]
    split_ifs with ok
    · exact iff_of_true rfl ok
    · exact iff_of_false (by simp [writes]) ok
  · have quiet := (handleSettingsFrame_of_not_triesAck settings tries).2
    refine iff_of_false ?_ (fun both => tries both.1)
    rw [quiet]
    simp [writes]

theorem replied_ping_iff (handler : Http2Handler ScriptedTls) {frame : Http2Frame}
    (ping : frame.type = .ping) (length : frame.payload.length = 8) :
    handler.Replied frame ↔ ∀ answer ∈ handler.tlsHandler.answers.take 2, answer = .ok := by
  have nonempty : frame.payload.take 8 ≠ [] := by
    rw [← List.length_pos_iff, List.length_take, length]
    decide
  have reply_writes : frame.reply.writes =
      [frameHeader .ping 0 http2FlagAck (frame.payload.take 8).length, frame.payload.take 8] := by
    simp +decide [reply, ping, writes, pingAck, nonempty]
  rw [Replied, reply_writes, ← handler.writeFrame_accepted_iff .ping 0 http2FlagAck nonempty]
  simp +decide [handleFrame, ping, handlePingFrame, length]

theorem replied_iff (handler : Http2Handler ScriptedTls) {frame : Http2Frame}
    (needed : frame.needsReply) : handler.Replied frame ↔ handler.TakesReply frame := by
  rcases needed with ⟨_, settings | ⟨ping, length⟩⟩
  · have notPing : frame.type ≠ .ping := by
      rw [settings]
      decide
    rw [handler.replied_settings_iff settings, TakesReply]
    exact ⟨fun taken => ⟨fun _ => taken, fun ping => absurd ping notPing⟩,
      fun takes => takes.1 settings⟩
  · have notSettings : frame.type ≠ .settings := by
      rw [ping]
      decide
    rw [handler.replied_ping_iff ping length, TakesReply]
    exact ⟨fun taken => ⟨fun settings => absurd settings notSettings, fun _ => taken⟩,
      fun takes => takes.2 ping⟩

/-! ## One read -/

/-- What is in the buffer behind the frame of a call. -/
def behind (call : Http2Handler ScriptedTls × Http2Frame) : Bytes :=
  call.1.plaintextBuffer.contents.drop call.2.payload.length

omit [WideShift] in
theorem behind_pastHeader {frame : Http2Frame} {rest : Bytes}
    (complete : splitFrame handler.plaintextBuffer.contents = some (frame, rest)) :
    behind (handler.pastHeader, frame) = rest := by
  rw [behind, pastHeader, Buffer.contents_skip, (splitFrame_spec complete).2.1, List.drop_left]

/-- The loop reports an error exactly if a frame was refused. -/
theorem readFrames_ok_iff (fuel : ℕ) (handler : Http2Handler ScriptedTls) :
    (readFrames fuel handler).1 = .ok ↔
      ∀ call ∈ visited fuel handler, ¬ call.1.Refuses call.2 := by
  induction fuel generalizing handler with
  | zero => simp [readFrames, visited]
  | succ fuel ih =>
      cases found : splitFrame handler.plaintextBuffer.contents with
      | none => simp [readFrames, visited, found, readFrame_of_incomplete found]
      | some result =>
          rcases result with ⟨frame, rest⟩
          have status := readFrame_status found
          simp only [readFrames, visited, found]
          rcases handler.pastHeader.handleFrame_scripted_status frame with
            ⟨refuses, notOk, notEagain⟩ | ⟨accepts, stalls, eagain⟩ | ⟨accepts, _, ok⟩
          · rw [← status] at notOk notEagain
            simp [notOk, notEagain, refuses]
          · rw [eagain] at status
            simp [status, accepts]
          · rw [ok] at status
            simp [status, accepts, ih]

/-- A loop that reports no error leaves no complete frame behind exactly if none came after a frame
that it stalled on. -/
theorem readFrames_drained_iff {fuel : ℕ} {handler : Http2Handler ScriptedTls}
    (enough : handler.plaintextBuffer.contents.length < fuel)
    (accepted : ∀ call ∈ visited fuel handler, ¬ call.1.Refuses call.2) :
    splitFrame (readFrames fuel handler).2.plaintextBuffer.contents = none ↔
      ∀ call ∈ visited fuel handler, call.1.Stalls call.2 → splitFrame (behind call) = none := by
  induction fuel generalizing handler with
  | zero => omega
  | succ fuel ih =>
      cases found : splitFrame handler.plaintextBuffer.contents with
      | none => simp [readFrames, visited, found, readFrame_of_incomplete found]
      | some result =>
          rcases result with ⟨frame, rest⟩
          have status := readFrame_status found
          have contents_eq := (readFrame_of_complete found).1
          have rest_lt := framing.length_lt_of_split found
          simp only [readFrames, visited, found] at accepted ⊢
          rcases handler.pastHeader.handleFrame_scripted_status frame with
            ⟨refuses, _, _⟩ | ⟨_, stalls, eagain⟩ | ⟨_, proceeds, ok⟩
          · exact absurd refuses (accepted _ List.mem_cons_self)
          · rw [eagain] at status
            simp [status, stalls, contents_eq, behind_pastHeader found]
          · rw [ok] at status
            simp only [status, if_true] at accepted ⊢
            have restEnough : handler.readFrame.2.plaintextBuffer.contents.length < fuel := by
              rw [contents_eq]
              omega
            have later :=
              ih restEnough fun call member => accepted call (List.mem_cons_of_mem _ member)
            have notFailed : ProtocolStatus.ok.failed = false := by decide
            simp [notFailed, proceeds, later]

/-- A read that returns `PROTOCOL_OK` has left no complete frame behind and consumed no frame
whose reply was not written in full. -/
def Drains (handler : Http2Handler ScriptedTls) : Prop :=
  handler.onRead.1 = .ok →
    splitFrame handler.onRead.2.plaintextBuffer.contents = none ∧
      ∀ call ∈ handler.calls, call.2.needsReply → call.1.Replied call.2

omit [WideShift] in
theorem read_status (obtained : handler.tlsHandler.pending ≠ []) :
    (TlsLayer.read handler.tlsHandler tempBufferSize).1 = .ok := by
  simp [TlsLayer.read, obtained]

/-- A read that got data keeps its promise exactly if some frame is refused, or every frame that is
to be replied to is sent a reply that the layer takes, and no complete frame comes after one whose
acknowledgement met with `EAGAIN`. -/
theorem drains_iff (handler : Http2Handler ScriptedTls)
    (obtained : handler.tlsHandler.pending ≠ []) :
    handler.Drains ↔
      (∃ call ∈ handler.calls, call.1.Refuses call.2) ∨
        ∀ call ∈ handler.calls, (call.2.needsReply → call.1.TakesReply call.2) ∧
          (call.1.Stalls call.2 → splitFrame (behind call) = none) := by
  have calls_eq : handler.calls =
      visited (handler.loaded.plaintextBuffer.readableBytes + 1) handler.loaded :=
    if_pos (read_status obtained)
  rw [Drains, onRead_of_read_ok (read_status obtained), readFrames_ok_iff, ← calls_eq]
  by_cases refused : ∃ call ∈ handler.calls, call.1.Refuses call.2
  · refine iff_of_true ?_ (Or.inl refused)
    intro accepted
    rcases refused with ⟨call, member, refuses⟩
    exact absurd refuses (accepted call member)
  · have accepted : ∀ call ∈ handler.calls, ¬ call.1.Refuses call.2 := fun call member refuses =>
      refused ⟨call, member, refuses⟩
    have enough : handler.loaded.plaintextBuffer.contents.length <
        handler.loaded.plaintextBuffer.readableBytes + 1 := by
      rw [Buffer.length_contents]
      exact Nat.lt_succ_self _
    rw [readFrames_drained_iff enough (calls_eq ▸ accepted), ← calls_eq]
    constructor
    · intro drains
      right
      intro call member
      rcases drains accepted with ⟨clean, replied⟩
      refine ⟨?_, clean call member⟩
      intro needed
      exact (call.1.replied_iff needed).mp (replied call member needed)
    · rintro (refuses | good)
      · exact absurd refuses refused
      · intro _
        refine ⟨fun call member => (good call member).2, ?_⟩
        intro call member needed
        exact (call.1.replied_iff needed).mpr ((good call member).1 needed)

end Scripted

/-- A connected handler for which some bytes have arrived and the next writes are answered as
given. -/
def listening (pending : Bytes) (answers : List ProtocolStatus) : Http2Handler ScriptedTls :=
  { ((construct ({} : ScriptedTls)).init true).2 with
    tlsHandler := { pending := pending, answers := answers } }

/-- Settings and a ping in one read: if the acknowledgement of the settings meets with `EAGAIN`, the
ping stays in the buffer. And a ping alone: if the first write of its reply fails, the reply is
lost. Both reads return `PROTOCOL_OK`. -/
theorem drains_fails :
    let settings : Http2Frame := ⟨.settings, 0, 0, [0, 4, 0, 1, 0, 0], by decide, by decide⟩
    let ping : Http2Frame := ⟨.ping, 0, 0, [1, 2, 3, 4, 5, 6, 7, 8], by decide, by decide⟩
    ¬ (listening (settings.bytes ++ ping.bytes) [.eagain]).Drains ∧
      ¬ (listening ping.bytes [.tls]).Drains := by
  intro settings ping
  refine ⟨?_, ?_⟩
  · intro drains
    exact absurd (drains (by decide +kernel)).1 (by decide +kernel)
  · intro drains
    exact absurd (drains (by decide +kernel)).2 (by decide +kernel)

/-- The same ping on a layer that takes the reply. -/
theorem drains_ping :
    (listening [0, 0, 8, 6, 0, 0, 0, 0, 0, 1, 2, 3, 4, 5, 6, 7, 8] []).Drains := by
  refine (drains_iff _ (by decide)).mpr (Or.inr ?_)
  decide +kernel

end Http2Handler

end HttpsServerSim
