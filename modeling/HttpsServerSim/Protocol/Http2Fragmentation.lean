import HttpsServerSim.Protocol.Http2Handler

/-!
# Frames that are cut to size

`send_headers_frame` and `send_data_frame` cut what they send into frames of at most
`max_frame_size` bytes. Their loops differ in where the flag of the last frame is
decided, but do the same: full pieces first, then a last one that is not empty. What
they hand to `write_frame` is described as a list of frames, over any TLS layer whose
writes succeed; the layer is observed, so the list is all that was written.

A header block is never cut into an empty piece, and an empty one is still a frame. An
empty body is no frame at all, also when a frame is needed to end the stream.
-/

namespace HttpsServerSim

universe u

/-- Every write takes all of its bytes. -/
def WritesSucceed (Tls : Type u) [TlsLayer Tls] : Prop :=
  ∀ (tls : Tls) (bytes : Bytes),
    (TlsLayer.write tls bytes).1 = .ok ∧ (TlsLayer.write tls bytes).2.1 = bytes.length

/-- The arguments of a call of `write_frame`. -/
structure SentFrame where
  type : Http2FrameType
  streamId : ℕ
  flags : UInt8
  payload : Bytes
deriving DecidableEq

namespace SentFrame

/-- The one or two writes for a frame. -/
def writes (frame : SentFrame) : List Bytes :=
  Http2Frame.frameHeader frame.type frame.streamId frame.flags frame.payload.length ::
    if frame.payload.isEmpty then [] else [frame.payload]

def endsHeaders (frame : SentFrame) : Prop := frame.flags &&& http2FlagEndHeaders ≠ 0

def endsStream (frame : SentFrame) : Prop := frame.flags &&& http2FlagEndStream ≠ 0

instance (frame : SentFrame) : Decidable frame.endsHeaders := inferInstanceAs (Decidable (_ ≠ _))

instance (frame : SentFrame) : Decidable frame.endsStream := inferInstanceAs (Decidable (_ ≠ _))

/-- The call of `write_frame` for a frame. -/
def ofFrame (frame : Http2Frame) : SentFrame :=
  ⟨frame.type, frame.streamId, frame.flags, frame.payload⟩

theorem flatten_writes_ofFrame (frames : List Http2Frame) :
    ((frames.map ofFrame).flatMap writes).flatten = frames.flatMap Http2Frame.bytes := by
  induction frames with
  | nil => rfl
  | cons frame frames ih =>
      have first : (writes (ofFrame frame)).flatten = frame.bytes := by
        by_cases empty : frame.payload = []
        · simp [writes, ofFrame, Http2Frame.bytes, empty]
        · simp [writes, ofFrame, Http2Frame.bytes, empty]
      rw [List.map_cons, List.flatMap_cons, List.flatten_append, first, ih, List.flatMap_cons]

/-- Within the limits of the header's fields, whoever reads the writes gets the frames. -/
theorem parse_writes (frames : List SentFrame)
    (fit : ∀ frame ∈ frames, frame.payload.length < 2 ^ 24 ∧ frame.streamId < 2 ^ 31) :
    ∃ received, Http2Frame.framing.parse (frames.flatMap writes).flatten = (received, []) ∧
      received.map ofFrame = frames := by
  have written : ∃ received : List Http2Frame, received.map ofFrame = frames := by
    induction frames with
    | nil => exact ⟨[], rfl⟩
    | cons frame frames ih =>
        rcases List.forall_mem_cons.mp fit with ⟨first, others⟩
        rcases ih others with ⟨received, received_eq⟩
        refine ⟨⟨frame.type, frame.flags, frame.streamId, frame.payload, first.2, first.1⟩ ::
          received, ?_⟩
        rw [List.map_cons, received_eq]
        rfl
  rcases written with ⟨received, rfl⟩
  refine ⟨received, ?_, rfl⟩
  rw [flatten_writes_ofFrame]
  exact Http2Frame.framing.parse_flatMap received

end SentFrame

namespace Http2Handler

variable {Tls : Type u} [TlsLayer Tls]

/-- The handler after these frames were handed to the TLS layer. -/
def handOver (handler : Http2Handler (Observed Tls)) (frames : List SentFrame) :
    Http2Handler (Observed Tls) :=
  { handler with
    tlsHandler := (frames.flatMap SentFrame.writes).foldl Observed.hand handler.tlsHandler }

theorem sent_handOver (handler : Http2Handler (Observed Tls)) (frames : List SentFrame) :
    (handler.handOver frames).tlsHandler.sent =
      handler.tlsHandler.sent ++ frames.flatMap SentFrame.writes := by
  have sent (tls : Observed Tls) (chunks : List Bytes) :
      (chunks.foldl Observed.hand tls).sent = tls.sent ++ chunks := by
    induction chunks generalizing tls with
    | nil => simp
    | cons chunk chunks ih =>
        rw [List.foldl_cons, ih]
        simp [Observed.hand]
  exact sent handler.tlsHandler _

theorem handOver_handOver (handler : Http2Handler (Observed Tls)) (first second : List SentFrame) :
    (handler.handOver first).handOver second = handler.handOver (first ++ second) := by
  simp [handOver]

theorem writeFrame_handOver (succeed : WritesSucceed Tls) (handler : Http2Handler (Observed Tls))
    (frame : SentFrame) :
    handler.writeFrame frame.type frame.streamId frame.flags frame.payload =
      (.ok, handler.handOver [frame]) := by
  have write (tls : Observed Tls) (bytes : Bytes) :
      TlsLayer.write tls bytes = (.ok, bytes.length, tls.hand bytes) := by
    rcases succeed tls.inner bytes with ⟨ret, written⟩
    exact Prod.ext ret (Prod.ext written rfl)
  by_cases empty : frame.payload = []
  · simp [writeFrame, writeAll, write, handOver, SentFrame.writes, empty]
  · simp [writeFrame, writeAll, write, handOver, SentFrame.writes, empty]

/-- What is sent in pieces of at most `limit` bytes: full ones, and a last one that is not
empty. -/
structure CutInto (limit : ℕ) (rest : Bytes) (front : List Bytes) (last : Bytes) : Prop where
  flatten_eq : front.flatten ++ last = rest
  full : ∀ piece ∈ front, piece.length = limit
  nonempty : last ≠ []
  length_le : last.length ≤ limit

theorem CutInto.of_short {limit : ℕ} {rest : Bytes} (nonempty : rest ≠ [])
    (short : rest.length ≤ limit) : CutInto limit rest [] rest :=
  ⟨rfl, by simp, nonempty, short⟩

theorem CutInto.of_drop {limit : ℕ} {rest last : Bytes} {front : List Bytes}
    (long : limit < rest.length) (cut : CutInto limit (rest.drop limit) front last) :
    CutInto limit rest (rest.take limit :: front) last := by
  refine ⟨?_, ?_, cut.nonempty, cut.length_le⟩
  · rw [List.flatten_cons, List.append_assoc, cut.flatten_eq, List.take_append_drop]
  · intro piece member
    rcases List.mem_cons.mp member with rfl | member
    · rw [List.length_take]
      omega
    · exact cut.full piece member

theorem sendContinuations_cut (succeed : WritesSucceed Tls) (fuel : ℕ)
    (handler : Http2Handler (Observed Tls)) (streamId : ℕ) {rest : Bytes}
    (positive : 0 < handler.localSettings.maxFrameSize) (nonempty : rest ≠ [])
    (enough : rest.length ≤ fuel) :
    ∃ front last, CutInto handler.localSettings.maxFrameSize rest front last ∧
      sendContinuations fuel handler streamId rest =
        (.ok, handler.handOver (front.map (fun piece => ⟨.continuation, streamId, 0, piece⟩) ++
          [⟨.continuation, streamId, http2FlagEndHeaders, last⟩])) := by
  induction fuel generalizing handler rest with
  | zero => exact absurd (List.length_eq_zero_iff.mp (Nat.le_zero.mp enough)) nonempty
  | succ fuel ih =>
      simp only [sendContinuations]
      by_cases long : handler.localSettings.maxFrameSize < rest.length
      · have dropped : rest.drop handler.localSettings.maxFrameSize ≠ [] := by
          rw [ne_eq, List.drop_eq_nil_iff]
          omega
        have shorter : (rest.drop handler.localSettings.maxFrameSize).length ≤ fuel := by
          rw [List.length_drop]
          omega
        have sent := handler.writeFrame_handOver succeed
          ⟨.continuation, streamId, 0, rest.take handler.localSettings.maxFrameSize⟩
        rcases ih (handler.handOver _) positive dropped shorter with ⟨front, last, cut, result⟩
        refine ⟨_, last, cut.of_drop long, ?_⟩
        simp only [long, if_true, sent, ne_eq, not_true_eq_false, if_false]
        rw [result, handOver_handOver]
        rfl
      · refine ⟨[], rest, .of_short nonempty (Nat.not_lt.mp long), ?_⟩
        rw [if_neg long]
        exact handler.writeFrame_handOver succeed
          ⟨.continuation, streamId, http2FlagEndHeaders, rest⟩

theorem sendDataLoop_cut (succeed : WritesSucceed Tls) (fuel : ℕ)
    (handler : Http2Handler (Observed Tls)) (streamId : ℕ) (endStream : Bool) {rest : Bytes}
    (positive : 0 < handler.localSettings.maxFrameSize) (nonempty : rest ≠ [])
    (enough : rest.length ≤ fuel) :
    ∃ front last, CutInto handler.localSettings.maxFrameSize rest front last ∧
      sendDataLoop fuel handler streamId rest endStream =
        (.ok, handler.handOver (front.map (fun piece => ⟨.data, streamId, 0, piece⟩) ++
          [⟨.data, streamId, if endStream then http2FlagEndStream else 0, last⟩])) := by
  induction fuel generalizing handler rest with
  | zero => exact absurd (List.length_eq_zero_iff.mp (Nat.le_zero.mp enough)) nonempty
  | succ fuel ih =>
      have someLeft : rest.isEmpty = false := List.isEmpty_eq_false_iff.mpr nonempty
      simp only [sendDataLoop, someLeft, Bool.false_eq_true, if_false]
      by_cases long : handler.localSettings.maxFrameSize < rest.length
      · have chunk : min rest.length handler.localSettings.maxFrameSize =
            handler.localSettings.maxFrameSize := Nat.min_eq_right (Nat.le_of_lt long)
        have notLast : handler.localSettings.maxFrameSize ≠ rest.length := Nat.ne_of_lt long
        have dropped : rest.drop handler.localSettings.maxFrameSize ≠ [] := by
          rw [ne_eq, List.drop_eq_nil_iff]
          omega
        have shorter : (rest.drop handler.localSettings.maxFrameSize).length ≤ fuel := by
          rw [List.length_drop]
          omega
        have sent := handler.writeFrame_handOver succeed
          ⟨.data, streamId, 0, rest.take handler.localSettings.maxFrameSize⟩
        rcases ih (handler.handOver _) positive dropped shorter with ⟨front, last, cut, result⟩
        refine ⟨_, last, cut.of_drop long, ?_⟩
        simp only [chunk, notLast, false_and, if_false, sent, ne_eq, not_true_eq_false]
        rw [result, handOver_handOver]
        rfl
      · have chunk : min rest.length handler.localSettings.maxFrameSize = rest.length :=
          Nat.min_eq_left (Nat.not_lt.mp long)
        have sent := handler.writeFrame_handOver succeed
          ⟨.data, streamId, if endStream then http2FlagEndStream else 0, rest⟩
        have ended (after : Http2Handler (Observed Tls)) :
            sendDataLoop fuel after streamId [] endStream = (.ok, after) := by
          cases fuel <;> rfl
        refine ⟨[], rest, .of_short nonempty (Nat.not_lt.mp long), ?_⟩
        simp only [chunk, true_and, List.take_length, List.drop_length, sent, ne_eq,
          not_true_eq_false, if_false, ended]
        rfl

/-- One `HEADERS` frame and any number of `CONTINUATION` frames carry the block: their payloads
are the block in its order, none is too long and none of several is empty, only the last one ends
the headers, and the first one ends the stream if that was asked for. -/
structure CarriesBlock (limit streamId : ℕ) (block : Bytes) (endStream : Bool)
    (first : SentFrame) (others : List SentFrame) : Prop where
  headers : first.type = .headers
  continuations : ∀ frame ∈ others, frame.type = .continuation
  onStream : ∀ frame ∈ first :: others, frame.streamId = streamId
  length_le : ∀ frame ∈ first :: others, frame.payload.length ≤ limit
  flatten_eq : ((first :: others).map SentFrame.payload).flatten = block
  nonempty : others ≠ [] → ∀ frame ∈ first :: others, frame.payload ≠ []
  endsHeaders : ∃ before last, first :: others = before ++ [last] ∧ last.endsHeaders ∧
    ∀ frame ∈ before, ¬ frame.endsHeaders
  endsStream : first.endsStream ↔ endStream = true
  continues : ∀ frame ∈ others, ¬ frame.endsStream

theorem carriesBlock_single {limit streamId : ℕ} {block : Bytes} {endStream : Bool} {flags : UInt8}
    (short : block.length ≤ limit) (ends : flags &&& http2FlagEndHeaders ≠ 0)
    (closes : flags &&& http2FlagEndStream ≠ 0 ↔ endStream = true) :
    CarriesBlock limit streamId block endStream ⟨.headers, streamId, flags, block⟩ [] where
  headers := rfl
  continuations := by simp
  onStream := by simp
  length_le := by simpa using short
  flatten_eq := by simp
  nonempty := by simp
  endsHeaders := ⟨[], _, rfl, ends, by simp⟩
  endsStream := closes
  continues := by simp

theorem carriesBlock_cut {limit streamId : ℕ} {block last : Bytes} {front : List Bytes}
    {endStream : Bool} {flags : UInt8} (positive : 0 < limit) (long : limit < block.length)
    (cut : CutInto limit (block.drop limit) front last) (ends : flags &&& http2FlagEndHeaders = 0)
    (closes : flags &&& http2FlagEndStream ≠ 0 ↔ endStream = true) :
    CarriesBlock limit streamId block endStream ⟨.headers, streamId, flags, block.take limit⟩
      (front.map (fun piece => ⟨.continuation, streamId, 0, piece⟩) ++
        [⟨.continuation, streamId, http2FlagEndHeaders, last⟩]) := by
  have whole := cut.of_drop long
  have taken : (block.take limit).length = limit := by
    rw [List.length_take]
    omega
  have frames {P : SentFrame → Prop} (first : P ⟨.headers, streamId, flags, block.take limit⟩)
      (middle : ∀ piece ∈ front, P ⟨.continuation, streamId, 0, piece⟩)
      (final : P ⟨.continuation, streamId, http2FlagEndHeaders, last⟩) :
      ∀ frame ∈ (⟨.headers, streamId, flags, block.take limit⟩ : SentFrame) ::
        (front.map (fun piece => ⟨.continuation, streamId, 0, piece⟩) ++
          [⟨.continuation, streamId, http2FlagEndHeaders, last⟩]), P frame := by
    simp only [List.forall_mem_cons, List.forall_mem_append, List.forall_mem_map]
    exact ⟨first, middle, final, by simp⟩
  have later {P : SentFrame → Prop} (middle : ∀ piece, P ⟨.continuation, streamId, 0, piece⟩)
      (final : P ⟨.continuation, streamId, http2FlagEndHeaders, last⟩) :
      ∀ frame ∈ front.map (fun piece => (⟨.continuation, streamId, 0, piece⟩ : SentFrame)) ++
        [⟨.continuation, streamId, http2FlagEndHeaders, last⟩], P frame := by
    simp only [List.forall_mem_append, List.forall_mem_map, List.forall_mem_singleton]
    exact ⟨fun piece _ => middle piece, final⟩
  have nonempty_of_full (piece : Bytes) (full : piece.length = limit) : piece ≠ [] := by
    apply List.ne_nil_of_length_pos
    omega
  constructor
  · rfl
  · exact later (fun _ => rfl) rfl
  · exact frames rfl (fun _ _ => rfl) rfl
  · exact frames taken.le (fun piece member => (cut.full piece member).le) cut.length_le
  · simpa [Function.comp_def] using whole.flatten_eq
  · intro _
    exact frames (nonempty_of_full _ taken)
      (fun piece member => nonempty_of_full piece (cut.full piece member)) cut.nonempty
  · refine ⟨⟨.headers, streamId, flags, block.take limit⟩ ::
      front.map (fun piece => ⟨.continuation, streamId, 0, piece⟩), _, rfl, ?_, ?_⟩
    · simp only [SentFrame.endsHeaders]
      decide
    · simp [SentFrame.endsHeaders, ends]
  · exact closes
  · apply later
    · simp [SentFrame.endsStream]
    · simp only [SentFrame.endsStream]
      decide

/-- A header block is sent without loss, in frames of the right kinds and flags. -/
theorem sendHeadersFrame_lossless (succeed : WritesSucceed Tls)
    (handler : Http2Handler (Observed Tls)) (streamId : ℕ) (headers : HttpHeaders)
    (endStream : Bool) (positive : 0 < handler.localSettings.maxFrameSize) :
    ∃ first others,
      handler.sendHeadersFrame streamId headers endStream =
        (.ok, handler.handOver (first :: others)) ∧
      CarriesBlock handler.localSettings.maxFrameSize streamId (Hpack.encode headers) endStream
        first others := by
  simp only [sendHeadersFrame]
  generalize flags_eq : (if endStream = true then http2FlagEndHeaders ||| http2FlagEndStream
    else http2FlagEndHeaders) = flags
  have ends : flags &&& http2FlagEndHeaders ≠ 0 ∧
      flags &&& ~~~http2FlagEndHeaders &&& http2FlagEndHeaders = 0 := by
    rw [← flags_eq]
    cases endStream <;> decide
  have closes : (flags &&& http2FlagEndStream ≠ 0 ↔ endStream = true) ∧
      (flags &&& ~~~http2FlagEndHeaders &&& http2FlagEndStream ≠ 0 ↔ endStream = true) := by
    rw [← flags_eq]
    cases endStream <;> decide
  by_cases short : (Hpack.encode headers).length ≤ handler.localSettings.maxFrameSize
  · refine ⟨_, [], ?_, carriesBlock_single short ends.1 closes.1⟩
    rw [if_pos short]
    exact handler.writeFrame_handOver succeed ⟨.headers, streamId, flags, Hpack.encode headers⟩
  · have long := Nat.not_le.mp short
    have dropped : (Hpack.encode headers).drop handler.localSettings.maxFrameSize ≠ [] := by
      rw [ne_eq, List.drop_eq_nil_iff]
      omega
    have shorter : ((Hpack.encode headers).drop handler.localSettings.maxFrameSize).length ≤
        (Hpack.encode headers).length := by
      rw [List.length_drop]
      omega
    have sent := handler.writeFrame_handOver succeed ⟨.headers, streamId,
      flags &&& ~~~http2FlagEndHeaders,
      (Hpack.encode headers).take handler.localSettings.maxFrameSize⟩
    rcases sendContinuations_cut succeed _ (handler.handOver _) streamId positive dropped
      shorter with ⟨front, last, cut, result⟩
    refine ⟨_, _, ?_, carriesBlock_cut positive long cut ends.2 closes.2⟩
    simp only [short, if_false, sent, ne_eq, not_true_eq_false]
    rw [result, handOver_handOver]
    rfl

/-- The body is sent in `DATA` frames whose payloads are the body in its order, none too long,
and the last one ends the stream if that was asked for, as the only one. -/
def SendsBody (handler : Http2Handler (Observed Tls)) (streamId : ℕ) (bytes : Bytes)
    (endStream : Bool) : Prop :=
  ∃ frames,
    handler.sendDataFrame streamId bytes endStream = (.ok, handler.handOver frames) ∧
    (∀ frame ∈ frames, frame.type = .data ∧ frame.streamId = streamId ∧
      frame.payload.length ≤ handler.localSettings.maxFrameSize) ∧
    (frames.map SentFrame.payload).flatten = bytes ∧
    (endStream = true → ∃ before last, frames = before ++ [last] ∧ last.endsStream ∧
      ∀ frame ∈ before, ¬ frame.endsStream) ∧
    (endStream = false → ∀ frame ∈ frames, ¬ frame.endsStream)

/-- Nothing is written for an empty body. -/
theorem not_sendsBody_nil (handler : Http2Handler (Observed Tls)) (streamId : ℕ) :
    ¬ handler.SendsBody streamId [] true := by
  rintro ⟨frames, result, -, -, ends, -⟩
  rcases ends rfl with ⟨before, last, rfl, -⟩
  have nothing : handler = handler.handOver (before ++ [last]) := (Prod.ext_iff.mp result).2
  have sent := sent_handOver handler (before ++ [last])
  rw [← nothing] at sent
  simp [SentFrame.writes] at sent

/-- The body is sent as it should be unless it is empty and was to end the stream. -/
theorem sendsBody_iff (succeed : WritesSucceed Tls) (handler : Http2Handler (Observed Tls))
    (streamId : ℕ) (bytes : Bytes) (endStream : Bool)
    (positive : 0 < handler.localSettings.maxFrameSize) :
    handler.SendsBody streamId bytes endStream ↔ (endStream = true → bytes ≠ []) := by
  constructor
  · rintro sends rfl rfl
    exact handler.not_sendsBody_nil streamId sends
  · intro needed
    by_cases empty : bytes = []
    · subst empty
      have notAsked : endStream = false := by
        cases endStream with
        | true => exact absurd rfl (needed rfl)
        | false => rfl
      subst notAsked
      exact ⟨[], rfl, by simp, rfl, by simp, by simp⟩
    · rcases sendDataLoop_cut succeed bytes.length handler streamId endStream positive empty le_rfl
        with ⟨front, last, cut, result⟩
      refine ⟨_, result, ?_, ?_, ?_, ?_⟩
      · simp only [List.forall_mem_append, List.forall_mem_map, List.forall_mem_singleton]
        refine ⟨?_, trivial, trivial, cut.length_le⟩
        intro piece member
        exact ⟨trivial, trivial, (cut.full piece member).le⟩
      · simpa [Function.comp_def] using cut.flatten_eq
      · rintro rfl
        refine ⟨_, _, rfl, ?_, ?_⟩
        · simp only [SentFrame.endsStream, if_true]
          decide
        · simp [SentFrame.endsStream]
      · rintro rfl frame member
        rcases List.mem_append.mp member with member | member
        · rcases List.mem_map.mp member with ⟨piece, _, rfl⟩
          simp [SentFrame.endsStream]
        · rw [List.mem_singleton.mp member]
          simp [SentFrame.endsStream]

/-! ## On a connection -/

theorem writesSucceed_plain : WritesSucceed PlainTls := by
  intro tls bytes
  exact ⟨rfl, rfl⟩

/-- A handler that cuts after three bytes. -/
def threeBytes : Http2Handler (Observed PlainTls) :=
  { construct { inner := {} } with localSettings := { Http2Settings.reset with maxFrameSize := 3 } }

theorem sendHeadersFrame_threeBytes :
    ∃ first others,
      threeBytes.sendHeadersFrame 1 responseHeaders true =
        (.ok, threeBytes.handOver (first :: others)) ∧
      CarriesBlock 3 1 (Hpack.encode responseHeaders) true first others :=
  sendHeadersFrame_lossless writesSucceed_plain threeBytes 1 responseHeaders true (by decide)

theorem sendsBody_threeBytes : threeBytes.SendsBody 1 (ascii "hello") true :=
  (sendsBody_iff writesSucceed_plain threeBytes 1 (ascii "hello") true (by decide)).mpr
    (fun _ => by decide)

/-- An empty body that is to end the stream is not sent at all. -/
theorem not_sendsBody_empty :
    ¬ ∀ (handler : Http2Handler (Observed PlainTls)) (streamId : ℕ) (bytes : Bytes)
        (endStream : Bool), 0 < handler.localSettings.maxFrameSize →
      handler.SendsBody streamId bytes endStream := by
  intro always
  exact threeBytes.not_sendsBody_nil 1 (always threeBytes 1 [] true (by decide))

end Http2Handler

end HttpsServerSim
