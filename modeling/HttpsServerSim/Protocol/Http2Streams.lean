import HttpsServerSim.Lib.Transducer
import HttpsServerSim.Protocol.HpackCompose
import HttpsServerSim.Protocol.Http2Plain
import HttpsServerSim.Protocol.Http2Session

/-!
# A connection is a family of independent streams

The abstract model of the handler: every stream is a small transducer of its own,
with the request headers, the body and the state as its state, and a connection is
these transducers side by side. A frame moves only the stream it is addressed to;
the application's `send_response` speaks on stream 1. What the handler says on
stream 0 by itself (acknowledgements) belongs to no stream.

`handleFrame_spec` connects the model to the code: on a plaintext TLS layer the
handler, in every state reachable after `init`, does to each stream what its
transducer does, and writes the frames the transducer says.
-/

namespace HttpsServerSim

open Http2Frame

/-- What drives an initialised handler: incoming frames and the application's responses. -/
inductive Http2Event where
  | frame (frame : Http2Frame)
  | sendResponse (bytes : Bytes)
deriving DecidableEq

/-- The part of a stream that can be seen from outside. -/
structure StreamView where
  headers : HttpHeaders
  body : Bytes
  state : Http2StreamState

def Http2Stream.view (stream : Http2Stream) : StreamView where
  headers := stream.request.headers
  body := stream.request.body
  state := stream.state

section Model

variable [WideShift]

/-- The fields of a header block, if it decodes. -/
def decodeBlock (block : Bytes) : Option HttpHeaders :=
  let decoded := HpackDecoder.decode {} block
  if decoded.1 = .ok then some decoded.2.1 else none

namespace StreamView

def idle : StreamView where
  headers := ∅
  body := []
  state := .idle

/-- The stream a `HEADERS` frame finds or creates, no longer idle. -/
def opened (view : Option StreamView) : StreamView :=
  let view := view.getD idle
  if view.state = .idle then { view with state := .open } else view

def merge (view : StreamView) (fields : HttpHeaders) : StreamView :=
  { view with headers := MapOverlay.overlay view.headers fields }

/-! What a frame does to the stream it is addressed to: the stream afterwards, and whether a
response is due. -/

def onHeaders (view : Option StreamView) (payload : Bytes) (flags : UInt8) :
    Option StreamView × Bool :=
  match decodeBlock payload with
  | none => (some (opened view), false)
  | some fields =>
      let merged := (opened view).merge fields
      if flags &&& http2FlagEndHeaders ≠ 0 ∧ flags &&& http2FlagEndStream ≠ 0 then
        (some { merged with state := .halfClosedRemote }, true)
      else (some merged, false)

def onData (view : Option StreamView) (payload : Bytes) (flags : UInt8) :
    Option StreamView × Bool :=
  match view with
  | none => (none, false)
  | some view =>
      let extended := { view with body := view.body ++ payload }
      if flags &&& http2FlagEndStream ≠ 0 then
        (some { extended with state := .halfClosedRemote }, true)
      else (some extended, false)

def onContinuation (view : Option StreamView) (payload : Bytes) (flags : UInt8) :
    Option StreamView × Bool :=
  match view, decodeBlock payload with
  | some view, some fields =>
      (some (view.merge fields),
        decide (flags &&& http2FlagEndHeaders ≠ 0 ∧ view.state = .halfClosedRemote))
  | view, _ => (view, false)

def onFrame (view : Option StreamView) (frame : Http2Frame) : Option StreamView × Bool :=
  if frame.type = .headers then onHeaders view frame.payload frame.flags
  else if frame.type = .data then onData view frame.payload frame.flags
  else if frame.type = .continuation then onContinuation view frame.payload frame.flags
  else if frame.type = .rstStream ∧ 4 ≤ frame.payload.length then
    (view.map fun view => { view with state := .closed }, false)
  else (view, false)

/-- The frames a stream writes when this is what a frame did to it. -/
def answer (streamId : ℕ) (id_lt : streamId < 2 ^ 31) (outcome : Option StreamView × Bool) :
    List Http2Frame :=
  if outcome.2 then replyFrames streamId id_lt ((outcome.1.map body).getD []) else []

/-- The transducer of one stream. -/
def transducer : Transducer (Option StreamView) Http2Event Http2Frame where
  step view event :=
    match event with
    | .frame frame =>
        ((onFrame view frame).1, answer frame.streamId frame.streamId_lt (onFrame view frame))
    | .sendResponse bytes => (view, bodyFrames 1 (by decide) bytes)

end StreamView

end Model

/-- The stream that an event is about. -/
def Http2Event.streamId : Http2Event → ℕ
  | .frame received => received.streamId
  | .sendResponse _ => 1

namespace HpackDecoder

variable [WideShift]

theorem decode_eq_decodeBlock (decoder : HpackDecoder) (block : Bytes) :
    (∃ fields, decodeBlock block = some fields ∧ (decoder.decode block).1 = .ok ∧
        (decoder.decode block).2.1 = fields) ∨
      (decodeBlock block = none ∧ (decoder.decode block).1 ≠ .ok) := by
  rcases decodeLoop_decoder_irrelevant block.length decoder {} ∅ block with
    ⟨status_eq, headers_eq⟩
  by_cases decodes : (HpackDecoder.decode {} block).1 = .ok
  · left
    refine ⟨(HpackDecoder.decode {} block).2.1, by simp [decodeBlock, decodes], ?_, ?_⟩
    · exact status_eq.trans decodes
    · exact headers_eq
  · right
    refine ⟨by simp [decodeBlock, decodes], ?_⟩
    intro status
    exact decodes (status_eq.symm.trans status)

end HpackDecoder

namespace Http2Handler

open StreamView

/-- The stream with the given id as seen from outside. -/
def viewAt (handler : Http2Handler PlainTls) (streamId : ℕ) : Option StreamView :=
  handler.streams[streamId]?.map Http2Stream.view

/-- The frames the handler has written. -/
def framesWritten (handler : Http2Handler PlainTls) : List Http2Frame :=
  (framing.parse handler.tlsHandler.written.flatten).1

/-- What holds of a connected handler after any events. -/
structure Valid (handler : Http2Handler PlainTls) : Prop where
  connSet : handler.connSet = true
  standard : handler.localSettings = .reset
  streamId_eq : ∀ {id : ℕ} {stream : Http2Stream}, handler.streams[id]? = some stream →
    stream.streamId = id

/-- The acknowledgement that a frame calls for, on stream 0. -/
def acknowledgement (handler : Http2Handler PlainTls) (frame : Http2Frame) : List Http2Frame :=
  if frame.type = .settings then
    if frame.payload.isEmpty ∨ handler.settingsAckSent then [] else [settingsAck]
  else if frame.type = .ping then
    if 8 ≤ frame.payload.length then [pingAck frame.payload] else []
  else []

/-- An event that turned `before` into `after` left the stream `streamId` as `view`, wrote `frames`
and concerned no other stream. -/
structure Effect (before after : Http2Handler PlainTls) (streamId : ℕ) (view : Option StreamView)
    (frames : List Http2Frame) : Prop where
  valid : after.Valid
  written : after.tlsHandler.written = before.tlsHandler.written ++ frames.flatMap writes
  viewAt_self : after.viewAt streamId = view
  viewAt_other : ∀ {id : ℕ}, id ≠ streamId → after.viewAt id = before.viewAt id

/-- The frames were written, and what the sending functions depend on stayed as it was. -/
structure Wrote (before after : Http2Handler PlainTls) (frames : List Http2Frame) : Prop where
  connSet : after.connSet = before.connSet
  localSettings : after.localSettings = before.localSettings
  written : after.tlsHandler.written = before.tlsHandler.written ++ frames.flatMap writes

section Effects

variable {handler after : Http2Handler PlainTls} {streamId : ℕ} {frames : List Http2Frame}

/-- An event that writes one entry of the stream table. -/
theorem Effect.of_entry (valid : handler.Valid) (wrote : Wrote handler after frames)
    {stream : Http2Stream} (id_eq : stream.streamId = streamId)
    (streams_eq : ∀ id : ℕ, after.streams[id]? =
      if streamId = id then some stream else handler.streams[id]?) :
    Effect handler after streamId (some stream.view) frames := by
  refine ⟨⟨?_, ?_, ?_⟩, wrote.written, ?_, ?_⟩
  · rw [wrote.connSet, valid.connSet]
  · rw [wrote.localSettings, valid.standard]
  · intro id entry found
    rw [streams_eq] at found
    split_ifs at found with here
    · cases found
      exact id_eq.trans here
    · exact valid.streamId_eq found
  · simp [viewAt, streams_eq]
  · intro id elsewhere
    simp [viewAt, streams_eq, Ne.symm elsewhere]

/-- An event that rewrites the entries of the stream table in place. -/
theorem Effect.of_rewrite (valid : handler.Valid) (wrote : Wrote handler after frames)
    (change : ℕ → Http2Stream → Http2Stream) (onView : StreamView → StreamView)
    (streams_eq : ∀ id : ℕ, after.streams[id]? = handler.streams[id]?.map (change id))
    (id_eq : ∀ id stream, (change id stream).streamId = stream.streamId)
    (self_eq : ∀ stream, (change streamId stream).view = onView stream.view)
    (elsewhere_eq : ∀ id stream, id ≠ streamId → (change id stream).view = stream.view) :
    Effect handler after streamId ((handler.viewAt streamId).map onView) frames := by
  refine ⟨⟨?_, ?_, ?_⟩, wrote.written, ?_, ?_⟩
  · rw [wrote.connSet, valid.connSet]
  · rw [wrote.localSettings, valid.standard]
  · intro id entry found
    rw [streams_eq, Option.map_eq_some_iff] at found
    rcases found with ⟨stream, found, rfl⟩
    exact (id_eq id stream).trans (valid.streamId_eq found)
  · simp [viewAt, streams_eq, Function.comp_def, self_eq]
  · intro id elsewhere
    simp [viewAt, streams_eq, Function.comp_def, elsewhere_eq id _ elsewhere]

/-- An event that leaves the stream table alone. -/
theorem Effect.of_unchanged (valid : handler.Valid) (wrote : Wrote handler after frames)
    (streams_eq : after.streams = handler.streams) :
    Effect handler after streamId (handler.viewAt streamId) frames := by
  have rewritten : Effect handler after streamId ((handler.viewAt streamId).map id) frames := by
    refine Effect.of_rewrite valid wrote (fun _ stream => stream) id
      ?_ ?_ ?_ ?_
    · intro id
      simp [streams_eq]
    all_goals simp
  simpa using rewritten

/-- An event that rewrites the entry of one stream, if it is there. -/
theorem Effect.of_modify (valid : handler.Valid) (change : Http2Stream → Http2Stream)
    (onView : StreamView → StreamView)
    (id_eq : ∀ stream, (change stream).streamId = stream.streamId)
    (self_eq : ∀ stream, (change stream).view = onView stream.view) :
    Effect handler { handler with streams := handler.streams.modify streamId change } streamId
      ((handler.viewAt streamId).map onView) [] := by
  have wrote : Wrote handler
      { handler with streams := handler.streams.modify streamId change } [] :=
    ⟨rfl, rfl, (List.append_nil _).symm⟩
  refine Effect.of_rewrite valid wrote
    (fun id stream => if streamId = id then change stream else stream) onView ?_ ?_ ?_ ?_
  · intro id
    simp only [Std.ExtTreeMap.getElem?_modify, compare_eq_iff_eq]
    split_ifs with here
    · rw [here]
    · simp
  · intro id stream
    split_ifs
    · exact id_eq stream
    · rfl
  · intro stream
    simp [self_eq]
  · intro id stream elsewhere
    simp [Ne.symm elsewhere]

/-- The entry of the stream was written, and nothing was sent. -/
structure Stored (before after : Http2Handler PlainTls) (streamId : ℕ) (stream : Http2Stream) :
    Prop where
  connSet : after.connSet = before.connSet
  localSettings : after.localSettings = before.localSettings
  tlsHandler : after.tlsHandler = before.tlsHandler
  streamId_eq : stream.streamId = streamId
  streams : ∀ id : ℕ, after.streams[id]? =
    if streamId = id then some stream else before.streams[id]?

variable (handler) in
theorem stored_insert (stream : Http2Stream) (id_eq : stream.streamId = streamId) :
    Stored handler { handler with streams := handler.streams.insert streamId stream } streamId
      stream := by
  refine ⟨rfl, rfl, rfl, id_eq, ?_⟩
  intro id
  simp [Std.ExtTreeMap.getElem?_insert]

theorem Stored.insert {stream : Http2Stream} (stored : Stored handler after streamId stream)
    (decoder : HpackDecoder) (next : Http2Stream) (id_eq : next.streamId = streamId) :
    Stored handler
      { after with streams := after.streams.insert streamId next, hpackDecoder := decoder }
      streamId next := by
  refine ⟨stored.connSet, stored.localSettings, stored.tlsHandler, id_eq, ?_⟩
  intro id
  simp only [Std.ExtTreeMap.getElem?_insert, compare_eq_iff_eq]
  split_ifs with here
  · rfl
  · rw [stored.streams, if_neg here]

theorem Stored.effect {stream : Http2Stream} (stored : Stored handler after streamId stream)
    (valid : handler.Valid) : Effect handler after streamId (some stream.view) [] := by
  have wrote : Wrote handler after [] := by
    refine ⟨stored.connSet, stored.localSettings, ?_⟩
    rw [stored.tlsHandler]
    exact (List.append_nil _).symm
  exact Effect.of_entry valid wrote stored.streamId_eq stored.streams

theorem Stored.complete_effect {stream : Http2Stream}
    (stored : Stored handler after streamId stream) (valid : handler.Valid)
    (id_lt : streamId < 2 ^ 31) :
    Effect handler (after.handleCompleteRequest stream).2 streamId (some stream.view)
      (replyFrames streamId id_lt stream.request.body) := by
  have id_eq := stored.streamId_eq
  subst id_eq
  rw [after.handleCompleteRequest_plain (stored.localSettings.trans valid.standard) stream id_lt,
    stored.connSet, valid.connSet, if_pos rfl]
  have wrote : Wrote handler (after.emit (replyFrames stream.streamId id_lt stream.request.body))
      (replyFrames stream.streamId id_lt stream.request.body) :=
    ⟨stored.connSet, stored.localSettings, by simp [emit, stored.tlsHandler]⟩
  exact Effect.of_entry valid wrote rfl stored.streams

theorem handleSettingsFrame_effect (valid : handler.Valid) (payload : Bytes) :
    Effect handler (handler.handleSettingsFrame payload).2 streamId (handler.viewAt streamId)
      (if payload.isEmpty ∨ handler.settingsAckSent then [] else [settingsAck]) := by
  by_cases empty : payload = []
  · simp only [handleSettingsFrame, empty, List.isEmpty_nil, if_true, true_or]
    exact Effect.of_unchanged valid ⟨rfl, rfl, (List.append_nil _).symm⟩ rfl
  · simp only [handleSettingsFrame, List.isEmpty_iff, empty, if_false, false_or,
      sendSettingsAck_plain]
    exact Effect.of_unchanged valid ⟨rfl, rfl, rfl⟩ rfl

theorem handlePingFrame_effect (valid : handler.Valid) (payload : Bytes) :
    Effect handler (handler.handlePingFrame payload).2 streamId (handler.viewAt streamId)
      (if 8 ≤ payload.length then [pingAck payload] else []) := by
  rw [handlePingFrame_plain]
  exact Effect.of_unchanged valid ⟨rfl, rfl, rfl⟩ rfl

theorem handleWindowUpdateFrame_effect (valid : handler.Valid) (increment : ℕ) :
    Effect handler (handler.handleWindowUpdateFrame streamId increment).2 streamId
      (handler.viewAt streamId) [] := by
  unfold handleWindowUpdateFrame
  split_ifs with outOfRange connection
  · exact Effect.of_unchanged valid ⟨rfl, rfl, (List.append_nil _).symm⟩ rfl
  · -- the whole connection: every window grows, which no view shows
    have wrote : Wrote handler
        { handler with streams := handler.streams.map fun _ => addToWindow increment } [] :=
      ⟨rfl, rfl, (List.append_nil _).symm⟩
    have rewritten := Effect.of_rewrite valid wrote (fun _ => addToWindow increment) id
      (fun id => Std.ExtTreeMap.getElem?_map) (fun id stream => rfl) (fun stream => rfl)
      (fun id stream (elsewhere : id ≠ streamId) => rfl)
    simpa using rewritten
  · have modified : Effect handler
        { handler with streams := handler.streams.modify streamId (addToWindow increment) } streamId
        ((handler.viewAt streamId).map id) [] := by
      apply Effect.of_modify valid
      · intro stream
        rfl
      · intro stream
        rfl
    simpa using modified

theorem handleRstStreamFrame_effect (valid : handler.Valid) :
    Effect handler (handler.handleRstStreamFrame streamId).2 streamId
      ((handler.viewAt streamId).map fun view => { view with state := .closed }) [] := by
  apply Effect.of_modify valid
  · intro stream
    rfl
  · intro stream
    rfl

theorem handleDataFrame_effect (valid : handler.Valid) (id_lt : streamId < 2 ^ 31)
    (payload : Bytes) (flags : UInt8) :
    Effect handler (handler.handleDataFrame streamId payload flags).2 streamId
      (onData (handler.viewAt streamId) payload flags).1
      (answer streamId id_lt (onData (handler.viewAt streamId) payload flags)) := by
  cases found : handler.streams[streamId]? with
  | none =>
      have view_eq : handler.viewAt streamId = none := by simp [viewAt, found]
      have unchanged : Effect handler handler streamId (handler.viewAt streamId) [] :=
        Effect.of_unchanged valid ⟨rfl, rfl, (List.append_nil _).symm⟩ rfl
      simpa [handleDataFrame, found, view_eq, onData, answer] using unchanged
  | some stream =>
      have view_eq : handler.viewAt streamId = some stream.view := by simp [viewAt, found]
      have id_eq := valid.streamId_eq found
      let extended : Http2Stream :=
        { stream with request := { stream.request with body := stream.request.body ++ payload } }
      simp only [handleDataFrame, found, view_eq, onData]
      split_ifs with ended
      · exact (handler.stored_insert { extended with state := .halfClosedRemote }
          id_eq).complete_effect valid id_lt
      · exact (handler.stored_insert extended id_eq).effect valid

section Headers

variable (handler) in
/-- The entry that `handle_headers_frame` finds or creates. -/
theorem opened_stream (valid : handler.Valid) (streamId : ℕ) :
    ∃ stream : Http2Stream,
      (if (getOrCreateStream handler.streams streamId).state = .idle then
          { getOrCreateStream handler.streams streamId with state := .open }
        else getOrCreateStream handler.streams streamId) = stream ∧
      stream.streamId = streamId ∧ stream.view = opened (handler.viewAt streamId) := by
  refine ⟨_, rfl, ?_, ?_⟩
  · cases found : handler.streams[streamId]? with
    | none => simp [getOrCreateStream, found]
    | some stream =>
        have id_eq := valid.streamId_eq found
        simp only [getOrCreateStream, found, Option.getD_some]
        split <;> exact id_eq
  · cases found : handler.streams[streamId]? with
    | none =>
        simp only [getOrCreateStream, viewAt, found]
        rfl
    | some stream =>
        simp only [getOrCreateStream, viewAt, found, Option.getD_some, opened, Option.map_some]
        split_ifs <;> first | rfl | contradiction

variable [WideShift]

/-- A fragment that decodes is overlaid on the headers of the stream; one that does not is lost. -/
theorem Stored.mergeFragment {stream : Http2Stream} (stored : Stored handler after streamId stream)
    (payload : Bytes) :
    (∃ fields merged, decodeBlock payload = some fields ∧
        (after.mergeFragment streamId stream payload).1 = .ok ∧
        (after.mergeFragment streamId stream payload).2.1 = merged ∧
        merged.view = stream.view.merge fields ∧
        Stored handler (after.mergeFragment streamId stream payload).2.2 streamId merged) ∨
      (decodeBlock payload = none ∧ (after.mergeFragment streamId stream payload).1 ≠ .ok ∧
        Stored handler (after.mergeFragment streamId stream payload).2.2 streamId stream) := by
  rcases after.hpackDecoder.decode_eq_decodeBlock payload with
    ⟨fields, decodes, ok, fields_eq⟩ | ⟨decodes, failed⟩
  · left
    simp only [Http2Handler.mergeFragment, ok, ne_eq, not_true_eq_false, if_false, fields_eq]
    refine ⟨fields, _, decodes, trivial, rfl, rfl, ?_⟩
    exact stored.insert _ _ stored.streamId_eq
  · right
    simp only [Http2Handler.mergeFragment, failed, ne_eq, not_false_eq_true, if_true]
    refine ⟨decodes, trivial, ?_⟩
    exact ⟨stored.connSet, stored.localSettings, stored.tlsHandler, stored.streamId_eq,
      stored.streams⟩

theorem handleHeadersFrame_effect (valid : handler.Valid) (id_lt : streamId < 2 ^ 31)
    (payload : Bytes) (flags : UInt8) :
    Effect handler (handler.handleHeadersFrame streamId payload flags).2 streamId
      (onHeaders (handler.viewAt streamId) payload flags).1
      (answer streamId id_lt (onHeaders (handler.viewAt streamId) payload flags)) := by
  rcases handler.opened_stream valid streamId with ⟨stream, stream_eq, id_eq, view_eq⟩
  have stored := handler.stored_insert stream id_eq
  simp only [handleHeadersFrame, stream_eq, onHeaders, ← view_eq]
  rcases stored.mergeFragment payload with
    ⟨fields, merged, decodes, ok, merged_eq, mergedView, mergedStored⟩ | ⟨decodes, failed, kept⟩
  · simp only [ok, ne_eq, not_true_eq_false, if_false, merged_eq, decodes, ← mergedView]
    by_cases endHeaders : flags &&& http2FlagEndHeaders = 0
    · simp only [endHeaders, if_true, not_true_eq_false, false_and, if_false]
      exact mergedStored.effect valid
    · by_cases endStream : flags &&& http2FlagEndStream = 0
      · simp only [endHeaders, endStream, if_false, not_true_eq_false, and_false]
        exact mergedStored.effect valid
      · simp only [endHeaders, endStream, if_false, not_false_eq_true, and_self, if_true]
        exact (mergedStored.insert _ { merged with state := .halfClosedRemote }
          mergedStored.streamId_eq).complete_effect valid id_lt
  · simp only [failed, ne_eq, not_false_eq_true, if_true, decodes]
    exact kept.effect valid

theorem handleContinuationFrame_effect (valid : handler.Valid) (id_lt : streamId < 2 ^ 31)
    (payload : Bytes) (flags : UInt8) :
    Effect handler (handler.handleContinuationFrame streamId payload flags).2 streamId
      (onContinuation (handler.viewAt streamId) payload flags).1
      (answer streamId id_lt (onContinuation (handler.viewAt streamId) payload flags)) := by
  cases found : handler.streams[streamId]? with
  | none =>
      have view_eq : handler.viewAt streamId = none := by simp [viewAt, found]
      have unchanged : Effect handler handler streamId (handler.viewAt streamId) [] :=
        Effect.of_unchanged valid ⟨rfl, rfl, (List.append_nil _).symm⟩ rfl
      simpa [handleContinuationFrame, found, view_eq, onContinuation, answer] using unchanged
  | some stream =>
      have view_eq : handler.viewAt streamId = some stream.view := by simp [viewAt, found]
      have stored : Stored handler handler streamId stream := by
        refine ⟨rfl, rfl, rfl, valid.streamId_eq found, ?_⟩
        intro id
        split_ifs with here
        · rw [← here, found]
        · rfl
      simp only [handleContinuationFrame, found, view_eq, onContinuation]
      rcases stored.mergeFragment payload with
        ⟨fields, merged, decodes, ok, merged_eq, mergedView, mergedStored⟩ |
          ⟨decodes, failed, kept⟩
      · have state_eq : stream.view.state = merged.state := by
          rw [show merged.state = merged.view.state from rfl, mergedView]
          rfl
        simp only [ok, ne_eq, not_true_eq_false, if_false, merged_eq, decodes, state_eq,
          ← mergedView]
        split_ifs with complete
        · simp only [complete, not_false_eq_true, and_self, decide_true, answer, if_true]
          exact mergedStored.complete_effect valid id_lt
        · simp only [complete, decide_false]
          exact mergedStored.effect valid
      · simp only [failed, ne_eq, not_false_eq_true, if_true, decodes]
        exact kept.effect valid

/-- On a plaintext stream the handler does with a frame what the stream's transducer does. -/
theorem handleFrame_spec (valid : handler.Valid) (frame : Http2Frame) :
    Effect handler (handler.handleFrame frame).2 frame.streamId
      (transducer.step (handler.viewAt frame.streamId) (.frame frame)).1
      (acknowledgement handler frame ++
        (transducer.step (handler.viewAt frame.streamId) (.frame frame)).2) := by
  have unchanged : Effect handler handler frame.streamId (handler.viewAt frame.streamId) [] :=
    Effect.of_unchanged valid ⟨rfl, rfl, (List.append_nil _).symm⟩ rfl
  simp only [handleFrame, transducer, onFrame, acknowledgement]
  by_cases settings : frame.type = .settings
  · simp +decide only [settings, if_true, if_false, false_and, answer, List.append_nil]
    exact handleSettingsFrame_effect valid frame.payload
  by_cases headers : frame.type = .headers
  · simp +decide only [headers, if_true, if_false, List.nil_append]
    exact handleHeadersFrame_effect valid frame.streamId_lt frame.payload frame.flags
  by_cases data : frame.type = .data
  · simp +decide only [data, if_true, if_false, List.nil_append]
    exact handleDataFrame_effect valid frame.streamId_lt frame.payload frame.flags
  by_cases continuation : frame.type = .continuation
  · simp +decide only [continuation, if_true, if_false, List.nil_append]
    exact handleContinuationFrame_effect valid frame.streamId_lt frame.payload frame.flags
  by_cases windowUpdate : frame.type = .windowUpdate
  · simp +decide only [windowUpdate, true_and, false_and, if_false, List.nil_append, answer]
    split_ifs with long
    · exact handleWindowUpdateFrame_effect valid _
    · exact unchanged
  by_cases rstStream : frame.type = .rstStream
  · simp +decide only [rstStream, true_and, false_and, if_false, List.nil_append]
    split_ifs with long
    · exact handleRstStreamFrame_effect valid
    · exact unchanged
  by_cases ping : frame.type = .ping
  · simp +decide only [ping, if_true, if_false, false_and, answer, List.append_nil]
    exact handlePingFrame_effect valid frame.payload
  · simp +decide only [settings, headers, data, continuation, windowUpdate, rstStream, ping,
      if_false, false_and, answer, List.append_nil]
    exact unchanged

end Headers

end Effects

/-! ## Runs of a connection -/

theorem valid_connected : connected.Valid := by
  refine ⟨rfl, rfl, ?_⟩
  intro id stream found
  simp [connected_streams] at found

section Runs

variable [WideShift]

/-- One event; the results of `handle_frame` and `send_response` are dropped. -/
def onEvent (handler : Http2Handler PlainTls) : Http2Event → Http2Handler PlainTls
  | .frame frame => (handler.handleFrame frame).2
  | .sendResponse bytes => (handler.sendResponse bytes).2

/-- A fresh connection after a list of events. -/
def afterEvents (events : List Http2Event) : Http2Handler PlainTls :=
  events.foldl onEvent connected

/-- The frames that an event makes the handler write. -/
def eventFrames (handler : Http2Handler PlainTls) : Http2Event → List Http2Frame
  | .frame frame =>
      acknowledgement handler frame ++
        (transducer.step (handler.viewAt frame.streamId) (.frame frame)).2
  | .sendResponse bytes => bodyFrames 1 (by decide) bytes

/-- The connection as one machine. -/
def machine : Transducer (Http2Handler PlainTls) Http2Event Http2Frame where
  step handler event := (handler.onEvent event, handler.eventFrames event)

theorem onEvent_spec {handler : Http2Handler PlainTls} (valid : handler.Valid)
    (event : Http2Event) :
    Effect handler (handler.onEvent event) event.streamId
      (transducer.step (handler.viewAt event.streamId) event).1 (handler.eventFrames event) := by
  cases event with
  | frame frame =>
      exact handleFrame_spec valid frame
  | sendResponse bytes =>
      simp only [onEvent, sendResponse, eventFrames,
        handler.sendDataFrame_plain valid.standard (show 1 < 2 ^ 31 by decide) bytes]
      exact Effect.of_unchanged valid ⟨rfl, rfl, rfl⟩ rfl

theorem machine_run_fst (handler : Http2Handler PlainTls) (events : List Http2Event) :
    (machine.run handler events).1 = events.foldl onEvent handler := by
  induction events generalizing handler with
  | nil => rfl
  | cons event events ih => exact ih (handler.onEvent event)

theorem foldl_onEvent_written {handler : Http2Handler PlainTls} (valid : handler.Valid)
    (events : List Http2Event) :
    (events.foldl onEvent handler).tlsHandler.written =
      handler.tlsHandler.written ++ (machine.run handler events).2.flatMap writes := by
  induction events generalizing handler with
  | nil => simp [Transducer.run]
  | cons event events ih =>
      have effect := onEvent_spec valid event
      rw [List.foldl_cons, ih effect.valid, effect.written]
      simp [Transducer.run, machine]

/-- What a fresh connection has written is the frames of its machine. -/
theorem framesWritten_afterEvents (events : List Http2Event) :
    framesWritten (afterEvents events) =
      initialSettings :: (machine.run connected events).2 := by
  have written := foldl_onEvent_written valid_connected events
  rw [connected_written] at written
  have bytes_eq : (afterEvents events).tlsHandler.written.flatten =
      (initialSettings :: (machine.run connected events).2).flatMap bytes := by
    rw [← flatten_flatMap_writes, afterEvents, written, List.flatMap_cons]
  rw [framesWritten, bytes_eq]
  exact congrArg Prod.fst (framing.parse_flatMap _)

end Runs

end Http2Handler

end HttpsServerSim
