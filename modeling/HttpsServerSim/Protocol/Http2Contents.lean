import HttpsServerSim.Protocol.Http2Admission
import HttpsServerSim.Protocol.Http2Fragments

/-!
# What a connection holds and what it has said

The two ends of a run in closed form. A stream holds what the frames for it brought since
the first `HEADERS` frame: the fields of all fragments that decode, assigned one after the
other, all data, and the state set last. What has been written is whole frames of a few
kinds, none larger than the limit, whatever was received.
-/

namespace HttpsServerSim

open Http2Frame

section Contents

variable [WideShift]

namespace StreamView

/-- The payloads of the header fragments among the frames. -/
def fragments (frames : List Http2Frame) : List Bytes :=
  (frames.filter fun frame =>
    decide (frame.type = .headers ∨ frame.type = .continuation)).map Http2Frame.payload

/-- The data of the frames. -/
def dataOf (frames : List Http2Frame) : Bytes :=
  (frames.filter fun frame => decide (frame.type = .data)).flatMap Http2Frame.payload

/-- The state that a frame puts a stream into, if it sets one. -/
def stateSet (frame : Http2Frame) : Option Http2StreamState :=
  if frame.type = .headers then
    if (decodeBlock frame.payload).isSome ∧ frame.flags &&& http2FlagEndHeaders ≠ 0 ∧
        frame.flags &&& http2FlagEndStream ≠ 0 then some .halfClosedRemote
    else none
  else if frame.type = .data then
    if frame.flags &&& http2FlagEndStream ≠ 0 then some .halfClosedRemote else none
  else if frame.type = .rstStream ∧ 4 ≤ frame.payload.length then some .closed
  else none

/-- What frames make of a stream. -/
def after (view : StreamView) (frames : List Http2Frame) : StreamView where
  headers := (fragments frames).foldl overlayFragment view.headers
  body := view.body ++ dataOf frames
  state := ((frames.filterMap stateSet).getLast?).getD view.state

/-- A stream as it is created. -/
def fresh : StreamView where
  headers := ∅
  body := []
  state := .open

/-- A stream in closed form: nothing until a `HEADERS` frame opens it. -/
def contents (frames : List Http2Frame) : Option StreamView :=
  match frames.dropWhile fun frame => decide (frame.type ≠ .headers) with
  | [] => none
  | opening :: later =>
      some (after fresh (opening :: later))

theorem after_cons (view : StreamView) (frame : Http2Frame) (frames : List Http2Frame) :
    after view (frame :: frames) = after (after view [frame]) frames := by
  have setLast : ((frame :: frames).filterMap stateSet).getLast?.getD view.state =
      ((frames.filterMap stateSet).getLast?).getD
        ((([frame].filterMap stateSet).getLast?).getD view.state) := by
    rw [show frame :: frames = [frame] ++ frames from rfl, List.filterMap_append,
      List.getLast?_append]
    cases (frames.filterMap stateSet).getLast? <;> rfl
  have headersEq : fragments (frame :: frames) = fragments [frame] ++ fragments frames := by
    rw [show frame :: frames = [frame] ++ frames from rfl, fragments, List.filter_append,
      List.map_append]
    rfl
  have bodyEq : dataOf (frame :: frames) = dataOf [frame] ++ dataOf frames := by
    rw [show frame :: frames = [frame] ++ frames from rfl, dataOf, List.filter_append,
      List.flatMap_append]
    rfl
  simp only [after, setLast, headersEq, bodyEq, List.foldl_append, List.append_assoc]

/-- One frame on a stream that has left the idle state. -/
theorem onFrame_eq_after {view : StreamView} (started : view.state ≠ .idle) (frame : Http2Frame) :
    (onFrame (some view) frame).1 = some (after view [frame]) := by
  have stays : opened (some view) = view := by simp [opened, started]
  simp only [onFrame]
  by_cases headers : frame.type = .headers
  · cases decodes : decodeBlock frame.payload with
    | none =>
        simp +decide [headers, onHeaders, stays, after, fragments, dataOf, stateSet,
          overlayFragment, decodes]
    | some fields =>
        simp +decide only [headers, if_true, onHeaders, stays, decodes]
        split_ifs with ended
        · simp +decide [after, fragments, dataOf, stateSet, headers, overlayFragment, decodes,
            merge, ended]
        · have kept : stateSet frame = none := by
            simp [stateSet, headers, decodes, ended]
          simp +decide [after, fragments, dataOf, kept, headers, overlayFragment, decodes, merge]
  by_cases data : frame.type = .data
  · simp +decide only [data, if_true, if_false, onData]
    split_ifs with ended
    · simp +decide [after, fragments, dataOf, stateSet, data, ended]
    · simp +decide [after, fragments, dataOf, stateSet, data, ended]
  by_cases continuation : frame.type = .continuation
  · simp +decide only [continuation, if_true, if_false]
    rw [onContinuation_fragment]
    simp +decide [after, fragments, dataOf, stateSet, continuation, absorb]
  · simp only [headers, data, continuation, if_false]
    split_ifs with reset
    · simp +decide [after, fragments, dataOf, stateSet, reset]
    · simp +decide [after, fragments, dataOf, stateSet, headers, data, continuation, reset]

theorem after_started {view : StreamView} (started : view.state ≠ .idle) (frame : Http2Frame) :
    (after view [frame]).state ≠ .idle := by
  have set : ∀ state, stateSet frame = some state → state ≠ .idle := by
    intro state found
    simp only [stateSet] at found
    split_ifs at found <;> cases found <;> decide
  cases found : stateSet frame with
  | none => simpa [after, found] using started
  | some state => simpa [after, found] using set state found

/-- Frames and responses on a stream that has left the idle state. -/
theorem run_started {view : StreamView} (started : view.state ≠ .idle) (frames : List Http2Frame) :
    (transducer.run (some view) (frames.map .frame)).1 = some (after view frames) := by
  induction frames generalizing view with
  | nil => simp [Transducer.run, after, fragments, dataOf]
  | cons frame frames ih =>
      have step : (transducer.step (some view) (.frame frame)).1 = some (after view [frame]) :=
        onFrame_eq_after started frame
      rw [List.map_cons, Transducer.run, step, after_cons view frame frames]
      exact ih (after_started started frame)

/-- A stream that does not exist waits for a `HEADERS` frame. -/
theorem run_fresh (frames : List Http2Frame) :
    (transducer.run none (frames.map .frame)).1 = contents frames := by
  induction frames with
  | nil => rfl
  | cons frame frames ih =>
      by_cases headers : frame.type = .headers
      · have started : fresh.state ≠ .idle := by decide
        have opens : (onFrame none frame).1 = (onFrame (some fresh) frame).1 := by
          simp only [onFrame, headers, if_true]
          rfl
        have step : (transducer.step none (.frame frame)).1 = some (after fresh [frame]) :=
          opens.trans (onFrame_eq_after started frame)
        rw [List.map_cons, Transducer.run, step, contents,
          List.dropWhile_cons_of_neg (by simp [headers])]
        dsimp only
        rw [after_cons fresh frame frames]
        exact run_started (after_started started frame) frames
      · have step : (transducer.step none (.frame frame)).1 = none := by
          have absent := onFrame_none_isSome frame
          simpa [transducer, headers] using absent
        rw [List.map_cons, Transducer.run, step, contents,
          List.dropWhile_cons_of_pos (by simp [headers])]
        exact ih

/-- The frames for a stream. -/
def framesFor (streamId : ℕ) (events : List Http2Event) : List Http2Frame :=
  events.filterMap fun event =>
    match event with
    | .frame frame => if frame.streamId = streamId then some frame else none
    | .sendResponse _ => none

/-- The application's responses are nothing to the stream they are sent on. -/
theorem run_framesFor (streamId : ℕ) (view : Option StreamView) (events : List Http2Event) :
    (transducer.run view
        (events.filter fun event => decide (event.streamId = streamId))).1 =
      (transducer.run view ((framesFor streamId events).map .frame)).1 := by
  induction events generalizing view with
  | nil => rfl
  | cons event events ih =>
      by_cases own : event.streamId = streamId
      · rw [List.filter_cons_of_pos (by simp [own]), Transducer.run]
        cases event with
        | frame frame =>
            have kept : framesFor streamId (.frame frame :: events) =
                frame :: framesFor streamId events := by
              have ownFrame : frame.streamId = streamId := own
              simp [framesFor, ownFrame]
            rw [kept, List.map_cons, Transducer.run]
            exact ih _
        | sendResponse bytes => exact ih view
      · rw [List.filter_cons_of_neg (by simp [own])]
        cases event with
        | frame frame =>
            have dropped : framesFor streamId (.frame frame :: events) =
                framesFor streamId events := by
              have otherFrame : frame.streamId ≠ streamId := own
              simp [framesFor, otherFrame]
            rw [dropped]
            exact ih view
        | sendResponse bytes => exact ih view

end StreamView

namespace Http2Handler

open StreamView

/-- After any run, a stream holds what the frames for it have brought. -/
theorem viewAt_eq_contents (events : List Http2Event) (streamId : ℕ) :
    (afterEvents events).viewAt streamId = contents (framesFor streamId events) := by
  rw [(run_stream streamId events).1, streamRun, run_framesFor, run_fresh]

/-! ## What has been written -/

/-- A frame that the handler can write after its first one: an acknowledgement, the headers of a
response, or a piece of a body. -/
inductive Written : Http2Frame → Prop where
  | settingsAck : Written settingsAck
  | pingAck (payload : Bytes) (long : 8 ≤ payload.length) : Written (pingAck payload)
  | replyHeaders (streamId : ℕ) (idLt : streamId < 2 ^ 31) : Written (replyHeaders streamId idLt)
  | piece (frame : Http2Frame) (data : frame.type = .data) (nonempty : frame.payload ≠ [])
      (within : frame.payload.length ≤ Http2Settings.reset.maxFrameSize)
      (flags : frame.flags = 0 ∨ frame.flags = http2FlagEndStream) : Written frame

omit [WideShift] in
theorem written_of_mem_dataFrames {streamId : ℕ} {idLt : streamId < 2 ^ 31} {endStream : Bool}
    {fuel : ℕ} {rest : Bytes} {frame : Http2Frame}
    (member : frame ∈ dataFrames Http2Settings.reset.maxFrameSize standard_limit_lt streamId idLt
      endStream fuel rest) : Written frame := by
  induction fuel generalizing rest with
  | zero => simp [dataFrames] at member
  | succ fuel ih =>
      simp only [dataFrames] at member
      split_ifs at member with empty
      · simp at member
      · rcases List.mem_cons.mp member with rfl | later
        · have lengthPos : 0 < rest.length := List.length_pos_iff.mpr (by simpa using empty)
          have limitPos : 0 < Http2Settings.reset.maxFrameSize := by decide
          refine .piece _ rfl ?_ ?_ ?_
          · apply List.ne_nil_of_length_pos
            simp only [dataFrame, List.length_take]
            omega
          · simp only [dataFrame, List.length_take]
            omega
          · simp only [dataFrame]
            split_ifs <;> simp
        · exact ih later

theorem written_of_mem_eventFrames {handler : Http2Handler PlainTls} {event : Http2Event}
    {frame : Http2Frame} (member : frame ∈ handler.eventFrames event) : Written frame := by
  cases event with
  | sendResponse bytes => exact written_of_mem_dataFrames member
  | frame received =>
      rcases List.mem_append.mp member with acknowledged | answered
      · unfold acknowledgement at acknowledged
        split_ifs at acknowledged with settings silent ping long
        · simp at acknowledged
        · rw [List.mem_singleton.mp acknowledged]
          exact .settingsAck
        · rw [List.mem_singleton.mp acknowledged]
          exact .pingAck received.payload long
        · simp at acknowledged
        · simp at acknowledged
      · simp only [transducer, answer] at answered
        split_ifs at answered
        · rcases List.mem_cons.mp answered with rfl | data
          · exact .replyHeaders _ _
          · exact written_of_mem_dataFrames data
        · simp at answered

theorem written_of_mem_run {handler : Http2Handler PlainTls} {events : List Http2Event}
    {frame : Http2Frame} (member : frame ∈ (machine.run handler events).2) : Written frame := by
  induction events generalizing handler with
  | nil => simp [Transducer.run] at member
  | cons event events ih =>
      simp only [Transducer.run, machine, List.mem_append] at member
      rcases member with now | later
      · exact written_of_mem_eventFrames now
      · exact ih later

/-- Whatever is received and whatever the application sends, what has been written is whole frames:
the settings, and then only acknowledgements, response headers and pieces of bodies that keep to
the limit. -/
theorem written_wellFormed (events : List Http2Event) :
    ∃ later, framing.parse (afterEvents events).tlsHandler.written.flatten =
        (initialSettings :: later, []) ∧ ∀ frame ∈ later, Written frame := by
  have written := foldl_onEvent_written valid_connected events
  rw [connected_written] at written
  have bytesEq : (afterEvents events).tlsHandler.written.flatten =
      (initialSettings :: (machine.run connected events).2).flatMap bytes := by
    rw [← flatten_flatMap_writes, afterEvents, written, List.flatMap_cons]
  refine ⟨(machine.run connected events).2, ?_, ?_⟩
  · rw [bytesEq]
    exact framing.parse_flatMap _
  · intro frame member
    exact written_of_mem_run member

end Http2Handler

end Contents

end HttpsServerSim
