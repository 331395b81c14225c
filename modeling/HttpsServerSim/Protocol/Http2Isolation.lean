import HttpsServerSim.Protocol.Http2Streams

/-!
# Isolation of streams

Each stream is a component of the connection in the sense of
`Transducer.ComponentOf`: the frames of other streams neither change it nor make
the handler speak on it. What a run shows of a stream is therefore the run of the
stream's own transducer on the stream's own events (`run_stream`), whatever else
happened on the connection.

Stream 0 is no exception as far as the code is concerned: a `HEADERS` frame creates
it like any other. Only the handler's own `SETTINGS` and `PING` frames go there too,
so what a stream says is told by the type of a frame as well as by its id.
-/

namespace HttpsServerSim

open Http2Frame

namespace Http2Frame

/-- The frames that make up responses. -/
def isMessage (frame : Http2Frame) : Bool :=
  decide (frame.type = .headers ∨ frame.type = .continuation ∨ frame.type = .data)

/-- A frame of a response on the given stream. -/
def isMessageOn (streamId : ℕ) (frame : Http2Frame) : Bool :=
  decide (frame.streamId = streamId) && frame.isMessage

theorem message_of_mem_dataFrames {limit : ℕ} {limit_lt : limit < 2 ^ 24} {streamId : ℕ}
    {id_lt : streamId < 2 ^ 31} {endStream : Bool} {fuel : ℕ} {rest : Bytes} {frame : Http2Frame}
    (member : frame ∈ dataFrames limit limit_lt streamId id_lt endStream fuel rest) :
    frame.streamId = streamId ∧ frame.type = .data := by
  induction fuel generalizing rest with
  | zero => simp [dataFrames] at member
  | succ fuel ih =>
      simp only [dataFrames] at member
      split_ifs at member with empty
      · simp at member
      · rcases List.mem_cons.mp member with rfl | later
        · exact ⟨rfl, rfl⟩
        · exact ih later

end Http2Frame

namespace StreamView

theorem message_of_mem_answer {streamId : ℕ} {id_lt : streamId < 2 ^ 31}
    {outcome : Option StreamView × Bool} {frame : Http2Frame}
    (member : frame ∈ answer streamId id_lt outcome) :
    frame.streamId = streamId ∧ frame.isMessage = true := by
  unfold answer replyFrames at member
  split_ifs at member with due
  · rcases List.mem_cons.mp member with rfl | data
    · exact ⟨rfl, rfl⟩
    · rcases message_of_mem_dataFrames data with ⟨id_eq, type_eq⟩
      exact ⟨id_eq, by simp [isMessage, type_eq]⟩
  · simp at member

/-- A stream speaks on itself only, in frames of responses. -/
theorem message_of_mem_step [WideShift] {view : Option StreamView} {event : Http2Event}
    {frame : Http2Frame} (member : frame ∈ (transducer.step view event).2) :
    frame.streamId = event.streamId ∧ frame.isMessage = true := by
  cases event with
  | frame received =>
      exact message_of_mem_answer member
  | sendResponse bytes =>
      rcases message_of_mem_dataFrames member with ⟨id_eq, type_eq⟩
      exact ⟨id_eq, by simp [isMessage, type_eq]⟩

end StreamView

namespace Http2Handler

open StreamView

theorem of_mem_acknowledgement {handler : Http2Handler PlainTls} {frame ack : Http2Frame}
    (member : ack ∈ acknowledgement handler frame) :
    ack.streamId = 0 ∧ ack.isMessage = false := by
  unfold acknowledgement at member
  split_ifs at member
  all_goals simp only [List.mem_singleton, List.not_mem_nil] at member
  · subst member
    exact ⟨rfl, rfl⟩
  · subst member
    exact ⟨rfl, rfl⟩

/-- The frames written with the given stream id. -/
def framesOn (streamId : ℕ) (handler : Http2Handler PlainTls) : List Http2Frame :=
  handler.framesWritten.filter fun frame => decide (frame.streamId = streamId)

/-- The frames of responses written with the given stream id. -/
def messagesOn (streamId : ℕ) (handler : Http2Handler PlainTls) : List Http2Frame :=
  handler.framesWritten.filter (isMessageOn streamId)

section Runs

variable [WideShift]

theorem filter_eventFrames (handler : Http2Handler PlainTls) (event : Http2Event) (streamId : ℕ) :
    (handler.eventFrames event).filter (isMessageOn streamId) =
      if event.streamId = streamId then
        (transducer.step (handler.viewAt streamId) event).2
      else [] := by
  have noAck (frame : Http2Frame) :
      (acknowledgement handler frame).filter (isMessageOn streamId) = [] := by
    rw [List.filter_eq_nil_iff]
    intro ack member
    simp [isMessageOn, of_mem_acknowledgement member]
  have filter_step : ((transducer.step (handler.viewAt event.streamId) event).2).filter
      (isMessageOn streamId) =
        if event.streamId = streamId then (transducer.step (handler.viewAt streamId) event).2
        else [] := by
    split_ifs with own
    · rw [own, List.filter_eq_self]
      intro frame member
      simp [isMessageOn, message_of_mem_step member, own]
    · rw [List.filter_eq_nil_iff]
      intro frame member
      simp [isMessageOn, message_of_mem_step member, own]
  cases event with
  | frame received =>
      rw [eventFrames, List.filter_append, noAck, List.nil_append]
      exact filter_step
  | sendResponse bytes =>
      exact filter_step

/-- A stream as a component of the connection. -/
def streamComponent (streamId : ℕ) : machine.ComponentOf transducer Valid where
  part handler := handler.viewAt streamId
  own event := decide (event.streamId = streamId)
  visible := isMessageOn streamId
  preserved handler event valid := (onEvent_spec valid event).valid
  step_own handler event valid own := by
    have own := of_decide_eq_true own
    refine ⟨?_, ?_⟩
    · have self := (onEvent_spec valid event).viewAt_self
      rw [own] at self
      exact self
    · exact (filter_eventFrames handler event streamId).trans (if_pos own)
  step_other handler event valid other := by
    have other := of_decide_eq_false other
    refine ⟨?_, ?_⟩
    · exact (onEvent_spec valid event).viewAt_other (Ne.symm other)
    · exact (filter_eventFrames handler event streamId).trans (if_neg other)

/-- The run of a stream's transducer on its share of the events of a connection. -/
def streamRun (streamId : ℕ) (events : List Http2Event) : Option StreamView × List Http2Frame :=
  transducer.run none (events.filter fun event => decide (event.streamId = streamId))

/-- After any events on a fresh connection, a stream is where its own events took it, and has said
what its own events made it say. -/
theorem run_stream (streamId : ℕ) (events : List Http2Event) :
    (afterEvents events).viewAt streamId = (streamRun streamId events).1 ∧
      (afterEvents events).messagesOn streamId = (streamRun streamId events).2 := by
  rcases (streamComponent streamId).run_eq valid_connected events with ⟨view_eq, frames_eq⟩
  have fresh : connected.viewAt streamId = none := by
    simp [viewAt, connected_streams]
  simp only [streamComponent, machine_run_fst, fresh] at view_eq frames_eq
  refine ⟨view_eq, ?_⟩
  have settings_hidden : isMessageOn streamId initialSettings = false := by
    simp only [isMessageOn, show initialSettings.isMessage = false from rfl, Bool.and_false]
  rw [messagesOn, framesWritten_afterEvents, List.filter_cons_of_neg (by simp [settings_hidden])]
  exact frames_eq

theorem message_of_mem_run {handler : Http2Handler PlainTls} {events : List Http2Event}
    {frame : Http2Frame} (member : frame ∈ (machine.run handler events).2)
    (positive : frame.streamId ≠ 0) : frame.isMessage = true := by
  induction events generalizing handler with
  | nil => simp [Transducer.run] at member
  | cons event events ih =>
      simp only [Transducer.run, machine, List.mem_append] at member
      rcases member with now | later
      · cases event with
        | frame received =>
            rcases List.mem_append.mp now with acknowledged | answered
            · exact absurd (of_mem_acknowledgement acknowledged).1 positive
            · exact (message_of_mem_step answered).2
        | sendResponse bytes =>
            have spoken : frame ∈ (transducer.step none (.sendResponse bytes)).2 := now
            exact (message_of_mem_step spoken).2
      · exact ih later

/-- On every stream but 0 the handler writes responses only. -/
theorem framesOn_afterEvents {streamId : ℕ} (positive : streamId ≠ 0) (events : List Http2Event) :
    (afterEvents events).framesOn streamId = (afterEvents events).messagesOn streamId := by
  rw [framesOn, messagesOn, framesWritten_afterEvents]
  apply List.filter_congr
  intro frame member
  by_cases on : frame.streamId = streamId
  · rcases List.mem_cons.mp member with rfl | written
    · exact absurd on.symm positive
    · simp [isMessageOn, on, message_of_mem_run written (on ▸ positive)]
  · simp [isMessageOn, on]

theorem afterEvents_concat (events : List Http2Event) (event : Http2Event) :
    afterEvents (events ++ [event]) = (afterEvents events).onEvent event := by
  simp [afterEvents]

/-- An event appends its frames to what has been written. -/
theorem framesWritten_concat (events : List Http2Event) (event : Http2Event) :
    (afterEvents (events ++ [event])).framesWritten =
      (afterEvents events).framesWritten ++ (afterEvents events).eventFrames event := by
  rw [framesWritten_afterEvents, framesWritten_afterEvents, Transducer.run_concat, machine_run_fst,
    List.cons_append]
  rfl

theorem streamRun_append (streamId : ℕ) (events later : List Http2Event)
    (own : ∀ event ∈ later, event.streamId = streamId) :
    streamRun streamId (events ++ later) =
      ((transducer.run (streamRun streamId events).1 later).1,
        (streamRun streamId events).2 ++
          (transducer.run (streamRun streamId events).1 later).2) := by
  have all_own : later.filter (fun event => decide (event.streamId = streamId)) = later := by
    rw [List.filter_eq_self]
    intro event member
    exact decide_eq_true (own event member)
  rw [streamRun, List.filter_append, all_own, Transducer.run_append]
  rfl

theorem viewAt_concat (streamId : ℕ) (events : List Http2Event) (event : Http2Event) :
    (afterEvents (events ++ [event])).viewAt streamId =
      if event.streamId = streamId then
        (transducer.step ((afterEvents events).viewAt streamId) event).1
      else (afterEvents events).viewAt streamId := by
  simp only [(run_stream _ _).1, streamRun, List.filter_append, List.filter_singleton]
  split_ifs with own
  · simp [own, Transducer.run_concat]
  · simp [own]

theorem messagesOn_concat (streamId : ℕ) (events : List Http2Event) (event : Http2Event) :
    (afterEvents (events ++ [event])).messagesOn streamId =
      (afterEvents events).messagesOn streamId ++
        if event.streamId = streamId then
          (transducer.step ((afterEvents events).viewAt streamId) event).2
        else [] := by
  simp only [(run_stream _ _).1, (run_stream _ _).2, streamRun, List.filter_append,
    List.filter_singleton]
  split_ifs with own
  · simp [own, Transducer.run_concat]
  · simp [own]

/-- What a stream says and where it ends up depends on no frame of another stream. -/
theorem stream_isolated (frames : List Http2Frame) {streamId : ℕ} (positive : streamId ≠ 0) :
    (afterEvents (frames.map .frame)).framesOn streamId =
        (afterEvents ((frames.filter fun frame =>
          decide (frame.streamId = streamId)).map .frame)).framesOn streamId ∧
      (afterEvents (frames.map .frame)).viewAt streamId =
        (afterEvents ((frames.filter fun frame =>
          decide (frame.streamId = streamId)).map .frame)).viewAt streamId := by
  have ownEvents : (frames.filter fun frame => decide (frame.streamId = streamId)).map .frame =
      (frames.map Http2Event.frame).filter (fun event => decide (event.streamId = streamId)) := by
    rw [List.filter_map]
    rfl
  have sameRun : streamRun streamId ((frames.map Http2Event.frame).filter
      (fun event => decide (event.streamId = streamId))) =
        streamRun streamId (frames.map Http2Event.frame) := by
    simp [streamRun]
  rw [framesOn_afterEvents positive, framesOn_afterEvents positive, ownEvents,
    (run_stream _ _).1, (run_stream _ _).1, (run_stream _ _).2, (run_stream _ _).2, sameRun]
  exact ⟨rfl, rfl⟩

end Runs

/-- A request on stream 3 arrives in the middle of one on stream 1. -/
theorem stream_isolated_two_streams :
    let opening : Http2Frame := ⟨.headers, 4, 1, [0x82], by decide, by decide⟩
    let other : Http2Frame := ⟨.headers, 5, 3, [0x84], by decide, by decide⟩
    let body : Http2Frame := ⟨.data, 1, 1, [104, 105], by decide, by decide⟩
    (afterEvents [.frame opening, .frame other, .frame body]).framesOn 1 =
      (afterEvents [.frame opening, .frame body]).framesOn 1 :=
  (stream_isolated
    [⟨.headers, 4, 1, [0x82], by decide, by decide⟩, ⟨.headers, 5, 3, [0x84], by decide, by decide⟩,
      ⟨.data, 1, 1, [104, 105], by decide, by decide⟩] (by decide)).1

end Http2Handler

end HttpsServerSim
