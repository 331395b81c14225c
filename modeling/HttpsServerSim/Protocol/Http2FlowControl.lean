import HttpsServerSim.Protocol.Http2Lifecycle
import Mathlib.Algebra.BigOperators.Group.List.Basic

/-!
# Flow control

A sender may put at most as many bytes of `DATA` on a stream as the initial window
and the receiver's `WINDOW_UPDATE` frames allow. The handler keeps the windows up to
date and never looks at them: `send_data_frame` cuts the body into frames and sends
them all. What is kept is therefore up to the peer and the application, response by
response (`flow_control_iff`).
-/

namespace HttpsServerSim

open Http2Frame

namespace Http2Frame

/-- The bytes that count against the window. -/
def dataSize (frame : Http2Frame) : ℕ := if frame.type = .data then frame.payload.length else 0

/-- The increment that a `WINDOW_UPDATE` frame carries. -/
def increment (frame : Http2Frame) : ℕ :=
  if frame.type = .windowUpdate ∧ 4 ≤ frame.payload.length then
    BigEndian.decode (frame.payload.take 4) % 2 ^ 31
  else 0

/-- A `SETTINGS` frame that changes the initial window from its default. -/
def announcesWindow (frame : Http2Frame) : Prop :=
  frame.type = .settings ∧ (Http2Handler.applySettings .reset frame.payload).initialWindowSize ≠
    Http2Settings.reset.initialWindowSize

theorem dataSize_of_not_message {frame : Http2Frame} (quiet : frame.isMessage = false) :
    frame.dataSize = 0 := by
  have types := of_decide_eq_false quiet
  rw [dataSize, if_neg]
  exact fun data => types (Or.inr (Or.inr data))

/-- The frames of a body carry the whole of it. -/
theorem sum_dataSize_dataFrames {limit : ℕ} {limitLt : limit < 2 ^ 24} {streamId : ℕ}
    {idLt : streamId < 2 ^ 31} {endStream : Bool} (positive : 0 < limit) {fuel : ℕ} {rest : Bytes}
    (enough : rest.length ≤ fuel) :
    ((dataFrames limit limitLt streamId idLt endStream fuel rest).map dataSize).sum =
      rest.length := by
  induction fuel generalizing rest with
  | zero => simp [dataFrames, Nat.le_zero.mp enough]
  | succ fuel ih =>
      by_cases empty : rest = []
      · simp [dataFrames, empty]
      · have lengthPos := List.length_pos_iff.mpr empty
        have shorter : (rest.drop (min rest.length limit)).length ≤ fuel := by
          rw [List.length_drop]
          omega
        have first : (dataFrame limit limitLt streamId idLt endStream rest).dataSize =
            min rest.length limit := by
          simp [dataSize, dataFrame]
        simp only [dataFrames, List.isEmpty_iff, empty, if_false, List.map_cons, List.sum_cons,
          ih shorter, first, List.length_drop]
        omega

theorem sum_dataSize_bodyFrames {streamId : ℕ} (idLt : streamId < 2 ^ 31) (bytes : Bytes) :
    ((bodyFrames streamId idLt bytes).map dataSize).sum = bytes.length :=
  sum_dataSize_dataFrames (by decide) le_rfl

theorem sum_dataSize_replyFrames {streamId : ℕ} (idLt : streamId < 2 ^ 31) (body : Bytes) :
    ((replyFrames streamId idLt body).map dataSize).sum = (Http2Handler.replyBody body).length := by
  rw [replyFrames, List.map_cons, List.sum_cons, sum_dataSize_bodyFrames]
  exact Nat.zero_add _

end Http2Frame

namespace Http2Event

/-- What an event adds to the window of a stream. -/
def credit (streamId : ℕ) : Http2Event → ℕ
  | .frame received => if received.streamId = streamId then received.increment else 0
  | .sendResponse _ => 0

def Announces : Http2Event → Prop
  | .frame received => received.announcesWindow
  | .sendResponse _ => False

end Http2Event

namespace StreamView

/-- The body of the request that a frame completes. -/
def bodyAfter (view : Option StreamView) (frame : Http2Frame) : Bytes :=
  (view.map body).getD [] ++ if frame.type = .data then frame.payload else []

theorem opened_body (view : Option StreamView) :
    (opened view).body = (view.map body).getD [] := by
  cases view with
  | none => rfl
  | some view =>
      simp only [opened, Option.getD_some, Option.map_some]
      split <;> rfl

variable [WideShift]

theorem body_onFrame {view : Option StreamView} {frame : Http2Frame}
    (completes : completesRequest view frame) :
    ((onFrame view frame).1.map body).getD [] = bodyAfter view frame := by
  rcases completes with ⟨headers, _⟩ | ⟨data, _, present⟩ | ⟨continuation, _, _, halfClosed⟩
  · simp +decide only [onFrame, headers, if_true, if_false, bodyAfter, List.append_nil,
      ← opened_body view, onHeaders]
    cases decodeBlock frame.payload with
    | none => rfl
    | some fields =>
        dsimp only
        split_ifs <;> rfl
  · rcases Option.isSome_iff_exists.mp present with ⟨seen, rfl⟩
    simp +decide only [onFrame, data, if_true, if_false, bodyAfter, onData]
    split_ifs <;> rfl
  · rcases Option.map_eq_some_iff.mp halfClosed with ⟨seen, rfl, _⟩
    simp +decide only [onFrame, continuation, if_true, if_false, bodyAfter, List.append_nil,
      onContinuation]
    cases decodeBlock frame.payload <;> rfl

/-- A stream sends `DATA` when a request on it is complete, and then the whole response. -/
theorem sum_dataSize_step_frame (view : Option StreamView) (frame : Http2Frame) :
    (completesRequest view frame ∧
        (((transducer.step view (.frame frame)).2).map dataSize).sum =
          (Http2Handler.replyBody (bodyAfter view frame)).length) ∨
      (¬ completesRequest view frame ∧
        (((transducer.step view (.frame frame)).2).map dataSize).sum = 0) := by
  by_cases completes : completesRequest view frame
  · left
    have due := (completesRequest_iff view frame).mp completes
    refine ⟨completes, ?_⟩
    simp only [transducer, answer, due, if_true, sum_dataSize_replyFrames, body_onFrame completes]
  · right
    have silent : (onFrame view frame).2 = false := by
      simpa using mt (completesRequest_iff view frame).mpr completes
    refine ⟨completes, ?_⟩
    simp [transducer, answer, silent]

end StreamView

namespace Http2Handler

open StreamView

section Runs

variable [WideShift]

/-- The bytes of `DATA` written on a stream. -/
def sentOn (streamId : ℕ) (handler : Http2Handler PlainTls) : ℕ :=
  ((handler.framesOn streamId).map dataSize).sum

/-- What the peer's `WINDOW_UPDATE` frames have added to the window of a stream. -/
def credits (streamId : ℕ) (events : List Http2Event) : ℕ :=
  (events.map (Http2Event.credit streamId)).sum

omit [WideShift] in
theorem credits_concat (streamId : ℕ) (events : List Http2Event) (event : Http2Event) :
    credits streamId (events ++ [event]) = credits streamId events + event.credit streamId := by
  simp [credits]

omit [WideShift] in
/-- Acknowledgements do not count against a window. -/
theorem sum_dataSize_acknowledgement (handler : Http2Handler PlainTls) (frame : Http2Frame)
    (streamId : ℕ) :
    (((acknowledgement handler frame).filter fun frame =>
      decide (frame.streamId = streamId)).map dataSize).sum = 0 := by
  apply List.sum_eq_zero
  intro size member
  rcases List.mem_map.mp member with ⟨ack, filtered, rfl⟩
  exact dataSize_of_not_message (of_mem_acknowledgement (List.mem_of_mem_filter filtered)).2

theorem sum_dataSize_eventFrames (handler : Http2Handler PlainTls) (event : Http2Event)
    (streamId : ℕ) :
    (((handler.eventFrames event).filter fun frame =>
        decide (frame.streamId = streamId)).map dataSize).sum =
      if event.streamId = streamId then
        (((transducer.step (handler.viewAt streamId) event).2).map dataSize).sum
      else 0 := by
  have spoken : ((((transducer.step (handler.viewAt event.streamId) event).2).filter fun frame =>
      decide (frame.streamId = streamId)).map dataSize).sum =
        if event.streamId = streamId then
          (((transducer.step (handler.viewAt streamId) event).2).map dataSize).sum
        else 0 := by
    split_ifs with own
    · rw [own, List.filter_eq_self.mpr]
      intro frame member
      exact decide_eq_true ((message_of_mem_step member).1.trans own)
    · rw [List.filter_eq_nil_iff.mpr]
      · rfl
      · intro frame member
        simpa [(message_of_mem_step member).1] using own
  cases event with
  | frame received =>
      rw [eventFrames, List.filter_append, List.map_append, List.sum_append,
        sum_dataSize_acknowledgement, Nat.zero_add]
      exact spoken
  | sendResponse bytes =>
      exact spoken

theorem sentOn_concat (streamId : ℕ) (events : List Http2Event) (event : Http2Event) :
    (afterEvents (events ++ [event])).sentOn streamId =
      (afterEvents events).sentOn streamId +
        if event.streamId = streamId then
          (((transducer.step ((afterEvents events).viewAt streamId) event).2).map dataSize).sum
        else 0 := by
  rw [sentOn, framesOn, framesWritten_concat, List.filter_append, List.map_append, List.sum_append,
    sum_dataSize_eventFrames]
  rfl

/-- The peer has left the initial window at its default. -/
def DefaultWindow (events : List Http2Event) : Prop := ∀ event ∈ events, ¬ event.Announces

/-- At every point of a run up to which the peer has left the initial window at its default, the
stream has sent no more than its window allows. -/
def WithinWindow (streamId : ℕ) (events : List Http2Event) : Prop :=
  ∀ earlier, earlier <+: events → DefaultWindow earlier →
    ((afterEvents earlier).sentOn streamId : ℤ) ≤
      http2DefaultInitialWindowSize + credits streamId earlier

/-- An event that makes the stream send no more than is left of its window. -/
def FitsWindow (streamId : ℕ) (before : List Http2Event) : Http2Event → Prop
  | .frame frame =>
      frame.streamId = streamId → completesRequest ((afterEvents before).viewAt streamId) frame →
        ((replyBody (bodyAfter ((afterEvents before).viewAt streamId) frame)).length : ℤ) ≤
          http2DefaultInitialWindowSize + credits streamId before -
            (afterEvents before).sentOn streamId
  | .sendResponse bytes =>
      streamId = 1 →
        (bytes.length : ℤ) ≤ http2DefaultInitialWindowSize + credits streamId before -
          (afterEvents before).sentOn streamId

omit [WideShift] in
theorem defaultWindow_concat (events : List Http2Event) (event : Http2Event) :
    DefaultWindow (events ++ [event]) ↔ DefaultWindow events ∧ ¬ event.Announces := by
  simp only [DefaultWindow, List.forall_mem_append, List.forall_mem_singleton]

/-- An event either makes the stream send and touches no window, or sends nothing on it. -/
theorem sentOn_cases (streamId : ℕ) (events : List Http2Event) (event : Http2Event) :
    (∃ size : ℕ, (afterEvents (events ++ [event])).sentOn streamId =
          (afterEvents events).sentOn streamId + size ∧
        event.credit streamId = 0 ∧ ¬ event.Announces ∧
        (FitsWindow streamId events event ↔
          (size : ℤ) ≤ http2DefaultInitialWindowSize + credits streamId events -
            (afterEvents events).sentOn streamId)) ∨
      ((afterEvents (events ++ [event])).sentOn streamId = (afterEvents events).sentOn streamId ∧
        FitsWindow streamId events event) := by
  rw [sentOn_concat]
  cases event with
  | frame frame =>
      by_cases own : frame.streamId = streamId
      · have ownEvent : (Http2Event.frame frame).streamId = streamId := own
        rw [if_pos ownEvent]
        rcases sum_dataSize_step_frame ((afterEvents events).viewAt streamId) frame with
          ⟨completes, size_eq⟩ | ⟨incomplete, size_eq⟩
        · left
          have message :
              frame.type = .headers ∨ frame.type = .data ∨ frame.type = .continuation := by
            rcases completes with ⟨type, _⟩ | ⟨type, _⟩ | ⟨type, _⟩ <;> simp [type]
          refine ⟨_, congrArg _ size_eq, ?_, ?_, ?_⟩
          · rcases message with type | type | type <;>
              simp +decide [Http2Event.credit, increment, type]
          · rcases message with type | type | type <;>
              simp +decide [Http2Event.Announces, announcesWindow, type]
          · simp only [FitsWindow, own, completes, true_implies]
        · right
          refine ⟨by rw [size_eq, Nat.add_zero], ?_⟩
          intro _ completes
          exact absurd completes incomplete
      · right
        have otherEvent : ¬ (Http2Event.frame frame).streamId = streamId := own
        refine ⟨by rw [if_neg otherEvent, Nat.add_zero], ?_⟩
        intro same
        exact absurd same own
  | sendResponse bytes =>
      by_cases own : streamId = 1
      · left
        have ownEvent : (Http2Event.sendResponse bytes).streamId = streamId := own.symm
        refine ⟨bytes.length, ?_, rfl, not_false, ?_⟩
        · rw [if_pos ownEvent]
          exact congrArg _ (sum_dataSize_bodyFrames _ bytes)
        · simp only [FitsWindow, own, true_implies]
      · right
        have otherEvent : ¬ (Http2Event.sendResponse bytes).streamId = streamId := fun same =>
          own same.symm
        refine ⟨by rw [if_neg otherEvent, Nat.add_zero], ?_⟩
        intro same
        exact absurd same own

/-- The step of `flow_control_iff`. -/
theorem withinWindow_concat (streamId : ℕ) (events : List Http2Event) (event : Http2Event) :
    WithinWindow streamId (events ++ [event]) ↔
      WithinWindow streamId events ∧
        (DefaultWindow events → FitsWindow streamId events event) := by
  have credited := credits_concat streamId events event
  constructor
  · intro within
    refine ⟨fun earlier start => within earlier (start.trans (List.prefix_append _ _)), ?_⟩
    intro unchanged
    rcases sentOn_cases streamId events event with ⟨size, sent, noCredit, silent, fits⟩ | ⟨_, fits⟩
    · have bound := within (events ++ [event]) List.prefix_rfl
        ((defaultWindow_concat events event).mpr ⟨unchanged, silent⟩)
      rw [fits]
      omega
    · exact fits
  · rintro ⟨within, fits⟩ earlier start unchanged
    rcases List.prefix_concat_iff.mp start with rfl | start
    · have before := ((defaultWindow_concat events event).mp unchanged).1
      have bound := within events List.prefix_rfl before
      rcases sentOn_cases streamId events event with ⟨size, sent, noCredit, _, fits_iff⟩ | ⟨sent, _⟩
      · have room := fits_iff.mp (fits before)
        omega
      · omega
    · exact within earlier start unchanged

theorem sentOn_nil (streamId : ℕ) : (afterEvents []).sentOn streamId = 0 := by
  rw [sentOn, framesOn, framesWritten_afterEvents]
  apply List.sum_eq_zero
  intro size member
  rcases List.mem_map.mp member with ⟨frame, filtered, rfl⟩
  rw [List.mem_singleton.mp (List.mem_of_mem_filter filtered)]
  rfl

/-- A stream stays within its window exactly if every response on it fits what is left of the
window when it is sent, as long as the peer leaves the initial window at its default. -/
theorem flow_control_iff (streamId : ℕ) (events : List Http2Event) :
    WithinWindow streamId events ↔
      EveryStep (fun before event => DefaultWindow before → FitsWindow streamId before event)
        events := by
  induction events using List.reverseRecOn with
  | nil =>
      refine iff_of_true ?_ everyStep_nil
      intro earlier within _
      have window : http2DefaultInitialWindowSize = 65535 := rfl
      rw [List.prefix_nil.mp within, sentOn_nil]
      omega
  | append_singleton events event ih => rw [withinWindow_concat, everyStep_concat, ih]

end Runs

/-- A body one byte longer than the initial window is echoed at once. -/
theorem flow_control_fails :
    let opening : Http2Frame := ⟨.headers, 4, 1, [0x82], by decide, by decide⟩
    let body : Http2Frame :=
      ⟨.data, 1, 1, List.replicate 65536 0, by decide, by rw [List.length_replicate]; decide⟩
    ¬ WithinWindow 1 [.frame opening, .frame body] := by
  intro opening body within
  have unchanged : DefaultWindow [.frame opening, .frame body] := by
    intro event member
    simp only [List.mem_cons, List.not_mem_nil, or_false] at member
    rcases member with rfl | rfl
    · exact fun announced => absurd announced.1 (by decide)
    · exact fun announced => absurd announced.1 (by decide)
  have bound := within _ List.prefix_rfl unchanged
  have opened : ((afterEvents [.frame opening]).viewAt 1).map StreamView.body = some [] := by
    decide +kernel
  rcases Option.map_eq_some_iff.mp opened with ⟨view, found, empty⟩
  have completes : completesRequest (some view) body := Or.inr (Or.inl ⟨rfl, by decide, rfl⟩)
  have sent : (((StreamView.transducer.step (some view) (.frame body)).2).map dataSize).sum =
      65536 := by
    rcases sum_dataSize_step_frame (some view) body with ⟨_, size_eq⟩ | ⟨incomplete, _⟩
    · have whole : bodyAfter (some view) body = List.replicate 65536 0 := by
        rw [bodyAfter, Option.map_some, empty]
        rfl
      rw [size_eq, whole, replyBody, if_neg (by simp), List.length_replicate]
    · exact absurd completes incomplete
  have total := sentOn_concat 1 [.frame opening] (.frame body)
  have ownEvent : (Http2Event.frame body).streamId = 1 := rfl
  rw [if_pos ownEvent, found, sent] at total
  have noCredit : credits 1 [.frame opening, .frame body] = 0 := rfl
  have window : http2DefaultInitialWindowSize = 65535 := rfl
  simp only [List.singleton_append] at total
  omega

end Http2Handler

end HttpsServerSim
