import HttpsServerSim.Protocol.Http2Isolation

/-!
# The life of a stream

What a stream may say and which way its state may move. Neither is enforced by the
handler: no handler looks whether a response was sent before, and none looks whether
the stream is closed before it assigns `HALF_CLOSED_REMOTE`. Both results therefore
name the steps that must not occur, in terms of the state before the step, and show
that a run keeps the law exactly when none of its steps is such a step.
-/

namespace HttpsServerSim

open Http2Frame

namespace Http2Frame

def endsStream (frame : Http2Frame) : Prop := frame.flags &&& http2FlagEndStream ≠ 0

def endsHeaders (frame : Http2Frame) : Prop := frame.flags &&& http2FlagEndHeaders ≠ 0

instance (frame : Http2Frame) : Decidable frame.endsStream :=
  inferInstanceAs (Decidable (_ ≠ _))

instance (frame : Http2Frame) : Decidable frame.endsHeaders :=
  inferInstanceAs (Decidable (_ ≠ _))

/-- The frames of one response: `HEADERS CONTINUATION* DATA*` or a prefix of that, with nothing
after a frame that ends the stream. -/
structure ResponseGrammar (frames : List Http2Frame) : Prop where
  shape : frames = [] ∨
    ∃ headers continuations data, frames = headers :: (continuations ++ data) ∧
      headers.type = .headers ∧ (∀ frame ∈ continuations, frame.type = .continuation) ∧
      ∀ frame ∈ data, frame.type = .data
  last : ∀ before frame after, frames = before ++ frame :: after → frame.endsStream → after = []

theorem ResponseGrammar.nil : ResponseGrammar [] := by
  refine ⟨Or.inl rfl, ?_⟩
  intro before frame after split
  simp at split

/-- The last frame, and no other, ends the stream. -/
def ClosesAtEnd (frames : List Http2Frame) : Prop :=
  ∃ earlier final, frames = earlier ++ [final] ∧ final.endsStream ∧
    ∀ frame ∈ earlier, ¬ frame.endsStream

theorem ClosesAtEnd.cons {frame : Http2Frame} {frames : List Http2Frame}
    (closes : ClosesAtEnd frames) (continued : ¬ frame.endsStream) :
    ClosesAtEnd (frame :: frames) := by
  rcases closes with ⟨earlier, final, rfl, finalEnds, earlierContinued⟩
  refine ⟨frame :: earlier, final, rfl, finalEnds, ?_⟩
  intro other member
  rcases List.mem_cons.mp member with rfl | later
  · exact continued
  · exact earlierContinued other later

theorem ClosesAtEnd.ne_nil {frames : List Http2Frame} (closes : ClosesAtEnd frames) :
    frames ≠ [] := by
  rcases closes with ⟨earlier, final, rfl, _⟩
  simp

theorem ClosesAtEnd.after_eq_nil {frames before after : List Http2Frame} {frame : Http2Frame}
    (closes : ClosesAtEnd frames) (split : frames = before ++ frame :: after)
    (ends : frame.endsStream) : after = [] := by
  rcases closes with ⟨earlier, final, rfl, finalEnds, earlierContinued⟩
  rcases List.eq_nil_or_concat after with rfl | ⟨middle, trailing, rfl⟩
  · rfl
  · have regrouped : earlier ++ [final] = (before ++ frame :: middle) ++ [trailing] := by
      simpa using split
    have member : frame ∈ earlier := by
      rw [(List.append_inj' regrouped rfl).1]
      simp
    exact absurd ends (earlierContinued frame member)

/-- The last frame, if there is one, ends the stream. -/
def Ended (frames : List Http2Frame) : Prop :=
  ∀ earlier final, frames = earlier ++ [final] → final.endsStream

theorem ClosesAtEnd.ended_append {frames : List Http2Frame} (closes : ClosesAtEnd frames)
    (said : List Http2Frame) : Ended (said ++ frames) := by
  rcases closes with ⟨earlier, final, rfl, finalEnds, earlierContinued⟩
  intro before last split
  rw [← List.append_assoc] at split
  rcases List.append_inj' split rfl with ⟨_, same⟩
  cases same
  exact finalEnds

/-- A stream that has been ended must not say anything more. -/
theorem Ended.grammar_append_iff {said more : List Http2Frame} (ended : Ended said)
    (nonempty : more ≠ []) :
    ResponseGrammar (said ++ more) ↔ said = [] ∧ ResponseGrammar more := by
  constructor
  · intro grammar
    rcases List.eq_nil_or_concat said with rfl | ⟨earlier, final, rfl⟩
    · exact ⟨rfl, grammar⟩
    · have more_eq := grammar.last earlier final more (by simp)
        (ended earlier final (by simp))
      exact absurd more_eq nonempty
  · rintro ⟨rfl, grammar⟩
    exact grammar

/-! ## The frames of a response -/

section Data

variable {limit : ℕ} {limitLt : limit < 2 ^ 24} {streamId : ℕ} {idLt : streamId < 2 ^ 31}

theorem dataFrames_closesAtEnd (positive : 0 < limit) {fuel : ℕ} {rest : Bytes}
    (nonempty : rest ≠ []) (enough : rest.length ≤ fuel) :
    ClosesAtEnd (dataFrames limit limitLt streamId idLt true fuel rest) := by
  induction fuel generalizing rest with
  | zero =>
      exact absurd (List.length_eq_zero_iff.mp (Nat.le_zero.mp enough)) nonempty
  | succ fuel ih =>
      have lengthPos := List.length_pos_iff.mpr nonempty
      simp only [dataFrames, List.isEmpty_iff, nonempty, if_false]
      by_cases fits : rest.length ≤ limit
      · have chunkEq : min rest.length limit = rest.length := Nat.min_eq_left fits
        have nothingLeft : dataFrames limit limitLt streamId idLt true fuel [] = [] := by
          cases fuel <;> rfl
        rw [chunkEq, List.drop_length, nothingLeft]
        refine ⟨[], _, rfl, ?_, by simp⟩
        simp only [endsStream, dataFrame, chunkEq, and_self, if_true]
        decide
      · have chunkEq : min rest.length limit = limit := by omega
        have restNonempty : rest.drop limit ≠ [] := by
          rw [← List.length_pos_iff, List.length_drop]
          omega
        have restEnough : (rest.drop limit).length ≤ fuel := by
          rw [List.length_drop]
          omega
        rw [chunkEq]
        apply (ih restNonempty restEnough).cons
        have cutShort : ¬ limit = rest.length := by omega
        simp [endsStream, dataFrame, chunkEq, cutShort]

theorem bodyFrames_closesAtEnd {bytes : Bytes} (nonempty : bytes ≠ []) :
    ClosesAtEnd (bodyFrames streamId idLt bytes) :=
  dataFrames_closesAtEnd (by decide) nonempty le_rfl

end Data

theorem replyBody_ne_nil (body : Bytes) : Http2Handler.replyBody body ≠ [] := by
  unfold Http2Handler.replyBody
  split_ifs with empty
  · decide
  · simpa using empty

theorem replyFrames_closesAtEnd {streamId : ℕ} (idLt : streamId < 2 ^ 31) (body : Bytes) :
    ClosesAtEnd (replyFrames streamId idLt body) := by
  apply (bodyFrames_closesAtEnd (replyBody_ne_nil body)).cons
  have unset : http2FlagEndHeaders &&& http2FlagEndStream = 0 := by decide
  intro ends
  exact ends unset

theorem bodyFrames_not_grammar {streamId : ℕ} (idLt : streamId < 2 ^ 31) {bytes : Bytes}
    (nonempty : bytes ≠ []) : ¬ ResponseGrammar (bodyFrames streamId idLt bytes) := by
  intro grammar
  rcases grammar.shape with empty | ⟨headers, continuations, data, split, typeEq, _⟩
  · exact (bodyFrames_closesAtEnd nonempty).ne_nil empty
  · have member : headers ∈ bodyFrames streamId idLt bytes := by
      rw [split]
      exact List.mem_cons_self
    have isData := (message_of_mem_dataFrames member).2
    rw [typeEq] at isData
    exact absurd isData (by decide)

theorem replyFrames_grammar {streamId : ℕ} (idLt : streamId < 2 ^ 31) (body : Bytes) :
    ResponseGrammar (replyFrames streamId idLt body) := by
  refine ⟨Or.inr ⟨_, [], _, rfl, rfl, by simp, ?_⟩, ?_⟩
  · intro frame member
    exact (message_of_mem_dataFrames member).2
  · intro before frame after split ends
    exact (replyFrames_closesAtEnd idLt body).after_eq_nil split ends

end Http2Frame

namespace StreamView

variable [WideShift]

/-- A step of a stream says nothing, or something that ends the stream. -/
theorem step_closesAtEnd (view : Option StreamView) (event : Http2Event) :
    (transducer.step view event).2 = [] ∨ ClosesAtEnd (transducer.step view event).2 := by
  cases event with
  | frame received =>
      simp only [transducer, answer]
      split_ifs with due
      · right
        exact replyFrames_closesAtEnd _ _
      · left
        rfl
  | sendResponse bytes =>
      by_cases empty : bytes = []
      · left
        rw [empty]
        rfl
      · right
        exact bodyFrames_closesAtEnd empty

/-- The frames that make `handle_complete_request` run, in terms of the stream they find. -/
def completesRequest (view : Option StreamView) (frame : Http2Frame) : Prop :=
  (frame.type = .headers ∧ frame.endsHeaders ∧ frame.endsStream ∧
      (decodeBlock frame.payload).isSome) ∨
    (frame.type = .data ∧ frame.endsStream ∧ view.isSome) ∨
    (frame.type = .continuation ∧ frame.endsHeaders ∧ (decodeBlock frame.payload).isSome ∧
      view.map state = some .halfClosedRemote)

theorem completesRequest_iff (view : Option StreamView) (frame : Http2Frame) :
    completesRequest view frame ↔ (onFrame view frame).2 = true := by
  unfold completesRequest onFrame
  by_cases headers : frame.type = .headers
  · simp +decide only [headers, true_and, false_and, or_false, if_true, onHeaders]
    cases decodeBlock frame.payload with
    | none => simp
    | some fields =>
        simp only [Option.isSome_some, and_true]
        split_ifs with complete
        · exact iff_of_true complete rfl
        · exact iff_of_false complete not_false
  by_cases data : frame.type = .data
  · simp +decide only [data, true_and, false_and, false_or, or_false, if_true, if_false, onData]
    cases view with
    | none => simp
    | some view =>
        simp only [Option.isSome_some, and_true]
        split_ifs with complete
        · exact iff_of_true complete rfl
        · exact iff_of_false complete not_false
  by_cases continuation : frame.type = .continuation
  · simp +decide only [continuation, true_and, false_and, false_or, if_true, if_false,
      onContinuation]
    cases view with
    | none => simp
    | some view =>
        cases decodeBlock frame.payload with
        | none => simp
        | some fields => simp [endsHeaders]
  · simp only [headers, data, continuation, false_and, or_false, if_false]
    split_ifs <;> simp

end StreamView

namespace Http2Handler

open StreamView

/-! ## One response on each stream -/

section Runs

variable [WideShift]

/-- An event that lets the stream answer for the first time, or not at all. -/
def FirstResponse (streamId : ℕ) (handler : Http2Handler PlainTls) : Http2Event → Prop
  | .frame frame =>
      frame.streamId = streamId → completesRequest (handler.viewAt streamId) frame →
        handler.framesOn streamId = []
  | .sendResponse bytes => streamId = 1 → bytes = []

theorem messagesOn_ended (streamId : ℕ) (events : List Http2Event) :
    Ended ((afterEvents events).messagesOn streamId) := by
  induction events using List.reverseRecOn with
  | nil =>
      rw [(run_stream streamId []).2]
      intro earlier final split
      simp [streamRun, Transducer.run] at split
  | append_singleton events event ih =>
      rw [messagesOn_concat]
      split_ifs with own
      · rcases step_closesAtEnd ((afterEvents events).viewAt streamId) event with silent | closes
        · rw [silent, List.append_nil]
          exact ih
        · exact closes.ended_append _
      · rw [List.append_nil]
        exact ih

/-- The step of `output_grammar_iff`. -/
theorem grammar_concat_iff {streamId : ℕ} (events : List Http2Event) (event : Http2Event)
    (positive : streamId ≠ 0) :
    ResponseGrammar ((afterEvents (events ++ [event])).framesOn streamId) ↔
      ResponseGrammar ((afterEvents events).framesOn streamId) ∧
        (afterEvents events).FirstResponse streamId event := by
  have ended := messagesOn_ended streamId events
  rw [framesOn_afterEvents positive, framesOn_afterEvents positive, messagesOn_concat]
  cases event with
  | frame received =>
      simp only [FirstResponse, framesOn_afterEvents positive, completesRequest_iff]
      by_cases own : received.streamId = streamId
      · have ownEvent : (Http2Event.frame received).streamId = streamId := own
        simp only [ownEvent, own, if_true, true_implies, transducer, answer]
        split_ifs with due
        · simp only [due, true_implies]
          rw [ended.grammar_append_iff (replyFrames_closesAtEnd _ _).ne_nil]
          constructor
          · rintro ⟨silent, _⟩
            rw [silent]
            exact ⟨ResponseGrammar.nil, rfl⟩
          · rintro ⟨_, silent⟩
            exact ⟨silent, replyFrames_grammar _ _⟩
        · simp [due]
      · have otherEvent : ¬ (Http2Event.frame received).streamId = streamId := own
        simp [otherEvent, own]
  | sendResponse bytes =>
      simp only [FirstResponse]
      by_cases own : streamId = 1
      · subst own
        have ownEvent : (Http2Event.sendResponse bytes).streamId = 1 := rfl
        simp only [ownEvent, if_true, true_implies, transducer]
        by_cases empty : bytes = []
        · subst empty
          have silent : bodyFrames 1 (by decide) [] = [] := rfl
          rw [silent, List.append_nil]
          simp
        · rw [ended.grammar_append_iff (bodyFrames_closesAtEnd empty).ne_nil]
          exact iff_of_false (fun both => bodyFrames_not_grammar _ empty both.2)
            (fun both => empty both.2)
      · have otherEvent : ¬ (Http2Event.sendResponse bytes).streamId = streamId := fun same =>
          own same.symm
        simp [otherEvent, own]

/-- A stream keeps to the grammar of one response exactly if no step lets it answer twice, or lets
the application speak on it. -/
theorem output_grammar_iff (events : List Http2Event) {streamId : ℕ} (positive : streamId ≠ 0) :
    ResponseGrammar ((afterEvents events).framesOn streamId) ↔
      EveryStep (fun before event => (afterEvents before).FirstResponse streamId event)
        events := by
  induction events using List.reverseRecOn with
  | nil =>
      rw [framesOn_afterEvents positive, (run_stream streamId []).2]
      exact iff_of_true ResponseGrammar.nil everyStep_nil
  | append_singleton events event ih =>
      rw [grammar_concat_iff events event positive, everyStep_concat, ih]

end Runs

/-- The application's first response on a fresh connection is a `DATA` frame without `HEADERS`;
a second `DATA` frame with `END_STREAM` is answered like the first. -/
theorem output_grammar_fails :
    let opening : Http2Frame := ⟨.headers, 4, 3, [0x82], by decide, by decide⟩
    let ending : Http2Frame := ⟨.data, 1, 3, [], by decide, by decide⟩
    ¬ ResponseGrammar ((afterEvents [.sendResponse [104, 105]]).framesOn 1) ∧
      ¬ ResponseGrammar ((afterEvents [.frame opening, .frame ending, .frame ending]).framesOn
        3) := by
  refine ⟨?_, ?_⟩
  · have written : (afterEvents [.sendResponse [104, 105]]).framesOn 1 =
        bodyFrames 1 (by decide) [104, 105] := by decide +kernel
    rw [written]
    exact bodyFrames_not_grammar _ (by decide)
  · have written : (afterEvents [.frame ⟨.headers, 4, 3, [0x82], by decide, by decide⟩,
        .frame ⟨.data, 1, 3, [], by decide, by decide⟩,
        .frame ⟨.data, 1, 3, [], by decide, by decide⟩]).framesOn 3 =
          replyFrames 3 (by decide) [] ++ replyFrames 3 (by decide) [] := by decide +kernel
    rw [written, Ended.grammar_append_iff]
    · rintro ⟨silent, _⟩
      exact (replyFrames_closesAtEnd _ _).ne_nil silent
    · exact (replyFrames_closesAtEnd _ _).ended_append []
    · exact (replyFrames_closesAtEnd _ _).ne_nil

/-- A request with its end in one frame, and nothing else. -/
theorem output_grammar_one_request :
    ResponseGrammar ((afterEvents
      [.frame ⟨.headers, 5, 1, [0x82], by decide, by decide⟩]).framesOn 1) := by
  refine (output_grammar_iff _ (by decide)).mpr ?_
  intro before event after split
  rcases List.cons_eq_append_iff.mp split with ⟨rfl, same⟩ | ⟨rest, rfl, empty⟩
  · cases same
    intro _ _
    decide +kernel
  · simp at empty

end Http2Handler

/-! ## The direction of a stream's state -/

/-- The place of a state in its enumeration. Nothing assigns `halfClosedLocal`. -/
def Http2StreamState.rank : Http2StreamState → ℕ
  | .idle => 0
  | .open => 1
  | .halfClosedLocal => 2
  | .halfClosedRemote => 3
  | .closed => 4

theorem Http2StreamState.rank_le_closed (state : Http2StreamState) : state.rank ≤ closed.rank := by
  cases state <;> decide

theorem Http2StreamState.rank_le_halfClosedRemote {state : Http2StreamState}
    (notClosed : state ≠ .closed) : state.rank ≤ halfClosedRemote.rank := by
  cases state <;> simp_all [rank]

theorem Http2StreamState.eq_closed_of_rank_le {state : Http2StreamState}
    (le : closed.rank ≤ state.rank) : state = .closed := by
  cases state <;> simp_all [rank]

namespace StreamView

variable [WideShift]

/-- The frames that assign `HALF_CLOSED_REMOTE` to a closed stream. -/
def reopens (view : Option StreamView) (frame : Http2Frame) : Prop :=
  view.map state = some .closed ∧
    ((frame.type = .data ∧ frame.endsStream) ∨
      (frame.type = .headers ∧ frame.endsHeaders ∧ frame.endsStream ∧
        (decodeBlock frame.payload).isSome))

theorem onFrame_of_reopens {view : Option StreamView} {frame : Http2Frame}
    (reopening : reopens view frame) :
    (onFrame view frame).1.map state = some .halfClosedRemote := by
  rcases reopening with ⟨closed, ⟨data, ends⟩ | ⟨headers, endsHeaders, ends, decodes⟩⟩
  · cases view with
    | none => simp at closed
    | some view =>
        simp only [endsStream] at ends
        simp +decide [onFrame, onData, data, ends]
  · rcases Option.isSome_iff_exists.mp decodes with ⟨fields, decodes⟩
    simp only [Http2Frame.endsStream, Http2Frame.endsHeaders] at ends endsHeaders
    simp +decide [onFrame, onHeaders, headers, decodes, ends, endsHeaders]

/-- Every other frame moves the state forward, and gets no answer from a closed stream. -/
theorem onFrame_forward {view : StreamView} {frame : Http2Frame}
    (harmless : ¬ reopens (some view) frame) :
    ∃ next, (onFrame (some view) frame).1 = some next ∧ view.state.rank ≤ next.state.rank ∧
      (view.state = .closed → (onFrame (some view) frame).2 = false) := by
  have openedRank : view.state.rank ≤ (opened (some view)).state.rank := by
    simp only [opened, Option.getD_some]
    split_ifs with idle
    · simp [idle, Http2StreamState.rank]
    · exact le_rfl
  by_cases headers : frame.type = .headers
  · simp only [onFrame, headers, if_true, onHeaders]
    cases decodes : decodeBlock frame.payload with
    | none => exact ⟨_, rfl, openedRank, fun _ => rfl⟩
    | some fields =>
        split_ifs with complete
        · have notClosed : view.state ≠ .closed := by
            intro closed
            apply harmless
            refine ⟨by simp [closed], Or.inr ⟨headers, complete.1, complete.2, ?_⟩⟩
            simp [decodes]
          refine ⟨_, rfl, ?_, fun closed => absurd closed notClosed⟩
          exact Http2StreamState.rank_le_halfClosedRemote notClosed
        · exact ⟨_, rfl, openedRank, fun _ => rfl⟩
  by_cases data : frame.type = .data
  · simp +decide only [onFrame, data, if_true, if_false, onData]
    split_ifs with ends
    · have notClosed : view.state ≠ .closed := by
        intro closed
        apply harmless
        exact ⟨by simp [closed], Or.inl ⟨data, ends⟩⟩
      refine ⟨_, rfl, ?_, fun closed => absurd closed notClosed⟩
      exact Http2StreamState.rank_le_halfClosedRemote notClosed
    · exact ⟨_, rfl, le_rfl, fun _ => rfl⟩
  by_cases continuation : frame.type = .continuation
  · simp +decide only [onFrame, continuation, if_true, if_false, onContinuation]
    cases decodeBlock frame.payload with
    | none => exact ⟨view, rfl, le_rfl, fun _ => rfl⟩
    | some fields =>
        refine ⟨_, rfl, le_rfl, ?_⟩
        intro closed
        simp [closed]
  · simp only [onFrame, headers, data, continuation, if_false]
    split_ifs with reset
    · exact ⟨_, rfl, view.state.rank_le_closed, fun _ => rfl⟩
    · exact ⟨view, rfl, le_rfl, fun _ => rfl⟩

end StreamView

namespace Http2Handler

open StreamView

section Runs

variable [WideShift]

/-- From `before` to `after` the stream moved forward, and said nothing if it was closed. -/
def Forward (streamId : ℕ) (before after : Http2Handler PlainTls) : Prop :=
  ∀ view, before.viewAt streamId = some view →
    ∃ next, after.viewAt streamId = some next ∧ view.state.rank ≤ next.state.rank ∧
      (view.state = .closed →
        next.state = .closed ∧ after.messagesOn streamId = before.messagesOn streamId)

/-- Between any two points of a run every stream moved forward. -/
def ForwardOnly (frames : List Http2Frame) : Prop :=
  ∀ earlier later, earlier <+: later → later <+: frames →
    ∀ streamId, Forward streamId (afterEvents (earlier.map .frame))
      (afterEvents (later.map .frame))

omit [WideShift] in
theorem Forward.refl (streamId : ℕ) (handler : Http2Handler PlainTls) :
    Forward streamId handler handler := by
  intro view found
  refine ⟨view, found, le_rfl, ?_⟩
  intro closed
  exact ⟨closed, rfl⟩

omit [WideShift] in
theorem Forward.trans {streamId : ℕ} {first second third : Http2Handler PlainTls}
    (start : Forward streamId first second) (finish : Forward streamId second third) :
    Forward streamId first third := by
  intro view found
  rcases start view found with ⟨middle, foundMiddle, rankMiddle, closedMiddle⟩
  rcases finish middle foundMiddle with ⟨last, foundLast, rankLast, closedLast⟩
  refine ⟨last, foundLast, rankMiddle.trans rankLast, ?_⟩
  intro closed
  rcases closedMiddle closed with ⟨middleClosed, middleSilent⟩
  rcases closedLast middleClosed with ⟨lastClosed, lastSilent⟩
  exact ⟨lastClosed, lastSilent.trans middleSilent⟩

theorem forward_step (streamId : ℕ) (frames : List Http2Frame) (frame : Http2Frame)
    (harmless : ¬ reopens ((afterEvents (frames.map .frame)).viewAt frame.streamId) frame) :
    Forward streamId (afterEvents (frames.map .frame))
      (afterEvents ((frames ++ [frame]).map .frame)) := by
  rw [List.map_append, List.map_singleton]
  intro view found
  by_cases own : (Http2Event.frame frame).streamId = streamId
  · have onStream : frame.streamId = streamId := own
    rw [onStream, found] at harmless
    rcases onFrame_forward harmless with ⟨next, stepped, rankLe, silent⟩
    rw [viewAt_concat, messagesOn_concat, if_pos own, if_pos own, found]
    refine ⟨next, stepped, rankLe, ?_⟩
    intro closed
    rw [closed] at rankLe
    refine ⟨Http2StreamState.eq_closed_of_rank_le rankLe, ?_⟩
    simp [transducer, answer, silent closed]
  · rw [viewAt_concat, messagesOn_concat, if_neg own, if_neg own, List.append_nil]
    exact Forward.refl streamId _ view found

theorem forward_append {frames more : List Http2Frame}
    (harmless : EveryStep (fun before frame =>
      ¬ reopens ((afterEvents (before.map .frame)).viewAt frame.streamId) frame)
        (frames ++ more)) (streamId : ℕ) :
    Forward streamId (afterEvents (frames.map .frame))
      (afterEvents ((frames ++ more).map .frame)) := by
  induction more using List.reverseRecOn with
  | nil =>
      rw [List.append_nil]
      exact Forward.refl streamId _
  | append_singleton more frame ih =>
      rw [← List.append_assoc] at harmless ⊢
      rcases everyStep_concat.mp harmless with ⟨earlier, last⟩
      exact (ih earlier).trans (forward_step streamId (frames ++ more) frame last)

/-- Stream states move forward only, and a closed stream stays closed and silent, exactly if no
frame of the run reopens a closed stream. -/
theorem states_forward_iff (frames : List Http2Frame) :
    ForwardOnly frames ↔
      EveryStep (fun before frame =>
        ¬ reopens ((afterEvents (before.map .frame)).viewAt frame.streamId) frame) frames := by
  constructor
  · intro forward before frame after split reopening
    have reopened := onFrame_of_reopens reopening
    have within : before ++ [frame] <+: frames := ⟨after, by simp [split]⟩
    have stepForward := forward before (before ++ [frame]) (List.prefix_append _ _) within
      frame.streamId
    rcases Option.map_eq_some_iff.mp reopening.1 with ⟨view, found, closed⟩
    rcases stepForward view found with ⟨next, foundNext, _, staysClosed⟩
    have own : (Http2Event.frame frame).streamId = frame.streamId := rfl
    rw [List.map_append, List.map_singleton, viewAt_concat, if_pos own] at foundNext
    rw [show (onFrame _ frame).1 = some next from foundNext, Option.map_some,
      (staysClosed closed).1] at reopened
    simp at reopened
  · intro harmless earlier later between within streamId
    rcases between with ⟨more, rfl⟩
    apply forward_append
    intro before frame after split
    rcases within with ⟨rest, rfl⟩
    apply harmless before frame (after ++ rest)
    rw [split]
    simp

end Runs

/-- A `DATA` frame with `END_STREAM` that was in flight when the stream was reset. -/
theorem states_forward_fails :
    let opening : Http2Frame := ⟨.headers, 4, 1, [0x82], by decide, by decide⟩
    let reset : Http2Frame := ⟨.rstStream, 0, 1, [0, 0, 0, 8], by decide, by decide⟩
    let late : Http2Frame := ⟨.data, 1, 1, [104, 105], by decide, by decide⟩
    ¬ ForwardOnly [opening, reset, late] := by
  intro opening reset late forward
  have resetState : ((afterEvents ([opening, reset].map .frame)).viewAt 1).map StreamView.state =
      some .closed := by decide +kernel
  have lateState : ((afterEvents ([opening, reset, late].map .frame)).viewAt 1).map
      StreamView.state = some .halfClosedRemote := by decide +kernel
  rcases Option.map_eq_some_iff.mp resetState with ⟨view, found, closed⟩
  rcases forward [opening, reset] [opening, reset, late] ⟨[late], rfl⟩ List.prefix_rfl 1 view
    found with ⟨next, foundNext, _, staysClosed⟩
  rw [foundNext, Option.map_some, (staysClosed closed).1] at lateState
  simp at lateState

end Http2Handler

end HttpsServerSim
