import HttpsServerSim.Lib.Saturation
import HttpsServerSim.Protocol.Http2FlowControl
import HttpsServerSim.Protocol.Http2Session
import Mathlib.Algebra.BigOperators.Ring.Finset

/-!
# Send windows

A stream starts with the default window, and every `WINDOW_UPDATE` frame for it, or for
stream 0, adds its increment and stops at the largest window. Over any TLS layer and any
use of the handler the window is therefore one cut-off sum, in whatever order the
frames came (`sendWindow_spec`).
-/

namespace HttpsServerSim

universe u

/-- `MAX_WINDOW`. -/
def http2MaxWindow : ℤ := 0x7FFFFFFF

namespace Http2Frame

/-- A frame that makes `get_or_create_stream` look for the stream. -/
def Opens (streamId : ℕ) (frame : Http2Frame) : Prop :=
  frame.type = .headers ∧ frame.streamId = streamId

instance (streamId : ℕ) (frame : Http2Frame) : Decidable (frame.Opens streamId) :=
  inferInstanceAs (Decidable (_ ∧ _))

/-- What a frame adds to the window of a stream, if it is addressed to the stream or to stream 0 and
the increment is not zero. -/
def creditTo (streamId : ℕ) (frame : Http2Frame) : Option ℕ :=
  if (frame.streamId = streamId ∨ frame.streamId = 0) ∧ frame.increment ≠ 0 then
    some frame.increment
  else none

def creditsTo (streamId : ℕ) (frames : List Http2Frame) : List ℕ :=
  frames.filterMap (creditTo streamId)

/-- The frames after the first one that opens the stream. -/
def sinceOpened (streamId : ℕ) : List Http2Frame → Option (List Http2Frame)
  | [] => none
  | frame :: later => if frame.Opens streamId then some later else sinceOpened streamId later

/-- The window after the given credits. -/
def topUp (window : ℤ) (credits : List ℕ) : ℤ :=
  credits.foldl (fun (window : ℤ) (credit : ℕ) => Saturation.add http2MaxWindow window credit)
    window

/-- What a frame does to the window of a stream; a stream that is not in the table has none. -/
def windowAfter (streamId : ℕ) (frame : Http2Frame) : Option ℤ → Option ℤ
  | none => if frame.Opens streamId then some http2DefaultInitialWindowSize else none
  | some window => some (topUp window (creditsTo streamId [frame]))

theorem creditsTo_of_increment_eq_zero {frame : Http2Frame} (nothing : frame.increment = 0)
    (streamId : ℕ) : creditsTo streamId [frame] = [] := by
  simp [creditsTo, creditTo, nothing]

theorem increment_of_not_windowUpdate {frame : Http2Frame} (other : frame.type ≠ .windowUpdate) :
    frame.increment = 0 :=
  if_neg fun update => other update.1

theorem increment_le (frame : Http2Frame) : frame.increment ≤ 0x7FFFFFFF := by
  have cut : BigEndian.decode (frame.payload.take 4) % 2 ^ 31 < 2 ^ 31 :=
    Nat.mod_lt _ (by decide)
  simp only [increment]
  split_ifs <;> omega

/-- A frame that neither opens the stream nor carries an increment leaves its window alone. -/
theorem windowAfter_quiet {streamId : ℕ} {frame : Http2Frame} (opens : ¬ frame.Opens streamId)
    (nothing : frame.increment = 0) (window : Option ℤ) :
    windowAfter streamId frame window = window := by
  cases window with
  | none => exact if_neg opens
  | some window => rw [windowAfter, creditsTo_of_increment_eq_zero nothing]; rfl

theorem topUp_eq (credits : List ℕ) :
    topUp http2DefaultInitialWindowSize credits =
      min http2MaxWindow (http2DefaultInitialWindowSize + (credits.sum : ℕ)) := by
  have nonneg : ∀ amount ∈ credits.map Nat.cast, (0 : ℤ) ≤ amount := by
    intro amount member
    rcases List.mem_map.mp member with ⟨credit, _, rfl⟩
    exact Int.natCast_nonneg credit
  rw [topUp, ← List.foldl_map, Nat.cast_list_sum]
  exact Saturation.foldl_add nonneg (by decide)

theorem sinceOpened_concat (streamId : ℕ) (frames : List Http2Frame) (frame : Http2Frame) :
    sinceOpened streamId (frames ++ [frame]) =
      match sinceOpened streamId frames with
      | none => if frame.Opens streamId then some [] else none
      | some later => some (later ++ [frame]) := by
  induction frames with
  | nil => rfl
  | cons first frames ih =>
      simp only [List.cons_append, sinceOpened, ih]
      split_ifs <;> rfl

/-- The windows of a run, frame by frame. -/
theorem windowAfter_sinceOpened (streamId : ℕ) (frames : List Http2Frame) (frame : Http2Frame) :
    windowAfter streamId frame ((sinceOpened streamId frames).map fun later =>
        topUp http2DefaultInitialWindowSize (creditsTo streamId later)) =
      (sinceOpened streamId (frames ++ [frame])).map fun later =>
        topUp http2DefaultInitialWindowSize (creditsTo streamId later) := by
  rw [sinceOpened_concat]
  cases sinceOpened streamId frames with
  | none =>
      simp only [Option.map_none, windowAfter]
      split_ifs <;> rfl
  | some later =>
      simp only [Option.map_some, windowAfter, creditsTo, List.filterMap_append, topUp,
        List.foldl_append]

end Http2Frame

namespace Http2Handler

open Http2Frame

/-! ## One frame -/

section Frames

variable {Tls : Type u}

/-- The window of a stream in the table. -/
def window (handler : Http2Handler Tls) (streamId : ℕ) : Option ℤ :=
  handler.streams[streamId]?.map Http2Stream.sendWindow

/-- No window differs. -/
def SameWindows (before after : Http2Handler Tls) : Prop :=
  ∀ streamId, after.window streamId = before.window streamId

theorem SameWindows.trans {first second third : Http2Handler Tls} (left : SameWindows first second)
    (right : SameWindows second third) : SameWindows first third :=
  fun streamId => (right streamId).trans (left streamId)

theorem SameWindows.of_streams {before after : Http2Handler Tls}
    (same : after.streams = before.streams) : SameWindows before after := by
  intro streamId
  rw [window, window, same]

theorem window_insert (handler : Http2Handler Tls) (streamId other : ℕ) (stream : Http2Stream) :
    { handler with streams := handler.streams.insert streamId stream }.window other =
      if streamId = other then some stream.sendWindow else handler.window other := by
  simp only [window, Std.ExtTreeMap.getElem?_insert, compare_eq_iff_eq]
  split_ifs <;> rfl

/-- An entry is replaced by one with its window. -/
theorem sameWindows_insert {handler : Http2Handler Tls} {streamId : ℕ} {stream : Http2Stream}
    (present : handler.window streamId = some stream.sendWindow) :
    SameWindows handler
      { handler with streams := handler.streams.insert streamId stream } := by
  intro other
  rw [window_insert]
  split_ifs with same
  · rw [← same, present]
  · rfl

theorem window_modify (handler : Http2Handler Tls) (streamId other : ℕ)
    (change : Http2Stream → Http2Stream) :
    { handler with streams := handler.streams.modify streamId change }.window other =
      if streamId = other then
        (handler.streams[other]?.map change).map Http2Stream.sendWindow
      else handler.window other := by
  simp only [window, Std.ExtTreeMap.getElem?_modify, compare_eq_iff_eq]
  split_ifs with same
  · rw [same]
  · rfl

theorem handleRstStreamFrame_sameWindows (handler : Http2Handler Tls) (streamId : ℕ) :
    SameWindows handler (handler.handleRstStreamFrame streamId).2 := by
  intro other
  rw [handleRstStreamFrame, window_modify]
  split_ifs
  · rw [Option.map_map]
    rfl
  · rfl

theorem addToWindow_sendWindow (increment : ℕ) (stream : Http2Stream) :
    (addToWindow increment stream).sendWindow =
      Saturation.add http2MaxWindow stream.sendWindow increment :=
  rfl

/-- What `handle_window_update_frame` does to a window when its increment is in range. -/
theorem handleWindowUpdateFrame_window (handler : Http2Handler Tls) (streamId : ℕ)
    {increment : ℕ} (positive : increment ≠ 0) (small : increment ≤ 0x7FFFFFFF) (other : ℕ) :
    (handler.handleWindowUpdateFrame streamId increment).2.window other =
      (handler.window other).map fun window =>
        if streamId = other ∨ streamId = 0 then
          Saturation.add http2MaxWindow window increment
        else window := by
  have valid : ¬ (increment = 0 ∨ 0x7FFFFFFF < increment) := by omega
  rw [handleWindowUpdateFrame, if_neg valid]
  by_cases everyStream : streamId = 0
  · simp only [everyStream, or_true, if_true, window, Std.ExtTreeMap.getElem?_map, Option.map_map]
    rfl
  · rw [if_neg everyStream, window_modify]
    by_cases own : streamId = other
    · simp only [own, true_or, if_true, window, Option.map_map]
      rfl
    · simp only [own, everyStream, or_self, if_false]
      exact Option.map_id'.symm

section Writing

variable [TlsLayer Tls]

theorem handleCompleteRequest_sameWindows (handler : Http2Handler Tls) (stream : Http2Stream) :
    SameWindows handler (handler.handleCompleteRequest stream).2 :=
  .of_streams (handler.handleCompleteRequest_sends stream).streams

theorem handleSettingsFrame_sameWindows (handler : Http2Handler Tls) (payload : Bytes) :
    SameWindows handler (handler.handleSettingsFrame payload).2 := by
  apply SameWindows.of_streams
  simp only [handleSettingsFrame, sendSettingsAck]
  split_ifs
  · rfl
  · rfl
  · exact (writeFrame_sends _ _ _ _ _).streams

theorem handleDataFrame_sameWindows (handler : Http2Handler Tls) (streamId : ℕ) (payload : Bytes)
    (flags : UInt8) : SameWindows handler (handler.handleDataFrame streamId payload flags).2 := by
  simp only [handleDataFrame]
  split
  · exact fun _ => rfl
  · rename_i stream present
    have entry : handler.window streamId = some stream.sendWindow := by rw [window, present]; rfl
    split_ifs
    · refine SameWindows.trans ?_ (handleCompleteRequest_sameWindows _ _)
      exact sameWindows_insert entry
    · exact sameWindows_insert entry

variable [WideShift]

omit [TlsLayer Tls] in
theorem mergeFragment_sameWindows {handler : Http2Handler Tls} {streamId : ℕ}
    {stream : Http2Stream} (present : handler.window streamId = some stream.sendWindow)
    (payload : Bytes) :
    SameWindows handler (handler.mergeFragment streamId stream payload).2.2 ∧
      (handler.mergeFragment streamId stream payload).2.1.sendWindow = stream.sendWindow := by
  simp only [mergeFragment]
  split_ifs
  · exact ⟨fun _ => rfl, rfl⟩
  · exact ⟨sameWindows_insert present, rfl⟩

theorem handleContinuationFrame_sameWindows (handler : Http2Handler Tls) (streamId : ℕ)
    (payload : Bytes) (flags : UInt8) :
    SameWindows handler (handler.handleContinuationFrame streamId payload flags).2 := by
  simp only [handleContinuationFrame]
  split
  · exact fun _ => rfl
  · rename_i stream present
    have entry : handler.window streamId = some stream.sendWindow := by rw [window, present]; rfl
    have merged := (mergeFragment_sameWindows entry payload).1
    split_ifs
    · exact merged
    · exact merged.trans (handleCompleteRequest_sameWindows _ _)
    · exact merged

/-- After a `HEADERS` frame its stream is in the table, with the window it had or the default. -/
theorem handleHeadersFrame_window (handler : Http2Handler Tls) (streamId : ℕ) (payload : Bytes)
    (flags : UInt8) (other : ℕ) :
    (handler.handleHeadersFrame streamId payload flags).2.window other =
      if streamId = other then
        some ((handler.window other).getD http2DefaultInitialWindowSize)
      else handler.window other := by
  simp only [handleHeadersFrame]
  generalize stream_eq : (if (getOrCreateStream handler.streams streamId).state = .idle then
    { getOrCreateStream handler.streams streamId with state := Http2StreamState.open }
    else getOrCreateStream handler.streams streamId) = stream
  have opened : stream.sendWindow =
      (handler.window streamId).getD http2DefaultInitialWindowSize := by
    have kept : stream.sendWindow = (getOrCreateStream handler.streams streamId).sendWindow := by
      rw [← stream_eq]
      split_ifs <;> rfl
    rw [kept, getOrCreateStream, window]
    cases handler.streams[streamId]? <;> rfl
  have present :
      { handler with streams := handler.streams.insert streamId stream }.window streamId =
        some stream.sendWindow := by
    rw [window_insert, if_pos rfl]
  rcases mergeFragment_sameWindows present payload with ⟨merged, sameWindow⟩
  have result : (if streamId = other then
        some ((handler.window other).getD http2DefaultInitialWindowSize)
      else handler.window other) =
      { handler with streams := handler.streams.insert streamId stream }.window other := by
    rw [window_insert, opened]
    split_ifs with own
    · rw [own]
    · rfl
  rw [result]
  split_ifs
  · exact merged other
  · exact merged other
  · refine (handleCompleteRequest_sameWindows _ _ other).trans ?_
    refine Eq.trans (sameWindows_insert ?_ other) (merged other)
    rw [merged streamId, present]
    exact congrArg some sameWindow.symm
  · exact merged other

/-- Only a `HEADERS` frame and a `WINDOW_UPDATE` frame with an increment touch the windows. -/
theorem handleFrame_sameWindows (handler : Http2Handler Tls) {frame : Http2Frame}
    (headers : frame.type ≠ .headers)
    (carried : ¬ (frame.type = .windowUpdate ∧ 4 ≤ frame.payload.length)) :
    SameWindows handler (handler.handleFrame frame).2 := by
  simp only [handleFrame, headers, carried, if_false]
  split_ifs
  · exact handler.handleSettingsFrame_sameWindows _
  · exact handler.handleDataFrame_sameWindows _ _ _
  · exact handler.handleContinuationFrame_sameWindows _ _ _
  · exact handler.handleRstStreamFrame_sameWindows _
  · exact .of_streams (handler.handlePingFrame_sends _).streams
  · exact fun _ => rfl

theorem handleFrame_window_of_carried (handler : Http2Handler Tls) {frame : Http2Frame}
    {streamId : ℕ} (opens : ¬ frame.Opens streamId)
    (carried : frame.type = .windowUpdate ∧ 4 ≤ frame.payload.length) :
    (handler.handleFrame frame).2.window streamId =
      windowAfter streamId frame (handler.window streamId) := by
  have handled : handler.handleFrame frame =
      handler.handleWindowUpdateFrame frame.streamId frame.increment := by
    simp +decide only [handleFrame, increment, carried.1, carried.2, and_self, if_true, if_false]
  rw [handled]
  by_cases nothing : frame.increment = 0
  · rw [windowAfter_quiet opens nothing, handleWindowUpdateFrame, if_pos (Or.inl nothing)]
  · rw [handler.handleWindowUpdateFrame_window _ nothing frame.increment_le]
    cases handler.window streamId with
    | none => exact (if_neg opens).symm
    | some window =>
        simp only [windowAfter, creditsTo, List.filterMap_cons, List.filterMap_nil, creditTo,
          nothing, ne_eq, not_false_eq_true, and_true, Option.map_some]
        split_ifs <;> rfl

/-- A frame acts on every window as its type, its address and its increment say. -/
theorem handleFrame_window (handler : Http2Handler Tls) (frame : Http2Frame) (streamId : ℕ) :
    (handler.handleFrame frame).2.window streamId =
      windowAfter streamId frame (handler.window streamId) := by
  by_cases headers : frame.type = .headers
  · have nothing : frame.increment = 0 := by
      apply increment_of_not_windowUpdate
      rw [headers]
      decide
    have opens : frame.Opens streamId ↔ frame.streamId = streamId := and_iff_right headers
    simp +decide only [handleFrame, headers, if_true, if_false, handleHeadersFrame_window]
    cases handler.window streamId with
    | none => simp only [windowAfter, opens, Option.getD_none]
    | some window =>
        rw [windowAfter, creditsTo_of_increment_eq_zero nothing]
        split_ifs <;> rfl
  · have opens : ¬ frame.Opens streamId := fun opened => headers opened.1
    by_cases carried : frame.type = .windowUpdate ∧ 4 ≤ frame.payload.length
    · exact handleFrame_window_of_carried handler opens carried
    · rw [windowAfter_quiet opens (if_neg carried)]
      exact handleFrame_sameWindows handler headers carried streamId

end Writing

end Frames

/-! ## The computation in 32-bit words -/

/-- `handle_window_update_frame` on one `int32_t send_window`; an overflow has no result. -/
def addToWindow32 (increment : UInt32) (sendWindow : Int32) : Option Int32 :=
  let incr := increment.toInt32
  let maxWin : Int32 := 0x7FFFFFFF
  Saturation.addWords maxWin sendWindow incr

/-- The words hold what the unbounded numbers of the model hold, and nothing overflows. -/
theorem addToWindow32_spec {increment : UInt32} (small : increment.toNat ≤ 0x7FFFFFFF)
    {stream : Http2Stream} {word : Int32} (holds : word.toInt = stream.sendWindow) :
    ∃ after, addToWindow32 increment word = some after ∧
      after.toInt = (addToWindow increment.toNat stream).sendWindow := by
  have same : increment.toInt32.toInt = increment.toNat := by
    have short : 2 * increment.toBitVec.toNat < 2 ^ 32 := by
      rw [UInt32.toNat_toBitVec]
      omega
    exact BitVec.toInt_eq_toNat_of_lt short
  have nonneg : 0 ≤ increment.toInt32.toInt := by
    rw [same]
    exact Int.natCast_nonneg _
  have largest : (0x7FFFFFFF : Int32).toInt = http2MaxWindow := by decide
  have capNonneg : 0 ≤ (0x7FFFFFFF : Int32).toInt := by rw [largest]; decide
  rcases Saturation.addWords_spec capNonneg nonneg with ⟨after, computed, after_eq⟩
  refine ⟨after, computed, ?_⟩
  rw [after_eq, addToWindow_sendWindow, holds, same, largest]

/-! ## Runs -/

/-- What happens to a handler. Between the calls, and in `on_read` before its loop, the TLS layer
and the buffer may change in any way. -/
inductive Move (Tls : Type u) where
  | init (connSet : Bool)
  | refill (tls : Tls) (buffer : Buffer)
  | readFrame
  | sendResponse (bytes : Bytes)
  | close

/-- A handler, and the frames it has handled since its streams were last cleared. -/
structure Tracked (Tls : Type u) where
  handler : Http2Handler Tls
  frames : List Http2Frame

section Runs

variable {Tls : Type u} [TlsLayer Tls] [WideShift]

def Tracked.onMove (run : Tracked Tls) : Move Tls → Tracked Tls
  | .init connSet =>
      let (ret, handler) := run.handler.init connSet
      ⟨handler, if ret = .ok then [] else run.frames⟩
  | .refill tls buffer =>
      { run with handler := { run.handler with tlsHandler := tls, plaintextBuffer := buffer } }
  | .readFrame =>
      let next := (splitFrame run.handler.plaintextBuffer.contents).map Prod.fst
      ⟨run.handler.readFrame.2, run.frames ++ next.toList⟩
  | .sendResponse bytes => { run with handler := (run.handler.sendResponse bytes).2 }
  | .close => ⟨run.handler.close, []⟩

/-- A new handler after the moves. -/
def afterMoves (tls : Tls) (moves : List (Move Tls)) : Tracked Tls :=
  moves.foldl Tracked.onMove ⟨construct tls, []⟩

theorem readFrames_moves (fuel : ℕ) (run : Tracked Tls) :
    ∃ moves : List (Move Tls),
      (moves.foldl Tracked.onMove run).handler = (readFrames fuel run.handler).2 := by
  induction fuel generalizing run with
  | zero => exact ⟨[], rfl⟩
  | succ fuel ih =>
      simp only [readFrames]
      split_ifs
      · exact ⟨[.readFrame], rfl⟩
      · exact ⟨[.readFrame], rfl⟩
      · rcases ih (run.onMove .readFrame) with ⟨moves, reached⟩
        exact ⟨.readFrame :: moves, reached⟩

/-- `on_read` takes what the layer has and then reads frames. -/
theorem onRead_moves (run : Tracked Tls) :
    ∃ moves : List (Move Tls),
      (moves.foldl Tracked.onMove run).handler = run.handler.onRead.2 := by
  let tls := (TlsLayer.read run.handler.tlsHandler tempBufferSize).2.2
  simp only [onRead]
  split_ifs with _ _ nothing
  · exact ⟨[.refill tls run.handler.plaintextBuffer], rfl⟩
  · exact ⟨[.refill tls run.handler.plaintextBuffer], rfl⟩
  · rcases readFrames_moves (run.handler.plaintextBuffer.readableBytes + 1)
      (run.onMove (.refill tls run.handler.plaintextBuffer)) with ⟨moves, reached⟩
    exact ⟨.refill tls run.handler.plaintextBuffer :: moves, reached⟩
  · let filled := (run.handler.plaintextBuffer.write .always
      (TlsLayer.read run.handler.tlsHandler tempBufferSize).2.1).2
    rcases readFrames_moves (filled.readableBytes + 1) (run.onMove (.refill tls filled)) with
      ⟨moves, reached⟩
    exact ⟨.refill tls filled :: moves, reached⟩

/-- The windows of the handler are those of the frames handled. -/
def Tracked.Accounted (run : Tracked Tls) : Prop :=
  ∀ streamId, run.handler.window streamId =
    (sinceOpened streamId run.frames).map fun later =>
      topUp http2DefaultInitialWindowSize (creditsTo streamId later)

theorem Tracked.Accounted.onMove {run : Tracked Tls} (accounted : run.Accounted)
    (move : Move Tls) : (run.onMove move).Accounted := by
  intro streamId
  cases move with
  | init connSet =>
      simp only [Tracked.onMove, Http2Handler.init]
      by_cases failed : (TlsLayer.init run.handler.tlsHandler).1 = .ok
      · simp only [failed, ne_eq, not_true_eq_false, if_false, if_true]
        rw [window, sendSettingsFrame, (writeFrame_sends _ _ _ _ _).streams]
        rfl
      · simp only [failed, ne_eq, not_false_eq_true, if_true, if_false]
        exact accounted streamId
  | refill tls buffer => exact accounted streamId
  | readFrame =>
      simp only [Tracked.onMove, Http2Handler.readFrame]
      cases splitFrame run.handler.plaintextBuffer.contents with
      | none =>
          simp only [Option.map_none, Option.toList_none, List.append_nil]
          exact accounted streamId
      | some found =>
          rcases found with ⟨frame, rest⟩
          simp only [Option.map_some, Option.toList_some]
          rw [← windowAfter_sinceOpened, ← accounted streamId]
          exact handleFrame_window
            { run.handler with
              plaintextBuffer := run.handler.plaintextBuffer.skip http2FrameHeaderSize }
            frame streamId
  | sendResponse bytes =>
      have same : SameWindows run.handler (run.handler.sendResponse bytes).2 :=
        .of_streams (run.handler.sendDataFrame_sends 1 bytes true).streams
      exact (same streamId).trans (accounted streamId)
  | close => rfl

theorem accounted_afterMoves (tls : Tls) (moves : List (Move Tls)) :
    (afterMoves tls moves).Accounted := by
  induction moves using List.reverseRecOn with
  | nil => exact fun _ => rfl
  | append_singleton moves move ih =>
      rw [afterMoves, List.foldl_concat]
      exact ih.onMove move

/-- The window is the default and all the credits, cut off at the largest window. -/
theorem window_afterMoves (tls : Tls) (moves : List (Move Tls)) (streamId : ℕ) :
    (afterMoves tls moves).handler.window streamId =
      (sinceOpened streamId (afterMoves tls moves).frames).map fun later =>
        min (2 ^ 31 - 1) (65535 + ((creditsTo streamId later).sum : ℤ)) := by
  rw [accounted_afterMoves tls moves streamId]
  apply Option.map_congr
  intro later _
  exact topUp_eq (creditsTo streamId later)

/-- The window of a stream fits an `int32_t`. -/
theorem exists_word {tls : Tls} {moves : List (Move Tls)} {streamId : ℕ} {stream : Http2Stream}
    (present : (afterMoves tls moves).handler.streams[streamId]? = some stream) :
    ∃ word : Int32, word.toInt = stream.sendWindow := by
  have held : (afterMoves tls moves).handler.window streamId = some stream.sendWindow := by
    rw [window, present]
    rfl
  rw [window_afterMoves] at held
  rcases Option.map_eq_some_iff.mp held with ⟨later, _, window_eq⟩
  refine ⟨Int32.ofInt stream.sendWindow, Int32.toInt_ofInt_of_le ?_ ?_⟩
  · omega
  · omega

/-- In every run, a stream in the table has the default window and the non-zero increments of the
frames for it or for stream 0 since its first `HEADERS` frame, cut off at the largest window; no
further frame can make the computation overflow; and any run in which the same increments
came, in any order, has the same window. -/
theorem sendWindow_spec (tls : Tls) (moves : List (Move Tls)) (streamId : ℕ) :
    (afterMoves tls moves).handler.window streamId =
        (sinceOpened streamId (afterMoves tls moves).frames).map (fun later =>
          min (2 ^ 31 - 1) (65535 + ((creditsTo streamId later).sum : ℤ))) ∧
      (∀ stream, (afterMoves tls moves).handler.streams[streamId]? = some stream →
        ∀ increment : UInt32, increment.toNat ≤ 0x7FFFFFFF →
          ∃ word after, word.toInt = stream.sendWindow ∧
            addToWindow32 increment word = some after ∧
            after.toInt = (addToWindow increment.toNat stream).sendWindow) ∧
      ∀ (other : Tls) (otherMoves : List (Move Tls)) (later otherLater : List Http2Frame),
        sinceOpened streamId (afterMoves tls moves).frames = some later →
        sinceOpened streamId (afterMoves other otherMoves).frames = some otherLater →
        (creditsTo streamId later).Perm (creditsTo streamId otherLater) →
        (afterMoves other otherMoves).handler.window streamId =
          (afterMoves tls moves).handler.window streamId := by
  refine ⟨window_afterMoves tls moves streamId, ?_, ?_⟩
  · intro stream present increment small
    rcases exists_word present with ⟨word, holds⟩
    rcases addToWindow32_spec small holds with ⟨after, computed, after_eq⟩
    exact ⟨word, after, holds, computed, after_eq⟩
  · intro other otherMoves later otherLater opened otherOpened reordered
    rw [window_afterMoves, window_afterMoves, opened, otherOpened, Option.map_some,
      Option.map_some, reordered.sum_eq]

end Runs

end Http2Handler

end HttpsServerSim
