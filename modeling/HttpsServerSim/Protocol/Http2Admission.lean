import HttpsServerSim.Protocol.Http2Acks
import HttpsServerSim.Protocol.Http2Lifecycle
import Mathlib.Algebra.Group.Nat.Even
import Mathlib.Data.Finset.Card

/-!
# Admission of streams

A client opens streams with odd and increasing ids, no more than the limit that was
advertised to it, and none after it has said goodbye. `get_or_create_stream` is where
a stream is born and checks none of this. A run keeps the rules exactly if each of
its frames does: the ones that create a stream, and the ones that bring a closed
stream back (`admission_iff`).
-/

namespace HttpsServerSim

open Http2Frame

/-- The states that count towards the limit of concurrent streams. -/
def Http2StreamState.live (state : Http2StreamState) : Bool :=
  decide (state = .open ∨ state = .halfClosedRemote)

namespace StreamView

def isLive (view : Option StreamView) : Bool := view.any fun view => view.state.live

/-- The states a stream can be in between two frames. -/
def Settled (view : Option StreamView) : Prop :=
  ∀ seen, view = some seen → seen.state = .open ∨ seen.state = .halfClosedRemote ∨
    seen.state = .closed

theorem settled_opened {view : Option StreamView} (settled : Settled view) :
    Settled (some (opened view)) := by
  rintro _ ⟨⟩
  cases view with
  | none => exact Or.inl rfl
  | some seen =>
      simp only [opened, Option.getD_some]
      split_ifs with idle
      · exact Or.inl rfl
      · exact settled seen rfl

variable [WideShift]

theorem settled_onFrame {view : Option StreamView} (settled : Settled view) (frame : Http2Frame) :
    Settled (onFrame view frame).1 := by
  have halfClosed (seen : StreamView) :
      Settled (some { seen with state := .halfClosedRemote }) := by
    rintro _ ⟨⟩
    exact Or.inr (Or.inl rfl)
  unfold onFrame
  split_ifs with headers data continuation reset
  · unfold onHeaders
    cases decodeBlock frame.payload with
    | none => exact settled_opened settled
    | some fields =>
        split_ifs
        · exact halfClosed _
        · rintro _ ⟨⟩
          exact settled_opened settled (opened view) rfl
  · unfold onData
    cases view with
    | none => exact settled
    | some seen =>
        split_ifs
        · exact halfClosed _
        · rintro _ ⟨⟩
          exact settled seen rfl
  · unfold onContinuation
    cases view with
    | none => exact settled
    | some seen =>
        cases decodeBlock frame.payload with
        | none => exact settled
        | some fields =>
            rintro _ ⟨⟩
            exact settled seen rfl
  · intro seen found
    rcases Option.map_eq_some_iff.mp found with ⟨earlier, _, rfl⟩
    exact Or.inr (Or.inr rfl)
  · exact settled

/-- Only a `HEADERS` frame creates a stream, and it always does. -/
theorem onFrame_none_isSome (frame : Http2Frame) :
    (onFrame none frame).1.isSome = true ↔ frame.type = .headers := by
  unfold onFrame
  split_ifs with headers data continuation reset
  · unfold onHeaders
    cases decodeBlock frame.payload with
    | none => simp [headers]
    | some fields =>
        simp only [headers, iff_true]
        split_ifs <;> rfl
  all_goals simp [headers, onData, onContinuation]

/-- No frame removes a stream. -/
theorem onFrame_some_isSome (view : StreamView) (frame : Http2Frame) :
    (onFrame (some view) frame).1.isSome = true := by
  unfold onFrame
  split_ifs
  · unfold onHeaders
    cases decodeBlock frame.payload with
    | none => rfl
    | some fields =>
        dsimp only
        split_ifs <;> rfl
  · unfold onData
    dsimp only
    split_ifs <;> rfl
  · unfold onContinuation
    cases decodeBlock frame.payload <;> rfl
  · rfl
  · rfl

/-- The frames that make a stream count towards the limit: they create it or bring it back. -/
def enlivens (view : Option StreamView) (frame : Http2Frame) : Prop :=
  (frame.type = .headers ∧ view = none) ∨ reopens view frame

theorem isLive_onHeaders_none (payload : Bytes) (flags : UInt8) :
    isLive (onHeaders none payload flags).1 = true := by
  unfold onHeaders
  cases decodeBlock payload with
  | none => rfl
  | some fields =>
      dsimp only
      split_ifs <;> rfl

theorem enlivens_iff {view : Option StreamView} (settled : Settled view) (frame : Http2Frame) :
    enlivens view frame ↔ isLive view = false ∧ isLive (onFrame view frame).1 = true := by
  cases view with
  | none =>
      have notReopened : ¬ reopens none frame := fun reopening => by simp [reopens] at reopening
      simp only [enlivens, notReopened, or_false, and_true]
      constructor
      · intro headers
        refine ⟨rfl, ?_⟩
        simp only [onFrame, headers, if_true]
        exact isLive_onHeaders_none _ _
      · rintro ⟨_, live⟩
        rw [← onFrame_none_isSome]
        cases outcome : (onFrame none frame).1 with
        | none => simp [outcome, isLive] at live
        | some seen => rfl
  | some seen =>
      simp only [enlivens, reduceCtorEq, and_false, false_or]
      constructor
      · intro reopening
        have closed : seen.state = .closed := by simpa using reopening.1
        refine ⟨by simp [isLive, closed, Http2StreamState.live], ?_⟩
        rcases Option.map_eq_some_iff.mp (onFrame_of_reopens reopening) with
          ⟨next, found, halfClosed⟩
        simp [isLive, found, halfClosed, Http2StreamState.live]
      · rintro ⟨dead, live⟩
        by_contra harmless
        have closed : seen.state = .closed := by
          rcases settled seen rfl with state | state | state
          · simp [isLive, state, Http2StreamState.live] at dead
          · simp [isLive, state, Http2StreamState.live] at dead
          · exact state
        rcases onFrame_forward harmless with ⟨next, found, forward, _⟩
        rw [closed] at forward
        have staysClosed := Http2StreamState.eq_closed_of_rank_le forward
        simp [isLive, found, staysClosed, Http2StreamState.live] at live

end StreamView

namespace Http2Handler

open StreamView

theorem mem_streams_iff (handler : Http2Handler PlainTls) (streamId : ℕ) :
    streamId ∈ handler.streams ↔ (handler.viewAt streamId).isSome = true := by
  rw [Std.ExtTreeMap.mem_iff_isSome_getElem?, viewAt, Option.isSome_map]

/-- The number of streams that are open or half closed. -/
def liveStreams (handler : Http2Handler PlainTls) : ℕ :=
  handler.streams.toList.countP fun entry => entry.2.state.live

/-- Their ids. -/
def liveIds (handler : Http2Handler PlainTls) : Finset ℕ :=
  ((handler.streams.toList.filter fun entry => entry.2.state.live).map Prod.fst).toFinset

theorem card_liveIds (handler : Http2Handler PlainTls) :
    handler.liveIds.card = handler.liveStreams := by
  have distinct : ((handler.streams.toList.filter fun entry => entry.2.state.live).map
      Prod.fst).Nodup := by
    apply List.Pairwise.map Prod.fst _ (List.Pairwise.filter _ Std.ExtTreeMap.distinct_keys_toList)
    intro one other apart same
    simp [same] at apart
  rw [liveIds, List.toFinset_card_of_nodup distinct, List.length_map, liveStreams,
    List.countP_eq_length_filter]

theorem mem_liveIds (handler : Http2Handler PlainTls) (streamId : ℕ) :
    streamId ∈ handler.liveIds ↔ isLive (handler.viewAt streamId) = true := by
  simp only [liveIds, List.mem_toFinset, List.mem_map, List.mem_filter, Prod.exists,
    exists_and_right, exists_eq_right, Std.ExtTreeMap.mem_toList_iff_getElem?_eq_some, viewAt]
  cases handler.streams[streamId]? with
  | none => simp [isLive]
  | some stream => simp [isLive, Http2Stream.view]

section Runs

variable [WideShift]

theorem viewAt_afterFrames_concat (before : List Http2Frame) (frame : Http2Frame) (streamId : ℕ) :
    (afterFrames (before ++ [frame])).viewAt streamId =
      if frame.streamId = streamId then (onFrame ((afterFrames before).viewAt streamId) frame).1
      else (afterFrames before).viewAt streamId := by
  rw [afterFrames, List.map_append]
  exact viewAt_concat streamId _ (.frame frame)

theorem settled_afterFrames (frames : List Http2Frame) (streamId : ℕ) :
    Settled ((afterFrames frames).viewAt streamId) := by
  induction frames using List.reverseRecOn with
  | nil =>
      intro seen found
      simp [afterFrames, afterEvents, viewAt, connected_streams] at found
  | append_singleton frames frame ih =>
      rw [viewAt_afterFrames_concat]
      split_ifs
      · exact settled_onFrame ih frame
      · exact ih

theorem localSettings_afterFrames (frames : List Http2Frame) :
    (afterFrames frames).localSettings = .reset := by
  induction frames using List.reverseRecOn with
  | nil => rfl
  | append_singleton frames frame ih =>
      rw [afterFrames_concat, (handleFrame_sameSession _ _).localSettings, ih]

/-- The rules of stream admission, at every point of a run. -/
structure Admission (frames : List Http2Frame) : Prop where
  odd : ∀ earlier, earlier <+: frames → ∀ id ∈ (afterFrames earlier).streams, Odd id
  increasing : EveryStep (fun before frame =>
    ∀ id ∉ (afterFrames before).streams, id ∈ (afterFrames (before ++ [frame])).streams →
      ∀ other ∈ (afterFrames before).streams, other < id) frames
  goaway : EveryStep (fun before frame =>
    (∃ earlier ∈ before, earlier.type = .goaway) →
      ∀ id ∈ (afterFrames (before ++ [frame])).streams, id ∈ (afterFrames before).streams) frames
  limited : ∀ earlier, earlier <+: frames →
    (afterFrames earlier).liveStreams ≤ (afterFrames earlier).localSettings.maxConcurrentStreams

/-- A frame that a run may go on with: if it creates a stream, then with an odd id above all others
and before any `GOAWAY`; if it makes a stream live, then there is room for it. -/
structure Admissible (before : List Http2Frame) (frame : Http2Frame) : Prop where
  created : frame.type = .headers → frame.streamId ∉ (afterFrames before).streams →
    Odd frame.streamId ∧ (∀ other ∈ (afterFrames before).streams, other < frame.streamId) ∧
      ∀ earlier ∈ before, earlier.type ≠ .goaway
  enlivened : enlivens ((afterFrames before).viewAt frame.streamId) frame →
    (afterFrames before).liveStreams < (afterFrames before).localSettings.maxConcurrentStreams

/-- The streams after a frame: those before it and the one it creates. -/
theorem mem_streams_concat (before : List Http2Frame) (frame : Http2Frame) (id : ℕ) :
    id ∈ (afterFrames (before ++ [frame])).streams ↔
      id ∈ (afterFrames before).streams ∨ (frame.type = .headers ∧ id = frame.streamId) := by
  rw [mem_streams_iff, mem_streams_iff, viewAt_afterFrames_concat]
  split_ifs with own
  · cases (afterFrames before).viewAt id with
    | none => simp [onFrame_none_isSome, own]
    | some seen => simp [onFrame_some_isSome]
  · have other : ¬ id = frame.streamId := fun same => own same.symm
    simp [other]

theorem liveStreams_concat (before : List Http2Frame) (frame : Http2Frame) :
    (enlivens ((afterFrames before).viewAt frame.streamId) frame ∧
        (afterFrames (before ++ [frame])).liveStreams = (afterFrames before).liveStreams + 1) ∨
      (¬ enlivens ((afterFrames before).viewAt frame.streamId) frame ∧
        (afterFrames (before ++ [frame])).liveStreams ≤ (afterFrames before).liveStreams) := by
  have step := viewAt_afterFrames_concat before frame
  have settled := settled_afterFrames before frame.streamId
  rw [← card_liveIds, ← card_liveIds]
  by_cases enlivened : enlivens ((afterFrames before).viewAt frame.streamId) frame
  · left
    rcases (enlivens_iff settled frame).mp enlivened with ⟨dead, live⟩
    refine ⟨enlivened, ?_⟩
    have added : (afterFrames (before ++ [frame])).liveIds =
        insert frame.streamId (afterFrames before).liveIds := by
      ext id
      rw [Finset.mem_insert, mem_liveIds, mem_liveIds, step]
      split_ifs with own
      · subst own
        simp [live]
      · simp [Ne.symm own]
    rw [added, Finset.card_insert_of_notMem]
    rw [mem_liveIds, dead]
    decide
  · right
    refine ⟨enlivened, ?_⟩
    apply Finset.card_le_card
    intro id
    rw [mem_liveIds, mem_liveIds, step]
    split_ifs with own
    · subst own
      intro live
      by_contra dead
      exact enlivened ((enlivens_iff settled frame).mpr ⟨by simpa using dead, live⟩)
    · exact fun live => live

theorem admission_nil : Admission [] := by
  refine ⟨?_, everyStep_nil, everyStep_nil, ?_⟩
  · intro earlier within id member
    rw [List.prefix_nil.mp within] at member
    simp [afterFrames, afterEvents, connected_streams] at member
  · intro earlier within
    have nobody : (afterFrames []).liveStreams = 0 := by
      simp [liveStreams, afterFrames, afterEvents, connected_streams]
    rw [List.prefix_nil.mp within, nobody]
    exact Nat.zero_le _

theorem admission_concat (before : List Http2Frame) (frame : Http2Frame) :
    Admission (before ++ [frame]) ↔ Admission before ∧ Admissible before frame := by
  have within : before <+: before ++ [frame] := List.prefix_append _ _
  have members := mem_streams_concat before frame
  have sameLimit : (afterFrames (before ++ [frame])).localSettings =
      (afterFrames before).localSettings := by
    rw [localSettings_afterFrames, localSettings_afterFrames]
  constructor
  · intro admission
    rcases everyStep_concat.mp admission.increasing with ⟨increasing, lastIncreasing⟩
    rcases everyStep_concat.mp admission.goaway with ⟨goaway, lastGoaway⟩
    refine ⟨⟨?_, increasing, goaway, ?_⟩, ⟨?_, ?_⟩⟩
    · intro earlier start
      exact admission.odd earlier (start.trans within)
    · intro earlier start
      exact admission.limited earlier (start.trans within)
    · intro headers fresh
      have member : frame.streamId ∈ (afterFrames (before ++ [frame])).streams :=
        (members _).mpr (Or.inr ⟨headers, rfl⟩)
      refine ⟨admission.odd _ List.prefix_rfl _ member, lastIncreasing _ fresh member, ?_⟩
      intro earlier received farewell
      exact fresh (lastGoaway ⟨earlier, received, farewell⟩ _ member)
    · intro enlivened
      rcases liveStreams_concat before frame with ⟨_, grown⟩ | ⟨harmless, _⟩
      · have limited := admission.limited (before ++ [frame]) List.prefix_rfl
        rw [grown, sameLimit] at limited
        exact limited
      · exact absurd enlivened harmless
  · rintro ⟨admission, admissible⟩
    refine ⟨?_, everyStep_concat.mpr ⟨admission.increasing, ?_⟩,
      everyStep_concat.mpr ⟨admission.goaway, ?_⟩, ?_⟩
    · intro earlier start id member
      rcases List.prefix_concat_iff.mp start with rfl | start
      · rcases (members id).mp member with present | ⟨headers, rfl⟩
        · exact admission.odd before List.prefix_rfl id present
        · by_cases present : frame.streamId ∈ (afterFrames before).streams
          · exact admission.odd before List.prefix_rfl _ present
          · exact (admissible.created headers present).1
      · exact admission.odd earlier start id member
    · intro id fresh member
      rcases (members id).mp member with present | ⟨headers, rfl⟩
      · exact absurd present fresh
      · exact (admissible.created headers fresh).2.1
    · rintro ⟨earlier, received, farewell⟩ id member
      rcases (members id).mp member with present | ⟨headers, rfl⟩
      · exact present
      · by_contra fresh
        exact (admissible.created headers fresh).2.2 earlier received farewell
    · intro earlier start
      rcases List.prefix_concat_iff.mp start with rfl | start
      · rw [sameLimit]
        rcases liveStreams_concat before frame with ⟨enlivened, grown⟩ | ⟨_, kept⟩
        · rw [grown]
          exact admissible.enlivened enlivened
        · exact kept.trans (admission.limited before List.prefix_rfl)
      · exact admission.limited earlier start

/-- A run keeps the rules of admission exactly if every frame of it is admissible. -/
theorem admission_iff (frames : List Http2Frame) :
    Admission frames ↔ EveryStep Admissible frames := by
  induction frames using List.reverseRecOn with
  | nil => exact iff_of_true admission_nil everyStep_nil
  | append_singleton frames frame ih => rw [admission_concat, everyStep_concat, ih]

end Runs

/-- A stream on an even id, streams in falling order, a stream after `GOAWAY`, and one stream more
than the handler advertised. -/
theorem admission_fails :
    let opening (id : Fin 256) : Http2Frame := ⟨.headers, 4, id, [], by omega, by decide⟩
    let goaway : Http2Frame := ⟨.goaway, 0, 0, [0, 0, 0, 0, 0, 0, 0, 0], by decide, by decide⟩
    ¬ Admission [opening 2] ∧ ¬ Admission [opening 3, opening 1] ∧
      ¬ Admission [goaway, opening 1] ∧
        ¬ Admission ((List.range 101).map fun n => opening (Fin.ofNat 256 (2 * n + 1))) := by
  intro opening goaway
  refine ⟨?_, ?_, ?_, ?_⟩
  · intro admission
    exact absurd (admission.odd _ List.prefix_rfl 2 (by decide +kernel)) (by decide)
  · intro admission
    exact absurd (admission.increasing [opening 3] (opening 1) [] rfl 1 (by decide +kernel)
      (by decide +kernel) 3 (by decide +kernel)) (by decide)
  · intro admission
    have received : ∃ earlier ∈ [goaway], earlier.type = .goaway := ⟨goaway, by simp, rfl⟩
    exact absurd (admission.goaway [goaway] (opening 1) [] rfl received 1 (by decide +kernel))
      (by decide +kernel)
  · intro admission
    exact absurd (admission.limited _ List.prefix_rfl) (by decide +kernel)

end Http2Handler

end HttpsServerSim
