import HttpsServerSim.Protocol.Http2Isolation

/-!
# Acknowledgements

A `SETTINGS` or `PING` frame is to be acknowledged once, and an acknowledgement is
not to be answered. The handlers of both frames do not see the flags: a `SETTINGS`
frame counts as an acknowledgement if it is empty, one boolean remembers that an
acknowledgement has been sent, and a `PING` frame is always answered. The discipline
is therefore kept exactly by the runs in which flags, lengths and that boolean
happen to agree (`ack_discipline_iff`).
-/

namespace HttpsServerSim

open Http2Frame

namespace Http2Frame

def hasAck (frame : Http2Frame) : Prop := frame.flags &&& http2FlagAck ≠ 0

instance (frame : Http2Frame) : Decidable frame.hasAck :=
  inferInstanceAs (Decidable (_ ≠ _))

/-- A `SETTINGS` frame with the `ACK` flag. -/
def isSettingsAck (frame : Http2Frame) : Bool :=
  decide (frame.type = .settings ∧ frame.hasAck)

/-- A `SETTINGS` frame that is to be acknowledged. -/
def isSettingsRequest (frame : Http2Frame) : Bool :=
  decide (frame.type = .settings ∧ ¬ frame.hasAck)

/-- A `SETTINGS` frame with settings in it, whatever its flags. -/
def carriesSettings (frame : Http2Frame) : Bool :=
  decide (frame.type = .settings ∧ frame.payload ≠ [])

theorem isSettingsAck_of_isMessage {frame : Http2Frame} (message : frame.isMessage = true) :
    frame.isSettingsAck = false := by
  have types := of_decide_eq_true message
  apply decide_eq_false
  rintro ⟨settings, _⟩
  rw [settings] at types
  exact absurd types (by decide)

end Http2Frame

namespace Http2Handler

open StreamView

section Runs

variable [WideShift]

/-- A fresh connection after a list of incoming frames. -/
def afterFrames (frames : List Http2Frame) : Http2Handler PlainTls :=
  afterEvents (frames.map .frame)

theorem afterFrames_concat (frames : List Http2Frame) (frame : Http2Frame) :
    afterFrames (frames ++ [frame]) = ((afterFrames frames).handleFrame frame).2 := by
  rw [afterFrames, List.map_append]
  exact afterEvents_concat _ (.frame frame)

theorem framesWritten_afterFrames_concat (frames : List Http2Frame) (frame : Http2Frame) :
    (afterFrames (frames ++ [frame])).framesWritten =
      (afterFrames frames).framesWritten ++ (afterFrames frames).eventFrames (.frame frame) := by
  rw [afterFrames, List.map_append]
  exact framesWritten_concat _ (.frame frame)

/-- The discipline of acknowledgements, at every point of a run. -/
structure AckDiscipline (frames : List Http2Frame) : Prop where
  settings : ∀ earlier, earlier <+: frames →
    (afterFrames earlier).framesWritten.countP isSettingsAck = earlier.countP isSettingsRequest
  pings : EveryStep (fun before frame =>
    frame.type = .ping → ¬ frame.hasAck → frame.payload.length = 8 →
      (afterFrames (before ++ [frame])).framesWritten =
        (afterFrames before).framesWritten ++ [pingAck frame.payload]) frames
  silent : EveryStep (fun before frame =>
    frame.type = .settings ∨ frame.type = .ping → frame.hasAck →
      (afterFrames (before ++ [frame])).framesWritten = (afterFrames before).framesWritten) frames

/-- The frames that are acknowledged as they should be, after the frames before them. -/
def RightlyAcknowledged (before : List Http2Frame) (frame : Http2Frame) : Prop :=
  (frame.type = .settings → ¬ frame.hasAck →
      frame.payload ≠ [] ∧ before.any carriesSettings = false) ∧
    (frame.type = .settings → frame.hasAck →
      frame.payload = [] ∨ before.any carriesSettings = true) ∧
    (frame.type = .ping → frame.hasAck → frame.payload.length < 8)

/-- Which acknowledgement has been sent is told by the frames received. -/
theorem settingsAckSent_afterFrames (frames : List Http2Frame) :
    (afterFrames frames).settingsAckSent = frames.any carriesSettings := by
  induction frames using List.reverseRecOn with
  | nil => rfl
  | append_singleton frames frame ih =>
      rw [afterFrames_concat, List.any_append, List.any_cons, List.any_nil, Bool.or_false, ← ih]
      by_cases settings : frame.type = .settings
      · rw [handleFrame_settings _ settings, handleSettingsFrame]
        split_ifs with empty
        · have nothing : frame.carriesSettings = false := by
            simpa [carriesSettings, settings] using empty
          rw [nothing, Bool.or_false]
        · have something : frame.carriesSettings = true := by
            simpa [carriesSettings, settings] using empty
          rw [something, Bool.or_true]
          exact sendSettingsAck_settingsAckSent _
      · have nothing : frame.carriesSettings = false := by
          simp [carriesSettings, settings]
        rw [(handleFrame_streamsOnly _ settings).settingsAckSent, nothing, Bool.or_false]

/-- The frames that a `SETTINGS` or `PING` frame makes the handler write are its acknowledgement. -/
theorem eventFrames_eq_acknowledgement (handler : Http2Handler PlainTls) {frame : Http2Frame}
    (control : frame.type = .settings ∨ frame.type = .ping) :
    handler.eventFrames (.frame frame) = acknowledgement handler frame := by
  have silent : (transducer.step (handler.viewAt frame.streamId) (.frame frame)).2 = [] := by
    rcases control with type | type <;> simp +decide [transducer, onFrame, answer, type]
  rw [eventFrames, silent, List.append_nil]

theorem countP_eventFrames (before : List Http2Frame) (frame : Http2Frame) :
    ((afterFrames before).eventFrames (.frame frame)).countP isSettingsAck =
      if frame.carriesSettings ∧ before.any carriesSettings = false then 1 else 0 := by
  by_cases settings : frame.type = .settings
  · rw [eventFrames_eq_acknowledgement _ (Or.inl settings), acknowledgement, if_pos settings,
      settingsAckSent_afterFrames]
    have carries : frame.carriesSettings = !frame.payload.isEmpty := by
      simp only [carriesSettings, settings, true_and]
      cases frame.payload <;> rfl
    rw [carries]
    cases frame.payload.isEmpty <;> cases before.any carriesSettings <;> decide
  · have nothing : frame.carriesSettings = false := by
      simp [carriesSettings, settings]
    rw [nothing, if_neg (by simp), List.countP_eq_zero]
    intro written member
    rcases List.mem_append.mp member with acknowledged | answered
    · rw [acknowledgement, if_neg settings] at acknowledged
      split_ifs at acknowledged with ping long
      · rw [List.mem_singleton.mp acknowledged]
        simp +decide [isSettingsAck, pingAck]
      all_goals simp at acknowledged
    · rw [isSettingsAck_of_isMessage (message_of_mem_step answered).2]
      decide

/-- What the last frame of a run must do for the run to keep the discipline. -/
structure KeepsDiscipline (before : List Http2Frame) (frame : Http2Frame) : Prop where
  settings : ((afterFrames before).eventFrames (.frame frame)).countP isSettingsAck =
    [frame].countP isSettingsRequest
  pings : frame.type = .ping → ¬ frame.hasAck → frame.payload.length = 8 →
    (afterFrames (before ++ [frame])).framesWritten =
      (afterFrames before).framesWritten ++ [pingAck frame.payload]
  silent : frame.type = .settings ∨ frame.type = .ping → frame.hasAck →
    (afterFrames (before ++ [frame])).framesWritten = (afterFrames before).framesWritten

theorem ackDiscipline_nil : AckDiscipline [] := by
  refine ⟨?_, everyStep_nil, everyStep_nil⟩
  intro earlier within
  rw [List.prefix_nil.mp within, afterFrames, framesWritten_afterEvents]
  rfl

theorem ackDiscipline_concat (before : List Http2Frame) (frame : Http2Frame) :
    AckDiscipline (before ++ [frame]) ↔ AckDiscipline before ∧ KeepsDiscipline before frame := by
  constructor
  · intro discipline
    rcases everyStep_concat.mp discipline.pings with ⟨pings, ping⟩
    rcases everyStep_concat.mp discipline.silent with ⟨silents, silent⟩
    have whole := discipline.settings (before ++ [frame]) List.prefix_rfl
    have earlier := discipline.settings before (List.prefix_append _ _)
    rw [framesWritten_afterFrames_concat, List.countP_append, List.countP_append, earlier] at whole
    refine ⟨⟨?_, pings, silents⟩, ⟨Nat.add_left_cancel whole, ping, silent⟩⟩
    intro start within
    exact discipline.settings start (within.trans (List.prefix_append _ _))
  · rintro ⟨discipline, keeps⟩
    refine ⟨?_, everyStep_concat.mpr ⟨discipline.pings, keeps.pings⟩,
      everyStep_concat.mpr ⟨discipline.silent, keeps.silent⟩⟩
    intro start within
    rcases List.prefix_concat_iff.mp within with rfl | within
    · rw [framesWritten_afterFrames_concat, List.countP_append, List.countP_append, keeps.settings,
        discipline.settings before List.prefix_rfl]
    · exact discipline.settings start within

section Control

variable {before : List Http2Frame} {frame : Http2Frame}
  (written : (afterFrames (before ++ [frame])).framesWritten =
    (afterFrames before).framesWritten ++ acknowledgement (afterFrames before) frame)
  (counted : ((afterFrames before).eventFrames (.frame frame)).countP isSettingsAck =
    if frame.carriesSettings ∧ before.any carriesSettings = false then 1 else 0)

include written counted

theorem keepsDiscipline_settings (settings : frame.type = .settings) :
    KeepsDiscipline before frame ↔ RightlyAcknowledged before frame := by
  have notPing : frame.type ≠ .ping := by
    rw [settings]
    decide
  have carries : frame.carriesSettings = true ↔ frame.payload ≠ [] := by
    simp [carriesSettings, settings]
  have silent : (afterFrames (before ++ [frame])).framesWritten =
      (afterFrames before).framesWritten ↔
        frame.payload = [] ∨ before.any carriesSettings = true := by
    rw [written, List.append_right_eq_self, acknowledgement, if_pos settings,
      settingsAckSent_afterFrames]
    simp only [List.isEmpty_iff]
    split_ifs with nothing
    · exact iff_of_true rfl nothing
    · exact iff_of_false (by simp) nothing
  by_cases acked : frame.hasAck
  · have requests : [frame].countP isSettingsRequest = 0 := by
      simp [isSettingsRequest, acked]
    constructor
    · intro keeps
      refine ⟨fun _ plain => absurd acked plain, fun _ _ => ?_, fun ping => absurd ping notPing⟩
      exact silent.mp (keeps.silent (Or.inl settings) acked)
    · rintro ⟨_, right, _⟩
      refine ⟨?_, fun ping => absurd ping notPing, fun _ _ => ?_⟩
      · have nothing := right settings acked
        rw [counted, requests, if_neg]
        rintro ⟨something, first⟩
        rcases nothing with empty | sent
        · exact carries.mp something empty
        · exact absurd sent (by simp [first])
      · exact silent.mpr (right settings acked)
  · have requests : [frame].countP isSettingsRequest = 1 := by
      simp [isSettingsRequest, settings, acked]
    constructor
    · intro keeps
      refine ⟨fun _ _ => ?_, fun _ ack => absurd ack acked, fun ping => absurd ping notPing⟩
      have counts := keeps.settings
      rw [counted, requests, ite_eq_left_iff] at counts
      have right := not_imp_comm.mp counts (by decide)
      exact ⟨carries.mp right.1, right.2⟩
    · rintro ⟨right, _, _⟩
      refine ⟨?_, fun ping => absurd ping notPing, fun _ ack => absurd ack acked⟩
      rcases right settings acked with ⟨something, first⟩
      rw [counted, requests, if_pos ⟨carries.mpr something, first⟩]

theorem keepsDiscipline_ping (ping : frame.type = .ping) :
    KeepsDiscipline before frame ↔ RightlyAcknowledged before frame := by
  have notSettings : frame.type ≠ .settings := by
    rw [ping]
    decide
  have counts : ((afterFrames before).eventFrames (.frame frame)).countP isSettingsAck =
      [frame].countP isSettingsRequest := by
    simp [counted, carriesSettings, isSettingsRequest, notSettings]
  rw [acknowledgement, if_neg notSettings, if_pos ping] at written
  constructor
  · intro keeps
    refine ⟨fun settings => absurd settings notSettings,
      fun settings => absurd settings notSettings, fun _ acked => ?_⟩
    by_contra long
    have silent := keeps.silent (Or.inr ping) acked
    rw [written, if_pos (Nat.le_of_not_lt long)] at silent
    simp at silent
  · rintro ⟨_, _, right⟩
    refine ⟨counts, fun _ _ length => ?_, fun _ acked => ?_⟩
    · rw [written, if_pos length.ge]
    · rw [written, if_neg (Nat.not_le_of_lt (right ping acked)), List.append_nil]

end Control

theorem keepsDiscipline_iff (before : List Http2Frame) (frame : Http2Frame) :
    KeepsDiscipline before frame ↔ RightlyAcknowledged before frame := by
  have written := framesWritten_afterFrames_concat before frame
  have counted := countP_eventFrames before frame
  by_cases control : frame.type = .settings ∨ frame.type = .ping
  · rw [eventFrames_eq_acknowledgement _ control] at written
    rcases control with settings | ping
    · exact keepsDiscipline_settings written counted settings
    · exact keepsDiscipline_ping written counted ping
  · have notSettings : frame.type ≠ .settings := fun type => control (Or.inl type)
    have notPing : frame.type ≠ .ping := fun type => control (Or.inr type)
    refine iff_of_true ⟨?_, ?_, ?_⟩ ⟨?_, ?_, ?_⟩
    · simp [counted, carriesSettings, isSettingsRequest, notSettings]
    all_goals simp [notSettings, notPing]

/-- A run keeps the discipline of acknowledgements exactly if every frame of it is rightly
acknowledged. -/
theorem ack_discipline_iff (frames : List Http2Frame) :
    AckDiscipline frames ↔ EveryStep RightlyAcknowledged frames := by
  induction frames using List.reverseRecOn with
  | nil => exact iff_of_true ackDiscipline_nil everyStep_nil
  | append_singleton frames frame ih =>
      rw [ackDiscipline_concat, everyStep_concat, ih, keepsDiscipline_iff]

end Runs

/-- An endpoint that changes its settings twice waits for the second acknowledgement forever, one
that sends an empty `SETTINGS` frame for the first, and the acknowledgement of a `PING` frame comes
back. -/
theorem ack_discipline_fails :
    let settings : Http2Frame := ⟨.settings, 0, 0, [0, 4, 0, 1, 0, 0], by decide, by decide⟩
    let defaults : Http2Frame := ⟨.settings, 0, 0, [], by decide, by decide⟩
    let pong : Http2Frame := ⟨.ping, 1, 0, [1, 2, 3, 4, 5, 6, 7, 8], by decide, by decide⟩
    ¬ AckDiscipline [settings, settings] ∧ ¬ AckDiscipline [defaults] ∧ ¬ AckDiscipline [pong] := by
  intro settings defaults pong
  refine ⟨?_, ?_, ?_⟩
  · intro discipline
    exact absurd (discipline.settings _ List.prefix_rfl) (by decide +kernel)
  · intro discipline
    exact absurd (discipline.settings _ List.prefix_rfl) (by decide +kernel)
  · intro discipline
    exact absurd (discipline.silent [] pong [] rfl (Or.inr rfl) (by decide)) (by decide +kernel)

end Http2Handler

end HttpsServerSim
