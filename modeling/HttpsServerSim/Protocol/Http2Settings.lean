import HttpsServerSim.Lib.LastWrite
import HttpsServerSim.Protocol.Http2Acks
import HttpsServerSim.Protocol.Http2Exchange
import HttpsServerSim.Protocol.Http2Windows

/-!
# What a handler knows of its peer's settings, and what it does with them

`settings_` holds for each parameter the last value that a `SETTINGS` frame carried for it.
Two handlers that talk to each other come to know each other's settings in this way.

The handler does nothing with what it knows. Whatever values are announced to it, it is the
same to its streams and to what it writes; that settings were announced at all is what it
acknowledges.
-/

namespace HttpsServerSim

universe u

open Http2Frame

namespace Http2Settings

/-- The six parameters by their identifiers. -/
def parameter (settings : Http2Settings) : ℕ → ℕ
  | 1 => settings.headerTableSize
  | 2 => settings.enablePush
  | 3 => settings.maxConcurrentStreams
  | 4 => settings.initialWindowSize
  | 5 => settings.maxFrameSize
  | 6 => settings.maxHeaderListSize
  | _ => 0

/-- The entries of a `SETTINGS` payload. -/
def entries : Bytes → List (ℕ × ℕ)
  | i0 :: i1 :: v0 :: v1 :: v2 :: v3 :: rest =>
      (BigEndian.decode [i0, i1], BigEndian.decode [v0, v1, v2, v3]) :: entries rest
  | _ => []

theorem applySettings_eq (settings : Http2Settings) (payload : Bytes) :
    Http2Handler.applySettings settings payload =
      (entries payload).foldl
        (fun settings entry => Http2Handler.applySetting settings entry.1 entry.2) settings := by
  induction settings, payload using Http2Handler.applySettings.induct with
  | case1 settings i0 i1 v0 v1 v2 v3 rest ih => simpa [Http2Handler.applySettings, entries] using ih
  | case2 payload settings short =>
      rw [Http2Handler.applySettings.eq_2 settings payload short, entries.eq_2 payload short]
      rfl

theorem parameter_applySetting {id : ℕ} (known : 1 ≤ id ∧ id ≤ 6) (settings : Http2Settings)
    (value : ℕ) : (Http2Handler.applySetting settings id value).parameter id = value := by
  have cases : id = 1 ∨ id = 2 ∨ id = 3 ∨ id = 4 ∨ id = 5 ∨ id = 6 := by omega
  rcases cases with rfl | rfl | rfl | rfl | rfl | rfl <;> rfl

theorem parameter_applySetting_other {id : ℕ} (known : 1 ≤ id ∧ id ≤ 6) (settings : Http2Settings)
    (other value : ℕ) (different : other ≠ id) :
    (Http2Handler.applySetting settings other value).parameter id = settings.parameter id := by
  have cases : id = 1 ∨ id = 2 ∨ id = 3 ∨ id = 4 ∨ id = 5 ∨ id = 6 := by omega
  unfold Http2Handler.applySetting
  split <;> rcases cases with rfl | rfl | rfl | rfl | rfl | rfl <;>
    first
      | rfl
      | exact absurd rfl different

end Http2Settings

namespace Http2Handler

section Known

variable {Tls : Type u} [TlsLayer Tls] [WideShift]

/-- The handler after a list of frames, whatever became of each. -/
def afterAll (handler : Http2Handler Tls) (frames : List Http2Frame) : Http2Handler Tls :=
  frames.foldl (fun handler frame => (handler.handleFrame frame).2) handler

/-- The settings entries of a frame. -/
def entriesOf (frame : Http2Frame) : List (ℕ × ℕ) :=
  if frame.type = .settings then Http2Settings.entries frame.payload else []

theorem settings_handleFrame (handler : Http2Handler Tls) (frame : Http2Frame) :
    (handler.handleFrame frame).2.settings =
      (entriesOf frame).foldl (fun settings entry => applySetting settings entry.1 entry.2)
        handler.settings := by
  by_cases settings : frame.type = .settings
  · rw [handler.handleFrame_settings settings, entriesOf, if_pos settings,
      ← Http2Settings.applySettings_eq]
    simp only [handleSettingsFrame]
    split_ifs with empty
    · rw [List.isEmpty_iff.mp empty]
      rfl
    · simp only [sendSettingsAck]
      split_ifs
      · rfl
      · exact (writeFrame_sends _ .settings 0 http2FlagAck []).settings
  · rw [(handler.handleFrame_streamsOnly settings).settings, entriesOf, if_neg settings]
    rfl

/-- Of each parameter the handler knows the last value received, whatever else was received and
whatever became of the acknowledgements. -/
theorem parameter_afterAll (handler : Http2Handler Tls) (frames : List Http2Frame) {id : ℕ}
    (known : 1 ≤ id ∧ id ≤ 6) :
    (handler.afterAll frames).settings.parameter id =
      (LastWrite.last id (frames.flatMap entriesOf)).getD (handler.settings.parameter id) := by
  have settingsEq : (handler.afterAll frames).settings =
      (frames.flatMap entriesOf).foldl
        (fun settings entry => applySetting settings entry.1 entry.2) handler.settings := by
    induction frames generalizing handler with
    | nil => rfl
    | cons frame frames ih =>
        rw [List.flatMap_cons, List.foldl_append, ← settings_handleFrame]
        exact ih (handler.handleFrame frame).2
  rw [settingsEq]
  exact @LastWrite.foldl_eq _ _ _ _ (fun settings => settings.parameter id) applySetting id
    (Http2Settings.parameter_applySetting known)
    (Http2Settings.parameter_applySetting_other known) handler.settings _

end Known

/-- Two announcements; the first frame also has an entry of an unknown identifier and a rest. -/
theorem parameter_afterAll_two_frames :
    let frames : List Http2Frame :=
      [⟨.settings, 0, 0, [0, 5, 0, 0, 64, 0, 0, 9, 0, 0, 0, 1, 0, 5], by decide, by decide⟩,
        ⟨.settings, 0, 0, [0, 5, 0, 1, 0, 0, 0, 3, 0, 0, 0, 7], by decide, by decide⟩]
    (connected.afterAll frames).settings.parameter 5 =
      (LastWrite.last 5 (frames.flatMap entriesOf)).getD (connected.settings.parameter 5) :=
  parameter_afterAll connected _ (by decide)

/-! ## Settings that arrive -/

section Arrival

variable [WideShift]

omit [WideShift] in
theorem entries_params (params : List (ℕ × ℕ)) :
    Http2Settings.entries (params.flatMap fun param =>
        BigEndian.encode 2 param.1 ++ BigEndian.encode 4 param.2) =
      params.map fun param => (param.1 % 256 ^ 2, param.2 % 256 ^ 4) := by
  induction params with
  | nil => rfl
  | cons param params ih =>
      have first (rest : Bytes) : Http2Settings.entries
          (BigEndian.encode 2 param.1 ++ BigEndian.encode 4 param.2 ++ rest) =
            (BigEndian.decode (BigEndian.encode 2 param.1),
              BigEndian.decode (BigEndian.encode 4 param.2)) :: Http2Settings.entries rest := rfl
      rw [List.flatMap_cons, first, ih, BigEndian.decode_encode, BigEndian.decode_encode]
      rfl

/-- The parameters that `send_settings_frame` announces, over those known before. -/
def announced (localSettings known : Http2Settings) : Http2Settings where
  headerTableSize := localSettings.headerTableSize % 2 ^ 32
  enablePush := localSettings.enablePush % 2 ^ 32
  maxConcurrentStreams := localSettings.maxConcurrentStreams % 2 ^ 32
  initialWindowSize := localSettings.initialWindowSize % 2 ^ 32
  maxFrameSize := localSettings.maxFrameSize % 2 ^ 32
  maxHeaderListSize := known.maxHeaderListSize

/-- A message leaves the settings as they are, or is the announcement of the sender's. -/
theorem settings_afterAll_frames {localSettings : Http2Settings}
    (bounded : localSettings.maxFrameSize < 2 ^ 24) (handler : Http2Handler PlainTls)
    (message : Http2Message localSettings.maxFrameSize) :
    (handler.afterAll (message.frames localSettings bounded)).settings =
      match message with
      | .settings => announced localSettings handler.settings
      | _ => handler.settings := by
  have untouched (frames : List Http2Frame) (others : ∀ frame ∈ frames, frame.type ≠ .settings) :
      (handler.afterAll frames).settings = handler.settings := by
    induction frames generalizing handler with
    | nil => rfl
    | cons frame frames ih =>
        rcases List.forall_mem_cons.mp others with ⟨first, later⟩
        have next := (handler.handleFrame_streamsOnly first).settings
        exact (ih _ later).trans next
  cases message with
  | settings =>
      simp only [Http2Message.frames, afterAll, List.foldl_cons, List.foldl_nil,
        settings_handleFrame, entriesOf, if_true, entries_params]
      rfl
  | data streamId idLt bytes endStream =>
      apply untouched
      intro frame member
      rw [(message_of_mem_dataFrames member).2]
      decide
  | _ =>
      apply untouched
      intro frame member
      rw [List.mem_singleton.mp member]
      simp +decide

theorem afterAll_append (handler : Http2Handler PlainTls) (frames more : List Http2Frame) :
    handler.afterAll (frames ++ more) = (handler.afterAll frames).afterAll more := by
  simp [afterAll]

/-- The receiver knows the sender's settings if they are among the messages that have arrived, and
otherwise none. -/
theorem settings_afterAll_messages {localSettings : Http2Settings}
    (bounded : localSettings.maxFrameSize < 2 ^ 24)
    (messages : List (Http2Message localSettings.maxFrameSize)) :
    (.settings ∈ messages ∧
        (connected.afterAll
            (messages.flatMap (Http2Message.frames localSettings bounded))).settings =
          announced localSettings .reset) ∨
      (.settings ∉ messages ∧
        (connected.afterAll
            (messages.flatMap (Http2Message.frames localSettings bounded))).settings = .reset) := by
  induction messages using List.reverseRecOn with
  | nil => exact Or.inr ⟨by simp, rfl⟩
  | append_singleton messages message ih =>
      rw [List.flatMap_append, List.flatMap_singleton, afterAll_append, settings_afterAll_frames]
      cases message with
      | settings =>
          left
          refine ⟨by simp, ?_⟩
          rcases ih with ⟨-, known⟩ | ⟨-, known⟩
          · simp only [known]
            rfl
          · simp only [known]
      | _ => simpa using ih

/-- Two handlers that talk to each other come to know each other's settings: one that announces
its settings among other messages is known by the other one, in whatever reads the bytes arrive. -/
theorem settings_arrive {Tls : Type u} [TlsLayer Tls] (succeed : WritesSucceed Tls)
    (sender : Http2Handler (Observed Tls)) (positive : 0 < sender.localSettings.maxFrameSize)
    (bounded : sender.localSettings.maxFrameSize < 2 ^ 24)
    (messages : List (Http2Message sender.localSettings.maxFrameSize))
    (begun : EveryStep Http2Message.Begun messages) (told : .settings ∈ messages)
    (pieces : List Bytes)
    (arrive : (sender.sendAll messages).tlsHandler.sent.flatten =
      sender.tlsHandler.sent.flatten ++ pieces.flatten)
    (fit : ∀ piece ∈ pieces, piece.length ≤ tempBufferSize) :
    (readPieces pieces connected).2.settings = announced sender.localSettings .reset := by
  rcases readPieces_messages succeed sender positive bounded messages begun pieces arrive fit with
    ⟨later, history, read⟩
  rw [read]
  have events : (afterEvents ((messages.flatMap
      (Http2Message.frames sender.localSettings bounded)).map .frame)) =
        connected.afterAll
          (messages.flatMap (Http2Message.frames sender.localSettings bounded)) := by
    rw [afterEvents, List.foldl_map]
    rfl
  rcases settings_afterAll_messages bounded messages with ⟨-, known⟩ | ⟨untold, -⟩
  · rw [← events] at known
    exact known
  · exact absurd told untold

end Arrival

theorem settings_arrive_shortRequest :
    (readPieces shortRequestReads connected).2.settings =
      announced threeBytes.localSettings .reset :=
  settings_arrive writesSucceed_plain threeBytes (by decide) (by decide) shortRequest
    begun_shortRequest (by simp [shortRequest]) shortRequestReads (by decide +kernel)
    (by decide +kernel)

/-! ## Settings that make no difference -/

section Indifference

variable [WideShift]

/-- The same event, or two `SETTINGS` frames that both announce something or both nothing. -/
inductive SameButSettings : Http2Event → Http2Event → Prop where
  | same (event : Http2Event) : SameButSettings event event
  | settings {left right : Http2Frame} (leftType : left.type = .settings)
      (rightType : right.type = .settings) (empty : left.payload = [] ↔ right.payload = []) :
      SameButSettings (.frame left) (.frame right)

/-- Two handlers that may differ in what they know of the peer's settings. -/
structure SameFromOutside (left right : Http2Handler PlainTls) : Prop where
  leftValid : left.Valid
  rightValid : right.Valid
  viewAt_eq : ∀ streamId, left.viewAt streamId = right.viewAt streamId
  window_eq : ∀ streamId, left.window streamId = right.window streamId
  written : left.tlsHandler.written = right.tlsHandler.written
  settingsAckSent : left.settingsAckSent = right.settingsAckSent

theorem settingsAckSent_onEvent (handler : Http2Handler PlainTls) (event : Http2Event) :
    (handler.onEvent event).settingsAckSent =
      (handler.settingsAckSent ||
        match event with
        | .frame frame => decide (frame.type = .settings) && !frame.payload.isEmpty
        | .sendResponse _ => false) := by
  cases event with
  | sendResponse bytes =>
      rw [Bool.or_false]
      exact (handler.sendDataFrame_sends 1 bytes true).settingsAckSent
  | frame frame =>
      by_cases settings : frame.type = .settings
      · simp only [onEvent, handler.handleFrame_settings settings, settings, decide_true,
          Bool.true_and, handleSettingsFrame]
        cases empty : frame.payload.isEmpty with
        | true => simp
        | false =>
            simp only [Bool.false_eq_true, if_false, Bool.not_false, Bool.or_true]
            exact sendSettingsAck_settingsAckSent _
      · simp only [onEvent, settings, decide_false, Bool.false_and, Bool.or_false]
        exact (handler.handleFrame_streamsOnly settings).settingsAckSent

/-- A `SETTINGS` frame is nothing to any stream. -/
theorem viewAt_onEvent_settings {handler : Http2Handler PlainTls} (valid : handler.Valid)
    {frame : Http2Frame} (settings : frame.type = .settings) (streamId : ℕ) :
    (handler.onEvent (.frame frame)).viewAt streamId = handler.viewAt streamId := by
  have effect := onEvent_spec valid (.frame frame)
  by_cases own : streamId = frame.streamId
  · subst own
    refine effect.viewAt_self.trans ?_
    simp +decide [StreamView.transducer, StreamView.onFrame, settings, Http2Event.streamId]
  · exact effect.viewAt_other own

section Step

variable {left right : Http2Handler PlainTls} {event other : Http2Event}

theorem SameFromOutside.eventFrames_eq (same : SameFromOutside left right)
    (alike : SameButSettings event other) : left.eventFrames event = right.eventFrames other := by
  cases alike with
  | same =>
      cases event with
      | sendResponse bytes => rfl
      | frame frame =>
          simp only [eventFrames, acknowledgement, same.settingsAckSent, same.viewAt_eq]
  | @settings leftFrame rightFrame leftType rightType empty =>
      rw [eventFrames_eq_acknowledgement left (Or.inl leftType),
        eventFrames_eq_acknowledgement right (Or.inl rightType)]
      simp only [acknowledgement, leftType, rightType, if_true, same.settingsAckSent,
        List.isEmpty_iff, empty]

theorem SameFromOutside.viewAt_onEvent (same : SameFromOutside left right)
    (alike : SameButSettings event other) (streamId : ℕ) :
    (left.onEvent event).viewAt streamId = (right.onEvent other).viewAt streamId := by
  cases alike with
  | same =>
      have leftEffect := onEvent_spec same.leftValid event
      have rightEffect := onEvent_spec same.rightValid event
      by_cases own : streamId = event.streamId
      · rw [own, leftEffect.viewAt_self, rightEffect.viewAt_self, same.viewAt_eq]
      · rw [leftEffect.viewAt_other own, rightEffect.viewAt_other own, same.viewAt_eq]
  | settings leftType rightType empty =>
      rw [viewAt_onEvent_settings same.leftValid leftType,
        viewAt_onEvent_settings same.rightValid rightType, same.viewAt_eq]

theorem SameFromOutside.window_onEvent (same : SameFromOutside left right)
    (alike : SameButSettings event other) (streamId : ℕ) :
    (left.onEvent event).window streamId = (right.onEvent other).window streamId := by
  have quiet {frame : Http2Frame} (settings : frame.type = .settings) (window : Option ℤ) :
      Http2Frame.windowAfter streamId frame window = window := by
    apply Http2Frame.windowAfter_quiet
    · rintro ⟨headers, _⟩
      rw [settings] at headers
      cases headers
    · apply Http2Frame.increment_of_not_windowUpdate
      rw [settings]
      decide
  cases alike with
  | same =>
      cases event with
      | frame frame =>
          simp only [Http2Handler.onEvent, handleFrame_window, same.window_eq]
      | sendResponse bytes =>
          have leftSame : SameWindows left (left.onEvent (.sendResponse bytes)) :=
            .of_streams (left.sendDataFrame_sends 1 bytes true).streams
          have rightSame : SameWindows right (right.onEvent (.sendResponse bytes)) :=
            .of_streams (right.sendDataFrame_sends 1 bytes true).streams
          rw [leftSame, rightSame, same.window_eq]
  | settings leftType rightType empty =>
      simp only [Http2Handler.onEvent, handleFrame_window, quiet leftType, quiet rightType,
        same.window_eq]

theorem SameFromOutside.onEvent (same : SameFromOutside left right)
    (alike : SameButSettings event other) :
    SameFromOutside (left.onEvent event) (right.onEvent other) where
  leftValid := (onEvent_spec same.leftValid event).valid
  rightValid := (onEvent_spec same.rightValid other).valid
  viewAt_eq := same.viewAt_onEvent alike
  window_eq := same.window_onEvent alike
  written := by
    rw [(onEvent_spec same.leftValid event).written, (onEvent_spec same.rightValid other).written,
      same.written, same.eventFrames_eq alike]
  settingsAckSent := by
    rw [settingsAckSent_onEvent, settingsAckSent_onEvent, same.settingsAckSent]
    cases alike with
    | same => rfl
    | @settings leftFrame rightFrame leftType rightType empty =>
        have emptyEq : leftFrame.payload.isEmpty = rightFrame.payload.isEmpty := by
          rw [Bool.eq_iff_iff, List.isEmpty_iff, List.isEmpty_iff]
          exact empty
        simp only [leftType, rightType, emptyEq]

end Step

/-- The values of the settings that the peer announces make no difference to the streams, their
windows included, and to what is written, in any run. -/
theorem settings_make_no_difference {events others : List Http2Event}
    (alike : List.Forall₂ SameButSettings events others) :
    (afterEvents events).framesWritten = (afterEvents others).framesWritten ∧
      ∀ streamId, (afterEvents events).viewAt streamId = (afterEvents others).viewAt streamId ∧
        (afterEvents events).window streamId = (afterEvents others).window streamId := by
  have run (left right : Http2Handler PlainTls) (same : SameFromOutside left right) :
      SameFromOutside (events.foldl Http2Handler.onEvent left)
        (others.foldl Http2Handler.onEvent right) := by
    induction alike generalizing left right with
    | nil => exact same
    | cons first _ ih => exact ih _ _ (same.onEvent first)
  have final := run connected connected
    ⟨valid_connected, valid_connected, fun _ => rfl, fun _ => rfl, rfl, rfl⟩
  refine ⟨?_, fun streamId => ⟨final.viewAt_eq streamId, final.window_eq streamId⟩⟩
  have written := final.written
  simp only [framesWritten, afterEvents, written]

end Indifference

/-- A peer that announces frames of at most 16 bytes and one that announces the largest ones get
the same answer. -/
theorem settings_make_no_difference_max_frame_size :
    let small : Http2Frame := ⟨.settings, 0, 0, [0, 5, 0, 0, 0, 16], by decide, by decide⟩
    let large : Http2Frame := ⟨.settings, 0, 0, [0, 5, 0, 255, 255, 255], by decide, by decide⟩
    let request : Http2Frame := ⟨.headers, 5, 1, [0x82], by decide, by decide⟩
    (afterEvents [.frame small, .frame request]).framesWritten =
        (afterEvents [.frame large, .frame request]).framesWritten ∧
      ∀ streamId,
        (afterEvents [.frame small, .frame request]).viewAt streamId =
            (afterEvents [.frame large, .frame request]).viewAt streamId ∧
          (afterEvents [.frame small, .frame request]).window streamId =
            (afterEvents [.frame large, .frame request]).window streamId :=
  settings_make_no_difference
    (.cons (.settings rfl rfl (by simp)) (.cons (.same _) .nil))

end Http2Handler

end HttpsServerSim
