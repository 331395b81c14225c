import HttpsServerSim.Protocol.Http2Admission
import HttpsServerSim.Protocol.Http2Delivery
import HttpsServerSim.Protocol.Http2Echo
import HttpsServerSim.Protocol.Http2Fragmentation

/-!
# Two handlers talking to each other

What one handler is asked to send is a list of messages: settings, headers, data, window
updates and resets. On the wire these are frames, cut to the sender's frame size, and the
other handler gets them in whatever reads the network makes of them. In between nothing is
lost or mixed up: each stream of the receiver is where the messages for it take it
(`meaning`), and the receiver answers the requests that they complete.

A header block is one frame here; what becomes of longer blocks is the matter of
fragments.
-/

namespace HttpsServerSim

universe u

open Http2Frame

/-- A message that a handler can be asked to send when its frames hold at most `limit` bytes. -/
inductive Http2Message (limit : ℕ) where
  | settings
  | headers (streamId : ℕ) (streamId_lt : streamId < 2 ^ 31) (fields : HttpHeaders)
      (encodable : ∀ name value : Bytes, fields[name]? = some value →
        name ≠ [] ∧ name.length < 2 ^ 31 ∧ value.length < 2 ^ 31)
      (fits : (Hpack.encode fields).length ≤ limit) (endStream : Bool)
  | data (streamId : ℕ) (streamId_lt : streamId < 2 ^ 31) (bytes : Bytes) (endStream : Bool)
  | windowUpdate (streamId : ℕ) (streamId_lt : streamId < 2 ^ 31) (increment : ℕ)
      (effective : increment % 2 ^ 31 ≠ 0)
  | rstStream (streamId : ℕ) (streamId_lt : streamId < 2 ^ 31) (errorCode : ℕ)

namespace Http2Message

variable {limit : ℕ}

/-- The stream a message is about. -/
def streamId : Http2Message limit → ℕ
  | .settings => 0
  | .headers streamId _ _ _ _ _ => streamId
  | .data streamId _ _ _ => streamId
  | .windowUpdate streamId _ _ _ => streamId
  | .rstStream streamId _ _ => streamId

/-- The messages that open a stream. -/
def opens : Http2Message limit → Bool
  | .headers .. => true
  | _ => false

/-- The data of a stream come after its headers. -/
def Begun (before : List (Http2Message limit)) : Http2Message limit → Prop
  | .data streamId .. => ∃ earlier ∈ before, earlier.opens = true ∧ earlier.streamId = streamId
  | _ => True

/-- What a message means to the stream it is about, and the answer it calls for. -/
def meaning : Transducer (Option StreamView) (Http2Message limit) Http2Frame where
  step view message :=
    match message with
    | .settings => (view, [])
    | .headers streamId idLt fields _ _ endStream =>
        let merged := (StreamView.opened view).merge fields
        if endStream then
          (some { merged with state := .halfClosedRemote }, replyFrames streamId idLt merged.body)
        else (some merged, [])
    | .data streamId idLt bytes endStream =>
        match view with
        | none => (none, [])
        | some view =>
            let extended := { view with body := view.body ++ bytes }
            if endStream ∧ bytes ≠ [] then
              (some { extended with state := .halfClosedRemote },
                replyFrames streamId idLt extended.body)
            else (some extended, [])
    | .windowUpdate _ _ _ _ => (view, [])
    | .rstStream _ _ _ => (view.map fun view => { view with state := .closed }, [])

/-- What the messages for a stream come to there, and the answers they call for. -/
def meantFor (streamId : ℕ) (messages : List (Http2Message limit)) :
    Option StreamView × List Http2Frame :=
  meaning.run none (messages.filter fun message => decide (message.streamId = streamId))

theorem length_settingsPayload_lt (localSettings : Http2Settings) :
    ([(1, localSettings.headerTableSize), (2, localSettings.enablePush),
      (3, localSettings.maxConcurrentStreams), (4, localSettings.initialWindowSize),
      (5, localSettings.maxFrameSize)].flatMap fun param =>
        BigEndian.encode 2 param.1 ++ BigEndian.encode 4 param.2).length < 2 ^ 24 := by
  simp

theorem length_word_lt (value : ℕ) : (BigEndian.encode 4 value).length < 2 ^ 24 := by
  simp

theorem zero_lt_streamIds : 0 < 2 ^ 31 := Nat.two_pow_pos 31

/-- The frames that a message is sent in. -/
def frames (localSettings : Http2Settings) (bounded : localSettings.maxFrameSize < 2 ^ 24) :
    Http2Message localSettings.maxFrameSize → List Http2Frame
  | .settings =>
      [{ type := .settings
         flags := 0
         streamId := 0
         payload := [(1, localSettings.headerTableSize), (2, localSettings.enablePush),
           (3, localSettings.maxConcurrentStreams), (4, localSettings.initialWindowSize),
           (5, localSettings.maxFrameSize)].flatMap fun param =>
             BigEndian.encode 2 param.1 ++ BigEndian.encode 4 param.2
         streamId_lt := zero_lt_streamIds
         length_lt := length_settingsPayload_lt localSettings }]
  | .headers streamId idLt fields _ fits endStream =>
      [{ type := .headers
         flags :=
           if endStream then http2FlagEndHeaders ||| http2FlagEndStream else http2FlagEndHeaders
         streamId := streamId
         payload := Hpack.encode fields
         streamId_lt := idLt
         length_lt := lt_of_le_of_lt fits bounded }]
  | .data streamId idLt bytes endStream =>
      dataFrames localSettings.maxFrameSize bounded streamId idLt endStream bytes.length bytes
  | .windowUpdate streamId idLt increment _ =>
      [{ type := .windowUpdate
         flags := 0
         streamId := streamId
         payload := BigEndian.encode 4 (increment % 2 ^ 31)
         streamId_lt := idLt
         length_lt := length_word_lt (increment % 2 ^ 31) }]
  | .rstStream streamId idLt errorCode =>
      [{ type := .rstStream
         flags := 0
         streamId := streamId
         payload := BigEndian.encode 4 errorCode
         streamId_lt := idLt
         length_lt := length_word_lt errorCode }]

end Http2Message

/-! ## Sending -/

namespace Http2Handler

section Sending

variable {Tls : Type u} [TlsLayer Tls]

/-- The call for a message. -/
def send {limit : ℕ} (handler : Http2Handler Tls) :
    Http2Message limit → ProtocolStatus × Http2Handler Tls
  | .settings => handler.sendSettingsFrame
  | .headers streamId _ fields _ _ endStream => handler.sendHeadersFrame streamId fields endStream
  | .data streamId _ bytes endStream => handler.sendDataFrame streamId bytes endStream
  | .windowUpdate streamId _ increment _ => handler.sendWindowUpdateFrame streamId increment
  | .rstStream streamId _ errorCode => handler.sendRstStreamFrame streamId errorCode

/-- Messages sent one after the other. -/
def sendAll {limit : ℕ} (handler : Http2Handler Tls) (messages : List (Http2Message limit)) :
    Http2Handler Tls :=
  messages.foldl (fun handler message => (handler.send message).2) handler

theorem sendDataLoop_handOver (succeed : WritesSucceed Tls) {limit : ℕ} (bounded : limit < 2 ^ 24)
    {streamId : ℕ} (idLt : streamId < 2 ^ 31) (endStream : Bool) (fuel : ℕ) (rest : Bytes)
    (handler : Http2Handler (Observed Tls)) (limited : handler.localSettings.maxFrameSize = limit) :
    sendDataLoop fuel handler streamId rest endStream =
      (.ok, handler.handOver
        ((dataFrames limit bounded streamId idLt endStream fuel rest).map SentFrame.ofFrame)) := by
  induction fuel generalizing rest handler with
  | zero => rfl
  | succ fuel ih =>
      by_cases empty : rest = []
      · simp only [sendDataLoop, dataFrames, empty, List.isEmpty_nil, if_true]
        rfl
      · have first := handler.writeFrame_handOver succeed
          (.ofFrame (dataFrame limit bounded streamId idLt endStream rest))
        have others := ih (rest.drop (min rest.length limit))
          (handler.handOver [.ofFrame (dataFrame limit bounded streamId idLt endStream rest)])
          limited
        simp only [SentFrame.ofFrame, dataFrame] at first others
        simp only [sendDataLoop, List.isEmpty_iff, empty, if_false, limited, first, ne_eq,
          not_true_eq_false, others, handOver_handOver, dataFrames, dataFrame, List.map_cons,
          SentFrame.ofFrame]
        rfl

/-- A message is handed to the TLS layer as its frames. -/
theorem send_handOver (succeed : WritesSucceed Tls) (handler : Http2Handler (Observed Tls))
    (bounded : handler.localSettings.maxFrameSize < 2 ^ 24)
    (message : Http2Message handler.localSettings.maxFrameSize) :
    handler.send message =
      (.ok, handler.handOver
        ((message.frames handler.localSettings bounded).map SentFrame.ofFrame)) := by
  cases message with
  | settings => exact handler.writeFrame_handOver succeed ⟨.settings, 0, 0, _⟩
  | headers streamId idLt fields encodable fits endStream =>
      simp only [send, sendHeadersFrame, fits, if_true]
      exact handler.writeFrame_handOver succeed ⟨.headers, streamId, _, Hpack.encode fields⟩
  | data streamId idLt bytes endStream =>
      exact sendDataLoop_handOver succeed bounded idLt endStream bytes.length bytes handler rfl
  | windowUpdate streamId idLt increment effective =>
      exact handler.writeFrame_handOver succeed ⟨.windowUpdate, streamId, 0, _⟩
  | rstStream streamId idLt errorCode =>
      exact handler.writeFrame_handOver succeed ⟨.rstStream, streamId, 0, _⟩

/-- What a list of messages puts on the wire. -/
theorem sent_sendAll (succeed : WritesSucceed Tls) (handler : Http2Handler (Observed Tls))
    (bounded : handler.localSettings.maxFrameSize < 2 ^ 24)
    (messages : List (Http2Message handler.localSettings.maxFrameSize)) :
    (handler.sendAll messages).tlsHandler.sent.flatten =
      handler.tlsHandler.sent.flatten ++
        (messages.flatMap (Http2Message.frames handler.localSettings bounded)).flatMap bytes := by
  have handed : handler.sendAll messages =
      handler.handOver ((messages.flatMap
        (Http2Message.frames handler.localSettings bounded)).map SentFrame.ofFrame) := by
    induction messages using List.reverseRecOn with
    | nil => rfl
    | append_singleton messages message ih =>
        have last := send_handOver succeed (handler.handOver ((messages.flatMap
          (Http2Message.frames handler.localSettings bounded)).map SentFrame.ofFrame)) bounded
          message
        simp only [sendAll, List.foldl_append, List.foldl_cons, List.foldl_nil] at ih ⊢
        rw [ih]
        refine (congrArg Prod.snd last).trans ?_
        simp only [handOver_handOver, List.flatMap_append, List.map_append, List.flatMap_singleton]
        rfl
  rw [handed, sent_handOver, List.flatten_append, SentFrame.flatten_writes_ofFrame]

end Sending

end Http2Handler

/-! ## Receiving -/

section Receiving

variable [WideShift]

namespace Http2Message

open StreamView

/-- The chunks of a body add up to it, and the last one ends the stream. -/
theorem run_dataFrames {limit : ℕ} (bounded : limit < 2 ^ 24) {streamId : ℕ}
    (idLt : streamId < 2 ^ 31) (endStream : Bool) (positive : 0 < limit) {fuel : ℕ} {rest : Bytes}
    (enough : rest.length ≤ fuel) (view : StreamView) :
    transducer.run (some view)
        ((dataFrames limit bounded streamId idLt endStream fuel rest).map .frame) =
      if rest = [] then (some view, [])
      else if endStream then
        (some { view with body := view.body ++ rest, state := .halfClosedRemote },
          replyFrames streamId idLt (view.body ++ rest))
      else (some { view with body := view.body ++ rest }, []) := by
  induction fuel generalizing rest view with
  | zero =>
      have empty : rest = [] := by simpa using enough
      simp [empty, dataFrames, Transducer.run]
  | succ fuel ih =>
      by_cases empty : rest = []
      · simp [empty, dataFrames, Transducer.run]
      · have lengthPos := List.length_pos_iff.mpr empty
        simp only [dataFrames, List.isEmpty_iff, empty, if_false, List.map_cons, Transducer.run]
        by_cases last : rest.length ≤ limit
        · have whole : min rest.length limit = rest.length := by omega
          have noFrames : dataFrames limit bounded streamId idLt endStream fuel [] = [] := by
            cases fuel <;> rfl
          simp only [whole, List.drop_length, noFrames, List.map_nil, Transducer.run]
          cases endStream with
          | true => simp +decide [transducer, onFrame, dataFrame, onData, answer, whole]
          | false => simp +decide [transducer, onFrame, dataFrame, onData, answer, last]
        · have part : min rest.length limit = limit := by omega
          have notWhole : limit ≠ rest.length := by omega
          have left : rest.drop limit ≠ [] := by
            rw [ne_eq, List.drop_eq_nil_iff]
            omega
          have shorter : (rest.drop limit).length ≤ fuel := by
            rw [List.length_drop]
            omega
          have step : transducer.step (some view)
              (.frame (dataFrame limit bounded streamId idLt endStream rest)) =
                (some { view with body := view.body ++ rest.take limit }, []) := by
            simp +decide [transducer, onFrame, dataFrame, onData, answer, part, notWhole]
          simp only [part, step, ih shorter, left, if_false, List.append_assoc,
            List.take_append_drop, List.nil_append]

theorem decodeBlock_encode {fields : HttpHeaders}
    (encodable : ∀ name value : Bytes, fields[name]? = some value →
      name ≠ [] ∧ name.length < 2 ^ 31 ∧ value.length < 2 ^ 31) :
    decodeBlock (Hpack.encode fields) = some fields := by
  have decoded :=
    HpackDecoder.decode_encode_of_fields {} fields (HpackDecoder.encodable_toList encodable)
  simp [decodeBlock, decoded]

/-- The frames of a message do to a stream what the message means to it. -/
theorem run_frames {localSettings : Http2Settings} (bounded : localSettings.maxFrameSize < 2 ^ 24)
    (positive : 0 < localSettings.maxFrameSize) (view : Option StreamView)
    (message : Http2Message localSettings.maxFrameSize) :
    transducer.run view ((message.frames localSettings bounded).map .frame) =
      meaning.step view message := by
  cases message with
  | settings => simp +decide [frames, Transducer.run, transducer, onFrame, answer, meaning]
  | headers streamId idLt fields encodable fits endStream =>
      have decodes := decodeBlock_encode encodable
      cases endStream with
      | true =>
          simp +decide [frames, Transducer.run, transducer, onFrame, onHeaders, decodes, answer,
            meaning]
      | false =>
          simp +decide [frames, Transducer.run, transducer, onFrame, onHeaders, decodes, answer,
            meaning]
  | data streamId idLt bytes endStream =>
      cases view with
      | none =>
          have ignored (chunks : List Http2Frame) (data : ∀ frame ∈ chunks, frame.type = .data) :
              transducer.run none (chunks.map .frame) = (none, []) := by
            induction chunks with
            | nil => rfl
            | cons chunk chunks ih =>
                rcases List.forall_mem_cons.mp data with ⟨first, others⟩
                have step : transducer.step none (.frame chunk) = (none, []) := by
                  simp +decide [transducer, onFrame, first, onData, answer]
                simp only [List.map_cons, Transducer.run, step, ih others, List.nil_append]
          exact ignored _ fun frame member => (message_of_mem_dataFrames member).2
      | some view =>
          simp only [frames, run_dataFrames bounded idLt endStream positive le_rfl view, meaning]
          by_cases empty : bytes = []
          · simp [empty]
          · cases endStream <;> simp [empty]
  | windowUpdate streamId idLt increment effective =>
      simp +decide [frames, Transducer.run, transducer, onFrame, answer, meaning]
  | rstStream streamId idLt errorCode =>
      simp +decide [frames, Transducer.run, transducer, onFrame, answer, meaning]

omit [WideShift] in
theorem streamId_of_mem_frames {localSettings : Http2Settings}
    {bounded : localSettings.maxFrameSize < 2 ^ 24}
    {message : Http2Message localSettings.maxFrameSize} {frame : Http2Frame}
    (member : frame ∈ message.frames localSettings bounded) :
    frame.streamId = message.streamId := by
  cases message with
  | data streamId idLt bytes endStream => exact (message_of_mem_dataFrames member).1
  | _ => simp_all [frames, Http2Message.streamId]

omit [WideShift] in
/-- The frames on a stream are those of the messages for it. -/
theorem filter_frames {localSettings : Http2Settings}
    (bounded : localSettings.maxFrameSize < 2 ^ 24) (streamId : ℕ)
    (messages : List (Http2Message localSettings.maxFrameSize)) :
    (messages.flatMap (frames localSettings bounded)).filter
        (fun frame => decide (frame.streamId = streamId)) =
      (messages.filter fun message => decide (message.streamId = streamId)).flatMap
        (frames localSettings bounded) := by
  induction messages with
  | nil => rfl
  | cons message messages ih =>
      rw [List.flatMap_cons, List.filter_append, ih]
      by_cases own : message.streamId = streamId
      · have all : (message.frames localSettings bounded).filter
            (fun frame => decide (frame.streamId = streamId)) =
              message.frames localSettings bounded := by
          rw [List.filter_eq_self]
          intro frame member
          simp [streamId_of_mem_frames member, own]
        rw [all, List.filter_cons_of_pos (by simp [own]), List.flatMap_cons]
      · have none : (message.frames localSettings bounded).filter
            (fun frame => decide (frame.streamId = streamId)) = [] := by
          rw [List.filter_eq_nil_iff]
          intro frame member
          simp [streamId_of_mem_frames member, own]
        rw [none, List.filter_cons_of_neg (by simp [own]), List.nil_append]

/-- What the messages for a stream come to there. -/
theorem streamRun_frames {localSettings : Http2Settings}
    (bounded : localSettings.maxFrameSize < 2 ^ 24) (positive : 0 < localSettings.maxFrameSize)
    (streamId : ℕ) (messages : List (Http2Message localSettings.maxFrameSize)) :
    Http2Handler.streamRun streamId
        ((messages.flatMap (frames localSettings bounded)).map .frame) =
      meantFor streamId messages := by
  have ownEvents : ((messages.flatMap (frames localSettings bounded)).map
      Http2Event.frame).filter (fun event => decide (event.streamId = streamId)) =
        ((messages.flatMap (frames localSettings bounded)).filter
          fun frame => decide (frame.streamId = streamId)).map .frame := by
    rw [List.filter_map]
    rfl
  rw [Http2Handler.streamRun, ownEvents, filter_frames, List.map_flatMap]
  exact Transducer.run_flatMap (run_frames bounded positive) none _

omit [WideShift] in
/-- A stream whose headers are among the messages exists afterwards. -/
theorem isSome_meaning {view : Option StreamView} {messages : List (Http2Message limit)}
    (opened : view.isSome = true ∨ ∃ message ∈ messages, message.opens = true) :
    (meaning.run view messages).1.isSome = true := by
  induction messages generalizing view with
  | nil => simpa [Transducer.run] using opened
  | cons message messages ih =>
      apply ih
      rcases opened with present | ⟨opening, member, opens⟩
      · left
        rcases Option.isSome_iff_exists.mp present with ⟨seen, rfl⟩
        cases message with
        | headers streamId idLt fields encodable fits endStream => cases endStream <;> rfl
        | data streamId idLt bytes endStream =>
            simp only [meaning]
            split_ifs <;> rfl
        | _ => rfl
      · rcases List.mem_cons.mp member with rfl | later
        · left
          cases opening with
          | headers streamId idLt fields encodable fits endStream => cases endStream <;> rfl
          | _ => simp [Http2Message.opens] at opens
        · exact Or.inr ⟨opening, later, opens⟩

omit [WideShift] in
theorem opened_of_begun {localSettings : Http2Settings}
    {bounded : localSettings.maxFrameSize < 2 ^ 24}
    {messages : List (Http2Message localSettings.maxFrameSize)}
    {message : Http2Message localSettings.maxFrameSize} (begun : Begun messages message)
    {frame : Http2Frame} (member : frame ∈ message.frames localSettings bounded)
    (data : frame.type = .data) :
    (meantFor message.streamId messages).1.isSome = true := by
  apply isSome_meaning
  right
  cases message with
  | data streamId idLt bytes endStream =>
      rcases begun with ⟨earlier, earlierMem, opens, same⟩
      exact ⟨earlier, List.mem_filter.mpr ⟨earlierMem, decide_eq_true same⟩, opens⟩
  | _ =>
      rw [List.mem_singleton.mp member] at data
      simp +decide at data

end Http2Message

namespace Http2Handler

/-- A frame that the handler takes when it has a connection, and when the stream exists if it is a
`DATA` frame. -/
structure Acceptable (frame : Http2Frame) : Prop where
  decodes : frame.type = .headers → decodeBlock frame.payload ≠ none
  notContinuation : frame.type ≠ .continuation
  effective : frame.type = .windowUpdate → BigEndian.decode (frame.payload.take 4) % 2 ^ 31 ≠ 0

theorem afterEvents_append (events more : List Http2Event) :
    afterEvents (events ++ more) = more.foldl onEvent (afterEvents events) := by
  rw [afterEvents, List.foldl_append, ← afterEvents]

theorem acceptable_of_type {frame : Http2Frame} {type : Http2FrameType}
    (typeEq : frame.type = type)
    (plain : type ≠ .headers ∧ type ≠ .continuation ∧ type ≠ .windowUpdate) :
    Acceptable frame := by
  subst typeEq
  exact ⟨fun headers => absurd headers plain.1, plain.2.1, fun update => absurd update plain.2.2⟩

theorem Acceptable.handleFrame_ok {frame : Http2Frame} (acceptable : Acceptable frame)
    {handler : Http2Handler PlainTls} (valid : handler.Valid)
    (opened : frame.type = .data → (handler.viewAt frame.streamId).isSome = true) :
    (handler.handleFrame frame).1 = .ok := by
  by_cases settings : frame.type = .settings
  · simp only [handleFrame, settings, if_true, handleSettingsFrame, sendSettingsAck_plain]
    split_ifs <;> rfl
  · rcases handler.handleFrame_status settings with ⟨rejects, -⟩ | ⟨-, ok⟩
    · rcases rejects with ⟨headers, lost | ⟨-, -, noConn⟩⟩ | ⟨data, absent | ⟨-, noConn⟩⟩ |
        ⟨continuation, -⟩ | ⟨windowUpdate, -, zero⟩
      · exact absurd lost (acceptable.decodes headers)
      · simp [valid.connSet] at noConn
      · have present := opened data
        simp [viewAt, absent] at present
      · simp [valid.connSet] at noConn
      · exact absurd continuation acceptable.notContinuation
      · exact absurd zero (acceptable.effective windowUpdate)
    · exact ok

/-- No event removes a stream. -/
theorem viewAt_onEvent_isSome {handler : Http2Handler PlainTls} (valid : handler.Valid)
    (event : Http2Event) {streamId : ℕ} (opened : (handler.viewAt streamId).isSome = true) :
    ((handler.onEvent event).viewAt streamId).isSome = true := by
  have effect := onEvent_spec valid event
  by_cases own : streamId = event.streamId
  · subst own
    rw [effect.viewAt_self]
    rcases Option.isSome_iff_exists.mp opened with ⟨view, viewEq⟩
    cases event with
    | frame frame =>
        rw [viewEq]
        exact StreamView.onFrame_some_isSome view frame
    | sendResponse bytes =>
        rw [viewEq]
        rfl
  · rw [effect.viewAt_other own]
    exact opened

/-- Acceptable frames are all handled. -/
theorem handleFrames_acceptable (frames : List Http2Frame)
    (acceptable : ∀ frame ∈ frames, Acceptable frame) {handler : Http2Handler PlainTls}
    (valid : handler.Valid)
    (opened : ∀ frame ∈ frames, frame.type = .data →
      (handler.viewAt frame.streamId).isSome = true) :
    handleFrames frames handler = (.ok, (frames.map Http2Event.frame).foldl onEvent handler) := by
  induction frames generalizing handler with
  | nil => rfl
  | cons frame frames ih =>
      rcases List.forall_mem_cons.mp acceptable with ⟨first, others⟩
      rcases List.forall_mem_cons.mp opened with ⟨firstOpened, othersOpened⟩
      have ok := first.handleFrame_ok valid firstOpened
      have notFailed : ProtocolStatus.ok.failed = false := by decide
      have next := onEvent_spec valid (.frame frame)
      simp only [handleFrames, ok, notFailed, Bool.false_eq_true, if_false, List.map_cons,
        List.foldl_cons]
      apply ih others next.valid
      intro other member data
      exact viewAt_onEvent_isSome valid (.frame frame) (othersOpened other member data)

theorem acceptable_frames {localSettings : Http2Settings}
    {bounded : localSettings.maxFrameSize < 2 ^ 24}
    {message : Http2Message localSettings.maxFrameSize} {frame : Http2Frame}
    (member : frame ∈ message.frames localSettings bounded) : Acceptable frame := by
  cases message with
  | settings =>
      rw [List.mem_singleton.mp member]
      exact acceptable_of_type (show _ = Http2FrameType.settings from rfl) (by decide)
  | headers streamId idLt fields encodable fits endStream =>
      rw [List.mem_singleton.mp member]
      refine ⟨?_, ?_, ?_⟩
      · simp [Http2Message.decodeBlock_encode encodable]
      · simp +decide
      · simp +decide
  | data streamId idLt bytes endStream =>
      exact acceptable_of_type (message_of_mem_dataFrames member).2 (by decide)
  | windowUpdate streamId idLt increment effective =>
      rw [List.mem_singleton.mp member]
      refine ⟨?_, ?_, ?_⟩
      · simp +decide
      · simp +decide
      · have small : increment % 2 ^ 31 % 256 ^ 4 % 2 ^ 31 = increment % 2 ^ 31 := by omega
        have value : (BigEndian.encode 4 (increment % 2 ^ 31)).take 4 =
            BigEndian.encode 4 (increment % 2 ^ 31) :=
          List.take_of_length_le (by simp)
        simp only [value, BigEndian.decode_encode, small]
        exact fun _ => effective
  | rstStream streamId idLt errorCode =>
      rw [List.mem_singleton.mp member]
      exact acceptable_of_type (show _ = Http2FrameType.rstStream from rfl) (by decide)

/-- The receiver takes all frames of a conversation in which no data come before their headers. -/
theorem handleFrames_conversation {localSettings : Http2Settings}
    (bounded : localSettings.maxFrameSize < 2 ^ 24) (positive : 0 < localSettings.maxFrameSize)
    {messages : List (Http2Message localSettings.maxFrameSize)}
    (begun : EveryStep Http2Message.Begun messages) :
    handleFrames (messages.flatMap (Http2Message.frames localSettings bounded)) connected =
      (.ok, afterEvents
        ((messages.flatMap (Http2Message.frames localSettings bounded)).map .frame)) := by
  induction messages using List.reverseRecOn with
  | nil => rfl
  | append_singleton messages message ih =>
      rcases everyStep_concat.mp begun with ⟨earlier, last⟩
      have notFailed : ProtocolStatus.ok.failed = false := by decide
      rw [List.flatMap_append, List.flatMap_singleton, handleFrames_append, ih earlier,
        List.map_append, afterEvents_append]
      simp only [notFailed, Bool.false_eq_true, if_false]
      apply handleFrames_acceptable
      · intro frame member
        exact acceptable_frames member
      · exact valid_afterEvents _
      · intro frame member data
        rw [Http2Message.streamId_of_mem_frames member, (run_stream _ _).1,
          Http2Message.streamRun_frames bounded positive]
        exact Http2Message.opened_of_begun last member data

/-- The bytes of a conversation, in whatever reads they arrive, are its frames to the receiver. -/
theorem readPieces_messages {Tls : Type u} [TlsLayer Tls] (succeed : WritesSucceed Tls)
    (sender : Http2Handler (Observed Tls)) (positive : 0 < sender.localSettings.maxFrameSize)
    (bounded : sender.localSettings.maxFrameSize < 2 ^ 24)
    (messages : List (Http2Message sender.localSettings.maxFrameSize))
    (begun : EveryStep Http2Message.Begun messages) (pieces : List Bytes)
    (arrive : (sender.sendAll messages).tlsHandler.sent.flatten =
      sender.tlsHandler.sent.flatten ++ pieces.flatten)
    (fit : ∀ piece ∈ pieces, piece.length ≤ tempBufferSize) :
    ∃ later history,
      readPieces pieces connected =
        endWith later history (.ok, afterEvents
          ((messages.flatMap (Http2Message.frames sender.localSettings bounded)).map .frame)) := by
  rw [sent_sendAll succeed sender bounded, List.append_cancel_left_eq] at arrive
  have parsed := framing.parse_flatMap
    (messages.flatMap (Http2Message.frames sender.localSettings bounded))
  change framing.parse ((messages.flatMap _).flatMap bytes) = _ at parsed
  have reads : ∃ later history,
      readPieces pieces connected =
        endWith later history (handleFrames (framing.parse pieces.flatten).1 connected) :=
    readPieces_withBuffer pieces fit connected rfl [] rfl
  rcases reads with ⟨later, history, read⟩
  rw [← arrive, parsed, handleFrames_conversation bounded positive begun] at read
  exact ⟨later, history, read⟩

/-- The messages that one handler sends reach another one, in whatever reads their bytes arrive:
every stream of the receiver is where the messages for it take it, and the receiver has answered
on it as they call for. -/
theorem messages_arrive {Tls : Type u} [TlsLayer Tls] (succeed : WritesSucceed Tls)
    (sender : Http2Handler (Observed Tls)) (positive : 0 < sender.localSettings.maxFrameSize)
    (bounded : sender.localSettings.maxFrameSize < 2 ^ 24)
    (messages : List (Http2Message sender.localSettings.maxFrameSize))
    (begun : EveryStep Http2Message.Begun messages) (pieces : List Bytes)
    (arrive : (sender.sendAll messages).tlsHandler.sent.flatten =
      sender.tlsHandler.sent.flatten ++ pieces.flatten)
    (fit : ∀ piece ∈ pieces, piece.length ≤ tempBufferSize) :
    (readPieces pieces connected).1 = .ok ∧
      ∀ streamId,
        (readPieces pieces connected).2.viewAt streamId =
            (Http2Message.meantFor streamId messages).1 ∧
          (readPieces pieces connected).2.messagesOn streamId =
            (Http2Message.meantFor streamId messages).2 := by
  rcases readPieces_messages succeed sender positive bounded messages begun pieces arrive fit with
    ⟨later, history, read⟩
  rw [read]
  refine ⟨rfl, ?_⟩
  intro streamId
  have run := run_stream streamId
    ((messages.flatMap (Http2Message.frames sender.localSettings bounded)).map .frame)
  rw [Http2Message.streamRun_frames bounded positive] at run
  exact run

end Http2Handler

end Receiving

namespace Http2Handler

def shortFields : HttpHeaders := .ofList [(ascii ":method", ascii "POST")]

theorem encodable_shortFields (name value : Bytes) (found : shortFields[name]? = some value) :
    name ≠ [] ∧ name.length < 2 ^ 31 ∧ value.length < 2 ^ 31 := by
  have fields : ∀ field ∈ shortFields.toList,
      field.1 ≠ [] ∧ field.1.length < 2 ^ 31 ∧ field.2.length < 2 ^ 31 := by
    decide +kernel
  exact fields (name, value) (Std.ExtTreeMap.mem_toList_iff_getElem?_eq_some.mpr found)

theorem length_encode_shortFields :
    (Hpack.encode shortFields).length ≤ threeBytes.localSettings.maxFrameSize := by
  decide +kernel

theorem one_lt_streamIds : 1 < 2 ^ 31 := by decide

/-- A short request, sent in frames of at most three bytes. -/
def shortRequest : List (Http2Message threeBytes.localSettings.maxFrameSize) :=
  [.settings,
    .headers 1 one_lt_streamIds shortFields encodable_shortFields length_encode_shortFields false,
    .data 1 one_lt_streamIds (ascii "hello") true]

theorem begun_shortRequest : EveryStep Http2Message.Begun shortRequest := by
  change EveryStep Http2Message.Begun ((([] ++ [_]) ++ [_]) ++ [_])
  refine everyStep_concat.mpr ⟨everyStep_concat.mpr ⟨everyStep_concat.mpr
    ⟨everyStep_nil, trivial⟩, trivial⟩, ?_⟩
  exact ⟨_, List.mem_append_right _ (List.mem_singleton.mpr rfl), rfl, rfl⟩

/-- The bytes of the request in two reads, the first of which ends inside the `SETTINGS` frame. -/
def shortRequestReads : List Bytes :=
  let sent := (threeBytes.sendAll shortRequest).tlsHandler.sent.flatten
  [sent.take 20, sent.drop 20]

theorem messages_arrive_shortRequest :
    (readPieces shortRequestReads connected).1 = .ok ∧
      ∀ streamId,
        (readPieces shortRequestReads connected).2.viewAt streamId =
            (Http2Message.meantFor streamId shortRequest).1 ∧
          (readPieces shortRequestReads connected).2.messagesOn streamId =
            (Http2Message.meantFor streamId shortRequest).2 :=
  messages_arrive writesSucceed_plain threeBytes (by decide) (by decide) shortRequest
    begun_shortRequest shortRequestReads (by decide +kernel) (by decide +kernel)

end Http2Handler

end HttpsServerSim
