import HttpsServerSim.Protocol.Http2Draining
import HttpsServerSim.Protocol.TlsPlumbing

/-!
# The server preface

The first thing an HTTP/2 server sends is its `SETTINGS` frame. The handler sends it
in `init`, once, and drops the result; but `TlsHandler` takes no write before the
handshake is done, and the handshake begins after `init`. The frame is lost, and the
first frame that the TLS layer does accept is another one, if there is any
(`preface_iff`).

The first part holds over any TLS layer: which calls make the handler write, and what
it writes first. The second part is the layer of the OpenSSL build.
-/

namespace HttpsServerSim

open Http2Frame TlsLayer

universe u

namespace Http2Handler

/-! ## What the handler writes first -/

section Speaking

variable {Tls : Type u} [TlsLayer Tls]

/-- The layer `after` comes from `start` by writes, and the first of them is the header of a frame
that is no `SETTINGS` frame or an acknowledgement. -/
def Utters (start after : Tls) : Prop :=
  ∃ type streamId flags len, (type = Http2FrameType.settings → flags = http2FlagAck) ∧
    WrittenFrom (TlsLayer.write start (frameHeader type streamId flags len)).2.2 after

theorem Utters.trans {start middle after : Tls} (utters : Utters start middle)
    (later : WrittenFrom middle after) : Utters start after := by
  rcases utters with ⟨type, streamId, flags, len, noPreface, written⟩
  exact ⟨type, streamId, flags, len, noPreface, written.trans later⟩

theorem writeFrame_utters (handler : Http2Handler Tls) {type : Http2FrameType} (streamId : ℕ)
    {flags : UInt8} (noPreface : type = .settings → flags = http2FlagAck) (payload : Bytes) :
    Utters handler.tlsHandler (handler.writeFrame type streamId flags payload).2.tlsHandler := by
  have header : (handler.writeAll (frameHeader type streamId flags payload.length)).2.tlsHandler =
      (TlsLayer.write handler.tlsHandler
        (frameHeader type streamId flags payload.length)).2.2 := by
    simp only [writeAll]
    split_ifs <;> rfl
  refine ⟨type, streamId, flags, payload.length, noPreface, ?_⟩
  rw [← header]
  simp only [writeFrame]
  split_ifs
  · exact .refl
  · exact .refl
  · exact (writeAll_sends _ payload).tlsHandler

theorem sendHeadersFrame_utters (handler : Http2Handler Tls) (streamId : ℕ)
    (headers : HttpHeaders) (endStream : Bool) :
    Utters handler.tlsHandler
      (handler.sendHeadersFrame streamId headers endStream).2.tlsHandler := by
  have noPreface (flags : UInt8) : Http2FrameType.headers = .settings → flags = http2FlagAck :=
    fun same => absurd same (by decide)
  simp only [sendHeadersFrame]
  split_ifs <;>
    first
      | exact handler.writeFrame_utters _ (noPreface _) _
      | exact (handler.writeFrame_utters _ (noPreface _) _).trans
          (sendContinuations_sends _ _ _ _).tlsHandler

theorem sendDataFrame_utters (handler : Http2Handler Tls) (streamId : ℕ) {bytes : Bytes}
    (nonempty : bytes ≠ []) (endStream : Bool) :
    Utters handler.tlsHandler
      (handler.sendDataFrame streamId bytes endStream).2.tlsHandler := by
  have noPreface (flags : UInt8) : Http2FrameType.data = .settings → flags = http2FlagAck :=
    fun same => absurd same (by decide)
  cases length : bytes.length with
  | zero => exact absurd (List.length_eq_zero_iff.mp length) nonempty
  | succ fuel =>
      simp only [sendDataFrame, length, sendDataLoop, List.isEmpty_iff, nonempty, if_false]
      generalize (if min (fuel + 1) handler.localSettings.maxFrameSize = fuel + 1 ∧
        endStream = true then http2FlagEndStream else 0) = flags
      split_ifs
      · exact handler.writeFrame_utters _ (noPreface _) _
      · exact (handler.writeFrame_utters _ (noPreface _) _).trans
          (sendDataLoop_sends _ _ _ _ _).tlsHandler

theorem handleCompleteRequest_utters (handler : Http2Handler Tls) (stream : Http2Stream) :
    (handler.connSet = true ∧
        Utters handler.tlsHandler (handler.handleCompleteRequest stream).2.tlsHandler) ∨
      (handler.connSet = false ∧
        (handler.handleCompleteRequest stream).2.tlsHandler = handler.tlsHandler) := by
  simp only [handleCompleteRequest]
  split_ifs with connSet
  · left
    exact ⟨connSet, (handler.sendHeadersFrame_utters _ _ _).trans
      (sendDataFrame_sends _ _ _ _).tlsHandler⟩
  · right
    exact ⟨by simpa using connSet, rfl⟩

variable [WideShift]

/-- The frames that make the handler write: settings to acknowledge, pings, and the end of a
request. -/
def Speaks (handler : Http2Handler Tls) (frame : Http2Frame) : Prop :=
  handler.TriesAck frame ∨ (frame.type = .ping ∧ 8 ≤ frame.payload.length) ∨
    (handler.connSet = true ∧
      StreamView.completesRequest (handler.streams[frame.streamId]?.map Http2Stream.view) frame)

omit [TlsLayer Tls] in
theorem mergeFragment_tlsHandler (handler : Http2Handler Tls) (streamId : ℕ)
    (stream : Http2Stream) (payload : Bytes) :
    (handler.mergeFragment streamId stream payload).2.2.tlsHandler = handler.tlsHandler := by
  simp only [mergeFragment]
  split_ifs <;> rfl

/-- What a call did to the TLS layer, if `speaks` tells whether it makes the handler write. -/
def Tells (speaks : Prop) (start after : Tls) : Prop :=
  (speaks ∧ Utters start after) ∨ (¬ speaks ∧ after = start)

omit [WideShift] in
theorem Tells.congr {speaks other : Prop} {start after : Tls} (tells : Tells speaks start after)
    (same : speaks ↔ other) : Tells other start after := by
  rw [Tells, ← same]
  exact tells

omit [WideShift] in
theorem tells_of_complete (handler : Http2Handler Tls) {start : Tls} {connSet : Bool}
    {completes : Prop} (sameTls : handler.tlsHandler = start) (sameConn : handler.connSet = connSet)
    (complete : completes) (stream : Http2Stream) :
    Tells (connSet = true ∧ completes) start
      (handler.handleCompleteRequest stream).2.tlsHandler := by
  subst sameTls sameConn
  rcases handler.handleCompleteRequest_utters stream with ⟨connSet, utters⟩ | ⟨noConn, quiet⟩
  · exact Or.inl ⟨⟨connSet, complete⟩, utters⟩
  · exact Or.inr ⟨by simp [noConn], quiet⟩

theorem handleHeadersFrame_tells (handler : Http2Handler Tls) (streamId : ℕ) (payload : Bytes)
    (flags : UInt8) :
    Tells (handler.connSet = true ∧ flags &&& http2FlagEndHeaders ≠ 0 ∧
        flags &&& http2FlagEndStream ≠ 0 ∧ (decodeBlock payload).isSome)
      handler.tlsHandler (handler.handleHeadersFrame streamId payload flags).2.tlsHandler := by
  simp only [handleHeadersFrame]
  generalize (if (getOrCreateStream handler.streams streamId).state = .idle then
    { getOrCreateStream handler.streams streamId with state := Http2StreamState.open }
    else getOrCreateStream handler.streams streamId) = stream
  have sameTls := mergeFragment_tlsHandler
    { handler with streams := handler.streams.insert streamId stream } streamId stream payload
  rcases mergeFragment_status { handler with streams := handler.streams.insert streamId stream }
    streamId stream payload with ⟨lost, status⟩ | ⟨found, status, _, sameConn⟩
  · right
    simp [lost, status, sameTls]
  · have decodes : (decodeBlock payload).isSome := Option.isSome_iff_ne_none.mpr found
    simp only [status, ne_eq, not_true_eq_false, if_false]
    by_cases endHeaders : flags &&& http2FlagEndHeaders = 0
    · right
      simp [endHeaders, sameTls]
    · by_cases endStream : flags &&& http2FlagEndStream = 0
      · right
        simp [endHeaders, endStream, sameTls]
      · rw [if_neg endHeaders, if_pos endStream]
        apply tells_of_complete
        · exact sameTls
        · exact sameConn
        · exact ⟨endHeaders, endStream, decodes⟩

omit [WideShift] in
theorem handleDataFrame_tells (handler : Http2Handler Tls) (streamId : ℕ) (payload : Bytes)
    (flags : UInt8) :
    Tells (handler.connSet = true ∧ flags &&& http2FlagEndStream ≠ 0 ∧
        handler.streams[streamId]?.isSome)
      handler.tlsHandler (handler.handleDataFrame streamId payload flags).2.tlsHandler := by
  simp only [handleDataFrame]
  cases handler.streams[streamId]? with
  | none =>
      right
      simp
  | some stream =>
      dsimp only
      by_cases endStream : flags &&& http2FlagEndStream = 0
      · right
        simp [endStream]
      · rw [if_pos endStream]
        apply tells_of_complete
        · rfl
        · rfl
        · exact ⟨endStream, rfl⟩

theorem handleContinuationFrame_tells (handler : Http2Handler Tls) (streamId : ℕ)
    (payload : Bytes) (flags : UInt8) :
    Tells (handler.connSet = true ∧ flags &&& http2FlagEndHeaders ≠ 0 ∧
        (decodeBlock payload).isSome ∧
        handler.streams[streamId]?.map Http2Stream.state = some .halfClosedRemote)
      handler.tlsHandler (handler.handleContinuationFrame streamId payload flags).2.tlsHandler := by
  simp only [handleContinuationFrame]
  cases handler.streams[streamId]? with
  | none =>
      right
      simp
  | some stream =>
      have sameTls := handler.mergeFragment_tlsHandler streamId stream payload
      rcases mergeFragment_status handler streamId stream payload with
        ⟨lost, status⟩ | ⟨found, status, sameState, sameConn⟩
      · right
        simp [lost, status, sameTls]
      · have decodes : (decodeBlock payload).isSome := Option.isSome_iff_ne_none.mpr found
        simp only [status, ne_eq, not_true_eq_false, if_false, sameState]
        split_ifs with complete
        · exact tells_of_complete _ sameTls sameConn
            ⟨complete.1, decodes, by rw [Option.map_some, complete.2]⟩ _
        · right
          refine ⟨?_, sameTls⟩
          rintro ⟨_, endHeaders, _, state⟩
          exact complete ⟨endHeaders, by simpa using state⟩

omit [WideShift] in
theorem handleSettingsFrame_tells (handler : Http2Handler Tls) {frame : Http2Frame}
    (settings : frame.type = .settings) :
    Tells (handler.TriesAck frame) handler.tlsHandler
      (handler.handleSettingsFrame frame.payload).2.tlsHandler := by
  by_cases tries : handler.TriesAck frame
  · left
    refine ⟨tries, ?_⟩
    rw [tries.handleSettingsFrame]
    exact writeFrame_utters
      { handler with
        settings := applySettings handler.settings frame.payload
        settingsAckSent := true } 0 (fun _ => rfl) []
  · right
    exact ⟨tries, (handleSettingsFrame_of_not_triesAck settings tries).2⟩

omit [WideShift] in
theorem handlePingFrame_tells (handler : Http2Handler Tls) (payload : Bytes) :
    Tells (8 ≤ payload.length) handler.tlsHandler
      (handler.handlePingFrame payload).2.tlsHandler := by
  unfold handlePingFrame
  split_ifs with long
  · exact Or.inl ⟨long, handler.writeFrame_utters _ (fun same => absurd same (by decide)) _⟩
  · exact Or.inr ⟨long, rfl⟩

theorem handleFrame_tells (handler : Http2Handler Tls) (frame : Http2Frame) :
    Tells (handler.Speaks frame) handler.tlsHandler (handler.handleFrame frame).2.tlsHandler := by
  by_cases settings : frame.type = .settings
  · rw [handler.handleFrame_settings settings]
    refine (handler.handleSettingsFrame_tells settings).congr ?_
    simp +decide [Speaks, settings, StreamView.completesRequest]
  by_cases headers : frame.type = .headers
  · simp +decide only [handleFrame, headers, if_true, if_false]
    refine (handler.handleHeadersFrame_tells _ _ _).congr ?_
    simp +decide [Speaks, TriesAck, headers, StreamView.completesRequest, endsHeaders, endsStream]
  by_cases data : frame.type = .data
  · simp +decide only [handleFrame, data, if_true, if_false]
    refine (handler.handleDataFrame_tells _ _ _).congr ?_
    simp +decide [Speaks, TriesAck, data, StreamView.completesRequest, endsStream]
  by_cases continuation : frame.type = .continuation
  · simp +decide only [handleFrame, continuation, if_true, if_false]
    refine (handler.handleContinuationFrame_tells _ _ _).congr ?_
    simp +decide [Speaks, TriesAck, continuation, StreamView.completesRequest, endsHeaders,
      Function.comp_def, Http2Stream.view]
  by_cases ping : frame.type = .ping
  · simp +decide only [handleFrame, ping, if_true, if_false, false_and]
    refine (handler.handlePingFrame_tells _).congr ?_
    simp +decide [Speaks, TriesAck, ping, StreamView.completesRequest]
  · right
    refine ⟨?_, ?_⟩
    · simp [Speaks, TriesAck, StreamView.completesRequest, settings, headers, data, continuation,
        ping]
    · simp only [handleFrame, settings, headers, data, continuation, ping, if_false]
      split_ifs
      · unfold handleWindowUpdateFrame
        split_ifs <;> rfl
      · rfl
      · rfl

theorem readFrames_written (fuel : ℕ) (handler : Http2Handler Tls) :
    WrittenFrom handler.tlsHandler (readFrames fuel handler).2.tlsHandler := by
  induction fuel generalizing handler with
  | zero => exact .refl
  | succ fuel ih =>
      have step : WrittenFrom handler.tlsHandler handler.readFrame.2.tlsHandler := by
        cases found : splitFrame handler.plaintextBuffer.contents with
        | none =>
            rw [readFrame_of_incomplete found]
            exact .refl
        | some result => exact (readFrame_of_complete found).2.2
      simp only [readFrames]
      split_ifs
      · exact step
      · exact step
      · exact step.trans (ih _)

/-- A read makes the handler write exactly if one of its frames does, and the first such frame
tells what comes first. -/
theorem readFrames_tells (fuel : ℕ) (handler : Http2Handler Tls) :
    Tells (∃ call ∈ visited fuel handler, call.1.Speaks call.2) handler.tlsHandler
      (readFrames fuel handler).2.tlsHandler := by
  induction fuel generalizing handler with
  | zero => exact Or.inr ⟨by simp [visited], rfl⟩
  | succ fuel ih =>
      cases found : splitFrame handler.plaintextBuffer.contents with
      | none =>
          right
          simp [visited, readFrames, found, readFrame_of_incomplete found]
      | some result =>
          rcases result with ⟨frame, rest⟩
          have stepTls : handler.readFrame.2.tlsHandler =
              (handler.pastHeader.handleFrame frame).2.tlsHandler := by
            simp only [readFrame, found]
            rfl
          have later := ih handler.readFrame.2
          have written := readFrames_written fuel handler.readFrame.2
          simp only [visited, readFrames, found]
          rcases handler.pastHeader.handleFrame_tells frame with ⟨speaks, utters⟩ | ⟨quiet, same⟩
          · left
            rw [← stepTls] at utters
            refine ⟨⟨_, List.mem_cons_self, speaks⟩, ?_⟩
            split_ifs
            · exact utters
            · exact utters
            · exact utters.trans written
          · -- a quiet frame leaves the layer alone, so that what follows is decided later
            have sameTls : handler.readFrame.2.tlsHandler = handler.tlsHandler := stepTls.trans same
            rw [sameTls] at later
            by_cases ok : handler.readFrame.1 = .ok
            · have notFailed : ProtocolStatus.ok.failed = false := by decide
              simpa [ok, notFailed, quiet] using later
            · right
              rw [if_neg ok]
              refine ⟨by simpa using quiet, ?_⟩
              have failed := (ProtocolStatus.failed_iff _).mpr ok
              simp only [failed, if_true]
              split_ifs <;> exact sameTls

end Speaking

end Http2Handler

/-! ## The layer of the OpenSSL build -/

namespace TlsHandler

theorem pumpReadLoop_ok {answers : List BioWriteAnswer} (healthy : .fail ∉ answers)
    (sslReadBio : BioEnd) (pair : BioPair) (rest : Bytes) :
    ∃ total, (pumpReadLoop sslReadBio answers pair rest).1 = .ok total := by
  induction answers generalizing pair rest with
  | nil => exact ⟨0, rfl⟩
  | cons answer answers ih =>
      rw [List.mem_cons, not_or] at healthy
      simp only [pumpReadLoop]
      split_ifs
      · exact ⟨0, rfl⟩
      · cases answer with
        | retry => exact ⟨0, rfl⟩
        | fail => exact absurd rfl healthy.1
        | moved extra =>
            rcases ih healthy.2 (pair.write sslReadBio (rest.take (min (extra + 1) rest.length)))
              (rest.drop (min (extra + 1) rest.length)) with ⟨total, total_eq⟩
            refine ⟨min (extra + 1) rest.length + total, ?_⟩
            simp only [total_eq]
            rfl

theorem pumpReadBio_ok {handler : TlsHandler} (wired : handler.Wired)
    {answers : List BioWriteAnswer} (healthy : .fail ∉ answers) :
    ∃ total pumped, handler.pumpReadBio answers = (.ok total, pumped) ∧
      pumped.handshakeDone = handler.handshakeDone := by
  rcases pumpReadLoop_ok healthy wiring.sslReadBio handler.pair handler.readBuffer with
    ⟨total, total_eq⟩
  simp only [pumpReadBio, wired.bios, wired.readBufferSet, Bool.true_eq_false, if_false]
  cases looped : pumpReadLoop wiring.sslReadBio answers handler.pair handler.readBuffer with
  | mk result pair =>
      rw [looped] at total_eq
      simp only at total_eq
      subst total_eq
      split_ifs <;> exact ⟨_, _, rfl, rfl⟩

theorem foldl_sslAct_handshakeDone (bios : BioWiring) (handler : TlsHandler)
    (actions : List SslAction) :
    (actions.foldl (sslAct bios) handler).handshakeDone = handler.handshakeDone := by
  induction actions generalizing handler with
  | nil => rfl
  | cons action actions ih =>
      rw [List.foldl_cons, ih]
      cases action <;> rfl

theorem sslCall_handshakeDone (handler : TlsHandler) (actions : List SslAction) :
    (handler.sslCall actions).handshakeDone = handler.handshakeDone := by
  unfold sslCall
  split
  · rfl
  · exact foldl_sslAct_handshakeDone _ _ _

theorem pumpWriteLoop_handshakeDone (sslWriteBio : BioEnd) (answers : List BioReadAnswer)
    (handler : TlsHandler) :
    (pumpWriteLoop sslWriteBio answers handler).2.handshakeDone = handler.handshakeDone := by
  induction answers generalizing handler with
  | nil => rfl
  | cons answer answers ih =>
      simp only [pumpWriteLoop]
      split_ifs
      · rfl
      · cases answer with
        | retry => rfl
        | fail => rfl
        | moved extra room =>
            dsimp only
            split_ifs
            · rw [ih]
              rfl
            · rfl

theorem pumpWriteBio_handshakeDone (handler : TlsHandler) (answers : List BioReadAnswer) :
    (handler.pumpWriteBio answers).2.handshakeDone = handler.handshakeDone := by
  unfold pumpWriteBio
  split
  · rfl
  · split_ifs
    · rfl
    · exact pumpWriteLoop_handshakeDone _ _ _

/-- An exchange in which nothing fails ends as the SSL call does. -/
theorem exchange_ok {handler : TlsHandler} (wired : handler.Wired) {env : TlsEnvironment}
    (healthy : .fail ∉ env.bioWrites) (failure : String) (success : Bool) :
    (∀ count, env.outcome = .done count →
        (handler.exchange env failure success).1 = .ok ∧
        (handler.exchange env failure success).2.1 = count ∧
        (handler.exchange env failure success).2.2.handshakeDone =
          (success || handler.handshakeDone)) ∧
      (env.outcome = .want →
        (handler.exchange env failure success).1 = .eagain ∧
        (handler.exchange env failure success).2.2.handshakeDone = handler.handshakeDone) := by
  rcases pumpReadBio_ok wired healthy with ⟨total, pumped, pumped_eq, sameDone⟩
  refine ⟨?_, ?_⟩
  · intro count outcome
    simp only [exchange, pumped_eq, outcome, pumpWriteBio_handshakeDone, sslCall_handshakeDone,
      sameDone, and_self]
  · intro outcome
    simp only [exchange, pumped_eq, outcome, pumpWriteBio_handshakeDone, sslCall_handshakeDone,
      sameDone, and_self]

end TlsHandler

/-- What happens in one call of the TLS handler apart from the SSL function succeeding: the
ciphertext that has arrived before it, how the pumps and the SSL object move bytes, and the
plaintext that a read finds. No `BIO_write` fails. -/
structure SslWork where
  arrived : Bytes := []
  bioWrites : List BioWriteAnswer := []
  actions : List SslAction := []
  bioReads : List BioReadAnswer := []
  plaintext : Bytes := []
  healthy : .fail ∉ bioWrites := by simp

/-- `TlsHandler` in a connection where SSL succeeds whenever it is called. `script` tells what
happens in each call; `accepted` are the writes answered with `PROTOCOL_OK`. -/
structure OpenSslTls where
  handler : TlsHandler := {}
  script : ℕ → SslWork
  callCount : ℕ := 0
  accepted : List Bytes := []

namespace OpenSslTls

def work (tls : OpenSslTls) : SslWork := tls.script tls.callCount

/-- The TLS handler when the next call begins. -/
def entered (tls : OpenSslTls) : TlsHandler := tls.handler.onEvent (.arrive tls.work.arrived)

def environment (tls : OpenSslTls) (outcome : SslOutcome) : TlsEnvironment where
  bioWrites := tls.work.bioWrites
  actions := tls.work.actions
  outcome := outcome
  bioReads := tls.work.bioReads

/-- The layer after a call that left the TLS handler as `handler`. -/
def left (tls : OpenSslTls) (handler : TlsHandler) : OpenSslTls :=
  { tls with handler := handler, callCount := tls.callCount + 1 }

/-- `init` creates the SSL object and its BIO pair; the two buffers are set right after it. It does
not touch `handshake_done_`. A read that finds no plaintext ends in `SSL_ERROR_WANT_READ`. -/
instance : TlsLayer OpenSslTls where
  init tls :=
    (.ok,
      { tls with
        handler :=
          { (TlsHandler.setupBio { tls.handler with sslSet := true }).2 with
            initialized := true
            readBufferSet := true
            writeBufferSet := true } })
  read tls len :=
    let bytes := tls.work.plaintext.take len
    let outcome := if bytes.isEmpty then .want else .done bytes.length
    let (ret, _, handler) := tls.entered.read (tls.environment outcome)
    (ret, if ret = .ok then bytes else [], tls.left handler)
  write tls bytes :=
    let (ret, count, handler) := tls.entered.write (tls.environment (.done bytes.length))
    let accepted := if ret = .ok then tls.accepted ++ [bytes] else tls.accepted
    (ret, count, { tls.left handler with accepted := accepted })
  close tls := tls

/-- `continue_handshake`. -/
def continueHandshake (tls : OpenSslTls) : ProtocolStatus × OpenSslTls :=
  let (ret, _, handler) := tls.entered.continueHandshake (tls.environment (.done 1))
  (ret, tls.left handler)

/-! What a call does to the wiring, the handshake and the accepted writes. -/

/-- The wiring that `init` makes. -/
def Wired (tls : OpenSslTls) : Prop := tls.handler.Wired

theorem entered_wired {tls : OpenSslTls} (wired : tls.Wired) : tls.entered.Wired :=
  ⟨wired.initialized, wired.sslSet, wired.bios, wired.readBufferSet, wired.writeBufferSet⟩

theorem exchange_ok (tls : OpenSslTls) (wired : tls.Wired) (outcome : SslOutcome) (failure : String)
    (success : Bool) :
    (∀ count, outcome = .done count →
        (tls.entered.exchange (tls.environment outcome) failure success).1 = .ok ∧
        (tls.entered.exchange (tls.environment outcome) failure success).2.1 = count ∧
        (tls.entered.exchange (tls.environment outcome) failure success).2.2.handshakeDone =
          (success || tls.handler.handshakeDone)) ∧
      (outcome = .want →
        (tls.entered.exchange (tls.environment outcome) failure success).1 = .eagain ∧
        (tls.entered.exchange (tls.environment outcome) failure success).2.2.handshakeDone =
          tls.handler.handshakeDone) := by
  have healthy : .fail ∉ (tls.environment outcome).bioWrites := tls.work.healthy
  exact TlsHandler.exchange_ok (entered_wired wired) healthy failure success

theorem onEvent_wired {handler : TlsHandler} (wired : handler.Wired) (event : TlsEvent) :
    (handler.onEvent event).Wired := by
  rcases TlsHandler.onEvent_moved wired event with ⟨_, _, moved, _⟩
  exact moved.wired wired

theorem write_wired {tls : OpenSslTls} (wired : tls.Wired) (bytes : Bytes) :
    (TlsLayer.write tls bytes).2.2.Wired :=
  onEvent_wired (entered_wired wired) (.call .write (tls.environment (.done bytes.length)))

/-- Before the handshake is done, a write is refused. -/
theorem write_of_not_done {tls : OpenSslTls} (wired : tls.Wired)
    (notDone : tls.handler.handshakeDone = false) (bytes : Bytes) :
    (TlsLayer.write tls bytes).2.2.accepted = tls.accepted ∧
      (TlsLayer.write tls bytes).2.2.handler.handshakeDone = false := by
  have refused : tls.entered.write (tls.environment (.done bytes.length)) =
      (.invalid, 0, tls.entered.setError .invalid "SSL not initialized or handshake not done") := by
    have notDone : tls.entered.handshakeDone = false := notDone
    simp [TlsHandler.write, TlsHandler.transfer, (entered_wired wired).initialized, notDone]
  simp only [TlsLayer.write, refused]
  exact ⟨rfl, notDone⟩

/-- After it, a write is accepted. -/
theorem write_of_done {tls : OpenSslTls} (wired : tls.Wired)
    (done : tls.handler.handshakeDone = true) (bytes : Bytes) :
    (TlsLayer.write tls bytes).2.2.accepted = tls.accepted ++ [bytes] ∧
      (TlsLayer.write tls bytes).2.2.handler.handshakeDone = true := by
  have done : tls.entered.handshakeDone = true := done
  have exchanged : tls.entered.write (tls.environment (.done bytes.length)) =
      tls.entered.exchange (tls.environment (.done bytes.length)) "SSL_write failed" false := by
    simp [TlsHandler.write, TlsHandler.transfer, (entered_wired wired).initialized,
      (entered_wired wired).sslSet, done]
  have ends := tls.exchange_ok wired (.done bytes.length) "SSL_write failed" false
  rcases ends.1 bytes.length rfl with ⟨ok, _, stillDone⟩
  simp only [TlsLayer.write, exchanged, ok, if_true]
  exact ⟨trivial, stillDone.trans done⟩

/-- Writes before the handshake change nothing that counts. -/
theorem writtenFrom_of_not_done {start after : OpenSslTls} (written : WrittenFrom start after)
    (wired : start.Wired) (notDone : start.handler.handshakeDone = false) :
    after.Wired ∧ after.accepted = start.accepted ∧ after.handler.handshakeDone = false := by
  induction written with
  | refl => exact ⟨wired, rfl, notDone⟩
  | write _ bytes ih =>
      rcases ih with ⟨wired, accepted, notDone⟩
      rcases write_of_not_done wired notDone bytes with ⟨refused, stillNotDone⟩
      exact ⟨write_wired wired bytes, refused.trans accepted, stillNotDone⟩

theorem writtenFrom_of_done {start after : OpenSslTls} (written : WrittenFrom start after)
    (wired : start.Wired) (done : start.handler.handshakeDone = true) :
    after.Wired ∧ start.accepted <+: after.accepted ∧ after.handler.handshakeDone = true := by
  induction written with
  | refl => exact ⟨wired, List.prefix_rfl, done⟩
  | write _ bytes ih =>
      rcases ih with ⟨wired, extended, done⟩
      rcases write_of_done wired done bytes with ⟨accepted, stillDone⟩
      refine ⟨write_wired wired bytes, ?_, stillDone⟩
      rw [accepted]
      exact extended.trans (List.prefix_append _ _)

theorem read_spec {tls : OpenSslTls} (wired : tls.Wired) (len : ℕ) :
    (TlsLayer.read tls len).2.2.Wired ∧
      (TlsLayer.read tls len).2.2.accepted = tls.accepted ∧
      (TlsLayer.read tls len).2.2.handler.handshakeDone = tls.handler.handshakeDone := by
  refine ⟨onEvent_wired (entered_wired wired) (.call .read _), rfl, ?_⟩
  simp only [TlsLayer.read, left, TlsHandler.read, TlsHandler.transfer,
    (entered_wired wired).initialized, (entered_wired wired).sslSet, Bool.true_eq_false, if_false,
    false_or]
  split_ifs with notDone empty
  · rfl
  · exact ((tls.exchange_ok wired .want "SSL_read failed" false).2 rfl).2
  · exact ((tls.exchange_ok wired (.done _) "SSL_read failed" false).1 _ rfl).2.2

theorem continueHandshake_spec {tls : OpenSslTls} (wired : tls.Wired) :
    tls.continueHandshake.2.Wired ∧ tls.continueHandshake.2.accepted = tls.accepted ∧
      tls.continueHandshake.2.handler.handshakeDone = true := by
  refine ⟨onEvent_wired (entered_wired wired) (.call .continueHandshake _), rfl, ?_⟩
  simp only [continueHandshake, left, TlsHandler.continueHandshake,
    (entered_wired wired).initialized, (entered_wired wired).sslSet, Bool.true_eq_false, if_false]
  exact ((tls.exchange_ok wired (.done 1) "SSL_do_handshake failed" true).1 1 rfl).2.2

end OpenSslTls

/-! ## Runs -/

theorem Http2Frame.frameHeader_inj {type other : Http2FrameType} {streamId otherId len otherLen : ℕ}
    {flags otherFlags : UInt8}
    (same : frameHeader type streamId flags len = frameHeader other otherId otherFlags otherLen) :
    type = other ∧ flags = otherFlags := by
  simp only [frameHeader, List.append_assoc] at same
  rcases List.append_inj same (by simp) with ⟨_, rest⟩
  simp only [List.cons_append, List.cons.injEq] at rest
  rcases type with ⟨code⟩
  rcases other with ⟨otherCode⟩
  have codes : code = otherCode := rest.1
  exact ⟨by rw [codes], rest.2.1⟩

/-- What the server calls on a handler after `init`. -/
inductive Http2Call where
  | continueHandshake
  | onRead
  | onWrite
  | sendResponse (bytes : Bytes)
deriving DecidableEq, Repr

namespace Http2Handler

/-- The writes `accepted` do not begin with the preface: there are none, or the first is the header
of another frame. -/
def NoPreface (accepted : List Bytes) : Prop :=
  accepted = [] ∨
    ∃ type streamId flags len rest, (type = Http2FrameType.settings → flags = http2FlagAck) ∧
      accepted = frameHeader type streamId flags len :: rest

/-- The first frame whose bytes the TLS layer accepted is the `SETTINGS` frame of `init`. -/
def PrefaceFirst (handler : Http2Handler OpenSslTls) : Prop :=
  initialSettings.writes <+: handler.tlsHandler.accepted ∨
    handler.tlsHandler.accepted <+: initialSettings.writes

theorem NoPreface.prefaceFirst_iff {handler : Http2Handler OpenSslTls}
    (noPreface : NoPreface handler.tlsHandler.accepted) :
    handler.PrefaceFirst ↔ handler.tlsHandler.accepted = [] := by
  constructor
  · intro first
    rcases noPreface with empty | ⟨type, streamId, flags, len, rest, other, accepted_eq⟩
    · exact empty
    · have header : frameHeader .settings 0 0 30 = frameHeader type streamId flags len := by
        rw [PrefaceFirst, accepted_eq] at first
        rcases first with begins | begins
        · exact (List.cons_prefix_cons.mp begins).1
        · exact (List.cons_prefix_cons.mp begins).1.symm
      rcases frameHeader_inj header with ⟨type_eq, flags_eq⟩
      rw [other type_eq.symm] at flags_eq
      exact absurd flags_eq (by decide)
  · intro empty
    right
    rw [empty]
    exact List.nil_prefix

section Runs

variable [WideShift]

def onCall (handler : Http2Handler OpenSslTls) : Http2Call → Http2Handler OpenSslTls
  | .continueHandshake => { handler with tlsHandler := handler.tlsHandler.continueHandshake.2 }
  | .onRead => handler.onRead.2
  | .onWrite => handler
  | .sendResponse bytes => (handler.sendResponse bytes).2

/-- A new handler after `init` with a connection and the given calls. -/
def afterCalls (script : ℕ → SslWork) (calls : List Http2Call) : Http2Handler OpenSslTls :=
  calls.foldl onCall ((construct { script := script }).init true).2

/-- A call that does not make the handler write. -/
def Silent (handler : Http2Handler OpenSslTls) : Http2Call → Prop
  | .onRead => ∀ call ∈ handler.calls, ¬ call.1.Speaks call.2
  | .sendResponse bytes => bytes = []
  | _ => True

/-- What a call did to the layer: accepted nothing, because it was made before the handshake or is
silent, or a frame other than the preface, because it was made after it and is not. -/
structure Progress (handler : Http2Handler OpenSslTls) (call : Http2Call) (after : OpenSslTls) :
    Prop where
  wired : after.Wired
  quiet : handler.tlsHandler.handler.handshakeDone = false ∨ handler.Silent call →
    after.accepted = handler.tlsHandler.accepted
  loud : handler.tlsHandler.handler.handshakeDone = true → ¬ handler.Silent call →
    ∃ type streamId flags len, (type = Http2FrameType.settings → flags = http2FlagAck) ∧
      handler.tlsHandler.accepted ++ [frameHeader type streamId flags len] <+: after.accepted

theorem progress_of_quiet {handler : Http2Handler OpenSslTls} {call : Http2Call}
    {after : OpenSslTls} (wired : after.Wired) (silent : handler.Silent call)
    (same : after.accepted = handler.tlsHandler.accepted) : handler.Progress call after :=
  ⟨wired, fun _ => same, fun _ loud => absurd silent loud⟩

/-- A call whose effect on the layer, from some state with the same accepted writes and handshake
on, tells whether it is silent. -/
theorem progress_of_tells {handler : Http2Handler OpenSslTls} {call : Http2Call}
    {start after : OpenSslTls} (wired : start.Wired)
    (sameAccepted : start.accepted = handler.tlsHandler.accepted)
    (sameDone : start.handler.handshakeDone = handler.tlsHandler.handler.handshakeDone)
    (written : WrittenFrom start after)
    (tells : Tells (¬ handler.Silent call) start after) : handler.Progress call after := by
  cases done : start.handler.handshakeDone with
  | false =>
      rcases OpenSslTls.writtenFrom_of_not_done written wired done with ⟨wiredAfter, same, _⟩
      refine ⟨wiredAfter, fun _ => same.trans sameAccepted, ?_⟩
      intro isDone
      rw [← sameDone, done] at isDone
      cases isDone
  | true =>
      have wiredAfter := (OpenSslTls.writtenFrom_of_done written wired done).1
      rcases tells with ⟨loud, type, streamId, flags, len, other, later⟩ | ⟨silent, unchanged⟩
      · refine ⟨wiredAfter, ?_, ?_⟩
        · rintro (notDone | silent)
          · rw [← sameDone, done] at notDone
            cases notDone
          · exact absurd silent loud
        · intro _ _
          refine ⟨type, streamId, flags, len, other, ?_⟩
          rcases OpenSslTls.write_of_done wired done (frameHeader type streamId flags len) with
            ⟨accepted, stillDone⟩
          rw [← sameAccepted, ← accepted]
          exact (OpenSslTls.writtenFrom_of_done later (OpenSslTls.write_wired wired _)
            stillDone).2.1
      · refine progress_of_quiet wiredAfter (not_not.mp silent) ?_
        rw [unchanged, sameAccepted]

theorem onCall_progress {handler : Http2Handler OpenSslTls} (wired : handler.tlsHandler.Wired)
    (call : Http2Call) : handler.Progress call (handler.onCall call).tlsHandler := by
  cases call with
  | continueHandshake =>
      rcases OpenSslTls.continueHandshake_spec wired with ⟨wiredAfter, same, _⟩
      exact progress_of_quiet wiredAfter trivial same
  | onWrite => exact progress_of_quiet wired trivial rfl
  | sendResponse bytes =>
      refine progress_of_tells wired rfl rfl (sendDataFrame_sends _ _ _ _).tlsHandler ?_
      by_cases empty : bytes = []
      · subst empty
        exact Or.inr ⟨not_not.mpr rfl, rfl⟩
      · exact Or.inl ⟨empty, handler.sendDataFrame_utters 1 empty true⟩
  | onRead =>
      rcases OpenSslTls.read_spec wired tempBufferSize with ⟨wiredRead, same, sameDone⟩
      by_cases ok : (TlsLayer.read handler.tlsHandler tempBufferSize).1 = .ok
      · have calls_eq : handler.calls =
            visited (handler.loaded.plaintextBuffer.readableBytes + 1) handler.loaded := if_pos ok
        have read_eq : handler.onRead = _ := onRead_of_read_ok ok
        have told := readFrames_tells (handler.loaded.plaintextBuffer.readableBytes + 1)
          handler.loaded
        have written := readFrames_written (handler.loaded.plaintextBuffer.readableBytes + 1)
          handler.loaded
        rw [← read_eq] at told written
        refine progress_of_tells wiredRead same sameDone written (told.congr ?_)
        simp only [Silent, calls_eq, not_forall, not_not, exists_prop]
      · have silent : handler.Silent .onRead := by
          simp [Silent, calls, ok]
        have stopped : handler.onRead.2.tlsHandler =
            (TlsLayer.read handler.tlsHandler tempBufferSize).2.2 := by
          have failed := (ProtocolStatus.failed_iff _).mpr ok
          simp only [onRead, failed, if_true]
          split_ifs <;> rfl
        refine progress_of_quiet ?_ silent ?_
        · rw [onCall, stopped]
          exact wiredRead
        · rw [onCall, stopped]
          exact same

theorem afterCalls_concat (script : ℕ → SslWork) (calls : List Http2Call) (call : Http2Call) :
    afterCalls script (calls ++ [call]) = (afterCalls script calls).onCall call := by
  simp [afterCalls]

/-- `init` sends its `SETTINGS` frame too early. -/
theorem afterCalls_nil (script : ℕ → SslWork) :
    (afterCalls script []).tlsHandler.Wired ∧ (afterCalls script []).tlsHandler.accepted = [] := by
  let opened : Http2Handler OpenSslTls :=
    { construct ({ script := script } : OpenSslTls) with
      connSet := true
      tlsHandler := (TlsLayer.init ({ script := script } : OpenSslTls)).2 }
  have wired : opened.tlsHandler.Wired := ⟨rfl, rfl, rfl, rfl, rfl⟩
  have written : WrittenFrom opened.tlsHandler (afterCalls script []).tlsHandler :=
    (writeFrame_sends opened _ _ _ _).tlsHandler
  rcases OpenSslTls.writtenFrom_of_not_done written wired rfl with ⟨wiredAfter, accepted, _⟩
  exact ⟨wiredAfter, accepted⟩

/-- Whatever happens, the preface is never the first frame accepted. -/
theorem afterCalls_spec (script : ℕ → SslWork) (calls : List Http2Call) :
    (afterCalls script calls).tlsHandler.Wired ∧
      NoPreface (afterCalls script calls).tlsHandler.accepted := by
  induction calls using List.reverseRecOn with
  | nil =>
      rcases afterCalls_nil script with ⟨wired, accepted⟩
      exact ⟨wired, Or.inl accepted⟩
  | append_singleton calls call ih =>
      rcases ih with ⟨wired, noPreface⟩
      have progress := onCall_progress wired call
      rw [afterCalls_concat]
      refine ⟨progress.wired, ?_⟩
      by_cases quiet : (afterCalls script calls).tlsHandler.handler.handshakeDone = false ∨
          (afterCalls script calls).Silent call
      · rw [progress.quiet quiet]
        exact noPreface
      · rw [not_or] at quiet
        rcases progress.loud (by simpa using quiet.1) quiet.2 with
          ⟨type, streamId, flags, len, other, more, accepted_eq⟩
        right
        rcases noPreface with empty | ⟨first, firstId, firstFlags, firstLen, rest, earlier, begins⟩
        · rw [empty] at accepted_eq
          exact ⟨type, streamId, flags, len, more, other, accepted_eq.symm⟩
        · rw [begins] at accepted_eq
          exact ⟨first, firstId, firstFlags, firstLen, _, earlier, accepted_eq.symm⟩

/-- A run has accepted nothing exactly if each of its calls came before the handshake was done or
was silent. -/
theorem accepted_concat_iff (script : ℕ → SslWork) (calls : List Http2Call) (call : Http2Call) :
    (afterCalls script (calls ++ [call])).tlsHandler.accepted = [] ↔
      (afterCalls script calls).tlsHandler.accepted = [] ∧
        ((afterCalls script calls).tlsHandler.handler.handshakeDone = true →
          (afterCalls script calls).Silent call) := by
  have progress := onCall_progress (afterCalls_spec script calls).1 call
  rw [afterCalls_concat]
  by_cases quiet : (afterCalls script calls).tlsHandler.handler.handshakeDone = false ∨
      (afterCalls script calls).Silent call
  · rw [progress.quiet quiet]
    constructor
    · intro nothing
      refine ⟨nothing, ?_⟩
      intro done
      rcases quiet with notDone | silent
      · rw [notDone] at done
        cases done
      · exact silent
    · exact fun both => both.1
  · rw [not_or] at quiet
    have done : (afterCalls script calls).tlsHandler.handler.handshakeDone = true := by
      simpa using quiet.1
    rcases progress.loud done quiet.2 with ⟨type, streamId, flags, len, _, more, accepted_eq⟩
    refine iff_of_false ?_ (fun both => quiet.2 (both.2 done))
    rw [← accepted_eq]
    simp

/-- The preface is the first frame that the TLS layer accepts, at every point of a run, exactly if
nothing makes the handler write once the handshake is done. -/
theorem preface_iff (script : ℕ → SslWork) (calls : List Http2Call) :
    (∀ earlier, earlier <+: calls → (afterCalls script earlier).PrefaceFirst) ↔
      EveryStep (fun before call =>
        (afterCalls script before).tlsHandler.handler.handshakeDone = true →
          (afterCalls script before).Silent call) calls := by
  have first_iff (earlier : List Http2Call) := (afterCalls_spec script earlier).2.prefaceFirst_iff
  induction calls using List.reverseRecOn with
  | nil =>
      refine iff_of_true ?_ everyStep_nil
      intro earlier within
      rw [List.prefix_nil.mp within, first_iff]
      exact (afterCalls_nil script).2
  | append_singleton calls call ih =>
      rw [everyStep_concat]
      constructor
      · intro first
        have last := first (calls ++ [call]) List.prefix_rfl
        rw [first_iff, accepted_concat_iff] at last
        refine ⟨ih.mp ?_, last.2⟩
        intro earlier within
        exact first earlier (within.trans (List.prefix_append _ _))
      · rintro ⟨every, silent⟩ earlier within
        have first := ih.mpr every
        rcases List.prefix_concat_iff.mp within with rfl | within
        · rw [first_iff, accepted_concat_iff]
          exact ⟨(first_iff calls).mp (first calls List.prefix_rfl), silent⟩
        · exact first earlier within

end Runs

/-- The handshake is completed and a ping comes in; the first frame accepted is its
acknowledgement. -/
theorem preface_fails :
    let ping : Http2Frame := ⟨.ping, 0, 0, [1, 2, 3, 4, 5, 6, 7, 8], by decide, by decide⟩
    let handler := afterCalls (fun _ => { plaintext := ping.bytes }) [.continueHandshake, .onRead]
    handler.tlsHandler.accepted = (pingAck ping.payload).writes ∧ ¬ handler.PrefaceFirst := by
  intro ping handler
  have accepted : handler.tlsHandler.accepted = (pingAck ping.payload).writes := by decide +kernel
  refine ⟨accepted, ?_⟩
  rw [PrefaceFirst, accepted]
  decide +kernel

end Http2Handler

end HttpsServerSim
