import HttpsServerSim.Lib.Transducer
import HttpsServerSim.Protocol.TlsHandler

/-!
# Where the bytes of a TLS connection go

`setup_bio` gives both ends of one BIO pair to the SSL object, and the pumps use the same
two ends from the outside. What `pump_read_bio` writes to bio1 therefore comes out at
bio2, where `pump_write_bio` finds it; and what the SSL object writes to bio2 comes out
at bio1, where it reads itself. Ciphertext from the peer goes back to the peer, and the
SSL object hears what it says.

The result is about schedules: what arrives when, which calls are made, and how many
bytes are moved at each point, with the values of the bytes left open. A schedule is
right for all values exactly if no byte ever comes out of the pair.
-/

namespace HttpsServerSim

/-! ## Runs -/

inductive TlsOperation where
  | read
  | write
  | continueHandshake
deriving DecidableEq, Repr

inductive TlsEvent where
  | arrive (bytes : Bytes)
  | call (operation : TlsOperation) (env : TlsEnvironment)
deriving DecidableEq, Repr

namespace TlsHandler

def onEvent (handler : TlsHandler) : TlsEvent → TlsHandler
  | .arrive bytes => { handler with readBuffer := handler.readBuffer ++ bytes }
  | .call .read env => (handler.read env).2.2
  | .call .write env => (handler.write env).2.2
  | .call .continueHandshake env => (handler.continueHandshake env).2.2

def afterEvents (events : List TlsEvent) : TlsHandler := events.foldl onEvent ready

/-- The SSL object reads what was taken off `read_buffer_`, and what is put into `write_buffer_` is
what the SSL object wrote. -/
def Plumbed (handler : TlsHandler) : Prop :=
  handler.obtained <+: handler.consumed ∧ handler.appended <+: handler.sslWrote

/-- The wiring that `setup_bio` makes. -/
def wiring : BioWiring where
  sslReadBio := .bio1
  sslWriteBio := .bio2
  rbio := .bio1
  wbio := .bio2

/-- What no call changes after `init`. -/
structure Wired (handler : TlsHandler) : Prop where
  initialized : handler.initialized = true
  sslSet : handler.sslSet = true
  bios : handler.bios = some wiring
  readBufferSet : handler.readBufferSet = true
  writeBufferSet : handler.writeBufferSet = true

theorem wired_ready : ready.Wired :=
  ⟨rfl, rfl, rfl, rfl, rfl⟩

/-! ## What comes out of the pair -/

/-- The SSL object reads at a moment when bytes that it wrote itself are waiting. -/
def ReadsBack : List SslAction → Bytes → Prop
  | [], _ => False
  | .recv count :: actions, waiting =>
      (0 < count ∧ waiting ≠ []) ∨ ReadsBack actions (waiting.drop count)
  | .send bytes :: actions, waiting => ReadsBack actions (waiting ++ bytes)

/-- `pump_write_bio` finds bytes from the peer and has them written to `write_buffer_`. -/
def LoopsBack (answers : List BioReadAnswer) (waiting : Bytes) : Prop :=
  waiting ≠ [] ∧ ∃ extra later, answers = .moved extra true :: later

/-- Nothing comes out of the pair in an exchange. -/
def MuteExchange (handler : TlsHandler) (env : TlsEnvironment) : Prop :=
  ∀ total pumped, handler.pumpReadBio env.bioWrites = (.ok total, pumped) →
    ¬ ReadsBack env.actions pumped.pair.atBio1 ∧
      (env.outcome ≠ .failed → ¬ LoopsBack env.bioReads pumped.pair.atBio2)

/-- Nothing comes out of the pair in a step. -/
def Mute (handler : TlsHandler) : TlsEvent → Prop
  | .arrive _ => True
  | .call .continueHandshake env => handler.MuteExchange env
  | .call _ env => handler.handshakeDone = true → handler.MuteExchange env

/-- From `before` to `after` the SSL object obtained `heard`, and `sent` was appended to
`write_buffer_`; the wiring stayed. -/
structure Moved (before after : TlsHandler) (heard sent : Bytes) : Prop where
  initialized : after.initialized = before.initialized
  sslSet : after.sslSet = before.sslSet
  bios : after.bios = before.bios
  readBufferSet : after.readBufferSet = before.readBufferSet
  writeBufferSet : after.writeBufferSet = before.writeBufferSet
  obtained : after.obtained = before.obtained ++ heard
  appended : after.appended = before.appended ++ sent

theorem Moved.refl (handler : TlsHandler) : Moved handler handler [] [] := by
  refine ⟨rfl, rfl, rfl, rfl, rfl, ?_, ?_⟩ <;> simp

theorem Moved.trans {first second third : TlsHandler} {heard sent moreHeard moreSent : Bytes}
    (start : Moved first second heard sent) (finish : Moved second third moreHeard moreSent) :
    Moved first third (heard ++ moreHeard) (sent ++ moreSent) where
  initialized := finish.initialized.trans start.initialized
  sslSet := finish.sslSet.trans start.sslSet
  bios := finish.bios.trans start.bios
  readBufferSet := finish.readBufferSet.trans start.readBufferSet
  writeBufferSet := finish.writeBufferSet.trans start.writeBufferSet
  obtained := by rw [finish.obtained, start.obtained, List.append_assoc]
  appended := by rw [finish.appended, start.appended, List.append_assoc]

theorem Moved.wired {before after : TlsHandler} {heard sent : Bytes}
    (moved : Moved before after heard sent) (wired : before.Wired) : after.Wired where
  initialized := moved.initialized.trans wired.initialized
  sslSet := moved.sslSet.trans wired.sslSet
  bios := moved.bios.trans wired.bios
  readBufferSet := moved.readBufferSet.trans wired.readBufferSet
  writeBufferSet := moved.writeBufferSet.trans wired.writeBufferSet

theorem setError_moved (handler : TlsHandler) (code : ProtocolStatus) (msg : String) :
    Moved handler (handler.setError code msg) [] [] :=
  ⟨rfl, rfl, rfl, rfl, rfl, (List.append_nil _).symm, (List.append_nil _).symm⟩

theorem pumpReadBio_moved (handler : TlsHandler) (answers : List BioWriteAnswer) :
    Moved handler (handler.pumpReadBio answers).2 [] [] := by
  have unchanged := Moved.refl handler
  unfold pumpReadBio
  split
  · exact unchanged
  · split_ifs
    · exact unchanged
    · exact unchanged
    · split
      · exact ⟨rfl, rfl, rfl, rfl, rfl, unchanged.obtained, unchanged.appended⟩
      · exact ⟨rfl, rfl, rfl, rfl, rfl, unchanged.obtained, unchanged.appended⟩

/-- The SSL object hears something exactly if it reads back what it wrote. -/
theorem sslCall_moved {handler : TlsHandler} (wired : handler.Wired) (actions : List SslAction) :
    ∃ heard, Moved handler (handler.sslCall actions) heard [] ∧
      (heard = [] ↔ ¬ ReadsBack actions handler.pair.atBio1) ∧
      (handler.sslCall actions).pair.atBio2 = handler.pair.atBio2 := by
  simp only [sslCall, wired.bios]
  induction actions generalizing handler with
  | nil => exact ⟨[], Moved.refl handler, by simp [ReadsBack], rfl⟩
  | cons action actions ih =>
      rw [List.foldl_cons]
      cases action with
      | recv count =>
          have first : Moved handler (sslAct wiring handler (.recv count))
              (handler.pair.atBio1.take count) [] :=
            ⟨rfl, rfl, rfl, rfl, rfl, rfl, (List.append_nil _).symm⟩
          rcases ih (first.wired wired) with ⟨heard, later, heardIff, peerEq⟩
          refine ⟨handler.pair.atBio1.take count ++ heard, first.trans later, ?_, peerEq⟩
          rw [List.append_eq_nil_iff, heardIff, List.take_eq_nil_iff]
          simp only [ReadsBack, sslAct, wiring, BioPair.read]
          rw [not_or, not_and_or, Nat.pos_iff_ne_zero, not_not, not_not]
      | send bytes =>
          have first : Moved handler (sslAct wiring handler (.send bytes)) [] [] :=
            ⟨rfl, rfl, rfl, rfl, rfl, (List.append_nil _).symm, (List.append_nil _).symm⟩
          rcases ih (first.wired wired) with ⟨heard, later, heardIff, peerEq⟩
          exact ⟨heard, first.trans later, heardIff, peerEq⟩

theorem readChunk_moved (handler : TlsHandler) (extra : ℕ) :
    Moved handler (handler.readChunk .bio2 extra).2 [] [] :=
  ⟨rfl, rfl, rfl, rfl, rfl, (List.append_nil _).symm, (List.append_nil _).symm⟩

theorem appendChunk_moved (handler : TlsHandler) (bytes : Bytes) :
    Moved handler (handler.appendChunk bytes) [] bytes :=
  ⟨rfl, rfl, rfl, rfl, rfl, (List.append_nil _).symm, rfl⟩

theorem readChunk_ne_nil {handler : TlsHandler} (waiting : handler.pair.atBio2 ≠ []) (extra : ℕ) :
    (handler.readChunk .bio2 extra).1 ≠ [] := by
  have positive := List.length_pos_iff.mpr waiting
  intro empty
  rcases List.take_eq_nil_iff.mp empty with nothing | drained
  · simp only [BioPair.readable, tempBufferSize] at nothing
    omega
  · exact waiting drained

/-- Something is appended to `write_buffer_` exactly if bytes from the peer loop back. -/
theorem pumpWriteLoop_moved (answers : List BioReadAnswer) (handler : TlsHandler) :
    ∃ sent, Moved handler (pumpWriteLoop .bio2 answers handler).2 [] sent ∧
      (sent = [] ↔ ¬ LoopsBack answers handler.pair.atBio2) := by
  induction answers generalizing handler with
  | nil => exact ⟨[], Moved.refl handler, by simp [LoopsBack]⟩
  | cons answer answers ih =>
      simp only [pumpWriteLoop, BioPair.readable, List.length_eq_zero_iff]
      by_cases waiting : handler.pair.atBio2 = []
      · rw [if_pos waiting]
        exact ⟨[], Moved.refl handler, by simp [LoopsBack, waiting]⟩
      · rw [if_neg waiting]
        cases answer with
        | retry => exact ⟨[], Moved.refl handler, by simp [LoopsBack]⟩
        | fail => exact ⟨[], setError_moved handler _ _, by simp [LoopsBack]⟩
        | moved extra room =>
            have chunk := handler.readChunk_moved extra
            cases room with
            | false =>
                exact ⟨[], chunk.trans (setError_moved _ _ _), by simp [LoopsBack]⟩
            | true =>
                have appended := chunk.trans
                  (appendChunk_moved _ (handler.readChunk .bio2 extra).1)
                rcases ih ((handler.readChunk .bio2 extra).2.appendChunk
                  (handler.readChunk .bio2 extra).1) with ⟨sent, later, _⟩
                refine ⟨_, appended.trans later, ?_⟩
                apply iff_of_false
                · simp [readChunk_ne_nil waiting extra]
                · simp [LoopsBack, waiting]

theorem pumpWriteBio_moved {handler : TlsHandler} (wired : handler.Wired)
    (answers : List BioReadAnswer) :
    ∃ sent, Moved handler (handler.pumpWriteBio answers).2 [] sent ∧
      (sent = [] ↔ ¬ LoopsBack answers handler.pair.atBio2) := by
  have looped := pumpWriteLoop_moved answers handler
  simpa [pumpWriteBio, wired.bios, wired.writeBufferSet, wiring] using looped

/-- An exchange moves nothing out of the pair exactly if it is mute. -/
theorem exchange_moved {handler : TlsHandler} (wired : handler.Wired) (env : TlsEnvironment)
    (failure : String) (success : Bool) :
    ∃ heard sent, Moved handler (handler.exchange env failure success).2.2 heard sent ∧
      (heard = [] ∧ sent = [] ↔ handler.MuteExchange env) := by
  have pumpedIn := handler.pumpReadBio_moved env.bioWrites
  unfold exchange MuteExchange
  cases pumpRead : handler.pumpReadBio env.bioWrites with
  | mk result pumped =>
      rw [pumpRead] at pumpedIn
      cases result with
      | error status =>
          refine ⟨[], [], pumpedIn, ?_⟩
          simp
      | ok total =>
          have pumpedWired := pumpedIn.wired wired
          rcases sslCall_moved pumpedWired env.actions with ⟨heard, called, heardIff, peerEq⟩
          have reached := pumpedIn.trans called
          have calledWired := called.wired pumpedWired
          cases env.outcome with
          | failed =>
              refine ⟨_, _, reached.trans (setError_moved _ _ _), ?_⟩
              simp [heardIff]
          | want =>
              rcases pumpWriteBio_moved calledWired env.bioReads with ⟨sent, pumpedOut, sentIff⟩
              refine ⟨_, _, reached.trans pumpedOut, ?_⟩
              simp [heardIff, sentIff, peerEq]
          | done count =>
              have completed : Moved (pumped.sslCall env.actions)
                  { pumped.sslCall env.actions with
                    handshakeDone := success || (pumped.sslCall env.actions).handshakeDone }
                  [] [] :=
                ⟨rfl, rfl, rfl, rfl, rfl, (List.append_nil _).symm, (List.append_nil _).symm⟩
              rcases pumpWriteBio_moved (completed.wired calledWired) env.bioReads with
                ⟨sent, pumpedOut, sentIff⟩
              refine ⟨_, _, (reached.trans completed).trans pumpedOut, ?_⟩
              simp [heardIff, sentIff, peerEq]

/-- A step moves nothing out of the pair exactly if it is mute. -/
theorem onEvent_moved {handler : TlsHandler} (wired : handler.Wired) (event : TlsEvent) :
    ∃ heard sent, Moved handler (handler.onEvent event) heard sent ∧
      (heard = [] ∧ sent = [] ↔ handler.Mute event) := by
  have transferMoved (env : TlsEnvironment) (failure : String) :
      ∃ heard sent, Moved handler (handler.transfer env failure).2.2 heard sent ∧
        (heard = [] ∧ sent = [] ↔
          (handler.handshakeDone = true → handler.MuteExchange env)) := by
    cases done : handler.handshakeDone with
    | false =>
        refine ⟨[], [], ?_, by simp⟩
        simpa [transfer, wired.initialized, done] using setError_moved handler _ _
    | true =>
        simpa [transfer, wired.initialized, wired.sslSet, done] using
          exchange_moved wired env failure false
  cases event with
  | arrive bytes =>
      refine ⟨[], [], ?_, by simp [Mute]⟩
      exact ⟨rfl, rfl, rfl, rfl, rfl, (List.append_nil _).symm, (List.append_nil _).symm⟩
  | call operation env =>
      cases operation with
      | read => exact transferMoved env _
      | write => exact transferMoved env _
      | continueHandshake =>
          simpa [onEvent, continueHandshake, wired.initialized, wired.sslSet, Mute] using
            exchange_moved wired env "SSL_do_handshake failed" true

theorem afterEvents_concat (events : List TlsEvent) (event : TlsEvent) :
    afterEvents (events ++ [event]) = (afterEvents events).onEvent event := by
  simp [afterEvents]

/-- Nothing has come out of the pair exactly if every step was mute. -/
theorem silent_iff (events : List TlsEvent) :
    (afterEvents events).Wired ∧
      ((afterEvents events).obtained = [] ∧ (afterEvents events).appended = [] ↔
        EveryStep (fun before event => (afterEvents before).Mute event) events) := by
  induction events using List.reverseRecOn with
  | nil =>
      refine ⟨wired_ready, ?_⟩
      exact iff_of_true ⟨rfl, rfl⟩ everyStep_nil
  | append_singleton events event ih =>
      rcases ih with ⟨wired, silent⟩
      rcases onEvent_moved wired event with ⟨heard, sent, moved, muteIff⟩
      rw [afterEvents_concat]
      refine ⟨moved.wired wired, ?_⟩
      rw [everyStep_concat, ← silent, ← muteIff, moved.obtained, moved.appended,
        List.append_eq_nil_iff, List.append_eq_nil_iff]
      exact and_and_and_comm

end TlsHandler

/-! ## The same schedule with other bytes -/

section Relabel

variable (arriving emitted : UInt8 → UInt8)

/-- Another choice of the bytes from the peer and of the bytes that the SSL object writes. -/
def SslAction.relabel : SslAction → SslAction
  | .recv count => .recv count
  | .send bytes => .send (bytes.map emitted)

def TlsEvent.relabel : TlsEvent → TlsEvent
  | .arrive bytes => .arrive (bytes.map arriving)
  | .call operation env =>
      .call operation { env with actions := env.actions.map (SslAction.relabel emitted) }

def BioPair.relabel (pair : BioPair) : BioPair where
  atBio1 := pair.atBio1.map emitted
  atBio2 := pair.atBio2.map arriving

theorem BioPair.write_bio1_relabel (pair : BioPair) (bytes : Bytes) :
    (pair.relabel arriving emitted).write .bio1 (bytes.map arriving) =
      (pair.write .bio1 bytes).relabel arriving emitted := by
  simp [write, relabel]

namespace TlsHandler

def relabel (handler : TlsHandler) : TlsHandler :=
  { handler with
    pair := handler.pair.relabel arriving emitted
    readBuffer := handler.readBuffer.map arriving
    consumed := handler.consumed.map arriving
    appended := handler.appended.map arriving
    obtained := handler.obtained.map emitted
    sslWrote := handler.sslWrote.map emitted }

theorem pumpReadLoop_relabel (answers : List BioWriteAnswer) (pair : BioPair) (rest : Bytes) :
    pumpReadLoop .bio1 answers (pair.relabel arriving emitted) (rest.map arriving) =
      ((pumpReadLoop .bio1 answers pair rest).1,
        (pumpReadLoop .bio1 answers pair rest).2.relabel arriving emitted) := by
  induction answers generalizing pair rest with
  | nil => rfl
  | cons answer answers ih =>
      by_cases empty : rest = []
      · simp [pumpReadLoop, empty]
      · cases answer with
        | retry => simp [pumpReadLoop, empty]
        | fail => simp [pumpReadLoop, empty]
        | moved extra =>
            simp only [pumpReadLoop, List.isEmpty_iff, List.map_eq_nil_iff, empty, if_false,
              List.length_map]
            rw [← List.map_take, ← List.map_drop, BioPair.write_bio1_relabel, ih]

theorem pumpReadBio_relabel {handler : TlsHandler} (wired : handler.Wired)
    (answers : List BioWriteAnswer) :
    (handler.relabel arriving emitted).pumpReadBio answers =
      ((handler.pumpReadBio answers).1,
        (handler.pumpReadBio answers).2.relabel arriving emitted) := by
  have loop := pumpReadLoop_relabel arriving emitted answers handler.pair handler.readBuffer
  by_cases empty : handler.readBuffer = []
  · simp [pumpReadBio, wired.bios, wired.readBufferSet, relabel, empty]
  · simp only [pumpReadBio, relabel, wired.bios, wired.readBufferSet, Bool.true_eq_false, if_false,
      List.isEmpty_iff, List.map_eq_nil_iff, empty, wiring, loop]
    cases pumpReadLoop .bio1 answers handler.pair handler.readBuffer with
    | mk result pair =>
        cases result with
        | error status => rfl
        | ok total => simp

theorem sslCall_relabel {handler : TlsHandler} (wired : handler.Wired)
    (actions : List SslAction) :
    (handler.relabel arriving emitted).sslCall (actions.map (SslAction.relabel emitted)) =
      (handler.sslCall actions).relabel arriving emitted := by
  have bios : (handler.relabel arriving emitted).bios = some wiring := wired.bios
  simp only [sslCall, wired.bios, bios]
  clear bios wired
  induction actions generalizing handler with
  | nil => rfl
  | cons action actions ih =>
      have first : sslAct wiring (handler.relabel arriving emitted) (action.relabel emitted) =
          (sslAct wiring handler action).relabel arriving emitted := by
        cases action with
        | recv count =>
            simp [sslAct, wiring, SslAction.relabel, relabel, BioPair.read, BioPair.relabel]
        | send bytes =>
            simp [sslAct, wiring, SslAction.relabel, relabel, BioPair.write, BioPair.relabel]
      rw [List.map_cons, List.foldl_cons, List.foldl_cons, first, ih]

theorem pumpWriteLoop_relabel (answers : List BioReadAnswer) (handler : TlsHandler) :
    pumpWriteLoop .bio2 answers (handler.relabel arriving emitted) =
      ((pumpWriteLoop .bio2 answers handler).1,
        (pumpWriteLoop .bio2 answers handler).2.relabel arriving emitted) := by
  induction answers generalizing handler with
  | nil => rfl
  | cons answer answers ih =>
      have pendingEq : ((handler.relabel arriving emitted).pair.readable .bio2).length =
          (handler.pair.readable .bio2).length := by
        simp [relabel, BioPair.relabel, BioPair.readable]
      simp only [pumpWriteLoop, pendingEq]
      split_ifs with nothing
      · rfl
      · cases answer with
        | retry => rfl
        | fail => rfl
        | moved extra room =>
            have chunk : (handler.relabel arriving emitted).readChunk .bio2 extra =
                ((handler.readChunk .bio2 extra).1.map arriving,
                  (handler.readChunk .bio2 extra).2.relabel arriving emitted) := by
              simp only [readChunk, relabel, BioPair.relabel, BioPair.readable, BioPair.read,
                List.length_map, List.map_take, List.map_drop]
            have appended : ((handler.readChunk .bio2 extra).2.relabel arriving emitted).appendChunk
                ((handler.readChunk .bio2 extra).1.map arriving) =
                  ((handler.readChunk .bio2 extra).2.appendChunk
                    (handler.readChunk .bio2 extra).1).relabel arriving emitted := by
              simp [appendChunk, relabel]
            cases room with
            | false =>
                simp only [chunk]
                rfl
            | true =>
                simp only [chunk, appended, ih, if_true, List.length_map]

theorem pumpWriteBio_relabel {handler : TlsHandler} (wired : handler.Wired)
    (answers : List BioReadAnswer) :
    ((handler.relabel arriving emitted).pumpWriteBio answers).2 =
      (handler.pumpWriteBio answers).2.relabel arriving emitted := by
  have bios : (handler.relabel arriving emitted).bios = some wiring := wired.bios
  have bufferSet : (handler.relabel arriving emitted).writeBufferSet = true := wired.writeBufferSet
  simp only [pumpWriteBio, wired.bios, bios, wired.writeBufferSet, bufferSet, Bool.true_eq_false,
    if_false]
  exact congrArg Prod.snd (pumpWriteLoop_relabel arriving emitted answers handler)

theorem exchange_relabel {handler : TlsHandler} (wired : handler.Wired) (env : TlsEnvironment)
    (failure : String) (success : Bool) :
    ((handler.relabel arriving emitted).exchange
        { env with actions := env.actions.map (SslAction.relabel emitted) } failure success).2.2 =
      (handler.exchange env failure success).2.2.relabel arriving emitted := by
  have pumpedIn := handler.pumpReadBio_moved env.bioWrites
  simp only [exchange, pumpReadBio_relabel arriving emitted wired]
  cases pumpRead : handler.pumpReadBio env.bioWrites with
  | mk result pumped =>
      rw [pumpRead] at pumpedIn
      have pumpedWired := pumpedIn.wired wired
      rcases sslCall_moved pumpedWired env.actions with ⟨heard, called, _, _⟩
      have calledWired := called.wired pumpedWired
      cases result with
      | error status => rfl
      | ok total =>
          simp only [sslCall_relabel arriving emitted pumpedWired]
          cases env.outcome with
          | failed => rfl
          | want => exact pumpWriteBio_relabel arriving emitted calledWired env.bioReads
          | done count =>
              have completedWired : Wired
                  { pumped.sslCall env.actions with
                    handshakeDone := success || (pumped.sslCall env.actions).handshakeDone } :=
                ⟨calledWired.initialized, calledWired.sslSet, calledWired.bios,
                  calledWired.readBufferSet, calledWired.writeBufferSet⟩
              exact pumpWriteBio_relabel arriving emitted completedWired env.bioReads

theorem onEvent_relabel {handler : TlsHandler} (wired : handler.Wired) (event : TlsEvent) :
    (handler.relabel arriving emitted).onEvent (event.relabel arriving emitted) =
      (handler.onEvent event).relabel arriving emitted := by
  have initialized : (handler.relabel arriving emitted).initialized = true := wired.initialized
  have sslSet : (handler.relabel arriving emitted).sslSet = true := wired.sslSet
  have transferRelabel (env : TlsEnvironment) (failure : String) :
      ((handler.relabel arriving emitted).transfer
          { env with actions := env.actions.map (SslAction.relabel emitted) } failure).2.2 =
        (handler.transfer env failure).2.2.relabel arriving emitted := by
    have doneEq : (handler.relabel arriving emitted).handshakeDone = handler.handshakeDone := rfl
    simp only [transfer, initialized, sslSet, doneEq, wired.initialized, wired.sslSet]
    cases handler.handshakeDone with
    | false => rfl
    | true => exact exchange_relabel arriving emitted wired env failure false
  cases event with
  | arrive bytes => simp [onEvent, TlsEvent.relabel, relabel]
  | call operation env =>
      cases operation with
      | read => exact transferRelabel env _
      | write => exact transferRelabel env _
      | continueHandshake =>
          simp only [onEvent, TlsEvent.relabel, continueHandshake, initialized, sslSet,
            wired.initialized, wired.sslSet, Bool.true_eq_false, if_false]
          exact exchange_relabel arriving emitted wired env _ true

/-- The course of a schedule does not depend on the values of the bytes. -/
theorem afterEvents_relabel (events : List TlsEvent) :
    afterEvents (events.map (TlsEvent.relabel arriving emitted)) =
      (afterEvents events).relabel arriving emitted := by
  induction events using List.reverseRecOn with
  | nil => rfl
  | append_singleton events event ih =>
      rw [List.map_append, List.map_singleton, afterEvents_concat, afterEvents_concat, ih]
      exact onEvent_relabel arriving emitted (silent_iff events).1 event

end TlsHandler

end Relabel

namespace TlsHandler

theorem nothing_of_distinct_values {some other : Bytes} {value another : UInt8}
    (differ : value ≠ another)
    (isPrefix : some.map (fun _ => value) <+: other.map (fun _ => another)) : some = [] := by
  cases some with
  | nil => rfl
  | cons byte rest =>
      cases other with
      | nil => simp at isPrefix
      | cons otherByte others =>
          rw [List.map_cons, List.map_cons, List.cons_prefix_cons] at isPrefix
          exact absurd isPrefix.1 differ

/-- A schedule plumbs the bytes right, whatever they are, exactly if none of its steps lets a byte
out of the pair. -/
theorem plumbed_iff (events : List TlsEvent) :
    (∀ arriving emitted : UInt8 → UInt8,
        Plumbed (afterEvents (events.map (TlsEvent.relabel arriving emitted)))) ↔
      EveryStep (fun before event => (afterEvents before).Mute event) events := by
  rw [← (silent_iff events).2]
  constructor
  · intro plumbed
    have distinct := plumbed (fun _ => 0) (fun _ => 1)
    rw [afterEvents_relabel] at distinct
    have differ : (0 : UInt8) ≠ 1 := by decide
    refine ⟨?_, ?_⟩
    · exact nothing_of_distinct_values differ.symm distinct.1
    · exact nothing_of_distinct_values differ distinct.2
  · rintro ⟨nothingHeard, nothingSent⟩ arriving emitted
    rw [afterEvents_relabel]
    refine ⟨?_, ?_⟩
    · simp [relabel, nothingHeard]
    · simp [relabel, nothingSent]

/-- One byte arrives and the handshake is continued: the byte is in `write_buffer_`, though the SSL
object has written nothing. -/
theorem plumbed_fails :
    let handshake : TlsEnvironment := ⟨[.moved 0], [.recv 5], .want, [.moved 0 true]⟩
    ¬ Plumbed (afterEvents [.arrive [0x16], .call .continueHandshake handshake]) := by
  rintro handshake ⟨_, sent⟩
  exact absurd sent (by decide)

end TlsHandler

end HttpsServerSim
