import HttpsServerSim.Utils.LoggerLocking

/-!
# The files of the logger

`init` opens a file without closing the one that is open. The stream is then open and failed:
`init` returns 0, and from then on no line is written to either file.
-/

namespace HttpsServerSim

open Locking

namespace LogFile

/-- The stream behind the part of an operation that closes it. -/
def closeIfOpen (file : LogFile) : LogFile := if file.isOpen then file.close else file

theorem isOpen_closeIfOpen (file : LogFile) : file.closeIfOpen.isOpen = false := by
  unfold closeIfOpen
  split_ifs with isOpen
  · rfl
  · simpa using isOpen

/-- A stream that is open takes what it is given. -/
def Takes (file : LogFile) : Prop := file.isOpen = true → file.failed = false

theorem takes_of_closed {file : LogFile} (closed : file.isOpen = false) : file.Takes := by
  intro isOpen
  rw [closed] at isOpen
  cases isOpen

theorem takes_open_iff (file : LogFile) (path : Bytes) (opens : Bool) :
    (file.open path opens).Takes ↔ file.isOpen = false := by
  cases isOpen : file.isOpen with
  | true =>
      have stays : file.open path opens = { file with failed := true } := by
        simp [LogFile.open, isOpen]
      rw [stays]
      refine ⟨?_, nofun⟩
      intro takes
      cases takes isOpen
  | false =>
      refine ⟨fun _ => rfl, ?_⟩
      intro _ opened
      cases opens with
      | true => simp [LogFile.open, isOpen]
      | false =>
          have noFile : (file.open path false).isOpen = file.isOpen := by
            simp [LogFile.open, LogFile.isOpen]
          rw [noFile, isOpen] at opened
          cases opened

end LogFile

/-! ## What a call does -/

namespace LoggerCall

/-- The level and the record of a call that logs. -/
def logged : LoggerCall → Option (LogLevel × LogRecord)
  | .log level record => some (level, record)
  | .debug record => some (.debug, record)
  | .info record => some (.info, record)
  | .warn record => some (.warn, record)
  | .error record => some (.error, record)
  | _ => none

/-- The file stream behind a call. -/
def onFile (file : LogFile) : LoggerCall → LogFile
  | .init _ path opens | .initByName _ path opens =>
      if path.isEmpty then file else file.open (cString path) opens
  | .setFile path opens =>
      if path.isEmpty then file.closeIfOpen else file.closeIfOpen.open (cString path) opens
  | .shutdown | .destroy => file.closeIfOpen
  | _ => file

/-- The format behind a call. -/
def onFormat (format : Bytes) : LoggerCall → Bytes
  | .setFormat given => given
  | _ => format

end LoggerCall

namespace LogRecord

/-- What the buffer of `logv` holds. -/
def message (record : LogRecord) : Bytes := cString (record.formatted.take 4095)

end LogRecord

namespace Logger

/-- What a call gives to the streams. -/
def linesOf (logger : Logger) (call : LoggerCall) : List (LogSink × Bytes) :=
  match call.logged with
  | none => []
  | some (level, record) =>
      if logger.isLevelEnabled level then
        (logger.sinks level).map fun sink => (sink, logger.formatLine level record record.message)
      else []

/-- A call that returns. -/
structure Effect (logger : Logger) (call : LoggerCall) (next : Guarded Logger) : Prop where
  held : next.held = false
  file : next.state.file = call.onFile logger.file
  format : next.state.format = call.onFormat logger.format
  output : next.state.output = logger.output ++ logger.linesOf call

variable {logger : Logger} {next : Guarded Logger}

theorem log_eq (logger : Logger) (level : LogLevel) (record : LogRecord) :
    log level record ⟨logger, false⟩ =
      .ok (⟨⟩, ⟨{ logger with output := logger.output ++ logger.linesOf (.log level record) },
        false⟩) := by
  by_cases enabled : logger.isLevelEnabled level = true
  · have written : formatAndWrite level record record.message ⟨logger, true⟩ =
        .ok (⟨⟩, ⟨{ logger with
          output := logger.output ++ logger.linesOf (.log level record) }, true⟩) := by
      simp only [formatAndWrite, update_eq, linesOf, LoggerCall.logged, enabled, if_true]
    simp only [log, read_bind, onlyIf, enabled, if_true]
    exact lockGuard_of_ok written
  · have none : logger.linesOf (.log level record) = [] := by
      simp only [linesOf, LoggerCall.logged, enabled, Bool.false_eq_true, if_false]
    simp only [log, read_bind, onlyIf, enabled, none, List.append_nil, Bool.false_eq_true, if_false]
    rfl

theorem setFile_eq (logger : Logger) (path : Bytes) (opens : Bool) :
    ∃ result, setFile path opens ⟨logger, false⟩ =
      .ok (result, ⟨{ logger with file := (LoggerCall.setFile path opens).onFile logger.file },
        false⟩) := by
  refine ⟨if path.isEmpty then 0 else
    if (logger.file.closeIfOpen.open (cString path) opens).isOpen then 0 else -1, ?_⟩
  refine lockGuard_of_ok ?_
  by_cases isOpen : logger.file.isOpen = true <;> by_cases empty : path.isEmpty = true <;>
    simp only [read_bind, onlyIf_bind, update_bind, pure_eq, isOpen, empty, LoggerCall.onFile,
      LogFile.closeIfOpen, Bool.false_eq_true, if_true, if_false]

theorem init_eq (unset : logger.initialized = false) (level : LogLevel) (path : Bytes)
    (opens : Bool) :
    ∃ result initialized, init level path opens ⟨logger, false⟩ =
      .ok (result, ⟨{ logger with
        level := level
        file := (LoggerCall.init level path opens).onFile logger.file
        initialized := initialized }, false⟩) := by
  by_cases empty : path.isEmpty = true
  · refine ⟨0, true, lockGuard_of_ok ?_⟩
    simp only [read_bind, onlyIf_bind, update_bind, pure_eq, unset, empty, LoggerCall.onFile,
      Bool.not_true, Bool.false_and, Bool.false_eq_true, if_true, if_false]
  · by_cases opened : (logger.file.open (cString path) opens).isOpen = true
    · refine ⟨0, true, lockGuard_of_ok ?_⟩
      simp only [read_bind, onlyIf_bind, update_bind, pure_eq, unset, empty, opened,
        LoggerCall.onFile, Bool.not_true, Bool.and_false, Bool.false_eq_true, if_false]
      rfl
    · refine ⟨-1, false, lockGuard_of_ok ?_⟩
      simp only [read_bind, onlyIf_bind, update_bind, unset, empty, opened, LoggerCall.onFile,
        Bool.false_eq_true, if_false]
      rfl

theorem shutdown_eq (logger : Logger) :
    shutdown ⟨logger, false⟩ = .ok (⟨⟩, ⟨{ logger with
      file := logger.file.closeIfOpen
      initialized := false }, false⟩) := by
  refine lockGuard_of_ok ?_
  by_cases isOpen : logger.file.isOpen = true <;>
    simp only [read_bind, onlyIf_bind, update_bind, update_eq, isOpen, LogFile.closeIfOpen,
      Bool.false_eq_true, if_true, if_false]

/-- `init` returns if the logger is not initialized. -/
theorem unset_of_returns {level : LogLevel} {path : Bytes} {opens : Bool}
    {result : ℤ × Guarded Logger} (returned : init level path opens ⟨logger, false⟩ = .ok result) :
    logger.initialized = false := by
  by_contra set
  have deadlocks : init level path opens ⟨logger, false⟩ = .error .selfDeadlock :=
    selfDeadlocks_init (by simpa using set) level path opens
  rw [deadlocks] at returned
  cases returned

variable {call : LoggerCall}

/-- A call that logs nothing. -/
theorem effect_of_silent (silent : call.logged = none) {after : Logger}
    (file : after.file = call.onFile logger.file)
    (format : after.format = call.onFormat logger.format)
    (output : after.output = logger.output) : logger.Effect call ⟨after, false⟩ where
  held := rfl
  file := file
  format := format
  output := by simp [linesOf, silent, output]

theorem effect_of_log {level : LogLevel} {record : LogRecord}
    (performs : perform call = log level record) (logs : call.logged = some (level, record))
    (file : call.onFile logger.file = logger.file)
    (format : call.onFormat logger.format = logger.format)
    (stepped : step ⟨logger, false⟩ call = some next) : logger.Effect call next := by
  rw [step, performs, log_eq] at stepped
  cases stepped
  refine ⟨rfl, file.symm, format.symm, ?_⟩
  simp only [linesOf, logs]
  rfl

theorem effect_of_init {level : LogLevel} {path : Bytes} {opens : Bool}
    (performs : perform call = do let _ ← init level path opens) (silent : call.logged = none)
    (file : call.onFile logger.file = (LoggerCall.init level path opens).onFile logger.file)
    (format : call.onFormat logger.format = logger.format)
    (stepped : step ⟨logger, false⟩ call = some next) : logger.Effect call next := by
  rw [step, performs] at stepped
  cases returned : init level path opens ⟨logger, false⟩ with
  | error error => simp [bind, StateT.bind, Except.bind, returned] at stepped
  | ok result =>
      rcases init_eq (unset_of_returns returned) level path opens with ⟨_, initialized, isResult⟩
      rw [isResult] at returned
      simp only [bind, StateT.bind, Except.bind, isResult] at stepped
      cases stepped
      exact effect_of_silent silent file.symm format.symm rfl

theorem step_effect {guarded : Guarded Logger} (free : guarded.held = false)
    (stepped : step guarded call = some next) : guarded.state.Effect call next := by
  rcases guarded with ⟨logger, held⟩
  cases free
  cases call with
  | init | initByName => exact effect_of_init rfl rfl rfl rfl stepped
  | log | debug | info | warn | error => exact effect_of_log rfl rfl rfl rfl stepped
  | setLevel | setConsoleOutput | setFormat | flush =>
      cases stepped
      exact effect_of_silent rfl rfl rfl rfl
  | setFile path opens =>
      rcases setFile_eq logger path opens with ⟨result, returned⟩
      simp only [step, perform, bind, StateT.bind, Except.bind, returned] at stepped
      cases stepped
      exact effect_of_silent rfl rfl rfl rfl
  | shutdown | destroy =>
      simp only [step, perform, destroy, shutdown_eq] at stepped
      cases stepped
      exact effect_of_silent rfl rfl rfl rfl

/-! ## What a file gets -/

/-- What a file has been given. -/
def written (path : Bytes) (output : List (LogSink × Bytes)) : Bytes :=
  (output.filter fun given => given.1 = .file path).flatMap Prod.snd

theorem written_append (path : Bytes) (first second : List (LogSink × Bytes)) :
    written path (first ++ second) = written path first ++ written path second := by
  simp [written]

/-- Of what goes to the streams, a file gets what goes to it while it is open and takes lines. -/
theorem written_sinks (logger : Logger) (path line : Bytes) (level : LogLevel) :
    written path ((logger.sinks level).map fun sink => (sink, line)) =
      if logger.file.failed = false ∧ logger.file.path = some path then line else [] := by
  have console : written path ((if logger.consoleEnabled then
        if LogLevel.warn.toUInt8 ≤ level.toUInt8 then [LogSink.cerr] else [LogSink.cout]
      else []).map fun sink => (sink, line)) = [] := by
    split_ifs <;> rfl
  rw [sinks, List.map_append, written_append, console, List.nil_append]
  cases isPath : logger.file.path with
  | none => simp [written]
  | some other =>
      cases failed : logger.file.failed with
      | true => simp [written]
      | false => by_cases same : other = path <;> simp [written, same]

/-- A stream that takes what it is given gives each line of an open file to it. -/
theorem written_linesOf {guarded : Guarded Logger} {call : LoggerCall}
    (takes : guarded.state.file.Takes) (path : Bytes) :
    written path (guarded.state.linesOf call) =
      match call.logged with
      | none => []
      | some (level, record) =>
          if guarded.state.isLevelEnabled level ∧ guarded.state.file.path = some path then
            guarded.state.formatLine level record record.message
          else [] := by
  unfold linesOf
  cases call.logged with
  | none => rfl
  | some logged =>
      rcases logged with ⟨level, record⟩
      by_cases enabled : guarded.state.isLevelEnabled level = true
      · have working (isPath : guarded.state.file.path = some path) :
            guarded.state.file.failed = false := by
          apply takes
          rw [LogFile.isOpen, isPath]
          rfl
        simp only [enabled, if_true, true_and, written_sinks, and_iff_right_of_imp working]
      · simp [enabled, written]

/-- A line at an enabled level goes to the file that is open. -/
def LinesReach (guarded : Guarded Logger) : Prop :=
  ∀ path, guarded.state.file.path = some path → ∀ level record,
    guarded.state.isLevelEnabled level = true →
      ∃ next, step guarded (.log level record) = some next ∧
        written path next.state.output = written path guarded.state.output ++
          guarded.state.formatLine level record record.message

/-- No line goes to any file, though one is open. -/
def LosesLines (guarded : Guarded Logger) : Prop :=
  guarded.state.file.isOpen = true ∧ ∀ level record,
    ∃ next, step guarded (.log level record) = some next ∧
      ∀ path, written path next.state.output = written path guarded.state.output

theorem inits_of_step {guarded : Guarded Logger} (free : guarded.held = false)
    (stepped : step guarded call = some next) : InitsUninitialized guarded call := by
  apply (locksOnce_iff free call).mp
  intro deadlocks
  rw [step, deadlocks] at stepped
  cases stepped

theorem exists_step {guarded : Guarded Logger} (free : guarded.held = false)
    (inits : InitsUninitialized guarded call) : ∃ next, step guarded call = some next := by
  rcases returns_perform free inits with ⟨value, state, returned⟩
  exact ⟨_, by rw [step, returned]⟩

theorem exists_step_log {guarded : Guarded Logger} (free : guarded.held = false)
    (level : LogLevel) (record : LogRecord) :
    ∃ next, step guarded (.log level record) = some next ∧
      guarded.state.Effect (.log level record) next := by
  have unset : InitsUninitialized guarded (.log level record) := trivial
  rcases exists_step free unset with ⟨next, stepped⟩
  exact ⟨next, stepped, step_effect free stepped⟩

theorem linesReach_of_takes {guarded : Guarded Logger} (free : guarded.held = false)
    (takes : guarded.state.file.Takes) : LinesReach guarded := by
  intro path isPath level record enabled
  rcases exists_step_log free level record with ⟨next, stepped, effect⟩
  refine ⟨next, stepped, ?_⟩
  rw [effect.output, written_append, written_linesOf takes]
  exact congrArg (written path guarded.state.output ++ ·) (if_pos ⟨enabled, isPath⟩)

/-- What a call gives to a stream that has failed goes to the console only. -/
theorem written_linesOf_failed {guarded : Guarded Logger}
    (failed : guarded.state.file.failed = true) (call : LoggerCall) (path : Bytes) :
    written path (guarded.state.linesOf call) = [] := by
  unfold linesOf
  cases call.logged with
  | none => rfl
  | some logged =>
      rcases logged with ⟨level, record⟩
      by_cases enabled : guarded.state.isLevelEnabled level = true
      · simp [enabled, written_sinks, failed]
      · simp [enabled, written]

theorem losesLines_of_failed {guarded : Guarded Logger} (free : guarded.held = false)
    (isOpen : guarded.state.file.isOpen = true) (failed : guarded.state.file.failed = true) :
    LosesLines guarded := by
  refine ⟨isOpen, ?_⟩
  intro level record
  rcases exists_step_log free level record with ⟨next, stepped, effect⟩
  refine ⟨next, stepped, ?_⟩
  intro path
  rw [effect.output, written_append, written_linesOf_failed failed, List.append_nil]

theorem linesReach_iff {guarded : Guarded Logger} (free : guarded.held = false) :
    LinesReach guarded ↔ guarded.state.file.Takes := by
  refine ⟨?_, linesReach_of_takes free⟩
  intro reach isOpen
  by_contra failed
  have lost := losesLines_of_failed free isOpen (by simpa using failed)
  rcases Option.isSome_iff_exists.mp isOpen with ⟨path, isPath⟩
  let record : LogRecord := ⟨none, [], [], []⟩
  have enabled : guarded.state.isLevelEnabled .error = true := by
    unfold isLevelEnabled
    cases guarded.state.level <;> rfl
  rcases reach path isPath .error record enabled with ⟨next, stepped, gets⟩
  rcases lost.2 .error record with ⟨alsoNext, alsoStepped, getsNothing⟩
  rw [stepped] at alsoStepped
  cases alsoStepped
  rw [getsNothing path] at gets
  have nothing := List.self_eq_append_right.mp gets
  exact absurd nothing (by simp [formatLine, ascii])

/-! ## Where lines are lost -/

/-- An `init` that returns opens no file while another one is open. -/
def InitsClosed (guarded : Guarded Logger) : LoggerCall → Prop
  | .init _ path _ | .initByName _ path _ =>
      guarded.state.initialized = false → path ≠ [] → guarded.state.file.isOpen = false
  | _ => True

instance (guarded : Guarded Logger) : DecidablePred (InitsClosed guarded)
  | .init _ _ _ | .initByName _ _ _ => inferInstanceAs (Decidable (_ → _ → _))
  | .setLevel _ | .setFile _ _ | .setConsoleOutput _ | .setFormat _ | .log _ _ | .debug _
  | .info _ | .warn _ | .error _ | .flush | .shutdown | .destroy => isTrue trivial

theorem takes_onFile {guarded : Guarded Logger} (takes : guarded.state.file.Takes)
    (unset : InitsUninitialized guarded call) (closed : InitsClosed guarded call) :
    (call.onFile guarded.state.file).Takes := by
  cases call with
  | init level path opens | initByName level path opens =>
      simp only [LoggerCall.onFile]
      split_ifs with empty
      · exact takes
      · exact (LogFile.takes_open_iff _ _ _).mpr (closed unset (by simpa using empty))
  | setFile path opens =>
      have behind := guarded.state.file.isOpen_closeIfOpen
      simp only [LoggerCall.onFile]
      split_ifs
      · exact LogFile.takes_of_closed behind
      · exact (LogFile.takes_open_iff _ _ _).mpr behind
  | shutdown | destroy => exact LogFile.takes_of_closed guarded.state.file.isOpen_closeIfOpen
  | _ => exact takes

/-- A call that opens a file over another one leaves a stream that takes nothing. -/
theorem isOpen_eq_false {guarded : Guarded Logger} {path : Bytes} {opens : Bool}
    (free : guarded.held = false) (inits : InitsUninitialized guarded call)
    (onFile : call.onFile guarded.state.file = guarded.state.file.open path opens)
    (takes : ∀ next, step guarded call = some next → next.state.file.Takes) :
    guarded.state.file.isOpen = false := by
  rcases exists_step free inits with ⟨next, stepped⟩
  have behind := takes next stepped
  rw [(step_effect free stepped).file, onFile] at behind
  exact (LogFile.takes_open_iff _ _ _).mp behind

theorem closed_of_takes {guarded : Guarded Logger} (free : guarded.held = false)
    (takes : ∀ next, step guarded call = some next → next.state.file.Takes) :
    InitsClosed guarded call := by
  cases call with
  | init level path opens =>
      intro unset given
      have inits : InitsUninitialized guarded (.init level path opens) := unset
      refine isOpen_eq_false free inits (if_neg ?_) takes
      simpa using given
  | initByName level path opens =>
      intro unset given
      have inits : InitsUninitialized guarded (.initByName level path opens) := unset
      refine isOpen_eq_false free inits (if_neg ?_) takes
      simpa using given
  | _ => trivial

/-- The file that is open is found open again, and the stream has failed. -/
theorem init_opensAnother (unset : logger.initialized = false)
    (isOpen : logger.file.isOpen = true) (level : LogLevel) {path : Bytes} (given : path ≠ [])
    (opens : Bool) :
    init level path opens ⟨logger, false⟩ =
      .ok (0, ⟨{ logger with
        level := level
        file := { logger.file with failed := true }
        initialized := true }, false⟩) := by
  have notEmpty : path.isEmpty = false := by simpa using given
  have stays : logger.file.open (cString path) opens = { logger.file with failed := true } := by
    simp [LogFile.open, isOpen]
  have stillOpen : ({ logger.file with failed := true } : LogFile).isOpen = true := isOpen
  refine lockGuard_of_ok ?_
  simp only [read_bind, onlyIf_bind, update_bind, pure_eq, unset, notEmpty, stays, stillOpen,
    Bool.not_true, Bool.not_false, Bool.and_false, Bool.false_eq_true, if_true, if_false]

theorem held_run {guarded final : Guarded Logger} {calls : List LoggerCall}
    (free : guarded.held = false) (ran : Interleaving.run step guarded calls = some final) :
    final.held = false :=
  Interleaving.invariant_run (fun free stepped => (step_effect free stepped).held) free ran

/-- Every line goes to the file that is open, exactly in the runs in which no `init` opens a file
while another one is open. After any run such an `init` returns 0, and the next lines are lost. -/
theorem takesLines_iff (calls : List LoggerCall) :
    (Interleaving.Throughout step LinesReach fresh calls ↔
        Interleaving.Along step InitsClosed fresh calls) ∧
      ∀ guarded, Interleaving.run step fresh calls = some guarded → ∀ level path opens,
        ¬InitsClosed guarded (.init level path opens) →
          ∃ next, init level path opens guarded = .ok (0, next) ∧ LosesLines next := by
  refine ⟨?_, ?_⟩
  swap
  · rintro ⟨logger, held⟩ ran level path opens another
    cases held_run rfl ran
    simp only [InitsClosed, Classical.not_imp, Bool.not_eq_false] at another
    rcases another with ⟨unset, given, isOpen⟩
    exact ⟨_, init_opensAnother unset isOpen level given opens,
      losesLines_of_failed rfl isOpen rfl⟩
  have kept : ∀ {guarded next : Guarded Logger} {call : LoggerCall},
      guarded.held = false ∧ guarded.state.file.Takes → InitsClosed guarded call →
        step guarded call = some next → next.held = false ∧ next.state.file.Takes := by
    intro guarded next call invariant closed stepped
    have effect := step_effect invariant.1 stepped
    refine ⟨effect.held, ?_⟩
    rw [effect.file]
    exact takes_onFile invariant.2 (inits_of_step invariant.1 stepped) closed
  refine Interleaving.throughout_iff_along ?_ kept
    ⟨rfl, LogFile.takes_of_closed rfl⟩ calls
  intro guarded call invariant
  constructor
  · intro reach
    apply closed_of_takes invariant.1
    intro next stepped
    exact (linesReach_iff (step_effect invariant.1 stepped).held).mp (reach next stepped)
  · intro closed next stepped
    rcases kept invariant closed stepped with ⟨free, takes⟩
    exact linesReach_of_takes free takes

end Logger

end HttpsServerSim
