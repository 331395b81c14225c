import HttpsServerSim.Lib.Framing
import HttpsServerSim.Utils.LoggerFiles
import HttpsServerSim.Utils.LoggerLines

/-!
# Reading a log file back

A file in the default format holds a line for each message that was logged while it was open. The
lines are taken apart again at their brackets and ends.
-/

namespace HttpsServerSim

open Template

def newline : UInt8 := 10

/-- `]`. -/
def bracket : UInt8 := 93

/-- What is in front of a byte and what is behind it. -/
def cutAt (byte : UInt8) : Bytes → Option (Bytes × Bytes)
  | [] => none
  | first :: rest =>
      if first = byte then some ([], rest)
      else (cutAt byte rest).map fun cut => (first :: cut.1, cut.2)

/-- What follows a text. -/
def pastStart (start text : Bytes) : Option Bytes :=
  if start.isPrefixOf text then some (text.drop start.length) else none

theorem cutAt_eq {byte : UInt8} {text : Bytes} (clean : byte ∉ text) (rest : Bytes) :
    cutAt byte (text ++ byte :: rest) = some (text, rest) := by
  induction text with
  | nil => simp [cutAt]
  | cons first text ih =>
      rw [List.mem_cons, not_or] at clean
      rw [List.cons_append, cutAt, if_neg (Ne.symm clean.1), ih clean.2]
      rfl

theorem cutAt_append {byte : UInt8} {text front rest : Bytes}
    (cut : cutAt byte text = some (front, rest)) (more : Bytes) :
    cutAt byte (text ++ more) = some (front, rest ++ more) := by
  induction text generalizing front with
  | nil => cases cut
  | cons first text ih =>
      rw [List.cons_append, cutAt]
      rw [cutAt] at cut
      split_ifs at cut ⊢
      · cases cut
        rfl
      · rcases Option.map_eq_some_iff.mp cut with ⟨⟨later, behind⟩, found, same⟩
        cases same
        rw [ih found]
        rfl

theorem length_lt_of_cutAt {byte : UInt8} {text front rest : Bytes}
    (cut : cutAt byte text = some (front, rest)) : rest.length < text.length := by
  induction text generalizing front with
  | nil => cases cut
  | cons first text ih =>
      rw [cutAt] at cut
      split_ifs at cut
      · cases cut
        exact Nat.lt_succ_self _
      · rcases Option.map_eq_some_iff.mp cut with ⟨⟨later, behind⟩, found, same⟩
        cases same
        exact Nat.lt_succ_of_lt (ih found)

theorem pastStart_eq (start rest : Bytes) : pastStart start (start ++ rest) = some rest := by
  have isPrefix : start.isPrefixOf (start ++ rest) = true :=
    List.isPrefixOf_iff_prefix.mpr (List.prefix_append _ _)
  rw [pastStart, if_pos isPrefix, List.drop_left]

/-- What a line in the default format says. -/
structure LogEntry where
  time : Bytes
  level : LogLevel
  module : Bytes
  message : Bytes
deriving DecidableEq

namespace LogEntry

/-- The entry can be told from the punctuation around it. -/
structure Plain (entry : LogEntry) : Prop where
  time : bracket ∉ entry.time ∧ newline ∉ entry.time
  module : bracket ∉ entry.module ∧ newline ∉ entry.module
  message : newline ∉ entry.message

instance (entry : LogEntry) : Decidable entry.Plain :=
  decidable_of_iff ((bracket ∉ entry.time ∧ newline ∉ entry.time) ∧
      (bracket ∉ entry.module ∧ newline ∉ entry.module) ∧ newline ∉ entry.message)
    ⟨fun parts => ⟨parts.1, parts.2.1, parts.2.2⟩,
      fun plain => ⟨plain.time, plain.module, plain.message⟩⟩

/-- The line of an entry without its end. -/
def line (entry : LogEntry) : Bytes :=
  ascii "[" ++ (entry.time ++ bracket :: (ascii " [" ++ (logLevelToString entry.level ++
    bracket :: (ascii " [" ++ (entry.module ++ bracket :: (ascii " " ++ entry.message))))))

def ofLine (line : Bytes) : Option LogEntry := do
  let rest ← pastStart (ascii "[") line
  let (time, rest) ← cutAt bracket rest
  let rest ← pastStart (ascii " [") rest
  let (level, rest) ← cutAt bracket rest
  let rest ← pastStart (ascii " [") rest
  let (module, rest) ← cutAt bracket rest
  let message ← pastStart (ascii " ") rest
  some ⟨time, stringToLogLevel level, module, message⟩

variable {entry : LogEntry}

theorem ofLine_line (plain : entry.Plain) : ofLine entry.line = some entry := by
  have level : bracket ∉ logLevelToString entry.level := by
    cases entry.level <;> decide
  have same : stringToLogLevel (logLevelToString entry.level) = entry.level := by
    cases entry.level <;> decide
  simp only [ofLine, line, pastStart_eq, cutAt_eq plain.time.1, cutAt_eq level,
    cutAt_eq plain.module.1, Option.bind_eq_bind, Option.bind_some, same]

theorem newline_not_mem_line (plain : entry.Plain) : newline ∉ entry.line := by
  have level : newline ∉ logLevelToString entry.level := by
    cases entry.level <;> decide
  have time := plain.time.2
  have module := plain.module.2
  have message := plain.message
  simp only [line, List.mem_append, List.mem_cons, not_or]
  exact ⟨by decide, time, by decide, by decide, level, by decide, by decide, module, by decide,
    by decide, message⟩

/-- Lines as a framing of the entries. -/
def framing : Framing UInt8 { entry : LogEntry // entry.Plain } where
  encode entry := entry.1.line ++ [newline]
  split input :=
    (cutAt newline input).bind fun cut => (ofLine cut.1).bind fun entry =>
      if plain : entry.Plain then some (⟨entry, plain⟩, cut.2) else none
  split_encode := by
    intro entry rest
    have cut := cutAt_eq (newline_not_mem_line entry.2) rest
    rw [List.append_assoc, List.singleton_append, cut]
    simp [ofLine_line entry.2, entry.2]
  split_append := by
    intro input frame rest found more
    rcases Option.bind_eq_some_iff.mp found with ⟨⟨front, behind⟩, cut, parsed⟩
    rcases Option.bind_eq_some_iff.mp parsed with ⟨entry, isEntry, kept⟩
    split_ifs at kept with plain
    cases kept
    rw [cutAt_append cut more]
    simp [isEntry, plain]
  length_lt_of_split := by
    intro input frame rest found
    rcases Option.bind_eq_some_iff.mp found with ⟨⟨front, behind⟩, cut, parsed⟩
    rcases Option.bind_eq_some_iff.mp parsed with ⟨entry, isEntry, kept⟩
    split_ifs at kept with plain
    cases kept
    exact length_lt_of_cutAt cut

end LogEntry

def LogRecord.entry (record : LogRecord) (level : LogLevel) : LogEntry where
  time := record.time
  level := level
  module := record.moduleText
  message := record.message

/-- A call that leaves the format alone, and logs what can be told apart in a line. -/
structure LoggerCall.Plain (call : LoggerCall) : Prop where
  format : ∀ format, call ≠ .setFormat format
  noPercent : ∀ level record, call.logged = some (level, record) → record.NoPercent
  entry : ∀ level record, call.logged = some (level, record) → (record.entry level).Plain

namespace Logger

def defaultPieces : List (Piece UInt8) :=
  [.text (ascii "["), .slot (ascii "%time"), .text (ascii "] ["), .slot (ascii "%level"),
    .text (ascii "] ["), .slot (ascii "%module"), .text (ascii "] "), .slot (ascii "%message")]

theorem formatLine_default {logger : Logger} (isDefault : logger.format = construct.format)
    (level : LogLevel) {record : LogRecord} (noPercent : record.NoPercent) :
    logger.formatLine level record record.message =
      (record.entry level).line ++ [newline] := by
  have isFormat : logger.format = render defaultPieces := by
    rw [isDefault]
    decide
  have wellFormed : WellFormed percent placeholders defaultPieces := by decide
  rw [formatLine_eq_foldl, isFormat, foldl_replaceFirst isName_placeholders
    (known_values record level record.message) (noPercent.values level) wellFormed]
  have filled : fill (record.values level ++ [(ascii "%message", record.message)]) defaultPieces =
      ascii "[" ++ (record.time ++ (ascii "] [" ++ (logLevelToString level ++ (ascii "] [" ++
        (record.moduleText ++ (ascii "] " ++ (record.message ++ []))))))) := rfl
  rw [filled, List.append_nil]
  rfl

/-- What a call logs while a file is open. -/
def entriesFor (path : Bytes) (guarded : Guarded Logger) (call : LoggerCall) : List LogEntry :=
  match call.logged with
  | none => []
  | some (level, record) =>
      if guarded.state.isLevelEnabled level ∧ guarded.state.file.path = some path then
        [record.entry level]
      else []

theorem exists_written {guarded : Guarded Logger} {call : LoggerCall}
    (takes : guarded.state.file.Takes) (isDefault : guarded.state.format = construct.format)
    (plain : call.Plain) (path : Bytes) :
    ∃ entries : List { entry : LogEntry // entry.Plain },
      entries.map Subtype.val = entriesFor path guarded call ∧
        written path (guarded.state.linesOf call) = entries.flatMap LogEntry.framing.encode := by
  rw [written_linesOf takes, entriesFor]
  cases logs : call.logged with
  | none => exact ⟨[], rfl, rfl⟩
  | some logged =>
      rcases logged with ⟨level, record⟩
      simp only
      split_ifs with given
      · refine ⟨[⟨record.entry level, plain.entry level record logs⟩], rfl, ?_⟩
        rw [formatLine_default isDefault level (plain.noPercent level record logs)]
        simp [LogEntry.framing]
      · exact ⟨[], rfl, rfl⟩

/-- A run from any logger. -/
theorem exists_written_run {guarded final : Guarded Logger} {calls : List LoggerCall}
    (free : guarded.held = false) (takes : guarded.state.file.Takes)
    (isDefault : guarded.state.format = construct.format)
    (closed : Interleaving.Along step InitsClosed guarded calls)
    (plain : ∀ call ∈ calls, call.Plain)
    (ran : Interleaving.run step guarded calls = some final) (path : Bytes) :
    ∃ entries : List { entry : LogEntry // entry.Plain },
      entries.map Subtype.val = Interleaving.observed step (entriesFor path) guarded calls ∧
        written path final.state.output =
          written path guarded.state.output ++ entries.flatMap LogEntry.framing.encode := by
  induction calls generalizing guarded with
  | nil =>
      cases ran
      exact ⟨[], rfl, by simp⟩
  | cons call calls ih =>
      rcases Interleaving.run_cons_eq_some_iff.mp ran with ⟨next, stepped, later⟩
      have effect := step_effect free stepped
      have isPlain := plain call List.mem_cons_self
      have sameFormat : next.state.format = construct.format := by
        rw [effect.format, ← isDefault]
        cases call with
        | setFormat format => exact absurd rfl (isPlain.format format)
        | _ => rfl
      have takesNext : next.state.file.Takes := by
        rw [effect.file]
        exact takes_onFile takes (inits_of_step free stepped) closed.1
      rcases exists_written takes isDefault isPlain path with ⟨now, isNow, writtenNow⟩
      rcases ih effect.held takesNext sameFormat (closed.2 next stepped)
        (fun other member => plain other (List.mem_cons_of_mem _ member)) later with
        ⟨rest, isRest, writtenRest⟩
      refine ⟨now ++ rest, ?_, ?_⟩
      · rw [List.map_append, isNow, isRest, Interleaving.observed_of_step stepped]
      · rw [writtenRest, effect.output, written_append, writtenNow, List.flatMap_append,
          List.append_assoc]

/-- In a run in the default format in which no `init` opens a file over another one, a file reads
back as what was logged at an enabled level while it was open, in order and with nothing else. -/
theorem file_reads_back {calls : List LoggerCall} {final : Guarded Logger}
    (ran : Interleaving.run step fresh calls = some final)
    (closed : Interleaving.Along step InitsClosed fresh calls)
    (plain : ∀ call ∈ calls, call.Plain) (path : Bytes) :
    ((LogEntry.framing.parse (written path final.state.output)).1.map Subtype.val,
        (LogEntry.framing.parse (written path final.state.output)).2) =
      (Interleaving.observed step (entriesFor path) fresh calls, []) := by
  rcases exists_written_run rfl (LogFile.takes_of_closed rfl) rfl closed plain ran path with
    ⟨entries, isEntries, isWritten⟩
  have whole : written path final.state.output = entries.flatMap LogEntry.framing.encode :=
    isWritten
  rw [whole, LogEntry.framing.parse_flatMap, isEntries]

def hello : LogRecord where
  module := some (ascii "main")
  formatted := ascii "[%time] hello"
  time := ascii "12:00"
  threadId := ascii "1"

/-- A message in the first file, one that is not enabled, and one in the second file. -/
def twoFiles : List LoggerCall :=
  [.setFile (ascii "a.log") true, .info hello, .setLevel .warn, .info hello,
    .setFile (ascii "b.log") true, .error hello]

theorem plain_twoFiles : ∀ call ∈ twoFiles, call.Plain := by
  have noPercent : hello.NoPercent := ⟨by decide, by decide, by decide⟩
  have entry (level : LogLevel) : (hello.entry level).Plain := by
    cases level <;> decide
  have silent {call : LoggerCall} (keeps : ∀ format, call ≠ .setFormat format)
      (logsNothing : call.logged = none) : call.Plain := by
    refine ⟨keeps, ?_, ?_⟩ <;> simp [logsNothing]
  have logs {call : LoggerCall} {level : LogLevel} (keeps : ∀ format, call ≠ .setFormat format)
      (logsHello : call.logged = some (level, hello)) : call.Plain := by
    refine ⟨keeps, ?_, ?_⟩
    · rintro _ _ same
      rw [logsHello] at same
      cases same
      exact noPercent
    · rintro _ _ same
      rw [logsHello] at same
      cases same
      exact entry level
  simp only [twoFiles, List.forall_mem_cons]
  exact ⟨silent nofun rfl, logs nofun rfl, silent nofun rfl, logs nofun rfl, silent nofun rfl,
    logs nofun rfl, nofun⟩

theorem file_reads_back_twoFiles :
    ∃ final, Interleaving.run step fresh twoFiles = some final ∧
      ((LogEntry.framing.parse (written (ascii "b.log") final.state.output)).1.map Subtype.val,
          (LogEntry.framing.parse (written (ascii "b.log") final.state.output)).2) =
        ([⟨ascii "12:00", .error, ascii "main", ascii "[%time] hello"⟩], []) := by
  have runs : (Interleaving.run step fresh twoFiles).isSome = true := by decide +kernel
  rcases Option.isSome_iff_exists.mp runs with ⟨final, ran⟩
  refine ⟨final, ran, ?_⟩
  rw [file_reads_back ran (by decide +kernel) plain_twoFiles (ascii "b.log")]
  decide +kernel

end Logger

end HttpsServerSim
