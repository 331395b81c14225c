import HttpsServerSim.Lib.Template
import HttpsServerSim.Utils.Logger

/-!
# The lines of the logger

A format is a template with the placeholders as the names of its slots. `format_and_write` replaces
them one after the other, which comes to filling in all at once: the first of each placeholder
takes its value, later ones stay as they are, and a message is not searched for placeholders.
-/

namespace HttpsServerSim

open Template

def percent : UInt8 := 37

def placeholders : List Bytes :=
  [ascii "%time", ascii "%level", ascii "%module", ascii "%thread", ascii "%message"]

theorem isName_placeholders : ∀ name ∈ placeholders, Template.IsName percent name := by
  decide

theorem replacePlaceholder_eq (placeholder value text : Bytes) :
    replacePlaceholder placeholder value text = replaceFirst placeholder value text := by
  induction text with
  | nil =>
      simp only [replacePlaceholder, findText, replaceFirst]
      split_ifs <;> simp
  | cons byte rest ih =>
      simp only [replacePlaceholder, findText, replaceFirst]
      split_ifs with here
      · simp
      · simp only [replacePlaceholder] at ih
        rw [← ih]
        cases findText placeholder rest with
        | none => rfl
        | some pos => simp [Nat.add_right_comm]

namespace LogRecord

/-- `module ? module : "unknown"`. -/
def moduleText (record : LogRecord) : Bytes := (record.module.map cString).getD (ascii "unknown")

/-- What the placeholders in front of the message stand for. -/
def values (record : LogRecord) (level : LogLevel) : List (Bytes × Bytes) :=
  [(ascii "%time", record.time), (ascii "%level", logLevelToString level),
    (ascii "%module", record.moduleText), (ascii "%thread", record.threadId)]

/-- No value but the message brings in a placeholder. -/
structure NoPercent (record : LogRecord) : Prop where
  time : percent ∉ record.time
  module : percent ∉ record.moduleText
  threadId : percent ∉ record.threadId

theorem NoPercent.values {record : LogRecord} (noPercent : record.NoPercent) (level : LogLevel) :
    ∀ entry ∈ record.values level, percent ∉ entry.2 := by
  have clean : percent ∉ logLevelToString level := by
    cases level <;> decide
  simp only [LogRecord.values, List.forall_mem_cons]
  exact ⟨noPercent.time, clean, noPercent.module, noPercent.threadId, nofun⟩

end LogRecord

theorem known_values (record : LogRecord) (level : LogLevel) (message : Bytes) :
    ∀ entry ∈ record.values level ++ [(ascii "%message", message)], entry.1 ∈ placeholders := by
  simp [LogRecord.values, placeholders]

namespace Logger

theorem formatLine_eq_foldl (logger : Logger) (level : LogLevel) (record : LogRecord)
    (message : Bytes) :
    logger.formatLine level record message =
      (record.values level ++ [(ascii "%message", message)]).foldl
        (fun text entry => replaceFirst entry.1 entry.2 text) logger.format ++ ascii "\n" := by
  simp only [formatLine, replacePlaceholder_eq]
  rfl

/-- The line of a message is the format with its placeholders filled in all at once, each with what
it stands for where it comes first. The message may be anything. -/
theorem formatLine_eq_fill (logger : Logger) (level : LogLevel) (record : LogRecord)
    (message : Bytes) (pieces : List (Piece UInt8)) (isFormat : logger.format = render pieces)
    (wellFormed : WellFormed percent placeholders pieces) (noPercent : record.NoPercent) :
    logger.formatLine level record message =
      fill (record.values level ++ [(ascii "%message", message)]) pieces ++ ascii "\n" := by
  rw [formatLine_eq_foldl, isFormat, foldl_replaceFirst isName_placeholders
    (known_values record level message) (noPercent.values level) wellFormed]

/-- A format that has a placeholder twice and a percent sign that starts none, and a message that
looks like a placeholder. -/
theorem formatLine_eq_fill_twice :
    let logger : Logger := { format := ascii "100% %level: %message (%level)" }
    let record : LogRecord := ⟨none, [], ascii "10:00", ascii "1"⟩
    logger.formatLine .warn record (ascii "%thread") = ascii "100% WARN: %thread (%level)\n" :=
  formatLine_eq_fill { format := ascii "100% %level: %message (%level)" } .warn
    ⟨none, [], ascii "10:00", ascii "1"⟩ (ascii "%thread")
    [.text (ascii "100"), .slot (ascii "% "), .slot (ascii "%level"), .text (ascii ": "),
      .slot (ascii "%message"), .text (ascii " ("), .slot (ascii "%level"), .text (ascii ")")]
    rfl (by decide) ⟨by decide, by decide, by decide⟩

end Logger

end HttpsServerSim
