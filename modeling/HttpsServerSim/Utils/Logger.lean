import HttpsServerSim.Lib.Bytes
import HttpsServerSim.Lib.ScopedLock

/-!
# The logger

`Logger` with its file stream, used by one thread. The level is read and written without the
mutex, everything else under it. Whether a file can be opened, what the arguments of a call are
formatted to, the time and the id of the thread come from outside. Of a stream only what it is
given is kept, not when it is written to the device.
-/

namespace HttpsServerSim

open Locking

inductive LogLevel where
  | debug
  | info
  | warn
  | error
deriving DecidableEq, Repr

namespace LogLevel

/-- `static_cast<uint8_t>(level)`. -/
def toUInt8 : LogLevel → UInt8
  | debug => 0
  | info => 1
  | warn => 2
  | error => 3

end LogLevel

def logLevelToString : LogLevel → Bytes
  | .debug => ascii "DEBUG"
  | .info => ascii "INFO"
  | .warn => ascii "WARN"
  | .error => ascii "ERROR"

def stringToLogLevel (str : Bytes) : LogLevel :=
  if str = ascii "DEBUG" then .debug
  else if str = ascii "INFO" then .info
  else if str = ascii "WARN" then .warn
  else if str = ascii "ERROR" then .error
  else .info

/-- `text.find(pattern)`. -/
def findText (pattern : Bytes) : Bytes → Option ℕ
  | [] => if pattern.isPrefixOf [] then some 0 else none
  | byte :: rest =>
      if pattern.isPrefixOf (byte :: rest) then some 0
      else (findText pattern rest).map (· + 1)

/-- The first of a placeholder is replaced. -/
def replacePlaceholder (placeholder value result : Bytes) : Bytes :=
  match findText placeholder result with
  | some pos => result.take pos ++ value ++ result.drop (pos + placeholder.length)
  | none => result

/-! ## The file stream -/

/-- A `std::ofstream`. -/
structure LogFile where
  /-- The path of the file that is open. -/
  path : Option Bytes := none
  /-- `failbit`. -/
  failed : Bool := false
deriving DecidableEq, Repr

namespace LogFile

def isOpen (file : LogFile) : Bool := file.path.isSome

/-- Opening a stream that is open fails and leaves it open. -/
def «open» (file : LogFile) (path : Bytes) (opens : Bool) : LogFile :=
  if file.isOpen || !opens then { file with failed := true }
  else { path := some path, failed := false }

def close (file : LogFile) : LogFile := { file with path := none }

end LogFile

/-- What lines are given to. -/
inductive LogSink where
  | cout
  | cerr
  | file (path : Bytes)
deriving DecidableEq, Repr

/-! ## The logger -/

structure Logger where
  level : LogLevel := .info
  file : LogFile := {}
  consoleEnabled : Bool := true
  format : Bytes := ascii "[%time] [%level] [%module] %message"
  initialized : Bool := false
  /-- What the streams have been given, in turn. -/
  output : List (LogSink × Bytes) := []
deriving DecidableEq, Repr

/-- What a call that logs finds: the module, what the format and the arguments come to, the time
and the thread. -/
structure LogRecord where
  module : Option Bytes
  formatted : Bytes
  time : Bytes
  threadId : Bytes

namespace Logger

def construct : Logger := {}

def isLevelEnabled (logger : Logger) (level : LogLevel) : Bool :=
  logger.level.toUInt8 ≤ level.toUInt8

/-- The line for a message. -/
def formatLine (logger : Logger) (level : LogLevel) (record : LogRecord) (message : Bytes) :
    Bytes :=
  let result := logger.format
  let result := replacePlaceholder (ascii "%time") record.time result
  let result := replacePlaceholder (ascii "%level") (logLevelToString level) result
  let result := replacePlaceholder (ascii "%module")
    ((record.module.map cString).getD (ascii "unknown")) result
  let result := replacePlaceholder (ascii "%thread") record.threadId result
  let result := replacePlaceholder (ascii "%message") message result
  result ++ ascii "\n"

/-- The streams that a line goes to. A stream that has failed takes nothing. -/
def sinks (logger : Logger) (level : LogLevel) : List LogSink :=
  (if logger.consoleEnabled then
    if LogLevel.warn.toUInt8 ≤ level.toUInt8 then [.cerr] else [.cout]
  else []) ++
    match logger.file.path with
    | some path => if logger.file.failed then [] else [.file path]
    | none => []

def formatAndWrite (level : LogLevel) (record : LogRecord) (message : Bytes) :
    Locking Logger PUnit :=
  update fun logger =>
    let result := logger.formatLine level record message
    { logger with output := logger.output ++ (logger.sinks level).map fun sink => (sink, result) }

/-- The message is what fits into the buffer. -/
def logv (level : LogLevel) (record : LogRecord) : Locking Logger PUnit := do
  let buffer := cString (record.formatted.take 4095)
  lockGuard (formatAndWrite level record buffer)

def log (level : LogLevel) (record : LogRecord) : Locking Logger PUnit := do
  let logger ← read
  onlyIf (logger.isLevelEnabled level) (logv level record)

def debug (record : LogRecord) : Locking Logger PUnit := log .debug record

def info (record : LogRecord) : Locking Logger PUnit := log .info record

def warn (record : LogRecord) : Locking Logger PUnit := log .warn record

def error (record : LogRecord) : Locking Logger PUnit := log .error record

/-- What is given to a stream is not kept back here. -/
def flush : Locking Logger PUnit := lockGuard (pure ⟨⟩)

def shutdown : Locking Logger PUnit := lockGuard do
  let logger ← read
  onlyIf logger.file.isOpen (update fun logger => { logger with file := logger.file.close })
  update fun logger => { logger with initialized := false }

/-- `~Logger`. -/
def destroy : Locking Logger PUnit := shutdown

def init (level : LogLevel) (file : Bytes) (opens : Bool) : Locking Logger ℤ := lockGuard do
  let logger ← read
  onlyIf logger.initialized shutdown
  update fun logger => { logger with level }
  onlyIf (!file.isEmpty)
    (update fun logger => { logger with file := logger.file.open (cString file) opens })
  let logger ← read
  if !file.isEmpty && !logger.file.isOpen then pure (-1)
  else
    update fun logger => { logger with initialized := true }
    pure 0

/-- The overload that takes the level by its name. -/
def initByName (level file : Bytes) (opens : Bool) : Locking Logger ℤ :=
  init (stringToLogLevel level) file opens

/-- The level is atomic. -/
def setLevel (level : LogLevel) : Locking Logger PUnit :=
  update fun logger => { logger with level }

def setFile (file : Bytes) (opens : Bool) : Locking Logger ℤ := lockGuard do
  let logger ← read
  onlyIf logger.file.isOpen (update fun logger => { logger with file := logger.file.close })
  if file.isEmpty then pure 0
  else
    update fun logger => { logger with file := logger.file.open (cString file) opens }
    let logger ← read
    pure (if logger.file.isOpen then 0 else -1)

def setConsoleOutput (enabled : Bool) : Locking Logger PUnit :=
  lockGuard (update fun logger => { logger with consoleEnabled := enabled })

def setFormat (format : Bytes) : Locking Logger PUnit :=
  lockGuard (update fun logger => { logger with format })

end Logger

end HttpsServerSim
