import HttpsServerSim.Lib.Bytes

/-!
# Types and constants of the protocol module

The result codes, limits, enumerations and settings of `protocol_types.hpp` that
the parsers and the two protocol handlers use. `std::map<std::string, std::string>`
is an extensional tree map ordered bytewise, as `std::string` is.
-/

namespace HttpsServerSim

/-- The `PROTOCOL_*` result codes. -/
inductive ProtocolStatus where
  | ok
  | eagain
  | invalid
  | tooLong
  | tooMany
  | buffer
  | version
  | tls
deriving DecidableEq, Repr

namespace ProtocolStatus

/-- The integer behind a result code; `EAGAIN` is 11. -/
def code : ProtocolStatus → ℤ
  | ok => 0
  | eagain => -11
  | invalid => -1
  | tooLong => -2
  | tooMany => -3
  | buffer => -4
  | version => -5
  | tls => -10

/-- The test `ret < 0`. -/
def failed (status : ProtocolStatus) : Bool := decide (status.code < 0)

@[simp]
theorem failed_iff (status : ProtocolStatus) : status.failed = true ↔ status ≠ ok := by
  cases status <;> simp [failed, code]

end ProtocolStatus

/-- `std::map<std::string, std::string>`, also named `HttpHeaders`. -/
abbrev HttpHeaders := Std.ExtTreeMap Bytes Bytes compare

def maxLineLen : ℕ := 8192

def maxHeaderLineLen : ℕ := 8192

def maxHeaders : ℕ := 100

def maxHeaderNameLen : ℕ := 256

def maxHeaderValueLen : ℕ := 4096

def maxBodySize : ℕ := 64 * 1024 * 1024

def http2FrameHeaderSize : ℕ := 9

def http2DefaultInitialWindowSize : ℤ := 65535

def tempBufferSize : ℕ := 4096

def http2FlagEndStream : UInt8 := 0x01

def http2FlagEndHeaders : UInt8 := 0x04

def http2FlagAck : UInt8 := 0x01

inductive Http1ParseState where
  | expectRequestLine
  | expectHeaders
  | expectBody
  | expectComplete
  | error
deriving DecidableEq, Repr

inductive Http2StreamState where
  | idle
  | open
  | halfClosedLocal
  | halfClosedRemote
  | closed
deriving DecidableEq, Repr

/-- `enum class Http2FrameType : uint8_t`. A value cast from the wire may be any byte, so the
type is its byte, with names for the ten known ones. -/
structure Http2FrameType where
  code : UInt8
deriving DecidableEq, Repr

namespace Http2FrameType

def data : Http2FrameType := ⟨0x0⟩

def headers : Http2FrameType := ⟨0x1⟩

def priority : Http2FrameType := ⟨0x2⟩

def rstStream : Http2FrameType := ⟨0x3⟩

def settings : Http2FrameType := ⟨0x4⟩

def pushPromise : Http2FrameType := ⟨0x5⟩

def ping : Http2FrameType := ⟨0x6⟩

def goaway : Http2FrameType := ⟨0x7⟩

def windowUpdate : Http2FrameType := ⟨0x8⟩

def continuation : Http2FrameType := ⟨0x9⟩

end Http2FrameType

/-- `struct Http2Settings`; the defaults are those of its `reset()`. -/
structure Http2Settings where
  headerTableSize : ℕ := 4096
  enablePush : ℕ := 0
  maxConcurrentStreams : ℕ := 100
  initialWindowSize : ℕ := 65535
  maxFrameSize : ℕ := 16384
  maxHeaderListSize : ℕ := 0xFFFFFFFF
deriving DecidableEq, Repr

/-- `Http2Settings::reset`. -/
def Http2Settings.reset : Http2Settings := {}

end HttpsServerSim
