import HttpsServerSim.Protocol.HttpMessage
import HttpsServerSim.Utils.Buffer

/-!
# The HTTP/1.1 parser

`HttpParser` with its line reader, the parsers of the request line and of the
header block, and `build_response`. The parser does not own its buffer: functions
that read from it take the buffer and return it. `sizeof(line)` is the length limit of
both kinds of line.
-/

namespace HttpsServerSim

def charCr : UInt8 := 13

def charLf : UInt8 := 10

def charSpace : UInt8 := 32

def charTab : UInt8 := 9

def charColon : UInt8 := 58

def crlf : Bytes := [charCr, charLf]

/-! ## C strings -/

/-- `tolower` in the C locale. -/
def toLower (char : UInt8) : UInt8 := if 65 ≤ char ∧ char ≤ 90 then char + 32 else char

def strCaseCmp (left right : Bytes) : Ordering :=
  compare ((cString left).map toLower) ((cString right).map toLower)

def isDigit (char : UInt8) : Bool := decide (48 ≤ char ∧ char ≤ 57)

/-- `isspace` in the C locale. -/
def isSpace (char : UInt8) : Bool := decide (char = 32 ∨ (9 ≤ char ∧ char ≤ 13))

def decimalValue (digits : Bytes) : ℕ :=
  digits.foldl (fun value digit => 10 * value + (digit.toNat - 48)) 0

/-- `strtoull(text, &endptr, 10)` with the three tests after it: `none` if nothing was converted, if
the value is out of range, or if anything follows the digits. A sign is accepted, and a minus sign
negates modulo `2 ^ 64`. -/
def strtoull (text : Bytes) : Option ℕ :=
  let text := (cString text).dropWhile isSpace
  let (negative, digits) :=
    match text with
    | 43 :: rest => (false, rest)
    | 45 :: rest => (true, rest)
    | _ => (false, text)
  let value := decimalValue digits
  if digits.isEmpty ∨ digits.any (!isDigit ·) ∨ 2 ^ 64 ≤ value then none
  else if negative then some ((2 ^ 64 - value) % 2 ^ 64)
  else some value

/-- `std::to_string` of an `int`. -/
def intToDecimal (number : Int32) : Bytes :=
  match number.toInt with
  | .ofNat value => toDecimal value
  | .negSucc value => 45 :: toDecimal (value + 1)

/-! ## Reading lines -/

/-- The position of the first `\r\n`. -/
def findCrlf : Bytes → Option ℕ
  | first :: second :: rest =>
      if first = charCr ∧ second = charLf then some 0
      else (findCrlf (second :: rest)).map (· + 1)
  | _ => none

structure HttpParser where
  bufferSet : Bool := false
  errorCode : ProtocolStatus := .ok
  errorMsg : String := ""
deriving DecidableEq, Repr

namespace HttpParser

/-- `init` with a buffer. -/
def init (_ : HttpParser) : HttpParser := { bufferSet := true }

def reset (parser : HttpParser) : HttpParser := { parser with errorCode := .ok, errorMsg := "" }

def setError (parser : HttpParser) (code : ProtocolStatus) (msg : String) : HttpParser :=
  { parser with errorCode := code, errorMsg := msg }

/-- `read_line`: the result, the line without its `\r\n`, and the parser and buffer afterwards. -/
def readLine (parser : HttpParser) (buffer : Buffer) (maxLen : ℕ) :
    ProtocolStatus × Bytes × HttpParser × Buffer :=
  if parser.bufferSet = false then
    (.invalid, [], parser.setError .invalid "Buffer not initialized", buffer)
  else
    match findCrlf buffer.contents with
    | none => (.eagain, [], parser, buffer)
    | some pos =>
        if maxLen ≤ pos then (.tooLong, [], parser.setError .tooLong "Line too long", buffer)
        else (.ok, buffer.contents.take pos, parser, buffer.skip (pos + 2))

/-! ## The request line -/

def isNotSpace (char : UInt8) : Bool := decide (char ≠ charSpace)

def isSpaceChar (char : UInt8) : Bool := decide (char = charSpace)

/-- Method, path and version, separated by blanks; what follows the blanks after the path is the
version. `none` where the code reports `Invalid request line format`. -/
def splitRequestLine (line : Bytes) : Option (Bytes × Bytes × Bytes) :=
  let method := line.takeWhile isNotSpace
  let afterMethod := (line.dropWhile isNotSpace).dropWhile isSpaceChar
  let path := afterMethod.takeWhile isNotSpace
  let version := (afterMethod.dropWhile isNotSpace).dropWhile isSpaceChar
  if method.isEmpty ∨ afterMethod.isEmpty ∨ version.isEmpty then none
  else some (method, path, version)

/-- `parse_request_line`: the outputs hold what was extracted before a failure. -/
def parseRequestLine (parser : HttpParser) (line : Bytes) :
    ProtocolStatus × (Bytes × Bytes × Bytes) × HttpParser :=
  match splitRequestLine line with
  | none =>
      let method := line.takeWhile isNotSpace
      let afterMethod := (line.dropWhile isNotSpace).dropWhile isSpaceChar
      let path := afterMethod.takeWhile isNotSpace
      let methodOut := if method.length < line.length then method else []
      let pathOut := if methodOut ≠ [] ∧ path.length < afterMethod.length then path else []
      (.invalid, (methodOut, pathOut, []), parser.setError .invalid "Invalid request line format")
  | some (method, path, version) =>
      if version = ascii "HTTP/1.1" then (.ok, (method, path, version), parser)
      else
        (.version, (method, path, version), parser.setError .version "HTTP version not supported")

/-! ## The header block -/

def isBlank (char : UInt8) : Bool := decide (char = charSpace ∨ char = charTab)

def trim (text : Bytes) : Bytes := ((text.dropWhile isBlank).reverse.dropWhile isBlank).reverse

def isNotColon (char : UInt8) : Bool := decide (char ≠ charColon)

/-- The name and value of a header line, or the error that `parse_header` reports. -/
def splitHeader (line : Bytes) : Except (ProtocolStatus × String) (Bytes × Bytes) :=
  match line.dropWhile isNotColon with
  | [] => .error (.invalid, "Invalid header format")
  | _ :: afterColon =>
      let key := trim (line.takeWhile isNotColon)
      let value := trim afterColon
      if key.isEmpty then .error (.invalid, "Empty header name")
      else if maxHeaderNameLen < key.length then .error (.tooLong, "Header name too long")
      else if maxHeaderValueLen < value.length then .error (.tooLong, "Header value too long")
      else .ok (key, value)

/-- The loop of `parse_headers`, with room for `remaining` more headers. -/
def parseHeadersLoop : ℕ → HttpParser → Buffer → HttpHeaders →
    ProtocolStatus × HttpHeaders × HttpParser × Buffer
  | remaining, parser, buffer, headers =>
      match parser.readLine buffer maxHeaderLineLen with
      | (.ok, [], parser, buffer) => (.ok, headers, parser, buffer)
      | (.ok, line, parser, buffer) =>
          match remaining with
          | 0 => (.tooMany, headers, parser.setError .tooMany "Too many headers", buffer)
          | remaining + 1 =>
              match splitHeader line with
              | .error (status, msg) => (status, headers, parser.setError status msg, buffer)
              | .ok (key, value) =>
                  parseHeadersLoop remaining parser buffer (headers.insert key value)
      | (status, _, parser, buffer) => (status, headers, parser, buffer)

/-- `parse_headers`: what an earlier call has put into the map is cleared first. -/
def parseHeaders (parser : HttpParser) (buffer : Buffer) :
    ProtocolStatus × HttpHeaders × HttpParser × Buffer :=
  parseHeadersLoop maxHeaders parser buffer ∅

/-- `find_header`: the value of the first name in the map that is the given one up to case. -/
def findHeader (headers : HttpHeaders) (name : Bytes) : Option Bytes :=
  (headers.toList.find? fun field => strCaseCmp field.1 name = .eq).map Prod.snd

/-! ## The response -/

def statusLine (response : HttpResponse) : Bytes :=
  ascii "HTTP/1.1 " ++ intToDecimal response.statusCode ++ [charSpace] ++ response.statusText ++
    crlf

def headerLine (name value : Bytes) : Bytes := name ++ ascii ": " ++ value ++ crlf

def hasContentLength (headers : HttpHeaders) : Bool :=
  headers.toList.any fun field => strCaseCmp field.1 (ascii "Content-Length") = .eq

/-- The pieces that `build_response` copies, in order. -/
def responseParts (response : HttpResponse) : List Bytes :=
  [statusLine response] ++
    response.headers.toList.map (fun field => headerLine field.1 field.2) ++
    (if ¬ hasContentLength response.headers ∧ ¬ response.body.isEmpty then
        [headerLine (ascii "Content-Length") (toDecimal response.body.length)]
      else []) ++
    [crlf] ++
    (if response.body.isEmpty then [] else [response.body])

/-- `build_response`: `none` when a piece does not fit the buffer any more. -/
def buildResponse (parser : HttpParser) (response : HttpResponse) (maxLen : ℕ) :
    Option Bytes × HttpParser :=
  match (responseParts response).foldlM (fun (out part : Bytes) =>
      if maxLen < out.length + part.length then none else some (out ++ part)) [] with
  | none => (none, parser.setError .buffer "Buffer too small")
  | some out => (some out, parser)

end HttpParser

end HttpsServerSim
